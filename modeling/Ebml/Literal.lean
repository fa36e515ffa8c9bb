import Ebml.Binary64

namespace Ebml.Literal

-- Numbers as they are spelled in a schema. A word of the schema language holds letters,
-- digits, points and low lines after an optional minus sign, so no exponent has a sign.
-- Digits are the ten ASCII ones.
def digitValue (c : Char) : Nat := c.toNat - '0'.toNat

def digitsValue (digits : List Char) : Nat :=
  digits.foldl (fun value c => value * 10 + digitValue c) 0

def natural? (text : List Char) : Option Nat :=
  if !text.isEmpty && text.all Char.isDigit then some (digitsValue text) else none

def uint64? (text : List Char) : Option Nat :=
  (natural? text).filter (· < 0x10000000000000000)

def int64? : List Char → Option Int
  | '-' :: digits => ((natural? digits).filter (· ≤ 0x8000000000000000)).map fun n => -(n : Int)
  | digits => ((natural? digits).filter (· < 0x8000000000000000)).map Int.ofNat

-- Digits and the power of ten to scale them by. Digits may be missing on one side of
-- the point, but not on both, nor after an exponent's letter.
def decimal? (text : List Char) : Option (Nat × Int) :=
  let whole := text.takeWhile Char.isDigit
  let (fraction, rest) := match text.dropWhile Char.isDigit with
    | '.' :: rest => (rest.takeWhile Char.isDigit, rest.dropWhile Char.isDigit)
    | rest => ([], rest)
  let exponent? := match rest with
    | [] => some 0
    | letter :: digits => if letter.toLower = 'e' then natural? digits else none
  if whole.isEmpty && fraction.isEmpty then none
  else exponent?.map fun exponent =>
    (digitsValue (whole ++ fraction), (exponent : Int) - fraction.length)

def unsignedFloat? (negative : Bool) (text : List Char) : Option Binary64 :=
  let lowered := text.map Char.toLower
  if lowered = "nan".toList then some (.quietNaN negative)
  else if lowered = "inf".toList ∨ lowered = "infinity".toList then some (.infinity negative)
  else (decimal? text).map fun (digits, exponent) => .ofDecimal negative digits exponent

def float? : List Char → Option Binary64
  | '-' :: magnitude => unsignedFloat? true magnitude
  | magnitude => unsignedFloat? false magnitude

example : int64? "-9223372036854775808".toList = some (-0x8000000000000000) := by decide
example : int64? "9223372036854775808".toList = none := by decide
example : uint64? "007".toList = some 7 := by decide
example : uint64? "-0".toList = none := by decide
example : (float? "1.e1".toList).map (·.bits) = some 0x4024000000000000 := by decide
example : float? ".e1".toList = none := by decide
example : float? "1e".toList = none := by decide
example : (float? "-nan".toList).map (·.bits) = some 0xfff8000000000000 := by decide

end Ebml.Literal
