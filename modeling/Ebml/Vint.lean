import Ebml.Bytes

namespace Ebml

-- Variable-length integers. The zero bits before the first set bit of the leading
-- byte say how many bytes follow it; that set bit is a marker and not part of the value.
structure Vint where
  value : Nat
  length : Nat
deriving DecidableEq, Repr

inductive VintError where
  | unexpectedEnd (needed : Nat)
  | invalidLength
deriving DecidableEq, Repr

namespace VintError

def message : VintError → String
  | unexpectedEnd needed =>
    s!"stream ended {needed} byte(s) before the variable-length integer was complete"
  | invalidLength => "leading byte 0x00 does not encode a length"

end VintError

namespace Vint

def leadingZeros (byte : UInt8) : Nat :=
  if byte = 0 then 8 else 7 - byte.toNat.log2

def lengthOf (leading : UInt8) : Except VintError Nat :=
  if leadingZeros leading = 8 then .error .invalidLength else .ok (leadingZeros leading + 1)

def decode : Bytes → Except VintError (Vint × Bytes)
  | [] => .error (.unexpectedEnd 1)
  | leading :: rest =>
    let zeros := leadingZeros leading
    if zeros = 8 then .error .invalidLength
    else if rest.length < zeros then .error (.unexpectedEnd (zeros - rest.length))
    else
      let high := leading.toNat % (1 <<< (7 - zeros))
      let low := Bytes.ofBigEndian (rest.take zeros)
      .ok (⟨(high <<< (8 * zeros)) + low, zeros + 1⟩, rest.drop zeros)

def encode (vint : Vint) : Bytes :=
  Bytes.toBigEndian vint.length (vint.value + (1 <<< (7 * vint.length)))

-- All value bits set is reserved for an element whose size is not known.
def isUnknownSize (value length : Nat) : Bool :=
  value + 1 == 1 <<< (7 * length)

theorem leadingZeros_le (byte : UInt8) : leadingZeros byte ≤ 8 := by
  unfold leadingZeros
  split <;> omega

end Vint

end Ebml
