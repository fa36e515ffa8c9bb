namespace Ebml

-- Byte strings, their reading as big-endian numbers, and their hex spelling.
-- Numbers are unbounded here; the callers say how many bytes a number may take.
abbrev Bytes := List UInt8

namespace Bytes

def ofBigEndian (bytes : Bytes) : Nat :=
  bytes.foldl (fun value byte => value * 256 + byte.toNat) 0

def toBigEndian : Nat → Nat → Bytes
  | 0, _ => []
  | width + 1, n => toBigEndian width (n / 256) ++ [UInt8.ofNat n]

theorem ofBigEndian_append (first : Bytes) (last : UInt8) :
    ofBigEndian (first ++ [last]) = ofBigEndian first * 256 + last.toNat := by
  simp [ofBigEndian]

theorem toBigEndian_length (width n : Nat) : (toBigEndian width n).length = width := by
  induction width generalizing n with
  | zero => rfl
  | succ width ih => simp [toBigEndian, ih]

theorem ofBigEndian_toBigEndian (width n : Nat) :
    ofBigEndian (toBigEndian width n) = n % Nat.pow 256 width := by
  induction width generalizing n with
  | zero => simp [toBigEndian, ofBigEndian, Nat.mod_one]
  | succ width ih =>
    have split := Nat.mod_mul (x := n) (a := 256) (b := Nat.pow 256 width)
    have grow : Nat.pow 256 (width + 1) = 256 * Nat.pow 256 width := Nat.pow_succ'
    rw [toBigEndian, ofBigEndian_append, ih, grow, split]
    simp only [UInt8.toNat_ofNat', Nat.reducePow]
    omega

def hexDigit? (c : Char) : Option Nat :=
  if '0' ≤ c ∧ c ≤ '9' then some (c.toNat - '0'.toNat)
  else if 'a' ≤ c ∧ c ≤ 'f' then some (c.toNat - 'a'.toNat + 10)
  else if 'A' ≤ c ∧ c ≤ 'F' then some (c.toNat - 'A'.toNat + 10)
  else none

def hexPair? (high low : Char) : Option UInt8 := do
  let high ← hexDigit? high
  let low ← hexDigit? low
  return UInt8.ofNat (high * 16 + low)

def ofHex? : List Char → Option Bytes
  | [] => some []
  | [_] => none
  | high :: low :: rest => do
    let byte ← hexPair? high low
    let bytes ← ofHex? rest
    return byte :: bytes

def toHex (bytes : Bytes) : List Char :=
  bytes.flatMap fun byte => [Nat.digitChar (byte.toNat / 16), Nat.digitChar (byte.toNat % 16)]

theorem hexPair?_digitChar (byte : UInt8) :
    hexPair? (Nat.digitChar (byte.toNat / 16)) (Nat.digitChar (byte.toNat % 16)) = some byte := by
  have every : ∀ n : Fin 256,
      hexPair? (Nat.digitChar (n.val / 16)) (Nat.digitChar (n.val % 16)) =
        some (UInt8.ofNat n.val) := by decide +kernel
  have here := every ⟨byte.toNat, byte.toNat_lt⟩
  simpa using here

theorem ofHex?_toHex (bytes : Bytes) : ofHex? (toHex bytes) = some bytes := by
  induction bytes with
  | nil => rfl
  | cons byte rest ih =>
    simp only [toHex, List.flatMap_cons, List.cons_append, List.nil_append, ofHex?,
      hexPair?_digitChar, Option.bind_eq_bind, Option.bind_some] at ih ⊢
    simp [ih]

def utf8? (bytes : Bytes) : Option String := String.fromUTF8? bytes.toByteArray

end Bytes

end Ebml
