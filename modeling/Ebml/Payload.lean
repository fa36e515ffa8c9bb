import Ebml.Binary64
import Ebml.Bytes

namespace Ebml

-- What decoding a payload of a stated length from the front of some bytes can answer:
-- the value and the bytes after it, how many more bytes are needed, or that no payload
-- of this length has a value.
inductive Decoded (α : Type) where
  | ok (value : α) (rest : Bytes)
  | incomplete (missing : Nat)
  | rejected
deriving DecidableEq, Repr

namespace Decoded

def value? {α : Type} : Decoded α → Option α
  | ok value _ => some value
  | _ => none

end Decoded

namespace Payload

def signed (bytes : Bytes) : Int :=
  let unsigned : Int := Bytes.ofBigEndian bytes
  let modulus : Nat := 1 <<< (8 * bytes.length)
  match bytes with
  | [] => 0
  | first :: _ => if first.toNat < 128 then unsigned else unsigned - modulus

-- Writers may pad a text with NUL bytes at its end.
def withoutPadding (bytes : Bytes) : Bytes :=
  (bytes.reverse.dropWhile (· == 0)).reverse

def taking {α : Type} (read : Bytes → α) (input : Bytes) (length : Nat) : Decoded α :=
  if input.length < length then .incomplete (length - input.length)
  else .ok (read (input.take length)) (input.drop length)

def uint (input : Bytes) (length : Nat) : Decoded Nat :=
  if 8 < length then .rejected else taking Bytes.ofBigEndian input length

def int (input : Bytes) (length : Nat) : Decoded Int :=
  if 8 < length then .rejected else taking signed input length

def ofBinary64Bytes (bytes : Bytes) : Binary64 := ⟨UInt64.ofNat (Bytes.ofBigEndian bytes)⟩

def ofBinary32Bytes (bytes : Bytes) : Binary64 := .ofBinary32 (Bytes.ofBigEndian bytes)

def float (input : Bytes) (length : Nat) : Decoded Binary64 :=
  if length = 0 then .ok .zero input
  else if length = 4 then taking ofBinary32Bytes input length
  else if length = 8 then taking ofBinary64Bytes input length
  else .rejected

def date (input : Bytes) (length : Nat) : Decoded Int :=
  if length = 0 then .ok 0 input
  else if length = 8 then int input length
  else .rejected

def string (input : Bytes) (length : Nat) : Decoded Bytes :=
  taking withoutPadding input length

def binary (input : Bytes) (length : Nat) : Decoded Bytes :=
  taking id input length

def whole {α : Type} (decode : Bytes → Nat → Decoded α) (payload : Bytes) : Option α :=
  (decode payload payload.length).value?

def text? (payload : Bytes) : Option String :=
  (whole string payload).bind Bytes.utf8?

theorem taking_append {α : Type} {read : Bytes → α} {input rest : Bytes} {length : Nat} {value : α}
    (decoded : taking read input length = .ok value rest) (suffix : Bytes) :
    taking read (input ++ suffix) length = .ok value (rest ++ suffix) := by
  unfold taking at decoded ⊢
  split at decoded
  · cases decoded
  · rename_i enough
    cases decoded
    rw [if_neg (by simp; omega), List.take_append_of_le_length (by omega),
      List.drop_append_of_le_length (by omega)]

theorem taking_whole {α : Type} (read : Bytes → α) (payload : Bytes) :
    taking read payload payload.length = .ok (read payload) [] := by
  simp [taking]

end Payload

end Ebml
