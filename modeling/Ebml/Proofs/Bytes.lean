import Ebml.Bytes
import Mathlib.Data.List.Induction
import Mathlib.Tactic.Linarith
import Mathlib.Tactic.Ring

namespace Ebml.Bytes

-- Byte strings of one length are the digits of the numbers below a power of 256, and texts
-- are the byte strings that read as UTF-8.
theorem ofBigEndian_cons (first : UInt8) (rest : Bytes) :
    ofBigEndian (first :: rest) = first.toNat * 256 ^ rest.length + ofBigEndian rest := by
  induction rest using List.reverseRecOn with
  | nil => simp [ofBigEndian]
  | append_singleton rest last ih =>
    rw [← List.cons_append, ofBigEndian_append, ih, ofBigEndian_append]
    simp only [List.length_append, List.length_singleton, pow_succ]
    ring

theorem ofBigEndian_lt (bytes : Bytes) : ofBigEndian bytes < 256 ^ bytes.length := by
  induction bytes with
  | nil => simp [ofBigEndian]
  | cons first rest ih =>
    have bound := first.toNat_lt
    rw [ofBigEndian_cons, List.length_cons, pow_succ]
    nlinarith

theorem ofBigEndian_le_of_prefix {part whole : Bytes} (initial : part <+: whole) :
    ofBigEndian part ≤ ofBigEndian whole := by
  obtain ⟨more, rfl⟩ := initial
  induction more using List.reverseRecOn with
  | nil => rw [List.append_nil]
  | append_singleton front last ih =>
    rw [← List.append_assoc, ofBigEndian_append]
    omega

theorem toBigEndian_succ (width n : Nat) :
    toBigEndian (width + 1) n = UInt8.ofNat (n / 256 ^ width) :: toBigEndian width n := by
  induction width generalizing n with
  | zero => simp [toBigEndian]
  | succ width ih =>
    rw [toBigEndian, ih, Nat.div_div_eq_div_mul, ← pow_succ']
    rfl

theorem toBigEndian_ofBigEndian (bytes : Bytes) :
    toBigEndian bytes.length (ofBigEndian bytes) = bytes := by
  induction bytes using List.reverseRecOn with
  | nil => rfl
  | append_singleton rest last ih =>
    have bound := last.toNat_lt
    have high : (ofBigEndian rest * 256 + last.toNat) / 256 = ofBigEndian rest := by omega
    rw [ofBigEndian_append, List.length_append, List.length_singleton, toBigEndian, high, ih]
    congr 2
    apply UInt8.toNat_inj.mp
    rw [UInt8.toNat_ofNat']
    omega

theorem toBigEndian_add_mul (width n more : Nat) :
    toBigEndian width (n + more * 256 ^ width) = toBigEndian width n := by
  induction width generalizing n with
  | zero => rfl
  | succ width ih =>
    have shifted : (n + more * 256 ^ (width + 1)) / 256 = n / 256 + more * 256 ^ width := by
      rw [pow_succ, ← mul_assoc, Nat.add_mul_div_right _ _ (by decide)]
    have last : UInt8.ofNat (n + more * 256 ^ (width + 1)) = UInt8.ofNat n := by
      apply UInt8.toNat_inj.mp
      rw [UInt8.toNat_ofNat', UInt8.toNat_ofNat', pow_succ, ← mul_assoc]
      omega
    rw [toBigEndian, shifted, ih, last, toBigEndian]

theorem hexDigit?_toLower (c : Char) : hexDigit? c.toLower = hexDigit? c := by
  unfold Char.toLower
  split
  · rename_i upper
    have code : 65 ≤ c.val.toNat ∧ c.val.toNat ≤ 90 :=
      ⟨UInt32.le_iff_toNat_le.mp upper.1, UInt32.le_iff_toNat_le.mp upper.2⟩
    have lowered : (c.val + ('a'.val - 'A'.val)).toNat = c.val.toNat + 32 := by
      rw [UInt32.toNat_add]
      change (c.val.toNat + 32) % 4294967296 = _
      omega
    have codes : '0'.val.toNat = 48 ∧ '9'.val.toNat = 57 ∧ 'a'.val.toNat = 97 ∧
        'f'.val.toNat = 102 ∧ 'A'.val.toNat = 65 ∧ 'F'.val.toNat = 70 := by decide
    simp only [hexDigit?, Char.le_def, UInt32.le_iff_toNat_le, Char.toNat, lowered, codes]
    grind
  · rfl

theorem ofHex?_toLower (digits : List Char) :
    ofHex? (digits.map Char.toLower) = ofHex? digits := by
  induction digits using ofHex?.induct with
  | case1 => rfl
  | case2 digit => rfl
  | case3 high low rest ih =>
    simp only [List.map_cons, ofHex?, hexPair?, hexDigit?_toLower, ih]

def ofText (text : String) : Bytes := text.toList.flatMap String.utf8EncodeChar

theorem utf8EncodeChar_last (c : Char) :
    (String.utf8EncodeChar c).getLast? = some 0 ↔ c = Char.ofNat 0 := by
  have zero (n : Nat) (small : n < 256) : UInt8.ofNat n = 0 ↔ n = 0 := by
    rw [← UInt8.toNat_inj, UInt8.toNat_ofNat', Nat.mod_eq_of_lt small]
    rfl
  have nul : c = Char.ofNat 0 ↔ c.val.toNat = 0 := by
    rw [← Char.toNat_inj]
    rfl
  rw [nul]
  unfold String.utf8EncodeChar
  dsimp only
  repeat' split
  · rename_i short
    rw [List.getLast?_singleton, Option.some_inj, zero _ (by omega)]
  all_goals
    simp only [List.getLast?_cons_cons, List.getLast?_singleton, Option.some_inj]
    rw [zero _ (by omega)]
    omega

theorem utf8?_eq_some_iff (bytes : Bytes) (text : String) :
    utf8? bytes = some text ↔ bytes = ofText text := by
  have stored : text.toByteArray = (ofText text).toByteArray := by
    rw [← String.utf8Encode_toList]
    rfl
  unfold utf8? String.fromUTF8?
  constructor
  · intro read
    split at read
    · cases read
      exact List.toByteArray_inj.mp stored
    · cases read
  · rintro rfl
    have valid : (ofText text).toByteArray.IsValidUTF8 := stored ▸ text.isValidUTF8
    rw [dif_pos valid]
    exact congrArg some (String.toByteArray_inj.mp stored.symm)

end Ebml.Bytes
