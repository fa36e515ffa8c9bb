import Ebml.Proofs.Payload
import Mathlib.Data.Int.ModEq

namespace Ebml.Payload

-- Integers with a sign are stored in two's complement, in as few bytes as the writer likes. What
-- a payload is read as is settled by its bytes alone, and is the same in words of 64 bits.
variable {input payload : Bytes} {length : Nat} {value : Int}

-- The integers that fit so many bytes. No bytes stand for 0 and nothing else.
def SignedRange : Nat → Int → Prop
  | 0, value => value = 0
  | others + 1, value => -2 ^ (8 * others + 7) ≤ value ∧ value < 2 ^ (8 * others + 7)

instance (length : Nat) (value : Int) : Decidable (SignedRange length value) :=
  match length with
  | 0 => inferInstanceAs (Decidable (value = 0))
  | _ + 1 => inferInstanceAs (Decidable (_ ∧ _))

def twosComplement (length : Nat) (value : Int) : Bytes :=
  Bytes.toBigEndian length (value % 2 ^ (8 * length)).toNat

def signByte (payload : Bytes) : UInt8 :=
  if ∃ first ∈ payload.head?, first.toNat.testBit 7 then 0xFF else 0

def filled (fill : UInt8) (payload : Bytes) : Bytes :=
  List.replicate (8 - payload.length) fill ++ payload

theorem byte_testBit (byte : UInt8) : byte.toNat.testBit 7 = decide (128 ≤ byte.toNat) := by
  have small := byte.toNat_lt
  rw [Nat.testBit_eq_decide_div_mod_eq]
  refine decide_eq_decide.mpr ?_
  omega

theorem signByte_cons (first : UInt8) (tail : Bytes) :
    signByte (first :: tail) = if first.toNat < 128 then 0 else 0xFF := by
  unfold signByte
  by_cases low : first.toNat < 128
  · rw [if_pos low, if_neg]
    simpa [byte_testBit] using low
  · rw [if_neg low, if_pos]
    simpa [byte_testBit] using low

theorem signed_eq_iff :
    signed payload = value ↔ SignedRange payload.length value ∧
      value ≡ Bytes.ofBigEndian payload [ZMOD 2 ^ (8 * payload.length)] := by
  have modulus : (256 : Nat) ^ payload.length = 2 ^ (8 * payload.length) := by
    rw [Nat.pow_mul]
  have positive : 0 < 2 ^ (8 * payload.length) := Nat.two_pow_pos _
  rw [signed_eq_bmod, modulus, Int.bmod_eq_iff positive, ← and_assoc]
  refine and_congr ?_ ?_
  · cases payload.length with
    | zero =>
      simp only [SignedRange]
      omega
    | succ others =>
      have split : 2 ^ (8 * (others + 1)) = 2 * 2 ^ (8 * others + 7) := by
        rw [← Nat.pow_succ', Nat.mul_succ]
      simp only [SignedRange, split]
      push_cast
      omega
  · rw [Int.modEq_comm, Int.modEq_iff_dvd]
    push_cast
    rfl

theorem signed_eq_unsigned_iff (payload : Bytes) :
    signed payload = Bytes.ofBigEndian payload ↔
      payload = [] ∨ ∃ first ∈ payload.head?, first.toNat.testBit 7 = false := by
  cases payload with
  | nil => simp [signed, Bytes.ofBigEndian]
  | cons first tail =>
    have modulus : 0 < 1 <<< (8 * (first :: tail).length) := by
      rw [Nat.one_shiftLeft]
      exact Nat.two_pow_pos _
    simp only [signed, List.head?_cons, Option.mem_some_iff, byte_testBit]
    by_cases low : first.toNat < 128
    · rw [if_pos low]
      simpa using low
    · rw [if_neg low]
      constructor
      · intro same
        omega
      · rintro (none | ⟨_, rfl, unset⟩)
        · cases none
        · exact absurd (Nat.not_le.mp (of_decide_eq_false unset)) low

theorem signed_signByte (payload : Bytes) :
    signed (signByte payload :: payload) = signed payload := by
  cases payload with
  | nil => rfl
  | cons first tail =>
    have value := Bytes.ofBigEndian_cons (signByte (first :: tail)) (first :: tail)
    have modulus : (1 : Nat) <<< (8 * ((first :: tail).length + 1)) =
        256 * 1 <<< (8 * (first :: tail).length) := by
      rw [Nat.one_shiftLeft, Nat.one_shiftLeft, Nat.mul_add, Nat.pow_add, Nat.mul_comm]
    have power : 256 ^ (first :: tail).length = 1 <<< (8 * (first :: tail).length) := by
      rw [Nat.one_shiftLeft, Nat.pow_mul]
    rw [power] at value
    rw [signByte_cons] at value ⊢
    unfold signed
    have longer (byte : UInt8) : (byte :: first :: tail).length = (first :: tail).length + 1 := rfl
    rw [longer, modulus]
    generalize 1 <<< (8 * (first :: tail).length) = unit at value ⊢
    by_cases low : first.toNat < 128
    · simp only [if_pos low] at value ⊢
      rw [value]
      simp
    · simp only [if_neg low] at value ⊢
      rw [value]
      simp
      omega

theorem signByte_signByte (payload : Bytes) :
    signByte (signByte payload :: payload) = signByte payload := by
  cases payload with
  | nil => rfl
  | cons first tail =>
    rw [signByte_cons, signByte_cons]
    by_cases low : first.toNat < 128
    · rw [if_pos low]
      rfl
    · rw [if_neg low]
      rfl

theorem signed_padded (count : Nat) (payload : Bytes) :
    signed (List.replicate count (signByte payload) ++ payload) = signed payload := by
  have both : signByte (List.replicate count (signByte payload) ++ payload) = signByte payload ∧
      signed (List.replicate count (signByte payload) ++ payload) = signed payload := by
    induction count with
    | zero => exact ⟨rfl, rfl⟩
    | succ count ih =>
      obtain ⟨sign, same⟩ := ih
      have one := signByte_signByte (List.replicate count (signByte payload) ++ payload)
      have more := signed_signByte (List.replicate count (signByte payload) ++ payload)
      rw [sign] at one more
      exact ⟨one, more.trans same⟩
  exact both.2

theorem signed_twosComplement (range : SignedRange length value) :
    signed (twosComplement length value) = value := by
  have width : (twosComplement length value).length = length := Bytes.toBigEndian_length _ _
  rw [signed_eq_iff, width]
  refine ⟨range, ?_⟩
  have positive : (0 : Int) < 2 ^ (8 * length) := by positivity
  have power : (Nat.pow 256 length : Int) = 2 ^ (8 * length) := by
    have bytes : Nat.pow 256 length = 2 ^ (8 * length) := by
      rw [Nat.pow_mul]
      rfl
    exact_mod_cast bytes
  have kept := Int.toNat_of_nonneg (Int.emod_nonneg value positive.ne')
  rw [twosComplement, Bytes.ofBigEndian_toBigEndian, Int.natCast_emod, power, kept]
  exact ((Int.mod_modEq _ _).trans (Int.mod_modEq _ _)).symm

theorem filled_length (fill : UInt8) (short : payload.length ≤ 8) :
    (filled fill payload).length = 8 := by
  rw [filled, List.length_append, List.length_replicate]
  omega

theorem word_of_signed (short : payload.length ≤ 8) :
    (Int64.ofNat (Bytes.ofBigEndian (filled (signByte payload) payload))).toInt =
      signed payload := by
  have same : signed (filled (signByte payload) payload) = signed payload := signed_padded _ _
  rw [← same, signed_eq_bmod, filled_length _ short, Int64.toInt_ofNat']
  rfl

theorem ofBigEndian_padded (count : Nat) (payload : Bytes) :
    Bytes.ofBigEndian (List.replicate count 0 ++ payload) = Bytes.ofBigEndian payload := by
  induction count with
  | zero => rfl
  | succ count ih =>
    rw [List.replicate_succ, List.cons_append, Bytes.ofBigEndian_cons, ih]
    simp

theorem word_of_unsigned (short : payload.length ≤ 8) :
    (UInt64.ofNat (Bytes.ofBigEndian (filled 0 payload))).toNat = Bytes.ofBigEndian payload := by
  have bound : Bytes.ofBigEndian (filled 0 payload) < 2 ^ 64 := by
    have digits := Bytes.ofBigEndian_lt (filled 0 payload)
    rwa [filled_length 0 short] at digits
  rw [UInt64.toNat_ofNat', Nat.mod_eq_of_lt bound, filled, ofBigEndian_padded]

theorem int_enough (short : length ≤ 8) (enough : length ≤ input.length) :
    int input length = .ok (signed (input.take length)) (input.drop length) := by
  rw [int, if_neg (Nat.not_lt.mpr short), taking, if_neg (Nat.not_lt.mpr enough)]

theorem uint_enough (short : length ≤ 8) (enough : length ≤ input.length) :
    uint input length = .ok (Bytes.ofBigEndian (input.take length)) (input.drop length) := by
  rw [uint, if_neg (Nat.not_lt.mpr short), taking, if_neg (Nat.not_lt.mpr enough)]

theorem int_append (payload : Bytes) (short : payload.length ≤ 8) (rest : Bytes) :
    int (payload ++ rest) payload.length = .ok (signed payload) rest := by
  rw [int_enough short (by simp), List.take_left, List.drop_left]

theorem signByte_take (positive : length ≠ 0) (input : Bytes) :
    signByte (input.take length) = signByte input := by
  obtain ⟨others, rfl⟩ := Nat.exists_eq_succ_of_ne_zero positive
  cases input <;> rfl

-- How the first bytes of an input read: without a sign and with one, as the only integer of
-- its range that is the same modulo the power, and with the bytes put into a word.
structure ReadsSigned (input : Bytes) (length : Nat) (value : Int) : Prop where
  unsigned : uint input length = .ok (Bytes.ofBigEndian (input.take length)) (input.drop length)
  signed : int input length = .ok value (input.drop length)
  only : ∀ other, other = value ↔ SignedRange length other ∧
    other ≡ Bytes.ofBigEndian (input.take length) [ZMOD 2 ^ (8 * length)]
  agrees : value = Bytes.ofBigEndian (input.take length) ↔
    length = 0 ∨ ∃ first ∈ input.head?, first.toNat.testBit 7 = false
  -- The sign is that of the first byte of all, unless no byte is to be read.
  word : (Int64.ofNat (Bytes.ofBigEndian
    (filled (if length = 0 then 0 else signByte input) (input.take length)))).toInt = value
  unsignedWord : (UInt64.ofNat (Bytes.ofBigEndian (filled 0 (input.take length)))).toNat =
    Bytes.ofBigEndian (input.take length)

theorem reads_signed (short : length ≤ 8) (enough : length ≤ input.length) :
    ReadsSigned input length (signed (input.take length)) := by
  have width : (input.take length).length = length := List.length_take_of_le enough
  refine ⟨uint_enough short enough, int_enough short enough, ?_, ?_, ?_, ?_⟩
  · intro other
    have characterized : signed (input.take length) = other ↔ _ := signed_eq_iff
    rw [width] at characterized
    rw [← characterized, eq_comm]
  · rw [signed_eq_unsigned_iff, List.take_eq_nil_iff]
    cases length with
    | zero => simp
    | succ others =>
      cases input with
      | nil => simp at enough
      | cons first tail => simp
  · have fill : (if length = 0 then 0 else signByte input) = signByte (input.take length) := by
      split
      · rename_i nothing
        rw [nothing]
        rfl
      · rename_i positive
        rw [signByte_take positive]
    rw [fill, word_of_signed (by omega)]
  · exact word_of_unsigned (by omega)

-- A payload of up to eight bytes is read as the integer that it stands for in two's complement,
-- whatever follows it, and every integer that fits is read back from the bytes that stand for it.
-- Copies of the sign in front of a payload change nothing. No longer payload is an integer, be
-- its bytes all there or not.
theorem integers_in_twos_complement :
    (∀ length ≤ 8, ∀ input : Bytes, length ≤ input.length →
      ∃ value, ReadsSigned input length value) ∧
    (∀ length ≤ 8, ∀ value, SignedRange length value → ∀ rest,
      int (twosComplement length value ++ rest) length = .ok value rest) ∧
    (∀ (count : Nat) (payload rest : Bytes), count + payload.length ≤ 8 →
      int (List.replicate count (signByte payload) ++ payload ++ rest) (count + payload.length) =
        int (payload ++ rest) payload.length) ∧
    ∀ length > 8, ∀ input, uint input length = .rejected ∧ int input length = .rejected := by
  refine ⟨?_, ?_, ?_, ?_⟩
  · intro length short input enough
    exact ⟨_, reads_signed short enough⟩
  · intro length short value range rest
    have width : (twosComplement length value).length = length := Bytes.toBigEndian_length _ _
    have read := int_append (twosComplement length value) (by omega) rest
    rwa [width, signed_twosComplement range] at read
  · intro count payload rest short
    have width : (List.replicate count (signByte payload) ++ payload).length =
        count + payload.length := by
      rw [List.length_append, List.length_replicate]
    have padded := int_append (List.replicate count (signByte payload) ++ payload) (by omega) rest
    rw [width, signed_padded] at padded
    rw [padded, int_append payload (by omega)]
  · intro length long input
    exact ⟨if_pos long, if_pos long⟩

theorem least_of_two_bytes :
    int [0x80, 0x00, 0xFF] 2 = .ok (-0x8000) [0xFF] ∧ SignedRange 2 (-0x8000) ∧
      twosComplement 2 (-0x8000) = [0x80, 0x00] ∧
      ReadsSigned [0x80, 0x00, 0xFF] 2 (-0x8000) ∧
      int [0xFF, 0xFF, 0x80, 0x00, 0xFF] 4 = .ok (-0x8000) [0xFF] ∧
      int [0x80] 9 = .rejected := by
  have range : SignedRange 2 (-0x8000) := by decide
  obtain ⟨reads, stored, padded, long⟩ := integers_in_twos_complement
  have read := stored 2 (by decide) (-0x8000) range [0xFF]
  obtain ⟨value, signed⟩ := reads 2 (by decide) [0x80, 0x00, 0xFF] (by decide)
  obtain rfl : value = -0x8000 := by
    have same := signed.signed.symm.trans read
    exact (Decoded.ok.inj same).1
  have copied := padded 2 [0x80, 0x00] [0xFF] (by decide)
  exact ⟨read, range, rfl, signed, copied.trans read, (long 9 (by decide) [0x80]).2⟩

end Ebml.Payload
