import Ebml.Proofs.Vint

namespace Ebml.Vint

-- A variable-length integer read with words of 64 bits, as a machine does it: nothing is lost
-- on the way, since what has been gathered never takes more than 56 of them.
variable {bytes rest tail : Bytes} {leading : UInt8} {vint : Vint}

structure Announces (leading : UInt8) (length : Nat) : Prop where
  positive : 1 ≤ length
  short : length ≤ 8
  marked : leading.toNat / 2 ^ (8 - length) = 1

def withoutMarker (leading : UInt8) : UInt8 :=
  leading &&& (0x7F >>> UInt8.ofNat (leadingZeros leading))

def gather (word : UInt64) (tail : Bytes) : UInt64 :=
  tail.foldl (fun word byte => (word <<< 8) ||| byte.toUInt64) word

def allOnes (length : Nat) : UInt64 := (1 <<< UInt64.ofNat (7 * length)) - 1

theorem announces_iff {zeros : Nat} (few : zeros < 8) :
    Announces leading (zeros + 1) ↔ leadingZeros leading = zeros := by
  have power : 8 - (zeros + 1) = 7 - zeros := by omega
  have positive : 0 < 2 ^ (7 - zeros) := by positivity
  rw [leadingZeros_eq_iff few]
  constructor
  · rintro ⟨_, _, marked⟩
    rw [power, Nat.div_eq_iff positive] at marked
    omega
  · rintro ⟨low, high⟩
    refine ⟨by omega, by omega, ?_⟩
    rw [power, Nat.div_eq_iff positive]
    omega

theorem Announces.length_eq {length : Nat} (announced : Announces leading length) :
    length = leadingZeros leading + 1 := by
  obtain ⟨zeros, rfl⟩ := Nat.exists_eq_add_of_le' announced.positive
  rw [(announces_iff announced.short).mp announced]

theorem lengthOf_eq_ok_iff {length : Nat} :
    lengthOf leading = .ok length ↔ Announces leading length := by
  have bound := leadingZeros_le leading
  constructor
  · intro told
    unfold lengthOf at told
    split at told
    · cases told
    · cases told
      exact (announces_iff (by omega)).mpr rfl
  · intro announced
    have counted := announced.length_eq
    have short := announced.short
    rw [lengthOf, if_neg (by omega), counted]

theorem withoutMarker_toNat (marked : leading ≠ 0) :
    (withoutMarker leading).toNat = leading.toNat % 2 ^ (7 - leadingZeros leading) := by
  have every : ∀ byte : Fin 256, byte ≠ 0 →
      (withoutMarker (UInt8.ofNat byte.val)).toNat =
        byte.val % 2 ^ (7 - leadingZeros (UInt8.ofNat byte.val)) := by decide +kernel
  have nonzero : (⟨leading.toNat, leading.toNat_lt⟩ : Fin 256) ≠ 0 := by
    intro zero
    exact marked (UInt8.toNat_inj.mp (congrArg Fin.val zero))
  simpa using every ⟨leading.toNat, leading.toNat_lt⟩ nonzero

theorem push_toNat {word : UInt64} (room : word.toNat < 2 ^ 56) (byte : UInt8) :
    ((word <<< 8) ||| byte.toUInt64).toNat = word.toNat * 256 + byte.toNat := by
  have small : byte.toNat < 2 ^ 8 := byte.toNat_lt
  have shifted : (word <<< 8).toNat = word.toNat <<< 8 := by
    rw [UInt64.toNat_shiftLeft]
    refine Nat.mod_eq_of_lt ?_
    change word.toNat <<< 8 < _
    rw [Nat.shiftLeft_eq]
    omega
  rw [UInt64.toNat_or, shifted, UInt8.toNat_toUInt64, ← Nat.shiftLeft_add_eq_or_of_lt small,
    Nat.shiftLeft_eq]

theorem gather_toNat {first : UInt8} (room : Bytes.ofBigEndian (first :: tail) < 2 ^ 56) :
    (gather first.toUInt64 tail).toNat = Bytes.ofBigEndian (first :: tail) := by
  induction tail using List.reverseRecOn with
  | nil => simp [gather, Bytes.ofBigEndian]
  | append_singleton front last ih =>
    rw [← List.cons_append, Bytes.ofBigEndian_append] at room ⊢
    have gathered := ih (by omega)
    have pushed : gather first.toUInt64 (front ++ [last]) =
        (gather first.toUInt64 front <<< 8) ||| last.toUInt64 := List.foldl_append
    rw [pushed, push_toNat (by omega), gathered]

theorem decode_gathered (decoded : decode (leading :: tail) = .ok (vint, rest)) :
    Announces leading vint.length ∧
      vint.value = Bytes.ofBigEndian (withoutMarker leading :: tail.take (vint.length - 1)) := by
  have bound := leadingZeros_le leading
  generalize counted : leadingZeros leading = zeros at bound
  have few : zeros < 8 := by
    rcases Nat.lt_or_eq_of_le bound with few | eight
    · exact few
    · simp [decode, counted, eight] at decoded
  have enough : zeros ≤ tail.length := by
    by_contra short
    simp [decode, counted, Nat.lt_of_not_le short, Nat.ne_of_lt few] at decoded
  have marked : leading ≠ 0 := by
    intro zero
    rw [leadingZeros_eq_eight_iff.mpr zero] at counted
    omega
  rw [decode_cons few counted enough] at decoded
  cases decoded
  refine ⟨(announces_iff few).mpr counted, ?_⟩
  rw [Nat.add_sub_cancel, Bytes.ofBigEndian_cons, withoutMarker_toNat marked, counted,
    List.length_take_of_le enough]

theorem decode_unexpectedEnd_iff {needed : Nat} :
    decode bytes = .error (.unexpectedEnd needed) ↔
      bytes = [] ∧ needed = 1 ∨ ∃ leading tail length, bytes = leading :: tail ∧
        Announces leading length ∧ bytes.length < length ∧ needed = length - bytes.length := by
  cases bytes with
  | nil => simp [decode, eq_comm]
  | cons leading tail =>
    have bound := leadingZeros_le leading
    have missing : decode (leading :: tail) = .error (.unexpectedEnd needed) ↔
        leadingZeros leading < 8 ∧ tail.length < leadingZeros leading ∧
          needed = leadingZeros leading - tail.length := by
      simp only [decode]
      split
      · simp only [Except.error.injEq, reduceCtorEq, false_iff]
        omega
      · split
        · simp only [Except.error.injEq, VintError.unexpectedEnd.injEq]
          omega
        · simp only [reduceCtorEq, false_iff]
          omega
    rw [missing]
    constructor
    · rintro ⟨few, short, rfl⟩
      refine .inr ⟨leading, tail, _, rfl, (announces_iff few).mpr rfl, ?_, ?_⟩
      · exact Nat.succ_lt_succ short
      · exact (Nat.add_sub_add_right _ 1 _).symm
    · rintro (⟨none, _⟩ | ⟨_, _, length, same, announced, short, rfl⟩)
      · cases none
      · cases same
        have counted := announced.length_eq
        have within := announced.short
        rw [List.length_cons] at short ⊢
        omega

theorem encoding_toNat (decoded : decode bytes = .ok (vint, rest)) :
    Bytes.ofBigEndian (bytes.take vint.length) = 2 ^ (7 * vint.length) + vint.value := by
  obtain ⟨⟨positive, short, fits⟩, split⟩ := decode_sound decoded
  have taken : bytes.take vint.length = vint.encode := by
    rw [split, ← encode_length vint, List.take_left]
  have room : 2 ^ (7 * vint.length) * 2 ≤ 256 ^ vint.length := by
    rw [← pow_succ, show (256 : Nat) = 2 ^ 8 from rfl, ← pow_mul]
    exact Nat.pow_le_pow_right (by decide) (by omega)
  have written : Bytes.ofBigEndian vint.encode =
      (vint.value + 1 <<< (7 * vint.length)) % 256 ^ vint.length :=
    Bytes.ofBigEndian_toBigEndian _ _
  rw [taken, written, Nat.one_shiftLeft, Nat.mod_eq_of_lt (by omega), Nat.add_comm]

theorem isUnknownSize_bits (fits : vint.value < 2 ^ (7 * vint.length)) :
    isUnknownSize vint.value vint.length = true ↔
      ∀ place < 7 * vint.length, vint.value.testBit place = true := by
  have ones : vint.value + 1 = 2 ^ (7 * vint.length) ↔
      vint.value = 2 ^ (7 * vint.length) - 1 := by omega
  rw [isUnknownSize_iff, ones]
  constructor
  · intro full place below
    rw [full, Nat.testBit_two_pow_sub_one]
    exact decide_eq_true below
  · intro set
    apply Nat.eq_of_testBit_eq
    intro place
    rw [Nat.testBit_two_pow_sub_one]
    by_cases below : place < 7 * vint.length
    · rw [set place below, decide_eq_true below]
    · have beyond : vint.value < 2 ^ place :=
        Nat.lt_of_lt_of_le fits (Nat.pow_le_pow_right (by decide) (Nat.not_lt.mp below))
      rw [Nat.testBit_lt_two_pow beyond, decide_eq_false below]

theorem allOnes_toNat {length : Nat} (short : length ≤ 8) :
    (allOnes length).toNat + 1 = 2 ^ (7 * length) := by
  have every : ∀ length : Fin 9, (allOnes length.val).toNat + 1 = 2 ^ (7 * length.val) := by
    decide +kernel
  exact every ⟨length, by omega⟩

-- The bits of what encodes a value: the marker is the highest one set, and all below it are set
-- where a size is unknown.
structure Bits (encoding : Bytes) (vint : Vint) : Prop where
  marker : (Bytes.ofBigEndian encoding).log2 = 7 * vint.length
  unknown : isUnknownSize vint.value vint.length = true ↔
    ∀ place < 7 * vint.length, (Bytes.ofBigEndian encoding).testBit place = true

-- The same in words: shifts stay within their width, and the word holds after every byte the
-- number that the bytes so far stand for, with eight bits to spare.
structure Words (leading : UInt8) (tail : Bytes) (vint : Vint) : Prop where
  shifts : leadingZeros leading < 8 ∧ 7 * vint.length < 64
  room : ∀ front, front <+: tail → Bytes.ofBigEndian (withoutMarker leading :: front) < 2 ^ 56
  gathered : ∀ front, front <+: tail →
    (gather (withoutMarker leading).toUInt64 front).toNat =
      Bytes.ofBigEndian (withoutMarker leading :: front)
  value : (gather (withoutMarker leading).toUInt64 tail).toNat = vint.value
  ones : (allOnes vint.length).toNat + 1 = 2 ^ (7 * vint.length)
  unknown : isUnknownSize vint.value vint.length = true ↔
    gather (withoutMarker leading).toUInt64 tail = allOnes vint.length

theorem decode_bits (decoded : decode bytes = .ok (vint, rest)) :
    Bits (bytes.take vint.length) vint := by
  have fits := (decode_sound decoded).1.fits
  have written := encoding_toNat decoded
  constructor
  · rw [written, Nat.log2_eq_iff (by omega), pow_succ]
    omega
  · rw [isUnknownSize_bits fits]
    refine forall₂_congr fun place below => ?_
    rw [written, Nat.testBit_two_pow_add_gt below]

theorem decode_words (decoded : decode (leading :: tail) = .ok (vint, rest)) :
    Words leading (tail.take (vint.length - 1)) vint := by
  obtain ⟨announced, value⟩ := decode_gathered decoded
  obtain ⟨positive, short, fits⟩ := (decode_sound decoded).1
  have counted := announced.length_eq
  have small : vint.value < 2 ^ 56 :=
    Nat.lt_of_lt_of_le fits (Nat.pow_le_pow_right (by decide) (by omega))
  have room : ∀ front, front <+: tail.take (vint.length - 1) →
      Bytes.ofBigEndian (withoutMarker leading :: front) < 2 ^ 56 := by
    intro front initial
    have longer := (List.prefix_cons_inj (withoutMarker leading)).mpr initial
    have grows := Bytes.ofBigEndian_le_of_prefix longer
    rw [← value] at grows
    exact Nat.lt_of_le_of_lt grows small
  have gathered := fun front initial => gather_toNat (room front initial)
  have whole := (gathered _ List.prefix_rfl).trans value.symm
  have ones := allOnes_toNat short
  refine ⟨⟨by omega, by omega⟩, room, gathered, whole, ones, ?_⟩
  rw [isUnknownSize_iff, ← UInt64.toNat_inj, whole]
  omega

-- Reading undoes writing and nothing else is read: what a byte string starts with is the
-- big-endian form of a value with its marker, a byte that announces no length, or too few bytes
-- for the length announced. In words of 64 bits all of it comes out the same.
theorem decoding_inverts_encoding (bytes : Bytes) :
    (∀ value length rest, decode bytes = .ok (⟨value, length⟩, rest) ↔
      (1 ≤ length ∧ length ≤ 8 ∧ value < 2 ^ (7 * length)) ∧
        bytes = Bytes.toBigEndian length (value + 2 ^ (7 * length)) ++ rest) ∧
    (decode bytes = .error .invalidLength ↔ bytes.head? = some 0) ∧
    (∀ needed, decode bytes = .error (.unexpectedEnd needed) ↔
      bytes = [] ∧ needed = 1 ∨ ∃ leading tail length, bytes = leading :: tail ∧
        Announces leading length ∧ bytes.length < length ∧ needed = length - bytes.length) ∧
    (∀ leading length, lengthOf leading = .ok length ↔ Announces leading length) ∧
    ∀ vint rest, decode bytes = .ok (vint, rest) →
      Bits (bytes.take vint.length) vint ∧ ∀ leading tail, bytes = leading :: tail →
        Announces leading vint.length ∧ Words leading (tail.take (vint.length - 1)) vint := by
  refine ⟨?_, decode_invalidLength_iff, fun needed => decode_unexpectedEnd_iff,
    fun leading length => lengthOf_eq_ok_iff, ?_⟩
  · intro value length rest
    have written : (⟨value, length⟩ : Vint).encode =
        Bytes.toBigEndian length (value + 2 ^ (7 * length)) := by
      rw [encode, Nat.one_shiftLeft]
    rw [decode_eq_ok_iff, written]
    refine and_congr_left' ⟨?_, ?_⟩
    · rintro ⟨positive, short, fits⟩
      exact ⟨positive, short, fits⟩
    · rintro ⟨positive, short, fits⟩
      exact ⟨positive, short, fits⟩
  · intro vint rest decoded
    refine ⟨decode_bits decoded, ?_⟩
    rintro leading tail rfl
    exact ⟨(decode_gathered decoded).1, decode_words decoded⟩

theorem reserved_size_decoded :
    decode [0x7F, 0xFF, 0xAA] = .ok (⟨0x3FFF, 2⟩, [0xAA]) ∧
      Bits [0x7F, 0xFF] ⟨0x3FFF, 2⟩ ∧ Announces 0x7F 2 ∧ Words 0x7F [0xFF] ⟨0x3FFF, 2⟩ := by
  have decoded : decode [0x7F, 0xFF, 0xAA] = .ok (⟨0x3FFF, 2⟩, [0xAA]) := by decide +kernel
  obtain ⟨_, _, _, _, reading⟩ := decoding_inverts_encoding [0x7F, 0xFF, 0xAA]
  obtain ⟨bits, further⟩ := reading _ _ decoded
  exact ⟨decoded, bits, further _ _ rfl⟩

end Ebml.Vint
