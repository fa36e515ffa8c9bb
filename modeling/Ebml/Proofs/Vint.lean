import Ebml.Proofs.Bytes
import Ebml.Vint

namespace Ebml.Vint

-- Writing and reading are inverse to each other: what is read is a value that its length
-- has room for, in the one form that the length gives it.
structure Valid (vint : Vint) : Prop where
  positive : 0 < vint.length
  short : vint.length ≤ 8
  fits : vint.value < 2 ^ (7 * vint.length)

theorem Valid.value_lt {vint : Vint} (valid : vint.Valid) : vint.value < 2 ^ 56 := by
  have few : 7 * vint.length ≤ 56 := Nat.mul_le_mul_left 7 valid.short
  exact Nat.lt_of_lt_of_le valid.fits (Nat.pow_le_pow_right (by decide) few)

theorem encode_length (vint : Vint) : vint.encode.length = vint.length :=
  Bytes.toBigEndian_length _ _

theorem marker_eq {zeros : Nat} (few : zeros < 8) :
    2 ^ (7 * (zeros + 1)) = 2 ^ (7 - zeros) * 256 ^ zeros := by
  have bits : (256 : Nat) ^ zeros = 2 ^ (8 * zeros) := by
    rw [pow_mul]
    rfl
  rw [bits, ← pow_add]
  congr 1
  omega

theorem leadingZeros_eq_iff {byte : UInt8} {zeros : Nat} (few : zeros < 8) :
    leadingZeros byte = zeros ↔
      2 ^ (7 - zeros) ≤ byte.toNat ∧ byte.toNat < 2 * 2 ^ (7 - zeros) := by
  have every : ∀ byte : Fin 256, ∀ zeros : Fin 8,
      leadingZeros (UInt8.ofNat byte.val) = zeros.val ↔
        2 ^ (7 - zeros.val) ≤ byte.val ∧ byte.val < 2 * 2 ^ (7 - zeros.val) := by
    decide +kernel
  have here := every ⟨byte.toNat, byte.toNat_lt⟩ ⟨zeros, few⟩
  simpa using here

theorem leadingZeros_eq_eight_iff {byte : UInt8} : leadingZeros byte = 8 ↔ byte = 0 := by
  unfold leadingZeros
  split
  · simp_all
  · rename_i other
    simp only [other, iff_false]
    omega

theorem leading_toNat {zeros top : Nat} (small : top < 2 ^ (7 - zeros)) :
    (UInt8.ofNat (2 ^ (7 - zeros) + top)).toNat = 2 ^ (7 - zeros) + top := by
  have byte : 2 ^ (7 - zeros) ≤ 2 ^ 7 := Nat.pow_le_pow_right (by decide) (by omega)
  rw [UInt8.toNat_ofNat']
  exact Nat.mod_eq_of_lt (by omega)

theorem encode_eq {value zeros : Nat} (few : zeros < 8) :
    encode ⟨value, zeros + 1⟩ =
      UInt8.ofNat (2 ^ (7 - zeros) + value / 256 ^ zeros) :: Bytes.toBigEndian zeros value := by
  have positive : 0 < 256 ^ zeros := by positivity
  simp only [encode, Nat.one_shiftLeft]
  rw [marker_eq few, Bytes.toBigEndian_succ, Bytes.toBigEndian_add_mul,
    Nat.add_mul_div_right _ _ positive, Nat.add_comm]

theorem decode_cons {leading : UInt8} {zeros : Nat} (few : zeros < 8)
    (counted : leadingZeros leading = zeros) {tail : Bytes} (enough : zeros ≤ tail.length) :
    decode (leading :: tail) =
      .ok (⟨leading.toNat % 2 ^ (7 - zeros) * 256 ^ zeros + Bytes.ofBigEndian (tail.take zeros),
        zeros + 1⟩, tail.drop zeros) := by
  have bits : (2 : Nat) ^ (8 * zeros) = 256 ^ zeros := by
    rw [pow_mul]
    rfl
  rw [decode]
  simp only [counted, Nat.shiftLeft_eq, bits, one_mul]
  rw [if_neg (by omega), if_neg (by omega)]

theorem decode_encode {vint : Vint} (valid : vint.Valid) (rest : Bytes) :
    decode (vint.encode ++ rest) = .ok (vint, rest) := by
  obtain ⟨value, length⟩ := vint
  obtain ⟨positive, short, fits⟩ := valid
  obtain ⟨zeros, rfl⟩ : ∃ zeros, length = zeros + 1 :=
    ⟨length - 1, (Nat.succ_pred_eq_of_pos positive).symm⟩
  have few : zeros < 8 := short
  have small : value / 256 ^ zeros < 2 ^ (7 - zeros) := by
    refine Nat.div_lt_of_lt_mul ?_
    rw [Nat.mul_comm, ← marker_eq few]
    exact fits
  have leading := leading_toNat small
  have counted : leadingZeros (UInt8.ofNat (2 ^ (7 - zeros) + value / 256 ^ zeros)) = zeros := by
    rw [leadingZeros_eq_iff few, leading]
    generalize value / 256 ^ zeros = top at small
    omega
  have written := Bytes.toBigEndian_length zeros value
  have low : Bytes.ofBigEndian (Bytes.toBigEndian zeros value) = value % 256 ^ zeros :=
    Bytes.ofBigEndian_toBigEndian zeros value
  rw [encode_eq few, List.cons_append, decode_cons few counted (by simp [written]),
    List.take_left' written, List.drop_left' written, leading, low, Nat.add_mod_left,
    Nat.mod_eq_of_lt small, Nat.div_add_mod']

theorem decode_sound {bytes rest : Bytes} {vint : Vint} (decoded : decode bytes = .ok (vint, rest)) :
    vint.Valid ∧ bytes = vint.encode ++ rest := by
  cases bytes with
  | nil => cases decoded
  | cons leading tail =>
    have bound := leadingZeros_le leading
    generalize counted : leadingZeros leading = zeros at bound
    have few : zeros < 8 := by
      rcases Nat.lt_or_eq_of_le bound with few | eight
      · exact few
      · simp [decode, counted, eight] at decoded
    have enough : zeros ≤ tail.length := by
      by_contra short
      simp [decode, counted, Nat.lt_of_not_le short, Nat.ne_of_lt few] at decoded
    rw [decode_cons few counted enough] at decoded
    cases decoded
    obtain ⟨low, high⟩ := (leadingZeros_eq_iff few).mp counted
    have top : leading.toNat % 2 ^ (7 - zeros) = leading.toNat - 2 ^ (7 - zeros) := by
      rw [Nat.mod_eq_sub_mod low]
      exact Nat.mod_eq_of_lt (by omega)
    have taken : (tail.take zeros).length = zeros := List.length_take_of_le enough
    have below := Bytes.ofBigEndian_lt (tail.take zeros)
    have digits := Bytes.toBigEndian_ofBigEndian (tail.take zeros)
    rw [taken] at below digits
    obtain ⟨extra, split⟩ := Nat.exists_eq_add_of_le low
    have small : extra < 2 ^ (7 - zeros) := by omega
    rw [top, split, Nat.add_sub_cancel_left]
    refine ⟨⟨Nat.succ_pos _, few, ?_⟩, ?_⟩
    · rw [marker_eq few]
      calc extra * 256 ^ zeros + Bytes.ofBigEndian (tail.take zeros)
          < (extra + 1) * 256 ^ zeros := by rw [Nat.succ_mul]; omega
        _ ≤ 2 ^ (7 - zeros) * 256 ^ zeros := Nat.mul_le_mul_right _ small
    · have positive : 0 < 256 ^ zeros := by positivity
      have quotient : (extra * 256 ^ zeros + Bytes.ofBigEndian (tail.take zeros)) / 256 ^ zeros =
          extra := by
        rw [Nat.add_comm, Nat.add_mul_div_right _ _ positive, Nat.div_eq_of_lt below, Nat.zero_add]
      rw [encode_eq few, quotient, ← split, Nat.add_comm (extra * _), Bytes.toBigEndian_add_mul,
        digits, UInt8.ofNat_toNat, List.cons_append, List.take_append_drop]

theorem decode_eq_ok_iff {bytes rest : Bytes} {vint : Vint} :
    decode bytes = .ok (vint, rest) ↔ vint.Valid ∧ bytes = vint.encode ++ rest := by
  constructor
  · exact decode_sound
  · rintro ⟨valid, rfl⟩
    exact decode_encode valid rest

theorem decode_invalidLength_iff {bytes : Bytes} :
    decode bytes = .error .invalidLength ↔ bytes.head? = some 0 := by
  cases bytes with
  | nil => simp [decode]
  | cons leading tail =>
    rw [List.head?_cons, Option.some_inj, ← leadingZeros_eq_eight_iff]
    simp only [decode]
    split
    · simp_all
    · split <;> simp_all

theorem encode_append_inj {one other : Vint} (valid : one.Valid) (valid' : other.Valid)
    {rest rest' : Bytes} (same : one.encode ++ rest = other.encode ++ rest') :
    one = other ∧ rest = rest' := by
  have decoded := decode_encode valid rest
  rw [same, decode_encode valid'] at decoded
  obtain ⟨other_eq, rest_eq⟩ := Prod.mk.inj (Except.ok.inj decoded)
  exact ⟨other_eq.symm, rest_eq.symm⟩

theorem decode_part {vint : Vint} (valid : vint.Valid) {leading : UInt8} {tail : Bytes}
    (part : leading :: tail <+: vint.encode) (short : tail.length + 1 < vint.length) :
    leadingZeros leading ≠ 8 ∧
      decode (leading :: tail) = .error (.unexpectedEnd (vint.length - (tail.length + 1))) := by
  obtain ⟨missing, whole⟩ := part
  have decoded := decode_encode valid []
  rw [← whole, List.append_nil, List.cons_append] at decoded
  simp only [decode] at decoded
  split at decoded
  · cases decoded
  · rename_i marked
    split at decoded
    · cases decoded
    · obtain ⟨rfl, _⟩ := Prod.mk.inj (Except.ok.inj decoded)
      have fewer : tail.length < leadingZeros leading := Nat.lt_of_succ_lt_succ short
      refine ⟨marked, ?_⟩
      simp only [decode, if_neg marked, if_pos fewer, Nat.add_sub_add_right]

theorem isUnknownSize_iff (value length : Nat) :
    isUnknownSize value length = true ↔ value + 1 = 2 ^ (7 * length) := by
  simp [isUnknownSize, Nat.one_shiftLeft]

end Ebml.Vint
