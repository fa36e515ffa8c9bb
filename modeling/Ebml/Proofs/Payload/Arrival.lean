import Ebml.Proofs.Payload.TwosComplement

namespace Ebml.Payload

-- The bytes of a payload may come in one after another. What has been decoded stays when more of
-- them follow, and where some are missing it is told how many.
variable {α : Type} {input rest bytes text : Bytes} {length missing : Nat} {value : α}
  {read : Bytes → α} {decode : Bytes → Nat → Decoded α} {accepts : Nat → Prop}

-- What a decoder does with a length: it reads so many bytes and looks at no others, or refuses
-- the length whatever the bytes are.
structure Measured (decode : Bytes → Nat → Decoded α) (accepts : Nat → Prop) : Prop where
  reads : ∀ length, accepts length →
    ∃ read : Bytes → α, ∀ input, decode input length = taking read input length
  refuses : ∀ length, ¬ accepts length → ∀ input, decode input length = .rejected

-- How the answer to the first bytes and the answer to more of them are related.
structure Stable (decode : Bytes → Nat → Decoded α) (accepts : Nat → Prop) : Prop where
  decoded : ∀ input length value rest, decode input length = .ok value rest →
    ∀ suffix, decode (input ++ suffix) length = .ok value (rest ++ suffix)
  missing : ∀ input length missing, decode input length = .incomplete missing →
    0 < missing ∧ input.length + missing = length
  fewer : ∀ input length missing, decode input length = .incomplete missing →
    ∀ suffix : Bytes, suffix.length < missing →
      decode (input ++ suffix) length = .incomplete (missing - suffix.length)
  enough : ∀ input length missing, decode input length = .incomplete missing →
    ∀ suffix : Bytes, missing ≤ suffix.length →
      ∃ value, decode (input ++ suffix) length = .ok value (suffix.drop missing)
  whole : ∀ input length, accepts length → length ≤ input.length →
    ∃ value, decode input length = .ok value (input.drop length)
  rejected : ∀ input length, decode input length = .rejected ↔ ¬ accepts length

-- The beginning of some bytes that is left when the NULs at their end are dropped.
structure Unpadded (bytes text : Bytes) : Prop where
  begins : text <+: bytes
  ends : text.getLast? ≠ some 0
  longest : ∀ other, other <+: bytes → other.getLast? ≠ some 0 → other.length ≤ text.length
  padding : bytes = text ++ List.replicate (bytes.length - text.length) 0

-- An integer as it is put into a word of eight bytes: these are filled before it is known whether
-- the payload is all there, from the first byte of whatever has come in.
def intInWord (input : Bytes) (length : Nat) : Decoded Int :=
  if 8 < length then .rejected
  else
    let fill := if length = 0 then 0 else signByte input
    taking (fun payload => (Int64.ofNat (Bytes.ofBigEndian (filled fill payload))).toInt)
      input length

theorem taking_eq_ok_iff : taking read input length = .ok value rest ↔
    length ≤ input.length ∧ value = read (input.take length) ∧ rest = input.drop length := by
  unfold taking
  split
  · rename_i short
    constructor
    · intro none
      cases none
    · intro enough
      omega
  · rename_i enough
    rw [Decoded.ok.injEq, eq_comm, eq_comm (b := rest)]
    exact ⟨fun same => ⟨Nat.not_lt.mp enough, same⟩, fun same => same.2⟩

theorem taking_eq_incomplete_iff : taking read input length = .incomplete missing ↔
    0 < missing ∧ input.length + missing = length := by
  unfold taking
  split
  · rw [Decoded.incomplete.injEq]
    omega
  · constructor
    · intro none
      cases none
    · intro short
      omega

theorem taking_ne_rejected : taking read input length ≠ .rejected := by
  unfold taking
  split <;> rintro ⟨⟩

theorem taking_nothing (value : α) (input : Bytes) :
    taking (fun _ => value) input 0 = .ok value input := rfl

namespace Measured

theorem taken (measured : Measured decode accepts) (input : Bytes) (length : Nat)
    (answered : decode input length ≠ .rejected) :
    ∃ read : Bytes → α, ∀ input, decode input length = taking read input length := by
  by_cases accepted : accepts length
  · exact measured.reads length accepted
  · exact absurd (measured.refuses length accepted input) answered

theorem rejected_iff (measured : Measured decode accepts) (input : Bytes) (length : Nat) :
    decode input length = .rejected ↔ ¬ accepts length := by
  constructor
  · intro rejected accepted
    obtain ⟨read, same⟩ := measured.reads length accepted
    exact taking_ne_rejected ((same input).symm.trans rejected)
  · intro refused
    exact measured.refuses length refused input

theorem stable (measured : Measured decode accepts) : Stable decode accepts := by
  refine ⟨?_, ?_, ?_, ?_, ?_, measured.rejected_iff⟩
  · intro input length value rest decoded suffix
    obtain ⟨read, same⟩ := measured.taken input length (by simp [decoded])
    rw [same] at decoded ⊢
    exact taking_append decoded suffix
  · intro input length missing short
    obtain ⟨read, same⟩ := measured.taken input length (by simp [short])
    rw [same] at short
    exact taking_eq_incomplete_iff.mp short
  · intro input length missing short suffix fewer
    obtain ⟨read, same⟩ := measured.taken input length (by simp [short])
    rw [same] at short ⊢
    have count := (taking_eq_incomplete_iff.mp short).2
    rw [taking_eq_incomplete_iff, List.length_append]
    omega
  · intro input length missing short suffix enough
    obtain ⟨read, same⟩ := measured.taken input length (by simp [short])
    rw [same] at short
    have count := (taking_eq_incomplete_iff.mp short).2
    have rest : (input ++ suffix).drop length = suffix.drop missing := by
      rw [← count, ← List.drop_drop, List.drop_left]
    refine ⟨read ((input ++ suffix).take length), ?_⟩
    rw [same, taking_eq_ok_iff, rest, List.length_append]
    exact ⟨by omega, rfl, rfl⟩
  · intro input length accepted enough
    obtain ⟨read, same⟩ := measured.reads length accepted
    refine ⟨read (input.take length), ?_⟩
    rw [same, taking_eq_ok_iff]
    exact ⟨enough, rfl, rfl⟩

end Measured

theorem uint_measured : Measured uint (· ≤ 8) where
  reads _ short := ⟨Bytes.ofBigEndian, fun _ => if_neg (Nat.not_lt.mpr short)⟩
  refuses _ long _ := if_pos (Nat.not_le.mp long)

theorem int_measured : Measured int (· ≤ 8) where
  reads _ short := ⟨signed, fun _ => if_neg (Nat.not_lt.mpr short)⟩
  refuses _ long _ := if_pos (Nat.not_le.mp long)

theorem float_measured : Measured float (fun length => length = 0 ∨ length = 4 ∨ length = 8) where
  reads := by
    rintro length (rfl | rfl | rfl)
    · exact ⟨fun _ => Binary64.zero, fun input => (taking_nothing _ input).symm⟩
    · exact ⟨ofBinary32Bytes, fun _ => rfl⟩
    · exact ⟨ofBinary64Bytes, fun _ => rfl⟩
  refuses length other input := by
    obtain ⟨notNone, notSingle, notDouble⟩ : length ≠ 0 ∧ length ≠ 4 ∧ length ≠ 8 := by
      simpa only [not_or] using other
    rw [float, if_neg notNone, if_neg notSingle, if_neg notDouble]

theorem date_measured : Measured date (fun length => length = 0 ∨ length = 8) where
  reads := by
    rintro length (rfl | rfl)
    · exact ⟨fun _ => 0, fun input => (taking_nothing 0 input).symm⟩
    · exact ⟨signed, fun _ => rfl⟩
  refuses length other input := by
    obtain ⟨notNone, notWhole⟩ : length ≠ 0 ∧ length ≠ 8 := by
      simpa only [not_or] using other
    rw [date, if_neg notNone, if_neg notWhole]

theorem string_measured : Measured string (fun _ => True) where
  reads _ _ := ⟨withoutPadding, fun _ => rfl⟩
  refuses _ other := absurd trivial other

theorem binary_measured : Measured binary (fun _ => True) where
  reads _ _ := ⟨id, fun _ => rfl⟩
  refuses _ other := absurd trivial other

theorem intInWord_eq (input : Bytes) (length : Nat) : intInWord input length = int input length := by
  unfold intInWord int
  by_cases long : 8 < length
  · rw [if_pos long, if_pos long]
  · rw [if_neg long, if_neg long]
    by_cases short : input.length < length
    · rw [taking, taking, if_pos short, if_pos short]
    · have word := (reads_signed (Nat.not_lt.mp long) (Nat.not_lt.mp short)).word
      rw [taking, taking, if_neg short, if_neg short, word]

theorem unpadded_withoutPadding (bytes : Bytes) : Unpadded bytes (withoutPadding bytes) := by
  obtain ⟨last, padding, split⟩ := withoutPadding_split bytes
  generalize withoutPadding bytes = kept at last split
  subst split
  refine ⟨List.prefix_append _ _, last, ?_, by simp⟩
  rintro other ⟨more, whole⟩ otherLast
  -- A beginning that is longer ends in the padding.
  by_contra longer
  rcases List.append_eq_append_iff.mp whole with ⟨inside, same, _⟩ | ⟨zeros, same, padded⟩
  · apply longer
    rw [same, List.length_append]
    omega
  · have all : ∀ byte ∈ zeros, byte = 0 := by
      intro byte member
      have member : byte ∈ List.replicate padding (0 : UInt8) := by
        rw [padded]
        exact List.mem_append_left _ member
      exact List.eq_of_mem_replicate member
    cases zeros using List.reverseRecOn with
    | nil => simp [same] at longer
    | append_singleton front final =>
      apply otherLast
      rw [same, ← List.append_assoc, List.getLast?_concat, all final (by simp)]

theorem Unpadded.unique {other : Bytes} (one : Unpadded bytes text)
    (two : Unpadded bytes other) : text = other := by
  have same := Nat.le_antisymm (two.longest text one.begins one.ends)
    (one.longest other two.begins two.ends)
  exact (List.prefix_of_prefix_length_le one.begins two.begins same.le).eq_of_length same

theorem string_eq_ok_iff : string input length = .ok text rest ↔
    length ≤ input.length ∧ Unpadded (input.take length) text ∧ rest = input.drop length := by
  have kept := unpadded_withoutPadding (input.take length)
  rw [string, taking_eq_ok_iff]
  refine and_congr_right fun _ => and_congr_left fun _ => ⟨?_, ?_⟩
  · rintro rfl
    exact kept
  · intro unpadded
    exact unpadded.unique kept

-- Every kind of payload is decoded from its own bytes alone, and only its length can be refused.
-- An integer is so too where a word is filled by the sign of bytes that may not all be there,
-- and a text is the longest beginning of its bytes that does not end in a NUL.
theorem decoders_stable :
    Stable uint (· ≤ 8) ∧ Stable int (· ≤ 8) ∧
    Stable float (fun length => length = 0 ∨ length = 4 ∨ length = 8) ∧
    Stable date (fun length => length = 0 ∨ length = 8) ∧
    Stable string (fun _ => True) ∧ Stable binary (fun _ => True) ∧
    (∀ input length, intInWord input length = int input length) ∧
    ∀ input length text rest, string input length = .ok text rest ↔
      length ≤ input.length ∧ Unpadded (input.take length) text ∧ rest = input.drop length :=
  ⟨uint_measured.stable, int_measured.stable, float_measured.stable, date_measured.stable,
    string_measured.stable, binary_measured.stable, intInWord_eq,
    fun _ _ _ _ => string_eq_ok_iff⟩

theorem payloads_in_parts :
    float [0x3F] 4 = .incomplete 3 ∧ float [0x3F, 0x80, 0x00] 4 = .incomplete 1 ∧
      (∃ value, float [0x3F, 0x80, 0x00, 0x00, 0x07] 4 = .ok value [0x07]) ∧
      float [0x3F] 3 = .rejected ∧ intInWord [0x80] 2 = .incomplete 1 ∧
      string [0x61, 0x00, 0x62, 0x00, 0x00, 0x07] 5 = .ok [0x61, 0x00, 0x62] [0x07] ∧
      Unpadded [0x61, 0x00, 0x62, 0x00, 0x00] [0x61, 0x00, 0x62] := by
  obtain ⟨_, _, floats, _, _, _, words, texts⟩ := decoders_stable
  have first : float [0x3F] 4 = .incomplete 3 := rfl
  have second := floats.fewer _ _ _ first [0x80, 0x00] (by decide)
  have third := floats.enough _ _ _ second [0x00, 0x07] (by decide)
  have refused := (floats.rejected [0x3F] 3).mpr (by decide)
  have read : string [0x61, 0x00, 0x62, 0x00, 0x00, 0x07] 5 = .ok [0x61, 0x00, 0x62] [0x07] := by
    decide
  have unpadded := ((texts _ _ _ _).mp read).2.1
  exact ⟨first, second, third, refused, words [0x80] 2, read, unpadded⟩

end Ebml.Payload
