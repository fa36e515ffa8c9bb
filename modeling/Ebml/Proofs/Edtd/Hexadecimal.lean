import Ebml.Proofs.Edtd.Numeral
import Ebml.Proofs.Vint

namespace Ebml

namespace Edtd

-- What is written in hex: bytes, and the identifiers of elements by theirs.
theorem hexDigit?_ascii {c : Char} {value : Nat} (digit : Bytes.hexDigit? c = some value) :
    c.isAlphanum = true := by
  unfold Bytes.hexDigit? at digit
  simp only [isAlphanum_iff, UInt32.le_iff_toNat_le]
  simp only [Char.le_def, UInt32.le_iff_toNat_le] at digit
  split at digit
  · rename_i decimal
    exact .inr decimal
  · split at digit
    · rename_i lower
      exact .inl (.inr ⟨lower.1, Nat.le_trans lower.2 (by decide)⟩)
    · split at digit
      · rename_i upper
        exact .inl (.inl ⟨upper.1, Nat.le_trans upper.2 (by decide)⟩)
      · cases digit

theorem hexPair?_ascii {high low : Char} {value : UInt8}
    (pair : Bytes.hexPair? high low = some value) :
    high.isAlphanum = true ∧ low.isAlphanum = true := by
  obtain ⟨_, highDigit, pair⟩ := Option.bind_eq_some_iff.mp pair
  obtain ⟨_, lowDigit, _⟩ := Option.bind_eq_some_iff.mp pair
  exact ⟨hexDigit?_ascii highDigit, hexDigit?_ascii lowDigit⟩

theorem ofHex?_ascii {digits : List Char} {bytes : Bytes}
    (spells : Bytes.ofHex? digits = some bytes) : ∀ c ∈ digits, c.isAlphanum = true := by
  induction digits using Bytes.ofHex?.induct generalizing bytes with
  | case1 =>
    intro c member
    cases member
  | case2 digit => cases spells
  | case3 high low rest ih =>
    obtain ⟨_, pair, spells⟩ := Option.bind_eq_some_iff.mp spells
    obtain ⟨_, spells, _⟩ := Option.bind_eq_some_iff.mp spells
    obtain ⟨highAscii, lowAscii⟩ := hexPair?_ascii pair
    intro c member
    rcases List.mem_cons.mp member with rfl | member
    · exact highAscii
    · rcases List.mem_cons.mp member with rfl | member
      · exact lowAscii
      · exact ih spells c member

end Edtd

namespace Bytes

theorem hexDigit?_code {c : Char} {value : Nat} (digit : hexDigit? c = some value) :
    c.toNat < 128 := by
  have alphanumeric := Edtd.isAlphanum_iff.mp (Edtd.hexDigit?_ascii digit)
  simp only [UInt32.le_iff_toNat_le] at alphanumeric
  change c.val.toNat < 128
  rcases alphanumeric with (⟨_, most⟩ | ⟨_, most⟩) | ⟨_, most⟩ <;>
    exact Nat.lt_of_le_of_lt most (by decide)

theorem hexDigit?_value {c : Char} {value : Nat} (digit : hexDigit? c = some value) :
    value < 16 ∧ c.toLower = Nat.digitChar value := by
  have every : ∀ code : Fin 128, (hexDigit? (Char.ofNat code.val)).all (fun value =>
      value < 16 ∧ (Char.ofNat code.val).toLower = Nat.digitChar value) = true := by
    decide +kernel
  have here := every ⟨c.toNat, hexDigit?_code digit⟩
  rw [Char.ofNat_toNat, digit] at here
  simpa using here

theorem ofHex?_eq_some_iff {digits : List Char} {bytes : Bytes} :
    ofHex? digits = some bytes ↔ digits.map Char.toLower = toHex bytes := by
  constructor
  · intro read
    induction digits using ofHex?.induct generalizing bytes with
    | case1 =>
      cases read
      rfl
    | case2 digit => cases read
    | case3 high low rest ih =>
      obtain ⟨byte, pair, tail⟩ := Option.bind_eq_some_iff.mp read
      obtain ⟨others, tailRead, made⟩ := Option.bind_eq_some_iff.mp tail
      cases made
      obtain ⟨top, highDigit, pair⟩ := Option.bind_eq_some_iff.mp pair
      obtain ⟨bottom, lowDigit, made⟩ := Option.bind_eq_some_iff.mp pair
      cases made
      obtain ⟨topSmall, highLower⟩ := hexDigit?_value highDigit
      obtain ⟨bottomSmall, lowLower⟩ := hexDigit?_value lowDigit
      have number : (UInt8.ofNat (top * 16 + bottom)).toNat = top * 16 + bottom := by
        rw [UInt8.toNat_ofNat']
        omega
      simp only [List.map_cons, toHex, List.flatMap_cons, number, highLower, lowLower]
      rw [ih tailRead, show (top * 16 + bottom) / 16 = top by omega,
        show (top * 16 + bottom) % 16 = bottom by omega]
      rfl
  · intro spelled
    rw [← ofHex?_toLower, spelled, ofHex?_toHex]

end Bytes

namespace Edtd

-- An identifier is spelled by the hex digits, of either case, of a whole variable-length integer
-- other than 0.
structure SpellsId (literal : String) (vint : Vint) : Prop where
  valid : vint.Valid
  nonzero : vint.value ≠ 0
  digits : literal.toList.map Char.toLower = Bytes.toHex vint.encode

variable {literal : String} {id : ElementId}

theorem elementId?_eq_some_iff :
    elementId? literal = some id ↔ ∃ vint, SpellsId literal vint ∧ vint.value = id := by
  unfold elementId?
  constructor
  · intro read
    obtain ⟨bytes, digits, read⟩ := Option.bind_eq_some_iff.mp read
    split at read
    · rename_i vint decoded
      split at read
      · cases read
      · rename_i nonzero
        cases read
        obtain ⟨valid, whole⟩ := Vint.decode_sound decoded
        rw [List.append_nil] at whole
        subst whole
        exact ⟨vint, ⟨valid, nonzero, Bytes.ofHex?_eq_some_iff.mp digits⟩, rfl⟩
    · cases read
  · rintro ⟨vint, ⟨valid, nonzero, digits⟩, rfl⟩
    have decoded := Vint.decode_encode valid []
    rw [List.append_nil] at decoded
    rw [Bytes.ofHex?_eq_some_iff.mpr digits, Option.bind_eq_bind, Option.bind_some, decoded]
    exact if_neg nonzero

theorem elementId_eq_ok_iff :
    elementId literal = .ok id ↔ ∃ vint, SpellsId literal vint ∧ vint.value = id := by
  rw [← elementId?_eq_some_iff, elementId]
  cases elementId? literal <;> simp

theorem elementId_invalid (unspelled : ¬∃ vint, SpellsId literal vint) :
    elementId literal = .error (.invalidId literal) := by
  cases read : elementId? literal with
  | none => rw [elementId, read]
  | some id =>
    obtain ⟨vint, spells, _⟩ := elementId?_eq_some_iff.mp read
    exact absurd ⟨vint, spells⟩ unspelled

theorem elementId_ne_zero (read : elementId literal = .ok id) : id ≠ 0 := by
  obtain ⟨vint, spells, rfl⟩ := elementId_eq_ok_iff.mp read
  exact spells.nonzero

end Edtd

end Ebml
