import Ebml.ElementType
import Ebml.Text.Lowercase

namespace Ebml.Text

-- Few characters have a lower case among the letters of ASCII, and those outside ASCII that do
-- stand in no name of a type. So a type's name is told in the lower case of a text already.
variable {text : List Char} {c d : Char}

def IsTypeLetter (c : Char) : Prop := 0x61 ≤ c.toNat ∧ c.toNat ≤ 0x7a ∧ c ≠ 'k'

instance : DecidablePred IsTypeLetter := fun c =>
  inferInstanceAs (Decidable (0x61 ≤ c.toNat ∧ c.toNat ≤ 0x7a ∧ c ≠ 'k'))

theorem typeLetter_of_name {type : ElementType} (member : c ∈ type.name.toList) :
    IsTypeLetter c := by
  have letters : type.name.toList.all (IsTypeLetter ·) = true := by cases type <;> decide
  exact of_decide_eq_true (List.all_eq_true.mp letters c member)

-- Of the runs, only the one of the Kelvin sign leads into ASCII.
theorem run_outside_ascii {run : CaseRun} (member : run ∈ caseRuns) :
    (0x80 : Int) ≤ run.first + run.offset ∨ run.first = run.last ∧ run.first + run.offset = 0x6b := by
  have runs : ∀ run ∈ caseRuns,
      (0x80 : Int) ≤ run.first + run.offset ∨
        run.first = run.last ∧ run.first + run.offset = 0x6b := by
    decide +kernel
  exact runs run member

theorem ofNat_outside {code : Nat} (outside : 0x80 ≤ code) : ¬IsTypeLetter (Char.ofNat code) := by
  rintro ⟨least, greatest, _⟩
  by_cases valid : code.isValidChar
  · have same : (Char.ofNat code).toNat = code := by
      rw [Char.ofNat, dif_pos valid]
      rfl
    omega
  · rw [Char.ofNat, dif_neg valid] at least
    exact absurd least (by decide)

theorem lowerChar_ascii (letters : ∀ d ∈ lowerChar c, IsTypeLetter d) : c.toNat < 0x80 := by
  unfold lowerChar at letters
  split at letters
  · rename_i ascii
    exact ascii
  · exfalso
    split at letters
    · obtain ⟨_, greatest, _⟩ := letters (Char.ofNat 0x307) (by simp)
      exact absurd greatest (by decide)
    · rename_i notAscii notDotted
      split at letters
      · rename_i run found
        obtain letter := letters _ List.mem_cons_self
        have covered := List.find?_some found
        simp only [CaseRun.covers, Bool.and_eq_true, decide_eq_true_eq] at covered
        obtain ⟨⟨first, last⟩, _⟩ := covered
        rcases run_outside_ascii (List.mem_of_find?_eq_some found) with outside | ⟨one, kelvin⟩
        · exact ofNat_outside (by omega) letter
        · have same : ((c.toNat : Int) + run.offset).toNat = 0x6b := by omega
          rw [same] at letter
          exact letter.2.2 rfl
      · obtain ⟨least, greatest, _⟩ := letters c List.mem_cons_self
        omega

theorem toLower_ascii (letter : IsTypeLetter c.toLower) : c.toNat < 0x80 := by
  obtain ⟨_, greatest, _⟩ := letter
  unfold Char.toLower at greatest
  split at greatest
  · rename_i upper
    exact Nat.lt_of_le_of_lt (UInt32.le_iff_toNat_le.mp upper.2) (by decide)
  · omega

theorem lowerFrom_ascii (ascii : ∀ c ∈ text, c.toNat < 0x80) (before : List Char) :
    lowerFrom before text = text.map Char.toLower := by
  induction text generalizing before with
  | nil => rfl
  | cons c others ih =>
    rw [List.forall_mem_cons] at ascii
    have noSigma : c ≠ 'Σ' := by
      rintro rfl
      exact absurd ascii.1 (by decide)
    rw [lowerFrom, if_neg noSigma, lowerChar, if_pos ascii.1, ih ascii.2]
    rfl

theorem ascii_of_lowerFrom {before : List Char} (letters : ∀ d ∈ lowerFrom before text, IsTypeLetter d) :
    ∀ c ∈ text, c.toNat < 0x80 := by
  induction text generalizing before with
  | nil => exact List.forall_mem_nil _
  | cons c others ih =>
    rw [lowerFrom, List.forall_mem_append] at letters
    obtain ⟨here, after⟩ := letters
    refine List.forall_mem_cons.mpr ⟨?_, ih after⟩
    split at here
    · exfalso
      have sigmas : 0x7a < 'ς'.toNat ∧ 0x7a < 'σ'.toNat := by decide
      split at here
      · exact absurd (here 'ς' List.mem_cons_self).2.1 (Nat.not_le.mpr sigmas.1)
      · exact absurd (here 'σ' List.mem_cons_self).2.1 (Nat.not_le.mpr sigmas.2)
    · exact lowerChar_ascii here

end Ebml.Text

namespace Ebml.ElementType

variable {one other : String} {type : ElementType}

theorem ofName?_eq_some_iff {text : String} :
    ofName? text = some type ↔ Text.lower text = type.name := by
  constructor
  · intro named
    have spelled : type.name.toList = text.toList.map Char.toLower := by
      simpa using List.find?_some named
    have ascii : ∀ c ∈ text.toList, c.toNat < 0x80 := by
      intro c member
      have letter : c.toLower ∈ type.name.toList := by
        rw [spelled]
        exact List.mem_map_of_mem member
      exact Text.toLower_ascii (Text.typeLetter_of_name letter)
    rw [Text.lower, Text.lowerFrom_ascii ascii, ← spelled, String.ofList_toList]
  · intro lowered
    have spelled : Text.lowerFrom [] text.toList = type.name.toList := by
      rw [← lowered, Text.lower, String.toList_ofList]
    have ascii : ∀ c ∈ text.toList, c.toNat < 0x80 := by
      refine @Text.ascii_of_lowerFrom text.toList [] ?_
      rw [spelled]
      exact fun d member => Text.typeLetter_of_name member
    rw [Text.lowerFrom_ascii ascii] at spelled
    rw [ofName?, spelled]
    cases type <;> rfl

theorem ofName?_of_lower (same : Text.lower one = Text.lower other) :
    ofName? one = ofName? other := by
  ext type
  rw [ofName?_eq_some_iff, ofName?_eq_some_iff, same]

end Ebml.ElementType
