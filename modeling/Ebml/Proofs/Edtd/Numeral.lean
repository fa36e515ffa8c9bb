import Ebml.Edtd.Parameter
import Ebml.Proofs.Edtd.Spelling

namespace Ebml.Edtd

-- The words that spell numbers: they hold one point at most, so that two points between
-- numbers can be told from the points of the numbers.
structure Numeral {α : Type} (read? : List Char → Option α) where
  text : List Char
  value : α
  reads : read? text = some value

def ReadsWords {α : Type} (read? : List Char → Option α) : Prop :=
  ∀ text value, read? text = some value → isWord text = true ∧ text.count '.' ≤ 1

theorem isWordChar_of_isAlphanum {c : Char} (ascii : c.isAlphanum = true) :
    isWordChar c = true := by
  rw [isWordChar, Text.isAlphanumeric_of_isAlphanum ascii]
  rfl

theorem isAlphanum_of_isDigit {c : Char} (digit : c.isDigit = true) : c.isAlphanum = true := by
  rw [Char.isAlphanum, digit, Bool.or_true]

theorem isAlphanum_iff {c : Char} :
    c.isAlphanum = true ↔
      ((65 ≤ c.val ∧ c.val ≤ 90) ∨ (97 ≤ c.val ∧ c.val ≤ 122)) ∨ (48 ≤ c.val ∧ c.val ≤ 57) := by
  delta Char.isAlphanum Char.isAlpha Char.isUpper Char.isLower Char.isDigit
  simp only [Bool.or_eq_true, Bool.and_eq_true, decide_eq_true_eq]
  exact Iff.rfl

theorem isAlphanum_of_toLower {c : Char} (ascii : c.toLower.isAlphanum = true) :
    c.isAlphanum = true := by
  unfold Char.toLower at ascii
  split at ascii
  · rename_i upper
    exact isAlphanum_iff.mpr (.inl (.inl upper))
  · exact ascii

theorem count_point {text : List Char} (ascii : ∀ c ∈ text, c.isAlphanum = true) :
    text.count '.' = 0 := by
  rw [List.count_eq_zero]
  intro point
  cases ascii '.' point

theorem isWord_of_isAlphanum {text : List Char} (more : text ≠ [])
    (ascii : ∀ c ∈ text, c.isAlphanum = true) : isWord text = true :=
  isWord_of_all more fun c member => isWordChar_of_isAlphanum (ascii c member)

theorem natural?_digits {text : List Char} {value : Nat}
    (read : Literal.natural? text = some value) :
    text ≠ [] ∧ ∀ c ∈ text, c.isAlphanum = true := by
  unfold Literal.natural? at read
  split at read
  · rename_i digits
    obtain ⟨more, all⟩ := Bool.and_eq_true_iff.mp digits
    refine ⟨by simpa using more, ?_⟩
    intro c member
    exact isAlphanum_of_isDigit (List.all_eq_true.mp all c member)
  · cases read

theorem readsWords_uint64 : ReadsWords Literal.uint64? := by
  intro text value read
  obtain ⟨more, ascii⟩ := natural?_digits (Option.filter_eq_some_iff.mp read).1
  exact ⟨isWord_of_isAlphanum more ascii, by rw [count_point ascii]; exact Nat.zero_le _⟩

theorem readsWords_int64 : ReadsWords Literal.int64? := by
  intro text value read
  unfold Literal.int64? at read
  split at read
  · rename_i digits
    obtain ⟨magnitude, read, _⟩ := Option.map_eq_some_iff.mp read
    obtain ⟨magnitude, read, _⟩ := Option.bind_eq_some_iff.mp read
    obtain ⟨more, ascii⟩ := natural?_digits (Option.filter_eq_some_iff.mp read).1
    refine ⟨isWord_signed more fun c member => isWordChar_of_isAlphanum (ascii c member), ?_⟩
    rw [List.count_cons_of_ne (by decide), count_point ascii]
    exact Nat.zero_le _
  · obtain ⟨magnitude, read, _⟩ := Option.map_eq_some_iff.mp read
    obtain ⟨more, ascii⟩ := natural?_digits (Option.filter_eq_some_iff.mp read).1
    exact ⟨isWord_of_isAlphanum more ascii, by rw [count_point ascii]; exact Nat.zero_le _⟩

theorem mem_takeWhile_digit (text : List Char) :
    ∀ c ∈ text.takeWhile Char.isDigit, c.isAlphanum = true := fun c member =>
  isAlphanum_of_isDigit (List.all_eq_true.mp List.all_takeWhile c member)

theorem exponent?_ascii {rest : List Char} {exponent : Nat}
    (read : (match rest with
      | [] => some 0
      | letter :: digits =>
        if letter.toLower = 'e' then Literal.natural? digits else none) = some exponent) :
    ∀ c ∈ rest, c.isAlphanum = true := by
  cases rest with
  | nil =>
    intro c member
    cases member
  | cons letter digits =>
    dsimp only at read
    split at read
    · rename_i isE
      intro c member
      rcases List.mem_cons.mp member with rfl | member
      · exact isAlphanum_of_toLower (by rw [isE]; decide)
      · exact (natural?_digits read).2 c member
    · cases read

theorem decimal?_chars {text : List Char} {parts : Nat × Int}
    (read : Literal.decimal? text = some parts) :
    text ≠ [] ∧ (∀ c ∈ text, isWordChar c = true) ∧ text.count '.' ≤ 1 := by
  have whole := List.takeWhile_append_dropWhile (p := Char.isDigit) (l := text)
  have digits := mem_takeWhile_digit text
  unfold Literal.decimal? at read
  generalize text.takeWhile Char.isDigit = front at *
  generalize text.dropWhile Char.isDigit = back at *
  subst whole
  dsimp only at read
  split at read
  · rename_i after
    have split := List.takeWhile_append_dropWhile (p := Char.isDigit) (l := after)
    have more := mem_takeWhile_digit after
    dsimp only at read
    split at read
    · cases read
    · obtain ⟨exponent, read, _⟩ := Option.map_eq_some_iff.mp read
      obtain ⟨exponent, read, _⟩ := Option.bind_eq_some_iff.mp read
      have ascii : ∀ c ∈ after, c.isAlphanum = true := by
        intro c member
        rw [← split] at member
        rcases List.mem_append.mp member with inFraction | inExponent
        · exact more c inFraction
        · exact exponent?_ascii read c inExponent
      refine ⟨by simp, ?_, ?_⟩
      · intro c member
        rcases List.mem_append.mp member with inFront | inBack
        · exact isWordChar_of_isAlphanum (digits c inFront)
        · rcases List.mem_cons.mp inBack with rfl | inBack
          · decide
          · exact isWordChar_of_isAlphanum (ascii c inBack)
      · have noneInFront := count_point digits
        have noneInBack := count_point ascii
        rw [List.count_append, List.count_cons_self]
        omega
  · dsimp only at read
    split at read
    · cases read
    · rename_i more
      obtain ⟨exponent, read, _⟩ := Option.map_eq_some_iff.mp read
      obtain ⟨exponent, read, _⟩ := Option.bind_eq_some_iff.mp read
      have ascii : ∀ c ∈ front ++ back, c.isAlphanum = true := by
        intro c member
        rcases List.mem_append.mp member with inFront | inBack
        · exact digits c inFront
        · exact exponent?_ascii read c inBack
      have some : front ≠ [] := by simpa using more
      refine ⟨by simp [some], fun c member => isWordChar_of_isAlphanum (ascii c member), ?_⟩
      rw [count_point ascii]
      exact Nat.zero_le _

theorem unsignedFloat?_chars {negative : Bool} {text : List Char} {value : Binary64}
    (read : Literal.unsignedFloat? negative text = some value) :
    text ≠ [] ∧ (∀ c ∈ text, isWordChar c = true) ∧ text.count '.' ≤ 1 := by
  -- The names of the numbers that have no digits are made of letters.
  have named : ∀ name : List Char, name ≠ [] → name.all Char.isAlphanum = true →
      text.map Char.toLower = name →
      text ≠ [] ∧ (∀ c ∈ text, isWordChar c = true) ∧ text.count '.' ≤ 1 := by
    rintro _ more letters rfl
    have ascii : ∀ c ∈ text, c.isAlphanum = true := fun c member =>
      isAlphanum_of_toLower (List.all_eq_true.mp letters _ (List.mem_map_of_mem member))
    refine ⟨by simpa using more, fun c member => isWordChar_of_isAlphanum (ascii c member), ?_⟩
    rw [count_point ascii]
    exact Nat.zero_le _
  unfold Literal.unsignedFloat? at read
  dsimp only at read
  split at read
  · rename_i isNaN
    exact named _ (by decide) rfl isNaN
  · split at read
    · rename_i isInfinity
      rcases isInfinity with short | long
      · exact named _ (by decide) rfl short
      · exact named _ (by decide) rfl long
    · obtain ⟨parts, read, _⟩ := Option.map_eq_some_iff.mp read
      exact decimal?_chars read

theorem readsWords_float : ReadsWords Literal.float? := by
  intro text value read
  unfold Literal.float? at read
  split at read
  · rename_i magnitude
    obtain ⟨more, chars, points⟩ := unsignedFloat?_chars read
    refine ⟨isWord_signed more chars, ?_⟩
    rw [List.count_cons_of_ne (by decide)]
    exact points
  · obtain ⟨more, chars, points⟩ := unsignedFloat?_chars read
    exact ⟨isWord_of_all more chars, points⟩

theorem splitAtPoints?_cons {first : Char} {rest : List Char}
    (apart : first = '.' → rest.head? ≠ some '.') :
    splitAtPoints? (first :: rest) =
      (splitAtPoints? rest).map fun (before, after) => (first :: before, after) := by
  rw [splitAtPoints?]
  rintro more rfl rfl
  exact apart rfl rfl

theorem splitAtPoints?_none {text : List Char} (points : text.count '.' ≤ 1) :
    splitAtPoints? text = none := by
  induction text with
  | nil => rfl
  | cons first rest ih =>
    have fewer : rest.count '.' ≤ 1 :=
      Nat.le_trans (List.count_le_count_cons) points
    rw [splitAtPoints?_cons, ih fewer, Option.map_none]
    rintro rfl next
    cases rest with
    | nil => cases next
    | cons second more =>
      cases next
      rw [List.count_cons_self, List.count_cons_self] at points
      omega

theorem splitAtPoints?_between {lower : List Char} (points : lower.count '.' ≤ 1)
    (last : lower.getLast? ≠ some '.') (upper : List Char) :
    splitAtPoints? (lower ++ '.' :: '.' :: upper) = some (lower, upper) := by
  induction lower with
  | nil => rfl
  | cons first rest ih =>
    have fewer : rest.count '.' ≤ 1 :=
      Nat.le_trans (List.count_le_count_cons) points
    have ends : rest.getLast? ≠ some '.' := by
      intro point
      rw [List.getLast?_cons, point] at last
      exact last rfl
    rw [List.cons_append, splitAtPoints?_cons, ih fewer ends, Option.map_some]
    rintro rfl next
    cases rest with
    | nil => exact last rfl
    | cons second more =>
      cases next
      rw [List.count_cons_self, List.count_cons_self] at points
      omega

end Ebml.Edtd
