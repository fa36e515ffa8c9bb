import Ebml.Proofs.Edtd.Single
import Ebml.Proofs.Range

namespace Ebml.Edtd

-- The range of an element admits what its text says: a text of bounds is read as comparisons
-- with numbers, and the comparisons that are compiled from it hold of the same values.
namespace Term

variable {α : Type} {read? : List Char → Option α}

def text : Term read? → String
  | related relation number => relation.symbol.text ++ String.ofList number.text
  | exactly number => String.ofList number.text
  | span lower? upper? _ _ =>
    String.ofList (lower?.elim [] (·.text) ++ '.' :: '.' :: upper?.elim [] (·.text))

def Satisfied (number : α → Int) (value : Int) : Term read? → Prop
  | related .less literal => value < number literal.value
  | related .atMost literal => value ≤ number literal.value
  | related .greater literal => number literal.value < value
  | related .atLeast literal => number literal.value ≤ value
  | exactly literal => value = number literal.value
  | span lower? upper? _ _ =>
    (∀ lower ∈ lower?, number lower.value ≤ value) ∧ ∀ upper ∈ upper?, value ≤ number upper.value

theorem text_lexemes (term : Term read?) :
    term.text.toList = term.lexemes.flatMap (·.text.toList) := by
  cases term <;> simp [text, lexemes, Lexeme.text_word, Lexeme.text_symbol]

theorem apart (term : Term read?) : term.lexemes.IsChain Lexeme.Apart := by
  cases term <;> simp [lexemes]

theorem apart_others {earlier : List Lexeme} (apart : earlier.IsChain Lexeme.Apart)
    (others : List (Term read?)) :
    (earlier ++ others.flatMap fun term => .symbol .comma :: term.lexemes).IsChain
      Lexeme.Apart := by
  induction others generalizing earlier with
  | nil => rwa [List.flatMap_nil, List.append_nil]
  | cons term others ih =>
    rw [List.flatMap_cons, ← List.append_assoc]
    refine ih (List.isChain_append.mpr ⟨apart, ?_, ?_⟩)
    · exact List.isChain_cons.mpr ⟨fun next _ => Lexeme.symbol_apart _ next, term.apart⟩
    · rintro one _ next ⟨⟩
      exact one.apart_symbol _

theorem separated_apart (first : Term read?) (others : List (Term read?)) :
    (first.separated others).IsChain Lexeme.Apart :=
  apart_others first.apart others

theorem intercalate_cons {β : Type} (separator first : List β) (others : List (List β)) :
    separator.intercalate (first :: others) = first ++ others.flatMap (separator ++ ·) := by
  induction others generalizing first with
  | nil => simp [List.intercalate]
  | cons next others ih => simp [List.intercalate_cons_cons, ih]

theorem separated_text (first : Term read?) (others : List (Term read?)) :
    (String.intercalate "," ((first :: others).map text)).toList =
      (first.separated others).flatMap (·.text.toList) := by
  rw [String.toList_intercalate, List.map_map, List.map_cons, intercalate_cons, separated]
  simp [Function.comp_def, text_lexemes, List.flatMap_map, List.flatMap_assoc, Lexeme.text_symbol,
    Symbol.text]

theorem interval_covers (number : α → Int) (term : Term read?) (value : Int) :
    term.interval.Covers number value ↔ term.Satisfied number value := by
  cases term with
  | related relation literal =>
    cases relation <;> simp [interval, Interval.Covers, Bound.Below, Bound.Above, Satisfied]
  | exactly literal =>
    simp only [interval, Interval.Covers, Bound.Below, Bound.Above, Satisfied]
    omega
  | span lower? upper? noPoint noSign =>
    cases lower? <;> cases upper? <;>
      simp [interval, Interval.Covers, Bound.Below, Bound.Above, Satisfied]

theorem any_contains_iff [LE α] [LT α] [DecidableLE α] [DecidableLT α] (number : α → Int)
    (atMost : ∀ a b, a ≤ b ↔ number a ≤ number b) (less : ∀ a b, a < b ↔ number a < number b)
    (terms : List (Term read?)) (value : α) :
    (terms.map (·.interval)).any (·.contains value) = true ↔
      ∃ term ∈ terms, term.Satisfied number (number value) := by
  rw [Interval.any_contains_iff number atMost less]
  simp only [Interval.SomeCovers, List.mem_map, exists_exists_and_eq_and, interval_covers]

end Term

namespace RangeLiteral

variable {type : ElementType}

def text : RangeLiteral type → String
  | int _ first others => String.intercalate "," ((first :: others).map Term.text)
  | uint _ first others => String.intercalate "," ((first :: others).map Term.text)
  | float first others => String.intercalate "," ((first :: others).map Term.text)

-- A value satisfies one of the bounds at least. Numbers with fractions are left out.
def Satisfied (value : Int) : RangeLiteral type → Prop
  | int _ first others => ∃ term ∈ first :: others, term.Satisfied id value
  | uint _ first others => ∃ term ∈ first :: others, term.Satisfied Int.ofNat value
  | float _ _ => False

-- What a range decides on the values of a type, if it decides as the bounds do. Dates are
-- counts of nanoseconds, and of texts and byte strings every part has to be admitted.
structure Decides (literal : RangeLiteral type) (range : Range) : Prop where
  int : type = .int ∨ type = .date → ∀ value : Int,
    range.admitsInt value = true ↔ literal.Satisfied value
  uint : type = .uint → ∀ value : Nat, range.admitsUInt value = true ↔ literal.Satisfied value
  string : type = .string → ∀ text : String,
    range.admitsText text = true ↔ ∀ c ∈ text.toList, literal.Satisfied c.toNat
  binary : type = .binary → ∀ bytes : Bytes,
    range.admitsBytes bytes = true ↔ ∀ byte ∈ bytes, literal.Satisfied byte.toNat

theorem plain (literal : RangeLiteral type) : type ≠ .container := by
  rintro rfl
  cases literal with
  | int signed first others => simp at signed
  | uint unsigned first others => simp at unsigned

def setting : RangeLiteral type → Setting
  | int _ first others => .range first.written (others.map (·.written))
  | uint _ first others => .range first.written (others.map (·.written))
  | float first others => .range first.written (others.map (·.written))

theorem setting_name (literal : RangeLiteral type) : literal.setting.name = "range" := by
  cases literal <;> rfl

theorem setting_value (literal : RangeLiteral type) : literal.setting.value = literal.lexemes := by
  cases literal with
  | int signed first others => exact (first.separated_written others).symm
  | uint unsigned first others => exact (first.separated_written others).symm
  | float first others => exact (first.separated_written others).symm

theorem apply_setting (literal : RangeLiteral type) (id : ElementId) (name : String) :
    literal.setting.apply (.new id type name) =
      .ok { Definition.new id type name with range? := some literal.range } := by
  have ranged := literal.rangeOf_eq
  have typed : (Definition.new id type name).type = type := rfl
  cases literal <;>
    simp only [written, List.map_cons] at ranged <;>
    simp only [setting, Setting.apply, typed, ranged] <;> rfl

theorem text_lexemes (literal : RangeLiteral type) :
    literal.text.toList = literal.lexemes.flatMap (·.text.toList) := by
  cases literal with
  | int signed first others => exact first.separated_text others
  | uint unsigned first others => exact first.separated_text others
  | float first others => exact first.separated_text others

theorem apart (literal : RangeLiteral type) : literal.lexemes.IsChain Lexeme.Apart := by
  cases literal with
  | int signed first others => exact first.separated_apart others
  | uint unsigned first others => exact first.separated_apart others
  | float first others => exact first.separated_apart others

theorem admitsInt_iff (terms : List (Term Literal.int64?)) (value : Int) :
    (Range.int (terms.map (·.interval))).admitsInt value = true ↔
      ∃ term ∈ terms, term.Satisfied id value :=
  Term.any_contains_iff id (fun _ _ => Iff.rfl) (fun _ _ => Iff.rfl) terms value

theorem admitsUInt_iff (terms : List (Term Literal.uint64?)) (value : Nat) :
    (Range.uint (terms.map (·.interval))).admitsUInt value = true ↔
      ∃ term ∈ terms, term.Satisfied Int.ofNat value :=
  Term.any_contains_iff Int.ofNat (fun _ _ => Int.ofNat_le.symm) (fun _ _ => Int.ofNat_lt.symm)
    terms value

theorem range_decides (literal : RangeLiteral type) : literal.Decides literal.range := by
  cases literal with
  | int signed first others =>
    refine ⟨fun _ => admitsInt_iff (first :: others), ?_, ?_, ?_⟩
    all_goals
      rintro rfl
      simp at signed
  | uint unsigned first others =>
    refine ⟨?_, fun _ => admitsUInt_iff (first :: others), ?_, ?_⟩
    · rintro (rfl | rfl) <;> simp at unsigned
    · intro _ text
      simp only [range, Range.admitsText, List.all_eq_true, admitsUInt_iff (first :: others),
        Satisfied]
    · intro _ bytes
      simp only [range, Range.admitsBytes, List.all_eq_true, admitsUInt_iff (first :: others),
        Satisfied]
  | float first others =>
    refine ⟨?_, ?_, ?_, ?_⟩
    · rintro (same | same) <;> cases same
    all_goals
      intro same
      cases same

def declared (literal : RangeLiteral type) (name : Name) (id : IdLiteral) : Single :=
  ⟨name, id, type, literal.plain⟩

def print (literal : RangeLiteral type) (name : Name) (id : IdLiteral) : String :=
  (literal.declared name id).print "range" literal.text

end RangeLiteral

end Ebml.Edtd

namespace Ebml.Schema

variable {source : String} {schema : Schema} {type : ElementType}

-- After any source that compiles, an element can be declared with any bounds of its range, and
-- its definition admits of each value of its type, or of each part of it, what one of the bounds
-- is satisfied by.
theorem range_text_means_bounds (compiled : ofText source = .ok schema) (name : Edtd.Name)
    (id : Edtd.IdLiteral) (literal : Edtd.RangeLiteral type) :
    ∃ extended definition range,
      ofText (source ++ "\n" ++ literal.print name id) = .ok extended ∧
      extended.definition? id.vint.value = some definition ∧
      definition.name = name.text ∧ definition.type = type ∧ definition.range? = some range ∧
      literal.Decides range := by
  have applied := literal.apply_setting id.vint.value name.text
  have word : Edtd.isWord literal.setting.name.toList = true := by
    rw [literal.setting_name]
    decide
  have spellable : ∀ lexeme ∈ literal.setting.value, lexeme.Spellable := by
    rw [literal.setting_value]
    exact literal.spellable
  have apart : literal.setting.value.IsChain Edtd.Lexeme.Apart := by
    rw [literal.setting_value]
    exact literal.apart
  have spelled : literal.text.toList = literal.setting.value.flatMap (·.text.toList) := by
    rw [literal.setting_value]
    exact literal.text_lexemes
  have declared :=
    (literal.declared name id).extend_print word spelled spellable apart applied schema
  rw [literal.setting_name] at declared
  refine ⟨_, _, literal.range, ?_, (literal.declared name id).definition?_declared applied schema,
    rfl, rfl, rfl, literal.range_decides⟩
  rw [ofText_eq, extend_line compiled]
  exact declared

def scattered : Edtd.RangeLiteral .int :=
  .int (.inl rfl) (.related .less ⟨['-', '5'], -5, by decide⟩)
    [.span (some ⟨['1'], 1, by decide⟩) (some ⟨['3'], 3, by decide⟩) (by decide) (by decide),
      .related .atLeast ⟨['1', '0'], 10, by decide⟩]

theorem scattered_bounds_decide :
    ∃ extended definition range,
      ofText "\ndefine elements \x7b N := 81 int [ range:<-5,1..3,>=10; ] \x7d" = .ok extended ∧
      extended.definition? 1 = some definition ∧ definition.range? = some range ∧
      range.admitsInt (-6) = true ∧ range.admitsInt (-5) = false ∧ range.admitsInt 3 = true ∧
      range.admitsInt 4 = false := by
  have printed : "" ++ "\n" ++ scattered.print ⟨"N", by decide⟩ .first =
      "\ndefine elements \x7b N := 81 int [ range:<-5,1..3,>=10; ] \x7d" := by decide +kernel
  obtain ⟨extended, definition, range, declared, defined, _, _, ranged, decides⟩ :=
    range_text_means_bounds ofText_empty ⟨"N", by decide⟩ .first scattered
  have admits := decides.int (.inl rfl)
  rw [printed] at declared
  refine ⟨extended, definition, range, declared, defined, ranged, ?_⟩
  simp only [← Bool.not_eq_true, admits]
  simp [scattered, Edtd.RangeLiteral.Satisfied, Edtd.Term.Satisfied]

end Ebml.Schema
