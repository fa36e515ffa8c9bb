import Ebml.Proofs.Edtd.Declared

namespace Ebml.Edtd

-- Every part of a declaration is read as what it means, from lexemes that are spelled as
-- lexemes are.
theorem readLiteral_numeral {α : Type} {read? : List Char → Option α} (type : ElementType)
    (number : Numeral read?) :
    readLiteral type read? (String.ofList number.text) = .ok number.value := by
  simp only [readLiteral, String.toList_ofList, number.reads]

theorem readsWords_spellable {α : Type} {read? : List Char → Option α} (reads : ReadsWords read?)
    (number : Numeral read?) : (Lexeme.word (String.ofList number.text)).Spellable := by
  have word := (reads number.text number.value number.reads).1
  simpa only [Lexeme.Spellable, String.toList_ofList] using word

namespace IdLiteral

theorem elementId_eq (id : IdLiteral) :
    elementId (String.ofList id.digits) = .ok id.vint.value := by
  have digits : (String.ofList id.digits).toList.map Char.toLower = Bytes.toHex id.vint.encode := by
    rw [String.toList_ofList]
    exact Bytes.ofHex?_eq_some_iff.mp id.spells
  exact elementId_eq_ok_iff.mpr ⟨id.vint, ⟨id.valid, id.nonzero, digits⟩, rfl⟩

theorem spellable (id : IdLiteral) : (Lexeme.word (String.ofList id.digits)).Spellable := by
  have more : id.digits ≠ [] := by
    intro none
    have spells := id.spells
    rw [none] at spells
    have length := congrArg List.length (Option.some.inj spells)
    have positive := id.valid.positive
    rw [Vint.encode_length, List.length_nil] at length
    omega
  simpa only [Lexeme.Spellable, String.toList_ofList] using
    isWord_of_isAlphanum more (ofHex?_ascii id.spells)

end IdLiteral

namespace Piece

theorem unescape_pieces (pieces : List Piece) :
    Quoted.unescape (pieces.flatMap text) = some (pieces.flatMap bytes) := by
  induction pieces with
  | nil => rfl
  | cons piece others ih =>
    rw [List.flatMap_cons, List.flatMap_cons]
    cases piece with
    | plain c noQuote noEscape =>
      simp [text, bytes, Quoted.unescape, noEscape, ih]
    | escape letter meant means =>
      have noByte : letter ≠ 'x' := by
        rintro rfl
        cases means
      simp [text, bytes, Quoted.unescape, noByte, means, ih]
    | byte high low value means =>
      simp [text, bytes, Quoted.unescape, means, ih]

theorem isBody_pieces (pieces : List Piece) : IsBody (pieces.flatMap text) := by
  unfold IsBody
  induction pieces with
  | nil => rfl
  | cons piece others ih =>
    rw [List.flatMap_cons, List.append_assoc]
    cases piece with
    | plain c noQuote noEscape => simp [text, readQuoted?, noEscape, ih]
    | escape letter meant means => simp [text, readQuoted?, ih]
    | byte high low value means =>
      obtain ⟨highAscii, lowAscii⟩ := hexPair?_ascii means
      have plain : ∀ c : Char, c.isAlphanum = true → c ≠ '"' ∧ c ≠ '\\' := by
        intro c ascii
        refine ⟨?_, ?_⟩ <;> rintro rfl <;> cases ascii
      obtain ⟨highQuote, highEscape⟩ := plain high highAscii
      obtain ⟨lowQuote, lowEscape⟩ := plain low lowAscii
      simp [text, readQuoted?, highEscape, lowEscape, ih]

end Piece

namespace DefaultLiteral

variable {type : ElementType}

theorem textDefault_eq (type : ElementType) (lexeme : Lexeme) (textual : type = .string ∨ type = .binary) :
    defaultBytes type lexeme = textDefault type lexeme := by
  rcases textual with rfl | rfl <;> rfl

theorem defaultBytes_eq (literal : DefaultLiteral type) :
    defaultBytes type literal.lexeme = .ok literal.bytes := by
  cases literal with
  | int number => simp only [lexeme, defaultBytes, Lexeme.text, readLiteral_numeral]; rfl
  | uint number => simp only [lexeme, defaultBytes, Lexeme.text, readLiteral_numeral]; rfl
  | float number => simp only [lexeme, defaultBytes, Lexeme.text, readLiteral_numeral]; rfl
  | quoted textual pieces =>
    rw [textDefault_eq _ _ textual]
    simp only [lexeme, textDefault, String.toList_ofList, Piece.unescape_pieces, bytes]
  | hex textual digits value spells =>
    rw [textDefault_eq _ _ textual]
    simp only [lexeme, textDefault, String.toList_ofList, spells, bytes]

theorem spellable (literal : DefaultLiteral type) : literal.lexeme.Spellable := by
  cases literal with
  | int number => exact readsWords_spellable readsWords_int64 number
  | uint number => exact readsWords_spellable readsWords_uint64 number
  | float number => exact readsWords_spellable readsWords_float number
  | quoted textual pieces =>
    simpa only [lexeme, Lexeme.Spellable, String.toList_ofList] using Piece.isBody_pieces pieces
  | hex textual digits value spells =>
    have ascii : ∀ c ∈ '0' :: 'x' :: digits, c.isAlphanum = true := by
      rw [List.forall_mem_cons, List.forall_mem_cons]
      exact ⟨rfl, rfl, ofHex?_ascii spells⟩
    simpa only [lexeme, Lexeme.Spellable, String.toList_ofList] using
      isWord_of_isAlphanum (List.cons_ne_nil _ _) ascii

end DefaultLiteral

namespace Term

variable {α : Type} {read? : List Char → Option α}

def written : Term read? → RangeTerm
  | related relation number => .related relation (String.ofList number.text)
  | exactly number => .span (String.ofList number.text)
  | span lower? upper? _ _ =>
    .span (String.ofList (lower?.elim [] (·.text) ++ '.' :: '.' :: upper?.elim [] (·.text)))

theorem endpoint_eq (reads : ReadsWords read?) (type : ElementType) (number? : Option (Numeral read?)) :
    endpoint (readLiteral type read?) (number?.elim [] (·.text)) =
      .ok (number?.elim .unbounded (.included ·.value)) := by
  cases number? with
  | none => rfl
  | some number =>
    have more : number.text.isEmpty = false := by
      obtain ⟨first, tail, shape, _⟩ := isWord_split (reads _ _ number.reads).1
      rw [shape]
      rfl
    simp only [Option.elim_some, endpoint, more, readLiteral_numeral]
    rfl

theorem interval_eq (reads : ReadsWords read?) (type : ElementType) (term : Term read?) :
    term.written.interval (readLiteral type read?) = .ok term.interval := by
  cases term with
  | related relation number =>
    cases relation <;>
      simp only [written, RangeTerm.interval, readLiteral_numeral, interval] <;> rfl
  | exactly number =>
    have none := splitAtPoints?_none (reads _ _ number.reads).2
    simp only [written, RangeTerm.interval, spanned, String.toList_ofList, none,
      readLiteral_numeral, interval]
    rfl
  | span lower? upper? noPoint noSign =>
    have points : (lower?.elim [] (·.text)).count '.' ≤ 1 := by
      cases lower? with
      | none => exact Nat.zero_le _
      | some lower => exact (reads _ _ lower.reads).2
    have last : (lower?.elim [] (·.text)).getLast? ≠ some '.' := by
      cases lower? with
      | none => simp
      | some lower => exact noPoint lower rfl
    have split := splitAtPoints?_between points last (upper?.elim [] (·.text))
    simp only [written, RangeTerm.interval, spanned, String.toList_ofList, split,
      endpoint_eq reads, interval]
    rfl

theorem intervals_eq (reads : ReadsWords read?) (type : ElementType) (terms : List (Term read?)) :
    (terms.map written).mapM (·.interval (readLiteral type read?)) =
      .ok (terms.map (·.interval)) := by
  induction terms with
  | nil => rfl
  | cons first others ih =>
    rw [List.map_cons, List.mapM_cons, ih, interval_eq reads]
    rfl

theorem lexemes_written (term : Term read?) : term.written.lexemes = term.lexemes := by
  cases term <;> rfl

theorem separated_written (first : Term read?) (others : List (Term read?)) :
    first.separated others = first.written.listed (others.map (·.written)) := by
  simp only [separated, RangeTerm.listed, List.flatMap_map, lexemes_written]

theorem spellable (reads : ReadsWords read?) (term : Term read?) :
    ∀ lexeme ∈ term.lexemes, lexeme.Spellable := by
  cases term with
  | related relation number =>
    simp only [lexemes, List.forall_mem_cons]
    exact ⟨trivial, readsWords_spellable reads number, by simp⟩
  | exactly number =>
    simp only [lexemes, List.forall_mem_cons]
    exact ⟨readsWords_spellable reads number, by simp⟩
  | span lower? upper? noPoint noSign =>
    have after : ∀ c ∈ '.' :: '.' :: upper?.elim [] (·.text), isWordChar c = true := by
      have upper : ∀ c ∈ upper?.elim [] (·.text), isWordChar c = true := by
        cases upper? with
        | none => simp
        | some upper => exact isWord_unsigned (reads _ _ upper.reads).1 (noSign upper rfl)
      have point : isWordChar '.' = true := by decide
      simpa [point] using upper
    simp only [lexemes, List.forall_mem_cons, Lexeme.Spellable, String.toList_ofList]
    refine ⟨?_, by simp⟩
    cases lower? with
    | none => exact isWord_of_all (List.cons_ne_nil _ _) after
    | some lower => exact isWord_append (reads _ _ lower.reads).1 after

theorem separated_spellable (reads : ReadsWords read?) (first : Term read?)
    (others : List (Term read?)) :
    ∀ lexeme ∈ first.separated others, lexeme.Spellable := by
  intro lexeme member
  rcases List.mem_append.mp member with inFirst | inOthers
  · exact first.spellable reads lexeme inFirst
  · obtain ⟨term, _, member⟩ := List.mem_flatMap.mp inOthers
    rcases List.mem_cons.mp member with rfl | member
    · trivial
    · exact term.spellable reads lexeme member

end Term

namespace RangeLiteral

variable {type : ElementType}

def written : RangeLiteral type → List RangeTerm
  | int _ first others => (first :: others).map (·.written)
  | uint _ first others => (first :: others).map (·.written)
  | float first others => (first :: others).map (·.written)

theorem rangeOf_eq (literal : RangeLiteral type) :
    rangeOf type literal.written = .ok literal.range := by
  cases literal with
  | int signed first others =>
    have intervals := Term.intervals_eq readsWords_int64 type (first :: others)
    rcases signed with rfl | rfl <;> simp only [rangeOf, written, intervals] <;> rfl
  | uint unsigned first others =>
    have intervals := Term.intervals_eq readsWords_uint64 type (first :: others)
    rcases unsigned with rfl | rfl | rfl <;> simp only [rangeOf, written, intervals] <;> rfl
  | float first others =>
    have intervals := Term.intervals_eq readsWords_float .float (first :: others)
    simp only [rangeOf, written, intervals]
    rfl

theorem spellable (literal : RangeLiteral type) :
    ∀ lexeme ∈ literal.lexemes, lexeme.Spellable := by
  cases literal with
  | int signed first others => exact Term.separated_spellable readsWords_int64 first others
  | uint unsigned first others => exact Term.separated_spellable readsWords_uint64 first others
  | float first others => exact Term.separated_spellable readsWords_float first others

end RangeLiteral

theorem cardinalityMark_spellable (written : Cardinality) : (cardinalityMark written).Spellable := by
  cases written
  case exactlyOne => exact (by decide : isWord "1".toList = true)
  all_goals trivial

theorem cardinality_mark (written : Cardinality) :
    cardinality (cardinalityMark written) = .ok written := by
  cases written <;> rfl

namespace Parameters

variable {type : ElementType}

theorem parameter_spellable {name : String} {value : List Lexeme}
    (word : isWord name.toList = true) (spellable : ∀ lexeme ∈ value, lexeme.Spellable) :
    ∀ lexeme ∈ parameter name value, lexeme.Spellable := by
  simp only [parameter, List.forall_mem_cons, List.forall_mem_append]
  exact ⟨word, trivial, spellable, trivial, by simp⟩

theorem spellable (parameters : Parameters type) :
    ∀ lexeme ∈ parameters.lexemes, lexeme.Spellable := by
  simp only [lexemes, List.forall_mem_append]
  refine ⟨?cardinality, ?default, ?size, ?range⟩
  case cardinality =>
    cases parameters.cardinality? with
    | none => simp
    | some written =>
      exact parameter_spellable (by decide) (by simpa using cardinalityMark_spellable written)
  case default =>
    cases parameters.default? with
    | none => simp
    | some literal => exact parameter_spellable (by decide) (by simpa using literal.spellable)
  case size =>
    cases parameters.size? with
    | none => simp
    | some size =>
      have word := readsWords_spellable readsWords_uint64 size
      exact parameter_spellable (by decide) (by simpa using word)
  case range =>
    cases parameters.range? with
    | none => simp
    | some literal => exact parameter_spellable (by decide) literal.spellable

theorem bracketed_spellable (parameters : Parameters type) :
    ∀ lexeme ∈ parameters.bracketed, lexeme.Spellable := by
  unfold bracketed
  split
  · simp
  · simp only [List.forall_mem_cons, List.forall_mem_append]
    exact ⟨trivial, parameters.spellable, trivial, by simp⟩

end Parameters

namespace Declarations

theorem head_spellable (name : Name) (id : IdLiteral) (type : ElementType) :
    ∀ lexeme ∈ head name id type, lexeme.Spellable := by
  have named : isWord type.name.toList = true := by cases type <;> decide
  simp only [head, List.forall_mem_cons]
  exact ⟨name.spelled, trivial, id.spellable, named, by simp⟩

theorem leafEnd_spellable {type : ElementType} (parameters : Parameters type) :
    ∀ lexeme ∈ leafEnd parameters, lexeme.Spellable := by
  unfold leafEnd
  split
  · simp only [List.forall_mem_cons]
    exact ⟨trivial, by simp⟩
  · exact parameters.bracketed_spellable

theorem spellable (declared : Declarations) :
    ∀ lexeme ∈ declared.lexemes, lexeme.Spellable := by
  induction declared with
  | none => simp [lexemes]
  | leaf name id plain parameters rest atRest =>
    simp only [lexemes, List.forall_mem_append]
    exact ⟨head_spellable _ _ _, leafEnd_spellable parameters, atRest⟩
  | container name id parameters children rest atChildren atRest =>
    simp only [lexemes, List.forall_mem_append, List.forall_mem_cons]
    exact ⟨head_spellable _ _ _, parameters.bracketed_spellable, trivial, atChildren, trivial, atRest⟩

end Declarations

end Ebml.Edtd
