import Ebml.Edtd.Lexeme
import Mathlib.Data.List.Chain

namespace Ebml.Edtd

-- How lexemes are spelled, and that what is spelled with blanks between is read again.
def isWord : List Char → Bool
  | '-' :: body => !body.isEmpty && body.all isWordChar
  | body => !body.isEmpty && body.all isWordChar

def IsBody (body : List Char) : Prop := readQuoted? (body ++ ['"']) = some (body, [])

def Lexeme.Spellable : Lexeme → Prop
  | .word text => isWord text.toList = true
  | .symbol _ => True
  | .quoted body => IsBody body.toList

-- What follows a lexeme adds nothing to it: a word goes on with the characters of words, and a
-- symbol with the sign that makes a longer one of it.
def Lexeme.Ends : Lexeme → List Char → Prop
  | .word _, rest => ∀ c ∈ rest.head?, isWordChar c = false
  | .symbol _, rest => rest.head? ≠ some '='
  | .quoted _, _ => True

def Lexeme.Bounded : Lexeme → List Char → Prop
  | .word _, rest => ∀ c ∈ rest.head?, isWordChar c = false
  | .symbol mark, rest => mark.text ∈ [":", "<", ">"] → rest.head? ≠ some '='
  | .quoted _, _ => True

def Separated (rest : List Char) : Prop := ∀ c ∈ rest.head?, isWordChar c = false ∧ c ≠ '='

def Lexeme.Apart (one next : Lexeme) : Prop :=
  ∀ text, one = .word text → ∀ text', next ≠ .word text'

def layOut (items : List (Lexeme × List Char)) : List Char :=
  items.flatMap fun item => item.1.text.toList ++ item.2

def spell (lexemes : List Lexeme) : List Char :=
  lexemes.flatMap fun lexeme => lexeme.text.toList ++ [' ']

theorem Lexeme.text_word (text : String) : (Lexeme.word text).text = text := rfl

theorem Lexeme.text_symbol (mark : Symbol) : (Lexeme.symbol mark).text = mark.text := rfl

theorem Lexeme.text_quoted (body : String) :
    (Lexeme.quoted body).text.toList = '"' :: (body.toList ++ ['"']) := by
  change ("\"" ++ body ++ "\"").toList = _
  simp

theorem Lexeme.Ends.bounded {found : Lexeme} {rest : List Char} (ends : found.Ends rest) :
    found.Bounded rest := by
  cases found with
  | word text => exact ends
  | symbol mark => exact fun _ => ends
  | quoted body => trivial

@[simp]
theorem Lexeme.apart_symbol (one : Lexeme) (mark : Symbol) : one.Apart (.symbol mark) := by
  rintro text same text' ⟨⟩

@[simp]
theorem Lexeme.symbol_apart (mark : Symbol) (next : Lexeme) : (Lexeme.symbol mark).Apart next := by
  rintro text ⟨⟩

theorem isWordChar_ne {c : Char} (wordChar : isWordChar c = true) (other : Char)
    (noWordChar : isWordChar other = false) : c ≠ other := by
  rintro rfl
  rw [wordChar] at noWordChar
  cases noWordChar

theorem isWord_of_all {word : List Char} (more : word ≠ [])
    (all : ∀ c ∈ word, isWordChar c = true) : isWord word = true := by
  have solid : (!word.isEmpty && word.all isWordChar) = true := by
    simpa [more] using all
  unfold isWord
  split
  · exact absurd (all '-' List.mem_cons_self) (by decide)
  · exact solid

theorem isWord_split {word : List Char} (spelled : isWord word = true) :
    ∃ first tail, word = first :: tail ∧ (first = '-' ∧ tail ≠ [] ∨ isWordChar first = true) ∧
      ∀ c ∈ tail, isWordChar c = true := by
  unfold isWord at spelled
  split at spelled
  · rename_i body
    obtain ⟨more, all⟩ := Bool.and_eq_true_iff.mp spelled
    refine ⟨'-', body, rfl, .inl ⟨rfl, by simpa using more⟩, by simpa using all⟩
  · obtain ⟨more, all⟩ := Bool.and_eq_true_iff.mp spelled
    cases word with
    | nil => cases more
    | cons first tail =>
      rw [List.all_cons, Bool.and_eq_true_iff] at all
      exact ⟨first, tail, rfl, .inr all.1, by simpa using all.2⟩

theorem isWord_signed {body : List Char} (more : body ≠ [])
    (all : ∀ c ∈ body, isWordChar c = true) : isWord ('-' :: body) = true := by
  simpa [isWord, more] using all

theorem isWord_append {word more : List Char} (spelled : isWord word = true)
    (all : ∀ c ∈ more, isWordChar c = true) : isWord (word ++ more) = true := by
  obtain ⟨first, tail, rfl, start, inside⟩ := isWord_split spelled
  have others : ∀ c ∈ tail ++ more, isWordChar c = true := by
    intro c member
    rcases List.mem_append.mp member with old | new
    · exact inside c old
    · exact all c new
  rcases start with ⟨rfl, body⟩ | wordChar
  · exact isWord_signed (by simp [body]) others
  · refine isWord_of_all (by simp) ?_
    intro c member
    rcases List.mem_cons.mp member with rfl | member
    · exact wordChar
    · exact others c member

theorem isWord_unsigned {word : List Char} (spelled : isWord word = true)
    (unsigned : word.head? ≠ some '-') : ∀ c ∈ word, isWordChar c = true := by
  obtain ⟨first, tail, rfl, ⟨rfl, _⟩ | wordChar, inside⟩ := isWord_split spelled
  · exact absurd rfl unsigned
  · intro c member
    rcases List.mem_cons.mp member with rfl | member
    · exact wordChar
    · exact inside c member

theorem takeWhile_ended {body rest : List Char} (all : ∀ c ∈ body, isWordChar c = true)
    (ends : ∀ c ∈ rest.head?, isWordChar c = false) :
    (body ++ rest).takeWhile isWordChar = body := by
  rw [List.takeWhile_append_of_pos all]
  cases rest with
  | nil => simp
  | cons c rest =>
    rw [List.takeWhile_cons_of_neg (by simp [ends c rfl]), List.append_nil]

theorem dropWhile_ended {body rest : List Char} (all : ∀ c ∈ body, isWordChar c = true)
    (ends : ∀ c ∈ rest.head?, isWordChar c = false) :
    (body ++ rest).dropWhile isWordChar = rest := by
  rw [List.dropWhile_append_of_pos all]
  cases rest with
  | nil => rfl
  | cons c rest => exact List.dropWhile_cons_of_neg (by simp [ends c rfl])

theorem readWord?_unsigned {first : Char} (unsigned : first ≠ '-') (rest : List Char) :
    readWord? (first :: rest) =
      if ((first :: rest).takeWhile isWordChar).isEmpty then none
      else some ((first :: rest).takeWhile isWordChar, (first :: rest).dropWhile isWordChar) := by
  unfold readWord?
  split
  rename_i sign body signed
  split at signed
  · rename_i same
    cases same
    exact absurd rfl unsigned
  · cases signed
    rfl

theorem readWord?_spelled {word rest : List Char} (spelled : isWord word = true)
    (ends : ∀ c ∈ rest.head?, isWordChar c = false) :
    readWord? (word ++ rest) = some (word, rest) := by
  unfold isWord at spelled
  split at spelled
  · rename_i body
    obtain ⟨more, all⟩ := Bool.and_eq_true_iff.mp spelled
    have all : ∀ c ∈ body, isWordChar c = true := by simpa using all
    simp only [readWord?, List.cons_append, takeWhile_ended all ends,
      dropWhile_ended all ends, List.nil_append]
    rw [if_neg (by simpa using more)]
  · rename_i unsigned
    obtain ⟨more, all⟩ := Bool.and_eq_true_iff.mp spelled
    have all : ∀ c ∈ word, isWordChar c = true := by simpa using all
    cases word with
    | nil => cases more
    | cons first others =>
      have plain : first ≠ '-' := by
        rintro rfl
        exact unsigned others rfl
      have read := readWord?_unsigned plain (others ++ rest)
      rw [← List.cons_append, takeWhile_ended all ends,
        dropWhile_ended all ends] at read
      rw [read, if_neg (by simp)]

theorem noBackslash {c : Char} {tail : List Char} (notLast : c = '\\' → tail = [] → False)
    (noEscape : ∀ escaped others, c = '\\' → tail = escaped :: others → False) : c ≠ '\\' := by
  rintro rfl
  cases tail with
  | nil => exact notLast rfl rfl
  | cons escaped others => exact noEscape escaped others rfl rfl

theorem readQuoted?_append {text body after : List Char}
    (closed : readQuoted? text = some (body, after)) (rest : List Char) :
    readQuoted? (text ++ rest) = some (body, after ++ rest) := by
  fun_induction readQuoted? text generalizing body after with
  | case1 => cases closed
  | case2 => cases closed; simp [readQuoted?]
  | case3 => cases closed
  | case4 escaped tail ih =>
    obtain ⟨⟨inner, left⟩, inside, same⟩ := Option.map_eq_some_iff.mp closed
    cases same
    simp [readQuoted?, ih inside]
  | case5 c tail noQuote notLast noEscape ih =>
    obtain ⟨⟨inner, left⟩, inside, same⟩ := Option.map_eq_some_iff.mp closed
    cases same
    simp [readQuoted?, ih inside, noBackslash notLast noEscape]

theorem readQuoted?_spelled {body : List Char} (closed : IsBody body) (rest : List Char) :
    readQuoted? (body ++ '"' :: rest) = some (body, rest) := by
  have read := readQuoted?_append closed rest
  rw [List.append_assoc] at read
  exact read

namespace Token

theorem read_word {text word after : List Char} (isWord : readWord? text = some (word, after))
    (noQuote : text.head? ≠ some '"') :
    read text = (lexeme (.word (String.ofList word)), after) := by
  cases text with
  | nil => cases isWord
  | cons first rest =>
    have plain : first ≠ '"' := fun same => noQuote (congrArg some same)
    unfold read
    split
    · rename_i same
      cases same
    · rename_i same
      cases same
      exact absurd rfl plain
    · rename_i same
      cases same
      rw [isWord]

theorem read_symbol {text after : List Char} {mark : Symbol} (noWord : readWord? text = none)
    (isSymbol : Symbol.read? text = some (mark, after)) (noQuote : text.head? ≠ some '"') :
    read text = (lexeme (.symbol mark), after) := by
  cases text with
  | nil => cases isSymbol
  | cons first rest =>
    have plain : first ≠ '"' := fun same => noQuote (congrArg some same)
    unfold read
    split
    · rename_i same
      cases same
    · rename_i same
      cases same
      exact absurd rfl plain
    · rename_i same
      cases same
      rw [noWord]
      dsimp only
      rw [isSymbol]

end Token

theorem Symbol.read?_bounded (mark : Symbol) {rest : List Char}
    (bounded : (Lexeme.symbol mark).Bounded rest) :
    Symbol.read? (mark.text.toList ++ rest) = some (mark, rest) := by
  simp only [Lexeme.Bounded, ne_eq, List.head?_eq_some_iff, not_exists] at bounded
  cases mark <;> simp_all [Symbol.text, Symbol.read?]

theorem readWord?_none {first : Char} {rest : List Char} (unsigned : first ≠ '-')
    (outside : isWordChar first = false) : readWord? (first :: rest) = none := by
  rw [readWord?_unsigned unsigned, List.takeWhile_cons_of_neg (by simp [outside])]
  rfl

theorem Symbol.text_starts (mark : Symbol) :
    ∃ first tail, mark.text.toList = first :: tail ∧ isWordChar first = false ∧
      isBlank first = false ∧ first ≠ '-' ∧ first ≠ '"' ∧ first ≠ '/' := by
  cases mark <;> exact ⟨_, _, rfl, by decide⟩

theorem skipTrivia_start {first : Char} (rest : List Char) (solid : isBlank first = false)
    (noSlash : first ≠ '/') : skipTrivia (first :: rest) = first :: rest := by
  unfold skipTrivia
  split
  · rename_i same
    cases same
  · rename_i same
    cases same
    exact absurd rfl noSlash
  · rename_i same
    cases same
    rw [if_neg (by rw [solid]; exact Bool.false_ne_true)]

theorem isBlank_of_isWordChar {c : Char} (wordChar : isWordChar c = true) : isBlank c = false := by
  have space := isWordChar_ne wordChar ' ' rfl
  have tab := isWordChar_ne wordChar '\t' rfl
  have carriage := isWordChar_ne wordChar '\r' rfl
  have line := isWordChar_ne wordChar '\n' rfl
  simp [isBlank, space, tab, carriage, line]

theorem isWord_starts {word : List Char} (spelled : isWord word = true) :
    ∃ first tail, word = first :: tail ∧ isBlank first = false ∧ first ≠ '"' ∧ first ≠ '/' := by
  obtain ⟨first, tail, rfl, ⟨rfl, _⟩ | wordChar, _⟩ := isWord_split spelled
  · exact ⟨'-', tail, rfl, by decide⟩
  · exact ⟨first, tail, rfl, isBlank_of_isWordChar wordChar, isWordChar_ne wordChar '"' rfl,
      isWordChar_ne wordChar '/' rfl⟩

theorem Lexeme.Spellable.starts {found : Lexeme} (spellable : found.Spellable) :
    ∃ first tail, found.text.toList = first :: tail ∧ isBlank first = false ∧ first ≠ '/' := by
  cases found with
  | word text =>
    obtain ⟨first, tail, shape, solid, _, noSlash⟩ := isWord_starts spellable
    exact ⟨first, tail, shape, solid, noSlash⟩
  | symbol mark =>
    obtain ⟨first, tail, shape, _, solid, _, _, noSlash⟩ := mark.text_starts
    exact ⟨first, tail, shape, solid, noSlash⟩
  | quoted body => exact ⟨'"', _, text_quoted body, rfl, by decide⟩

namespace Token

theorem read_bounded {found : Lexeme} {rest : List Char} (spellable : found.Spellable)
    (bounded : found.Bounded rest) :
    read (found.text.toList ++ rest) = (lexeme found, rest) := by
  cases found with
  | word text =>
    have reads := readWord?_spelled spellable bounded
    obtain ⟨first, tail, shape, _, noQuote, _⟩ := isWord_starts spellable
    rw [Lexeme.text_word, read_word reads, String.ofList_toList]
    simpa [shape] using noQuote
  | symbol mark =>
    obtain ⟨first, tail, shape, outside, _, unsigned, noQuote, _⟩ := mark.text_starts
    rw [Lexeme.text_symbol]
    apply read_symbol
    · rw [shape]
      exact readWord?_none unsigned outside
    · exact mark.read?_bounded bounded
    · simpa [shape] using noQuote
  | quoted body =>
    have closed := readQuoted?_spelled spellable rest
    rw [Lexeme.text_quoted, List.cons_append, List.append_assoc, List.singleton_append]
    simp only [read, closed, String.ofList_toList]

theorem next_spelled {found : Lexeme} {rest : List Char} (spellable : found.Spellable)
    (ends : found.Ends rest) :
    next (found.text.toList ++ rest) = (lexeme found, rest) := by
  obtain ⟨first, tail, shape, solid, noSlash⟩ := spellable.starts
  have reads := read_bounded spellable ends.bounded
  rw [shape, List.cons_append] at reads ⊢
  rw [next, skipTrivia_start _ solid noSlash, reads]

end Token

theorem lex_eq (text : List Char) :
    lex text = match Token.next text with
      | (.lexeme found, rest) => (found :: (lex rest).1, (lex rest).2)
      | (.stop reason, _) => ([], reason) := by
  rw [lex]
  split <;> rename_i reads <;> simp only [reads]

theorem skipTrivia_blank {blank : Char} (rest : List Char) (skipped : isBlank blank = true) :
    skipTrivia (blank :: rest) = skipTrivia rest := by
  rw [skipTrivia]
  · rw [if_pos skipped]
  · rintro more rfl
    cases skipped

theorem lex_blank {blank : Char} (rest : List Char) (skipped : isBlank blank = true) :
    lex (blank :: rest) = lex rest := by
  rw [lex_eq, lex_eq rest]
  simp only [Token.next, skipTrivia_blank rest skipped]

theorem lex_blanks {blanks : List Char} (skipped : ∀ c ∈ blanks, isBlank c = true)
    (rest : List Char) : lex (blanks ++ rest) = lex rest := by
  induction blanks with
  | nil => rfl
  | cons c others ih =>
    rw [List.forall_mem_cons] at skipped
    rw [List.cons_append, lex_blank _ skipped.1, ih skipped.2]

theorem Symbol.separated (mark : Symbol) (rest : List Char) :
    Separated (mark.text.toList ++ rest) := by
  rintro c same
  cases mark <;> cases same <;> decide

theorem blank_separated {blank : Char} (skipped : isBlank blank = true) (rest : List Char) :
    Separated (blank :: rest) := by
  rintro c ⟨⟩
  refine ⟨?_, ?_⟩
  · cases wordChar : isWordChar blank with
    | false => rfl
    | true => exact absurd (isBlank_of_isWordChar wordChar) (by simp [skipped])
  · rintro rfl
    cases skipped

theorem Separated.ends {rest : List Char} (separated : Separated rest) (found : Lexeme) :
    found.Ends rest := by
  cases found with
  | word text => exact fun c member => (separated c member).1
  | symbol mark => exact fun same => (separated '=' same).2 rfl
  | quoted body => trivial

theorem Lexeme.Apart.ends {one next : Lexeme} (apart : one.Apart next) (spellable : next.Spellable)
    (rest : List Char) : one.Ends (next.text.toList ++ rest) := by
  cases next with
  | word text =>
    obtain ⟨first, tail, shape, start, _⟩ := isWord_split spellable
    cases one with
    | word earlier => exact absurd rfl (apart earlier rfl text)
    | symbol mark =>
      rw [Lexeme.text_word, shape]
      rintro ⟨⟩
      rcases start with ⟨sign, _⟩ | wordChar
      · exact absurd sign (by decide)
      · exact absurd wordChar (by decide)
    | quoted body => trivial
  | symbol mark => exact (mark.separated rest).ends one
  | quoted body =>
    have quote : Separated ((Lexeme.quoted body).text.toList ++ rest) := by
      rw [Lexeme.text_quoted]
      rintro c ⟨⟩
      decide
    exact quote.ends one

theorem lex_spelled {found : Lexeme} (spellable : found.Spellable) {rest : List Char}
    (ends : found.Ends rest) :
    lex (found.text.toList ++ rest) = (found :: (lex rest).1, (lex rest).2) := by
  rw [lex_eq, Token.next_spelled spellable ends]

-- Words are told apart by the blanks between them, and other lexemes tell themselves apart.
theorem lex_layOut {items : List (Lexeme × List Char)}
    (spellable : ∀ item ∈ items, item.1.Spellable)
    (blank : ∀ item ∈ items, ∀ c ∈ item.2, isBlank c = true)
    (apart : items.IsChain fun one next => one.2 = [] → one.1.Apart next.1) :
    lex (layOut items) = (items.map (·.1), .endOfInput) := by
  induction items with
  | nil => rw [layOut, List.flatMap_nil, lex_eq]; rfl
  | cons item others ih =>
    obtain ⟨found, blanks⟩ := item
    rw [List.forall_mem_cons] at spellable blank
    have ends : found.Ends (blanks ++ layOut others) := by
      cases blanks with
      | cons c more => exact (blank_separated (blank.1 c List.mem_cons_self) _).ends found
      | nil =>
        cases others with
        | nil =>
          have ended : Separated [] := by
            rintro c ⟨⟩
          exact ended.ends found
        | cons next more =>
          have laid : layOut (next :: more) =
              next.1.text.toList ++ (next.2 ++ layOut more) := by simp [layOut]
          rw [List.nil_append, laid]
          exact ((List.isChain_cons_cons.mp apart).1 rfl).ends
            (spellable.2 next List.mem_cons_self) _
    have laid : layOut ((found, blanks) :: others) =
        found.text.toList ++ (blanks ++ layOut others) := by simp [layOut]
    rw [laid, lex_spelled spellable.1 ends, lex_blanks blank.1,
      ih spellable.2 blank.2 apart.tail, List.map_cons]

theorem lex_spell {lexemes : List Lexeme} (spellable : ∀ lexeme ∈ lexemes, lexeme.Spellable) :
    lex (spell lexemes) = (lexemes, .endOfInput) := by
  have laid : spell lexemes = layOut (lexemes.map (·, [' '])) := by
    rw [spell, layOut, List.flatMap_map]
  rw [laid, lex_layOut]
  · simp [Function.comp_def]
  · simpa using spellable
  · simp [isBlank]
  · rw [List.isChain_map]
    exact (List.pairwise_of_forall fun _ _ => nofun).isChain

end Ebml.Edtd
