import Ebml.Proofs.Edtd.Escape
import Ebml.Proofs.Edtd.Layout

namespace Ebml.Edtd

-- Which texts are lexemes, and where one of them ends, is said here without the lexer. It cuts
-- every text as this says, and no other cut is one.
variable {text gap rest left : List Char} {c : Char} {found : Lexeme} {lexemes : List Lexeme}
  {reason : Stop}

def symbols : List String :=
  [":=", ">=", "<=", "\x7b", "\x7d", "[", "]", ":", ";", ",", "%", "<", ">", "*", "?", "+"]

inductive WordText : List Char → Prop
  | unsigned {body : List Char} (more : body ≠ []) (all : ∀ c ∈ body, isWordChar c = true) :
      WordText body
  | signed {body : List Char} (more : body ≠ []) (all : ∀ c ∈ body, isWordChar c = true) :
      WordText ('-' :: body)

def Lexeme.Formed : Lexeme → Prop
  | .word text => WordText text.toList
  | .symbol mark => mark.text ∈ symbols
  | .quoted body => ClosedAfter body.toList

-- Of all lexemes that the text starts with there, this is the longest.
structure Lexeme.Longest (found : Lexeme) (rest : List Char) : Prop where
  formed : found.Formed
  bounded : found.Bounded rest
  longest : ∀ other : Lexeme, other.Formed →
    other.text.toList <+: found.text.toList ++ rest → other.text.length ≤ found.text.length

-- Why nothing more is read of a text that does not start with a gap.
inductive Refused : List Char → LexFault → Prop
  | unterminated {body : List Char} (never : Unclosed body) :
      Refused ('"' :: body) .unterminatedText
  | unexpected {c : Char} {rest : List Char} (noQuote : c ≠ '"')
      (none : ∀ lexeme : Lexeme, lexeme.Formed → ¬ lexeme.text.toList <+: c :: rest) :
      Refused (c :: rest) (.unexpectedCharacter c)

def Bare (text : List Char) : Prop :=
  (∀ c ∈ text.head?, isBlank c = false) ∧ ¬ ['/', '/'] <+: text

-- The last gap, what is left after it and why.
inductive Ending : List Char → List Char → Stop → Prop
  | complete {gap : List Char} (last : LastGap gap) : Ending gap [] .endOfInput
  | broken {gap left : List Char} {error : LexFault} (closed : Gap gap) (bare : Bare left)
      (refused : Refused left error) : Ending gap left (.invalid error)

inductive Partitioned : List Char → List Lexeme → Stop → Prop
  | ending {gap left : List Char} {stop : Stop} (ending : Ending gap left stop) :
      Partitioned (gap ++ left) [] stop
  | lexeme {gap rest : List Char} {found : Lexeme} {lexemes : List Lexeme} {stop : Stop}
      (closed : Gap gap) (longest : found.Longest rest) (others : Partitioned rest lexemes stop) :
      Partitioned (gap ++ (found.text.toList ++ rest)) (found :: lexemes) stop

theorem symbol_listed (mark : Symbol) : mark.text ∈ symbols := by
  cases mark <;> decide

theorem wordText_iff : WordText text ↔ isWord text = true := by
  constructor
  · intro spelled
    cases spelled with
    | unsigned more all => exact isWord_of_all more all
    | signed more all => exact isWord_signed more all
  · intro spelled
    unfold isWord at spelled
    split at spelled <;> simp only [Bool.and_eq_true, Bool.not_eq_true', List.isEmpty_eq_false_iff,
      List.all_eq_true] at spelled
    · exact .signed spelled.1 spelled.2
    · exact .unsigned spelled.1 spelled.2

theorem Lexeme.formed_iff (found : Lexeme) : found.Formed ↔ found.Spellable := by
  cases found with
  | word text => exact wordText_iff
  | symbol mark => exact iff_of_true (symbol_listed mark) trivial
  | quoted body => exact isBody_iff.symm

theorem Symbol.read?_split {mark : Symbol} (reads : Symbol.read? text = some (mark, rest)) :
    text = mark.text.toList ++ rest ∧ (Lexeme.symbol mark).Bounded rest := by
  unfold Symbol.read? at reads
  split at reads <;> cases reads
  all_goals
    refine ⟨rfl, ?_⟩
    simp_all [Lexeme.Bounded, Symbol.text, List.head?_eq_some_iff]

theorem Symbol.lengthened (mark : Symbol) (among : mark.text ∈ [":", "<", ">"]) :
    ∃ longer : Symbol, longer.text = mark.text ++ "=" ∧ longer.text ∉ [":", "<", ">"] := by
  cases mark with
  | colon => exact ⟨.assign, rfl, by decide⟩
  | less => exact ⟨.atMost, rfl, by decide⟩
  | greater => exact ⟨.atLeast, rfl, by decide⟩
  | _ => simp [Symbol.text] at among

theorem dropWhile_bounded {skipped : Char → Bool} (text : List Char) :
    ∀ c ∈ (text.dropWhile skipped).head?, skipped c = false := by
  intro c member
  have stops := List.head?_dropWhile_not skipped text
  rw [Option.mem_def.mp member] at stops
  exact stops

theorem readWord?_split {word : List Char} (reads : readWord? text = some (word, rest)) :
    text = word ++ rest ∧ ∀ c ∈ rest.head?, isWordChar c = false := by
  unfold readWord? at reads
  split at reads
  rename_i sign body signed
  have shape : text = sign ++ body := by
    split at signed <;> cases signed <;> rfl
  dsimp only at reads
  split at reads
  · cases reads
  · cases reads
    refine ⟨?_, dropWhile_bounded body⟩
    rw [shape, List.append_assoc, List.takeWhile_append_dropWhile]

namespace Token

theorem read_formed (formed : found.Formed) (bounded : found.Bounded rest) :
    read (found.text.toList ++ rest) = (lexeme found, rest) :=
  read_bounded (found.formed_iff.mp formed) bounded

theorem read_split (reads : read text = (lexeme found, rest)) :
    text = found.text.toList ++ rest ∧ found.Formed ∧ found.Bounded rest := by
  have formed := found.formed_iff.mpr (read_spellable reads)
  unfold read at reads
  split at reads
  · cases reads
  · split at reads
    · rename_i closed
      cases reads
      refine ⟨?_, formed, trivial⟩
      rw [Lexeme.text_quoted, String.toList_ofList, (readQuoted?_closed closed).1]
      simp
    · cases reads
  · split at reads
    · rename_i isWord
      cases reads
      obtain ⟨shape, ends⟩ := readWord?_split isWord
      refine ⟨?_, formed, ends⟩
      rw [Lexeme.text_word, String.toList_ofList, shape]
    · split at reads
      · rename_i isSymbol
        cases reads
        obtain ⟨shape, ends⟩ := Symbol.read?_split isSymbol
        exact ⟨shape, formed, ends⟩
      · cases reads

end Token

theorem Lexeme.Formed.longer (formed : found.Formed) (rest : List Char) :
    ∃ longer after, Lexeme.Formed longer ∧ longer.Bounded after ∧
      found.text.toList ++ rest = longer.text.toList ++ after ∧
      found.text.length ≤ longer.text.length := by
  cases found with
  | word text =>
    have all : ∀ c ∈ rest.takeWhile isWordChar, isWordChar c = true :=
      List.all_eq_true.mp List.all_takeWhile
    refine ⟨.word (String.ofList (text.toList ++ rest.takeWhile isWordChar)),
      rest.dropWhile isWordChar, ?_, dropWhile_bounded rest, ?_, ?_⟩
    · rw [Lexeme.Formed, String.toList_ofList, wordText_iff]
      exact isWord_append (wordText_iff.mp formed) all
    · simp [Lexeme.text_word, List.append_assoc, List.takeWhile_append_dropWhile]
    · simp [Lexeme.text_word]
  | symbol mark =>
    by_cases bounded : (Lexeme.symbol mark).Bounded rest
    · exact ⟨_, rest, formed, bounded, rfl, le_rfl⟩
    · simp only [Lexeme.Bounded, ne_eq, List.head?_eq_some_iff, Classical.not_imp,
        not_not] at bounded
      obtain ⟨among, more, rfl⟩ := bounded
      obtain ⟨longer, text, alone⟩ := mark.lengthened among
      refine ⟨.symbol longer, more, symbol_listed longer, fun among => absurd among alone, ?_, ?_⟩
      · simp [Lexeme.text_symbol, text]
      · simp [Lexeme.text_symbol, text]
  | quoted body => exact ⟨_, rest, formed, trivial, rfl, le_rfl⟩

namespace Token

theorem read_beginning (formed : found.Formed) (begins : found.text.toList <+: text) :
    ∃ longest after, read text = (lexeme longest, after) ∧
      found.text.length ≤ longest.text.length := by
  obtain ⟨rest, rfl⟩ := begins
  obtain ⟨longest, after, formed, bounded, same, longer⟩ := formed.longer rest
  exact ⟨longest, after, by rw [same, read_formed formed bounded], longer⟩

theorem read_longest (formed : found.Formed) (bounded : found.Bounded rest) :
    found.Longest rest := by
  refine ⟨formed, bounded, ?_⟩
  intro other formed' begins
  obtain ⟨longest, after, reads, longer⟩ := read_beginning formed' begins
  rw [read_formed formed bounded] at reads
  cases reads
  exact longer

theorem read_refused {error : LexFault} (stops : read text = (stop (.invalid error), left)) :
    left = text ∧ Refused text error := by
  have none (found : Lexeme) (formed : found.Formed) : ¬ found.text.toList <+: text := by
    intro begins
    obtain ⟨longest, after, reads, _⟩ := read_beginning formed begins
    rw [reads] at stops
    cases stops
  unfold read at stops
  split at stops
  · cases stops
  · split at stops
    · cases stops
    · rename_i endless
      cases stops
      exact ⟨rfl, .unterminated (readQuoted?_unclosed endless)⟩
  · rename_i noQuote
    split at stops
    · cases stops
    · split at stops
      · cases stops
      · cases stops
        exact ⟨rfl, .unexpected noQuote none⟩

theorem read_of_refused {error : LexFault} (refused : Refused text error) :
    read text = (stop (.invalid error), text) := by
  cases refused with
  | unterminated never => simp only [read, readQuoted?_eq_none_iff.mpr never]
  | @unexpected c rest noQuote none =>
    cases reads : read (c :: rest) with
    | mk token after =>
      cases token with
      | lexeme found =>
        obtain ⟨shape, formed, _⟩ := read_split reads
        exact absurd ⟨after, shape.symm⟩ (none found formed)
      | stop reason =>
        cases reason with
        | endOfInput => exact absurd (read_end reads) (List.cons_ne_nil c rest)
        | invalid error =>
          obtain ⟨rfl, refused⟩ := read_refused reads
          cases refused with
          | unterminated => exact absurd rfl noQuote
          | unexpected => rfl

end Token

theorem Gap.append {one two : List Char} (first : Gap one) (second : Gap two) :
    Gap (one ++ two) := by
  induction first with
  | none => exact second
  | blank skipped closed ih => exact .blank skipped ih
  | comment line closed ih =>
    simp only [List.cons_append, List.append_assoc]
    exact .comment line ih

theorem Gap.lastGap (closed : Gap gap) (last : LastGap rest) : LastGap (gap ++ rest) := by
  cases last with
  | ended others => exact .ended (closed.append others)
  | unfinished others line =>
    rw [← List.append_assoc]
    exact .unfinished (closed.append others) line

def Skips (text left : List Char) : Prop :=
  (left = [] ∧ LastGap text) ∨ ∃ gap, Gap gap ∧ text = gap ++ left

theorem Skips.after (closed : Gap gap) (skips : Skips text left) : Skips (gap ++ text) left := by
  rcases skips with ⟨none, last⟩ | ⟨others, closed', rfl⟩
  · exact .inl ⟨none, closed.lastGap last⟩
  · exact .inr ⟨gap ++ others, closed.append closed', (List.append_assoc _ _ _).symm⟩

theorem skipTrivia_skips (text : List Char) : Skips text (skipTrivia text) := by
  -- Within a comment, what has been read of it is carried along.
  refine skipTrivia.induct (fun text => Skips text (skipTrivia text))
    (fun text => ∀ body, '\n' ∉ body → Skips ('/' :: '/' :: (body ++ text)) (skipComment text))
    ?_ ?_ ?_ ?_ ?_ ?_ ?_ text
  · exact .inr ⟨[], .none, rfl⟩
  · intro rest ih
    exact ih [] List.not_mem_nil
  · intro c rest noComment blank ih
    rw [skipTrivia_blank rest blank]
    exact ih.after (.blank blank .none)
  · intro c rest noComment solid
    rw [skipTrivia, if_neg solid]
    · exact .inr ⟨[], .none, rfl⟩
    · exact noComment
  · intro body line
    refine .inl ⟨rfl, ?_⟩
    rw [List.append_nil]
    exact .unfinished .none line
  · intro rest ih body line
    have skips := ih.after (.comment line .none)
    simpa [skipComment] using skips
  · intro c rest inside ih body line
    have skips := ih (body ++ [c]) (by simp [line, Ne.symm inside])
    rw [skipComment]
    · simpa using skips
    · exact inside

theorem bare_nil : Bare [] := by
  refine ⟨?_, by decide⟩
  rintro _ ⟨⟩

theorem bare_cons (solid : isBlank c = false) (noSlash : c ≠ '/') (rest : List Char) :
    Bare (c :: rest) := by
  refine ⟨?_, ?_⟩
  · rintro _ ⟨⟩
    exact solid
  · rintro ⟨others, same⟩
    exact noSlash (List.cons.inj same).1.symm

theorem skipTrivia_bare (text : List Char) : Bare (skipTrivia text) := by
  refine skipTrivia.induct (fun text => Bare (skipTrivia text))
    (fun text => Bare (skipComment text)) ?_ ?_ ?_ ?_ ?_ ?_ ?_ text
  · exact bare_nil
  · intro rest ih
    exact ih
  · intro c rest noComment blank ih
    rw [skipTrivia_blank rest blank]
    exact ih
  · intro c rest noComment solid
    rw [skipTrivia, if_neg solid]
    · refine ⟨?_, ?_⟩
      · rintro _ ⟨⟩
        simpa using solid
      · rintro ⟨others, same⟩
        cases same
        exact noComment others rfl rfl
    · exact noComment
  · exact bare_nil
  · intro rest ih
    exact ih
  · intro c rest inside ih
    rw [skipComment]
    · exact ih
    · exact inside

theorem Bare.skipTrivia (bare : Bare text) : skipTrivia text = text := by
  obtain ⟨solid, noComment⟩ := bare
  cases text with
  | nil => rfl
  | cons c rest =>
    rw [Edtd.skipTrivia, if_neg]
    · rw [solid c rfl]
      exact Bool.false_ne_true
    · rintro others rfl rfl
      exact noComment ⟨others, rfl⟩

theorem Lexeme.Formed.bare (formed : found.Formed) (rest : List Char) :
    Bare (found.text.toList ++ rest) := by
  obtain ⟨first, tail, shape, solid, noSlash⟩ := (found.formed_iff.mp formed).starts
  rw [shape]
  exact bare_cons solid noSlash _

namespace Token

theorem next_gap (closed : Gap gap) (bare : Bare rest) : next (gap ++ rest) = read rest := by
  rw [next, skipTrivia_gap closed, bare.skipTrivia]

theorem next_ending (ending : Ending gap left reason) :
    ∃ after, next (gap ++ left) = (stop reason, after) := by
  cases ending with
  | complete last =>
    rw [List.append_nil, next, skipTrivia_lastGap last]
    exact ⟨[], rfl⟩
  | broken closed bare refused => exact ⟨left, (next_gap closed bare).trans (read_of_refused refused)⟩

theorem ending_of_next {after : List Char} (stops : next text = (stop reason, after)) :
    ∃ gap left, text = gap ++ left ∧ Ending gap left reason := by
  have bare := skipTrivia_bare text
  cases reason with
  | endOfInput =>
    have none := skipTrivia_of_end stops
    rcases skipTrivia_skips text with ⟨_, last⟩ | ⟨gap, closed, shape⟩
    · exact ⟨text, [], (List.append_nil text).symm, .complete last⟩
    · rw [none] at shape
      exact ⟨gap, [], shape, .complete (.ended closed)⟩
  | invalid error =>
    obtain ⟨_, refused⟩ := read_refused stops
    rcases skipTrivia_skips text with ⟨none, _⟩ | ⟨gap, closed, shape⟩
    · rw [none] at refused
      cases refused
    · exact ⟨gap, skipTrivia text, shape, .broken closed bare refused⟩

theorem longest_of_next (reads : next text = (lexeme found, rest)) :
    ∃ gap, Gap gap ∧ text = gap ++ (found.text.toList ++ rest) ∧ found.Longest rest := by
  obtain ⟨shape, formed, bounded⟩ := read_split reads
  rcases skipTrivia_skips text with ⟨none, _⟩ | ⟨gap, closed, skipped⟩
  · rw [next, none] at reads
    cases reads
  · rw [shape] at skipped
    exact ⟨gap, closed, skipped, read_longest formed bounded⟩

theorem pull_eq_iff : pull (lexemes.length + 1) text = lexemes.map lexeme ++ [stop reason] ↔
    lex text = (lexemes, reason) := by
  have first (count : Nat) (text : List Char) :
      pull (count + 1) text = (next text).1 :: pull count (next text).2 := rfl
  induction lexemes generalizing text with
  | nil =>
    rw [first, lex_eq]
    rcases next text with ⟨token | reason', after⟩
    · simp
    · simp [pull]
  | cons found others ih =>
    rw [List.length_cons, first, lex_eq]
    rcases next text with ⟨token | reason', after⟩
    · simp [ih, Prod.ext_iff, and_assoc]
    · simp

end Token

theorem lex_partitioned (text : List Char) : Partitioned text (lex text).1 (lex text).2 := by
  fun_induction lex text with
  | case1 text found after reads shorter found' stop others ih =>
    rw [others] at ih
    obtain ⟨gap, closed, rfl, longest⟩ := Token.longest_of_next reads
    exact .lexeme closed longest ih
  | case2 text reason after reads =>
    obtain ⟨gap, left, rfl, ending⟩ := Token.ending_of_next reads
    exact .ending ending

theorem Partitioned.lex (partitioned : Partitioned text lexemes reason) :
    lex text = (lexemes, reason) := by
  induction partitioned with
  | ending ending =>
    obtain ⟨after, stops⟩ := Token.next_ending ending
    rw [lex_eq, stops]
  | @lexeme gap rest found lexemes reason closed longest others ih =>
    have bare := longest.formed.bare rest
    rw [lex_eq, Token.next_gap closed bare, Token.read_formed longest.formed longest.bounded]
    simp only [ih]

theorem Partitioned.spread (partitioned : Partitioned text lexemes reason) :
    ∃ gaps last left, text = Edtd.spread (gaps ++ [last]) lexemes ++ left ∧
      gaps.length = lexemes.length ∧ (∀ gap ∈ gaps, Gap gap) ∧ Ending last left reason := by
  induction partitioned with
  | ending ending => exact ⟨[], _, _, rfl, rfl, by simp, ending⟩
  | @lexeme gap rest found lexemes reason closed longest others ih =>
    obtain ⟨gaps, last, left, rfl, count, closed', ending⟩ := ih
    refine ⟨gap :: gaps, last, left, ?_, ?_, ?_, ending⟩
    · simp [Edtd.spread]
    · simp [count]
    · exact List.forall_mem_cons.mpr ⟨closed, closed'⟩

theorem LexFault.message_unterminated_iff (error : LexFault) :
    error.message = "unterminated quoted string" ↔ error = .unterminatedText := by
  cases error with
  | unterminatedText => exact iff_of_true rfl rfl
  | unexpectedCharacter c =>
    refine iff_of_false ?_ (by simp)
    intro same
    -- The messages differ from their third letter on.
    have third := congrArg (fun message => message.toList[2]?) same
    change ("unexpected character '" ++ toString c ++ "'").toList[2]? = _ at third
    simp at third

theorem Refused.told {error : LexFault} (refused : Refused text error) :
    (error.message = "unterminated quoted string" ↔ ∃ body, text = '"' :: body ∧ Unclosed body) := by
  rw [LexFault.message_unterminated_iff]
  cases refused with
  | unterminated never => exact iff_of_true rfl ⟨_, rfl, never⟩
  | unexpected noQuote none =>
    refine iff_of_false (by simp) ?_
    rintro ⟨body, same, _⟩
    exact noQuote (List.cons.inj same).1

-- Every text is cut into gaps and lexemes up to its end or to what starts no lexeme, and the tokens
-- that are asked for one after the other are those of the only cut in which each lexeme is the
-- longest that starts at its place.
theorem lexed_by_longest_match (text : List Char) :
    (∃ lexemes reason, Partitioned text lexemes reason) ∧
    ∀ lexemes reason,
      (Token.pull (lexemes.length + 1) text = lexemes.map .lexeme ++ [.stop reason] ↔
        Partitioned text lexemes reason) ∧
      (Partitioned text lexemes reason → ∃ gaps last left,
        text = spread (gaps ++ [last]) lexemes ++ left ∧ gaps.length = lexemes.length ∧
        (∀ gap ∈ gaps, Gap gap) ∧ Ending last left reason ∧
        ∀ error, reason = .invalid error → (error.message = "unterminated quoted string" ↔
          ∃ body, left = '"' :: body ∧ Unclosed body)) := by
  refine ⟨⟨_, _, lex_partitioned text⟩, fun lexemes reason => ⟨?_, ?_⟩⟩
  · rw [Token.pull_eq_iff]
    constructor
    · intro lexed
      have partitioned := lex_partitioned text
      rwa [lexed] at partitioned
    · exact Partitioned.lex
  · intro partitioned
    obtain ⟨gaps, last, left, shape, count, closed, ending⟩ := partitioned.spread
    refine ⟨gaps, last, left, shape, count, closed, ending, ?_⟩
    rintro error rfl
    cases ending with
    | broken _ _ refused => exact refused.told

theorem mixed_text_partitioned :
    Partitioned "a>=-1// <\n\"\\\"\"<\"".toList
      [.word "a", .symbol .atLeast, .word "-1", .quoted "\\\"", .symbol .less]
      (.invalid .unterminatedText) :=
  ((lexed_by_longest_match _).2 _ _).1.mp (by decide +kernel)

end Ebml.Edtd
