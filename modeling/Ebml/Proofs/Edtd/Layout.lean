import Ebml.Proofs.Edtd.Continuation

namespace Ebml.Edtd

-- Blanks and comments tell lexemes apart and mean nothing else: which of them stand between
-- the lexemes of a text makes no difference to what is read.
variable {text rest body word after : List Char}

inductive Gap : List Char → Prop
  | none : Gap []
  | blank {c : Char} {rest : List Char} (skipped : isBlank c = true) (gap : Gap rest) :
      Gap (c :: rest)
  | comment {body rest : List Char} (line : '\n' ∉ body) (gap : Gap rest) :
      Gap ('/' :: '/' :: (body ++ '\n' :: rest))

-- After the last lexeme there may be a comment that the end of the text ends.
inductive LastGap : List Char → Prop
  | ended {gap : List Char} (closed : Gap gap) : LastGap gap
  | unfinished {gap body : List Char} (closed : Gap gap) (line : '\n' ∉ body) :
      LastGap (gap ++ '/' :: '/' :: body)

-- Lexemes as they are spelled, each after a gap of its own and the last one before another.
def spread : List (List Char) → List Lexeme → List Char
  | gap :: gaps, lexeme :: lexemes => gap ++ (lexeme.text.toList ++ spread gaps lexemes)
  | gap :: _, [] => gap
  | [], _ => []

structure Separates (gaps : List (List Char)) (lexemes : List Lexeme) : Prop where
  count : gaps.length = lexemes.length + 1
  closed : ∀ gap ∈ gaps.dropLast, Gap gap
  last : ∀ gap ∈ gaps.getLast?, LastGap gap
  -- Only the first gap and the last one may be empty.
  apart : ∀ gap ∈ gaps.tail.dropLast, gap ≠ []

theorem readQuoted?_isBody (closed : readQuoted? text = some (body, after)) : IsBody body := by
  fun_induction readQuoted? text generalizing body after with
  | case1 => cases closed
  | case2 => cases closed; rfl
  | case3 => cases closed
  | case4 escaped tail ih =>
    obtain ⟨⟨inner, left⟩, inside, same⟩ := Option.map_eq_some_iff.mp closed
    cases same
    have inner := ih inside
    unfold IsBody at inner ⊢
    simp [readQuoted?, inner]
  | case5 c tail noQuote notLast noEscape ih =>
    obtain ⟨⟨inner, left⟩, inside, same⟩ := Option.map_eq_some_iff.mp closed
    cases same
    have inner := ih inside
    unfold IsBody at inner ⊢
    simp [readQuoted?, inner, noBackslash notLast noEscape]

theorem readWord?_isWord (found : readWord? text = some (word, after)) : isWord word = true := by
  unfold readWord? at found
  split at found
  rename_i sign rest signed
  have all : ∀ c ∈ rest.takeWhile isWordChar, isWordChar c = true :=
    List.all_eq_true.mp List.all_takeWhile
  dsimp only at found
  split at found
  · cases found
  · rename_i more
    have more : rest.takeWhile isWordChar ≠ [] := by simpa using more
    cases found
    split at signed
    · cases signed
      exact isWord_signed more all
    · cases signed
      exact isWord_of_all more all

theorem Token.read_spellable {found : Lexeme} (reads : read text = (lexeme found, after)) :
    found.Spellable := by
  unfold read at reads
  split at reads
  · cases reads
  · split at reads
    · rename_i closed
      cases reads
      simpa only [Lexeme.Spellable, String.toList_ofList] using readQuoted?_isBody closed
    · cases reads
  · split at reads
    · rename_i isWord
      cases reads
      simpa only [Lexeme.Spellable, String.toList_ofList] using readWord?_isWord isWord
    · split at reads
      · cases reads
        trivial
      · cases reads

theorem lex_spellable (text : List Char) : ∀ lexeme ∈ (lex text).1, lexeme.Spellable := by
  fun_induction lex text with
  | case1 text found after reads shorter found' stop others ih =>
    rw [others] at ih
    exact List.forall_mem_cons.mpr ⟨Token.read_spellable reads, ih⟩
  | case2 text reason after reads => simp

theorem skipComment_line (line : '\n' ∉ body) (rest : List Char) :
    skipComment (body ++ '\n' :: rest) = skipTrivia rest := by
  induction body with
  | nil => rfl
  | cons c others ih =>
    rw [List.mem_cons, not_or] at line
    rw [List.cons_append, skipComment, ih line.2]
    exact fun same => line.1 same.symm

theorem skipComment_end (line : '\n' ∉ body) : skipComment body = [] := by
  induction body with
  | nil => rfl
  | cons c others ih =>
    rw [List.mem_cons, not_or] at line
    rw [skipComment, ih line.2]
    exact fun same => line.1 same.symm

theorem skipTrivia_gap {gap : List Char} (closed : Gap gap) (rest : List Char) :
    skipTrivia (gap ++ rest) = skipTrivia rest := by
  induction closed with
  | none => rfl
  | blank skipped closed ih => rw [List.cons_append, skipTrivia_blank _ skipped, ih]
  | comment line closed ih =>
    rw [List.cons_append, List.cons_append, skipTrivia, List.append_assoc, List.cons_append,
      skipComment_line line, ih]

theorem skipTrivia_lastGap {gap : List Char} (last : LastGap gap) : skipTrivia gap = [] := by
  cases last with
  | ended closed =>
    have skipped := skipTrivia_gap closed []
    rw [List.append_nil] at skipped
    exact skipped
  | unfinished closed line => rw [skipTrivia_gap closed, skipTrivia, skipComment_end line]

theorem lex_gap {gap : List Char} (closed : Gap gap) (rest : List Char) :
    lex (gap ++ rest) = lex rest := by
  rw [lex_eq, lex_eq rest, Token.next, Token.next, skipTrivia_gap closed]

theorem lex_lastGap {gap : List Char} (last : LastGap gap) : lex gap = ([], .endOfInput) := by
  rw [lex_eq, Token.next, skipTrivia_lastGap last]
  rfl

theorem slash_separated (rest : List Char) : Separated ('/' :: rest) := by
  rintro c ⟨⟩
  decide

theorem Gap.separated {gap : List Char} (closed : Gap gap) (more : gap ≠ []) (rest : List Char) :
    Separated (gap ++ rest) := by
  cases closed with
  | none => contradiction
  | blank skipped closed => exact blank_separated skipped _
  | comment line closed => exact slash_separated _

theorem LastGap.separated {gap : List Char} (last : LastGap gap) : Separated gap := by
  cases last with
  | ended closed =>
    by_cases more : gap = []
    · subst more
      nofun
    · have separated := closed.separated more []
      rw [List.append_nil] at separated
      exact separated
  | @unfinished closing body closed line =>
    by_cases more : closing = []
    · subst more
      exact slash_separated body
    · exact closed.separated more _

namespace Separates

variable {first second : List Char} {gaps : List (List Char)} {found : Lexeme}
  {lexemes : List Lexeme}

theorem single (separates : Separates gaps []) : ∃ gap, gaps = [gap] ∧ LastGap gap := by
  obtain ⟨gap, rfl⟩ := List.length_eq_one_iff.mp separates.count
  exact ⟨gap, rfl, separates.last gap rfl⟩

theorem split (separates : Separates gaps (found :: lexemes)) :
    ∃ first second others, gaps = first :: second :: others ∧ Gap first ∧
      Separates (second :: others) lexemes := by
  have count := separates.count
  match gaps with
  | [] => cases count
  | [_] => cases count
  | first :: second :: others =>
    obtain ⟨_, closed, last, apart⟩ := separates
    rw [List.dropLast_cons_cons, List.forall_mem_cons] at closed
    refine ⟨first, second, others, rfl, closed.1, ?_, closed.2, ?_, ?_⟩
    · simpa using count
    · simpa using last
    · intro gap member
      apply apart gap
      rw [List.tail_cons] at member ⊢
      cases others with
      | nil => cases member
      | cons third others => exact List.mem_cons_of_mem _ member

theorem separated (separates : Separates (first :: gaps) (found :: lexemes)) :
    Separated (spread gaps lexemes) := by
  obtain ⟨_, second, others, same, _, after⟩ := separates.split
  cases same
  cases lexemes with
  | nil =>
    obtain ⟨gap, same, last⟩ := after.single
    cases same
    exact last.separated
  | cons next lexemes =>
    obtain ⟨_, third, others, same, closed, _⟩ := after.split
    cases same
    exact closed.separated (separates.apart second List.mem_cons_self) _

end Separates

theorem lex_spread {gaps : List (List Char)} {lexemes : List Lexeme}
    (spellable : ∀ lexeme ∈ lexemes, lexeme.Spellable) (separates : Separates gaps lexemes) :
    lex (spread gaps lexemes) = (lexemes, .endOfInput) := by
  induction lexemes generalizing gaps with
  | nil =>
    obtain ⟨gap, rfl, last⟩ := separates.single
    exact lex_lastGap last
  | cons found others ih =>
    rw [List.forall_mem_cons] at spellable
    obtain ⟨first, second, gaps, rfl, closed, after⟩ := separates.split
    rw [spread, lex_gap closed, lex_spelled spellable.1 (separates.separated.ends found),
      ih spellable.2 after]

-- A text that can be read to its end may be laid out anew in any way.
theorem layout_irrelevant (source : String) (gaps : List (List Char))
    (complete : (lex source.toList).2 = .endOfInput)
    (separates : Separates gaps (lex source.toList).1) :
    let laidOut := String.ofList (spread gaps (lex source.toList).1)
    lex laidOut.toList = lex source.toList ∧ Schema.ofText laidOut = Schema.ofText source := by
  have same : lex (spread gaps (lex source.toList).1) = lex source.toList := by
    rw [lex_spread (lex_spellable source.toList) separates, ← complete]
  constructor
  · rw [String.toList_ofList, same]
  · rw [Schema.ofText, String.toList_ofList, same]
    rfl

theorem header_laid_out_anew :
    let source := "declare header\x7bDocType:=\"//\";\x7d"
    let gaps : List (List Char) := ["//\n".toList, [' '], ['\t'], ['\n'], "//:=\n".toList, [' '],
      ['\r', '\n'], [' '], "//".toList]
    (lex source.toList).2 = .endOfInput ∧ Separates gaps (lex source.toList).1 ∧
      Schema.ofText "//\ndeclare header\t\x7b\nDocType//:=\n:= \"//\"\r\n; \x7d//" =
        Schema.ofText source := by
  intro source gaps
  have lexed : lex source.toList = ([.word "declare", .word "header", .symbol .openBrace,
      .word "DocType", .symbol .assign, .quoted "//", .symbol .semicolon, .symbol .closeBrace],
      .endOfInput) := by decide +kernel
  have complete : (lex source.toList).2 = .endOfInput := congrArg Prod.snd lexed
  have separates : Separates gaps (lex source.toList).1 := by
    rw [lexed]
    have heading : Gap "//\n".toList := @Gap.comment [] [] (by decide) .none
    have name : Gap "//:=\n".toList := @Gap.comment [':', '='] [] (by decide) .none
    have blank (c : Char) (skipped : isBlank c = true) : Gap [c] := .blank skipped .none
    refine ⟨rfl, ?_, ?_, by decide⟩
    · simp only [gaps, List.dropLast_cons_cons, List.dropLast_singleton, List.forall_mem_cons]
      exact ⟨heading, blank _ rfl, blank _ rfl, blank _ rfl, name, blank _ rfl,
        .blank rfl (blank _ rfl), blank _ rfl, nofun⟩
    · rintro gap ⟨⟩
      exact @LastGap.unfinished [] [] .none (by decide)
  have laidOut := (layout_irrelevant source gaps complete separates).2
  rw [lexed] at laidOut
  exact ⟨complete, separates, laidOut⟩

end Ebml.Edtd
