import Ebml.Proofs.Edtd.Outcome
import Ebml.Proofs.Edtd.Spelling

namespace Ebml.Edtd

-- A text that can be read to its end is followed, on the next line, by another one, and the
-- two are read one after the other.
variable {text after : List Char}

theorem skipTrivia_line (text rest : List Char) :
    skipTrivia (text ++ '\n' :: rest) =
      if skipTrivia text = [] then skipTrivia rest else skipTrivia text ++ '\n' :: rest := by
  refine skipTrivia.induct
    (fun text => skipTrivia (text ++ '\n' :: rest) =
      if skipTrivia text = [] then skipTrivia rest else skipTrivia text ++ '\n' :: rest)
    (fun text => skipComment (text ++ '\n' :: rest) =
      if skipComment text = [] then skipTrivia rest else skipComment text ++ '\n' :: rest)
    ?_ ?_ ?_ ?_ ?_ ?_ ?_ text
  · exact skipTrivia_blank rest rfl
  · intro comment ih
    exact ih
  · intro c after noComment blank ih
    rw [List.cons_append, skipTrivia_blank _ blank, skipTrivia_blank _ blank, ih]
  · intro c after noComment solid
    have stays : skipTrivia (c :: after) = c :: after := by
      rw [skipTrivia, if_neg solid]
      exact noComment
    have stays' : skipTrivia (c :: (after ++ '\n' :: rest)) = c :: (after ++ '\n' :: rest) := by
      rw [skipTrivia, if_neg solid]
      rintro more rfl same
      cases after with
      | nil => cases same
      | cons next others =>
        cases same
        exact noComment others rfl rfl
    rw [List.cons_append, stays, stays', if_neg (List.cons_ne_nil _ _), List.cons_append]
  · rfl
  · intro after ih
    exact ih
  · intro c after inside ih
    have skips (others : List Char) : skipComment (c :: others) = skipComment others := by
      rw [skipComment]
      exact inside
    rw [List.cons_append, skips, skips, ih]

theorem takeWhile_line (text rest : List Char) :
    (text ++ '\n' :: rest).takeWhile isWordChar = text.takeWhile isWordChar ∧
      (text ++ '\n' :: rest).dropWhile isWordChar = text.dropWhile isWordChar ++ '\n' :: rest := by
  induction text with
  | nil => exact ⟨rfl, rfl⟩
  | cons c others ih =>
    cases wordChar : isWordChar c with
    | false => simp [wordChar]
    | true => simpa [wordChar] using ih

theorem readWord?_line (more : text ≠ []) (rest : List Char) :
    readWord? (text ++ '\n' :: rest) =
      (readWord? text).map fun (word, after) => (word, after ++ '\n' :: rest) := by
  obtain ⟨c, others, rfl⟩ := List.exists_cons_of_ne_nil more
  by_cases signed : c = '-'
  · subst signed
    simp only [readWord?, List.cons_append, takeWhile_line]
    split <;> rfl
  · have body := takeWhile_line (c :: others) rest
    rw [List.cons_append] at body
    rw [List.cons_append, readWord?_unsigned signed, readWord?_unsigned signed, body.1, body.2]
    split <;> rfl

theorem Symbol.read?_line {mark : Symbol} (found : Symbol.read? text = some (mark, after))
    (rest : List Char) :
    Symbol.read? (text ++ '\n' :: rest) = some (mark, after ++ '\n' :: rest) := by
  -- The end of a line makes no longer symbol of the one before it.
  have apart (noAssign : ∀ more, after = '=' :: more → False) :
      ∀ more, after ++ '\n' :: rest = '=' :: more → False := by
    intro more same
    cases after with
    | nil => cases same
    | cons next others =>
      cases same
      exact noAssign others rfl
  unfold read? at found
  split at found <;> cases found
  all_goals first | rfl | skip
  all_goals
    rename_i noAssign
    rw [List.cons_append, read?]
    exact apart noAssign

theorem Symbol.read?_none {first : Char} {others : List Char}
    (unread : read? (first :: others) = none) (rest : List Char) :
    read? (first :: rest) = none := by
  unfold read? at unread ⊢
  split at unread <;> cases unread
  split
  all_goals first | rfl | skip
  all_goals
    rename_i same
    cases same
    exfalso
    solve_by_elim [rfl]

namespace Token

theorem read_line {found : Lexeme} (reads : read text = (lexeme found, after))
    (rest : List Char) : read (text ++ '\n' :: rest) = (lexeme found, after ++ '\n' :: rest) := by
  unfold read at reads
  split at reads
  · cases reads
  · rename_i body
    split at reads
    · rename_i closed
      cases reads
      simp only [read, List.cons_append, readQuoted?_append closed]
    · cases reads
  · rename_i first others noQuote
    have noQuote : (first :: others ++ '\n' :: rest).head? ≠ some '"' := by
      rintro ⟨⟩
      exact noQuote rfl
    have word := readWord?_line (List.cons_ne_nil first others) rest
    split at reads
    · rename_i isWord
      cases reads
      rw [isWord] at word
      exact read_word word noQuote
    · rename_i noWord
      split at reads
      · rename_i isSymbol
        cases reads
        rw [noWord] at word
        exact read_symbol word (Symbol.read?_line isSymbol rest) noQuote
      · cases reads

theorem read_line_unexpected {c : Char}
    (stopped : read text = (stop (.invalid (.unexpectedCharacter c)), after)) (rest : List Char) :
    read (text ++ '\n' :: rest) =
      (stop (.invalid (.unexpectedCharacter c)), after ++ '\n' :: rest) := by
  unfold read at stopped
  split at stopped
  · cases stopped
  · split at stopped <;> cases stopped
  · rename_i first others noQuote
    have word := readWord?_line (List.cons_ne_nil first others) rest
    split at stopped
    · cases stopped
    · rename_i noWord
      split at stopped
      · cases stopped
      · rename_i noSymbol
        cases stopped
        have noSymbol := Symbol.read?_none noSymbol (others ++ '\n' :: rest)
        rw [noWord, Option.map_none, List.cons_append] at word
        rw [List.cons_append, read, word]
        · simp only [noSymbol]
        · exact noQuote

theorem next_line {found : Lexeme} (reads : next text = (lexeme found, after))
    (rest : List Char) : next (text ++ '\n' :: rest) = (lexeme found, after ++ '\n' :: rest) := by
  have more : skipTrivia text ≠ [] := by
    intro none
    rw [next, none] at reads
    cases reads
  rw [next, skipTrivia_line, if_neg more]
  exact read_line reads rest

theorem next_line_unexpected {c : Char}
    (stopped : next text = (stop (.invalid (.unexpectedCharacter c)), after)) (rest : List Char) :
    next (text ++ '\n' :: rest) =
      (stop (.invalid (.unexpectedCharacter c)), after ++ '\n' :: rest) := by
  have more : skipTrivia text ≠ [] := by
    intro none
    rw [next, none] at stopped
    cases stopped
  rw [next, skipTrivia_line, if_neg more]
  exact read_line_unexpected stopped rest

theorem read_end (ended : read text = (stop .endOfInput, after)) : text = [] := by
  unfold read at ended
  split at ended
  · rfl
  · split at ended <;> cases ended
  · split at ended
    · cases ended
    · split at ended <;> cases ended

theorem skipTrivia_of_end (ended : next text = (stop .endOfInput, after)) :
    skipTrivia text = [] :=
  read_end ended

end Token

-- The lexemes of a text are those of its first lines, read to their end, and of the others.
theorem lex_line (complete : (lex text).2 = .endOfInput) (rest : List Char) :
    lex (text ++ '\n' :: rest) = ((lex text).1 ++ (lex rest).1, (lex rest).2) := by
  fun_induction lex text with
  | case1 text found after reads shorter found' stop others ih =>
    rw [lex_eq, Token.next_line reads]
    rw [others] at ih
    dsimp only at ih ⊢
    rw [ih complete, List.cons_append]
  | case2 text reason after reads =>
    obtain rfl : reason = .endOfInput := complete
    have none := Token.skipTrivia_of_end reads
    rw [lex_eq, Token.next, skipTrivia_line, if_pos none, List.nil_append, ← Token.next, ← lex_eq]

theorem lex_line_prefix (text rest : List Char) :
    (lex text).1 <+: (lex (text ++ '\n' :: rest)).1 := by
  fun_induction lex text with
  | case1 text found after reads shorter found' stop others ih =>
    rw [lex_eq (text ++ _), Token.next_line reads]
    rw [others] at ih
    exact List.prefix_cons_inj found |>.mpr ih
  | case2 text reason after reads => exact List.nil_prefix

theorem lex_line_unexpected {c : Char}
    (stopped : (lex text).2 = .invalid (.unexpectedCharacter c)) (rest : List Char) :
    lex (text ++ '\n' :: rest) = lex text := by
  fun_induction lex text with
  | case1 text found after reads shorter found' stop others ih =>
    rw [lex_eq, Token.next_line reads]
    rw [others] at ih
    dsimp only at ih ⊢
    rw [ih stopped]
  | case2 text reason after reads =>
    obtain rfl : reason = .invalid (.unexpectedCharacter c) := stopped
    rw [lex_eq, Token.next_line_unexpected reads]

end Ebml.Edtd

namespace Ebml.Schema

theorem extend_line {schema extended : Schema} {source : String}
    (compiled : schema.extend source = .ok extended) (more : String) :
    schema.extend (source ++ "\n" ++ more) = extended.extend more := by
  obtain ⟨complete, fed⟩ := extend_eq_ok_iff.mp compiled
  have lines : (source ++ "\n" ++ more).toList = source.toList ++ '\n' :: more.toList := by simp
  unfold extend
  rw [lines, Edtd.lex_line complete]
  dsimp only
  rw [Edtd.State.feedAll_append, fed]
  rfl

end Ebml.Schema
