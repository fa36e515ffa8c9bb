import Ebml.Proofs.Edtd.Demand
import Ebml.Proofs.Edtd.LongestMatch

namespace Ebml.Edtd

-- A reader of tokens that is called again and again. What it skips before a token takes a round
-- for every comment, and it knows that it has failed.
variable {text after : List Char} {reason : Stop} {rounds count : Nat}

def pastComment? : List Char → Option (List Char)
  | '/' :: '/' :: rest => some (rest.dropWhile (· != '\n'))
  | _ => none

-- A round skips blanks and then a comment, and the last one finds no comment. There is no outcome
-- where more rounds are needed than given.
def skipRounds : Nat → List Char → Option (List Char)
  | 0, _ => none
  | rounds + 1, text =>
    let bare := text.dropWhile isBlank
    (pastComment? bare).elim (some bare) (skipRounds rounds)

def Token.failure? : Token → Option Token
  | stop (.invalid error) => some (stop (.invalid error))
  | _ => none

structure Scanner where
  input : List Char
  failed? : Option Token

namespace Scanner

def ofText (text : List Char) : Scanner := ⟨text, none⟩

def next? (rounds : Nat) (scanner : Scanner) : Option (Token × Scanner) :=
  match scanner.failed? with
  | some token => some (token, scanner)
  | none => (skipRounds rounds scanner.input).map fun bare =>
    let (token, left) := Token.read bare
    (token, ⟨left, token.failure?⟩)

def calls? (rounds : Nat) : Nat → Scanner → Option (List Token)
  | 0, _ => some []
  | count + 1, scanner => do
    let (token, after) ← scanner.next? rounds
    let others ← calls? rounds count after
    return token :: others

end Scanner

theorem skipTrivia_dropWhile (text : List Char) :
    skipTrivia (text.dropWhile isBlank) = skipTrivia text := by
  induction text with
  | nil => rfl
  | cons c rest ih =>
    cases blank : isBlank c with
    | true => rw [List.dropWhile_cons_of_pos blank, skipTrivia_blank rest blank, ih]
    | false => rw [List.dropWhile_cons_of_neg (by simp [blank])]

theorem skipComment_dropWhile (text : List Char) :
    skipTrivia (text.dropWhile (· != '\n')) = skipComment text := by
  induction text with
  | nil => rfl
  | cons c rest ih =>
    by_cases line : c = '\n'
    · subst line
      rw [List.dropWhile_cons_of_neg (by simp), skipTrivia_blank rest (by decide)]
      rfl
    · rw [List.dropWhile_cons_of_pos (by simpa using line), ih, skipComment]
      exact line

theorem dropWhile_bare (noComment : pastComment? (text.dropWhile isBlank) = none) :
    Bare (text.dropWhile isBlank) := by
  refine ⟨dropWhile_bounded text, ?_⟩
  rintro ⟨rest, begins⟩
  rw [← begins] at noComment
  cases noComment

theorem pastComment?_some {bare left : List Char} (comment : pastComment? bare = some left) :
    skipTrivia left = skipTrivia bare ∧ left.length + 2 ≤ bare.length := by
  unfold pastComment? at comment
  split at comment
  · rename_i rest
    cases comment
    have shorter := (List.dropWhile_suffix (p := (· != '\n')) (l := rest)).length_le
    refine ⟨skipComment_dropWhile rest, ?_⟩
    simp only [List.length_cons]
    omega
  · cases comment

theorem skipRounds_eq (enough : text.length < 2 * rounds) :
    skipRounds rounds text = some (skipTrivia text) := by
  induction rounds generalizing text with
  | zero => exact absurd enough (Nat.not_lt_zero _)
  | succ rounds ih =>
    have blanks := (List.dropWhile_suffix (p := isBlank) (l := text)).length_le
    rw [skipRounds, ← skipTrivia_dropWhile text]
    cases comment : pastComment? (text.dropWhile isBlank) with
    | none => rw [Option.elim_none, (dropWhile_bare comment).skipTrivia]
    | some left =>
      obtain ⟨same, shorter⟩ := pastComment?_some comment
      rw [Option.elim_some, ih (by omega), same]

namespace Token

theorem stopped_at (stops : next text = (stop reason, after)) : after = skipTrivia text := by
  cases reason with
  | endOfInput =>
    have none := skipTrivia_of_end stops
    rw [next, none] at stops
    cases stops
    exact none.symm
  | invalid error => exact (read_refused stops).1

theorem next_again (stops : next text = (stop reason, after)) :
    next after = (stop reason, after) := by
  have left := stopped_at stops
  have stays : next after = next text := by
    rw [next, next, left, (skipTrivia_bare text).skipTrivia]
  exact stays.trans stops

theorem pull_again (again : next text = (stop reason, text)) (count : Nat) :
    pull count text = List.replicate count (stop reason) := by
  induction count with
  | zero => rfl
  | succ count ih =>
    simp only [pull, again, ih]
    rfl

theorem pull_stopped (stops : next text = (stop reason, after)) (more : Nat) :
    pull (more + 1) text = List.replicate (more + 1) (stop reason) := by
  simp only [pull, stops, pull_again (next_again stops)]
  rfl

theorem pull_lexed (text : List Char) (more : Nat) :
    pull ((lex text).1.length + (more + 1)) text =
      (lex text).1.map lexeme ++ List.replicate (more + 1) (stop (lex text).2) := by
  fun_induction lex text with
  | case1 text found rest reads shorter others reason lexed ih =>
    rw [lexed] at ih
    rw [List.length_cons, Nat.add_right_comm, pull, reads]
    simp only [ih, List.map_cons, List.cons_append]
  | case2 text reason rest reads =>
    rw [List.length_nil, Nat.zero_add, pull_stopped reads]
    rfl

theorem next_length_le (text : List Char) : (next text).2.length ≤ text.length := by
  cases reads : next text with
  | mk token rest =>
    cases token with
    | lexeme found => exact Nat.le_of_lt (next_shortens reads)
    | stop reason =>
      rw [stopped_at reads]
      exact skipTrivia_length_le text

end Token

namespace Scanner

-- Where a reader keeps a token, it is the one that is to be found at the front of its input, and
-- the same input would be left after it.
def Keeps (scanner : Scanner) : Prop :=
  ∀ token ∈ scanner.failed?, Token.next scanner.input = (token, scanner.input)

theorem ofText_keeps (text : List Char) : (ofText text).Keeps := by
  rintro token ⟨⟩

theorem failed_keeps (text : List Char) :
    Keeps ⟨(Token.next text).2, (Token.next text).1.failure?⟩ := by
  intro token member
  cases reads : Token.next text with
  | mk found rest =>
    rw [reads] at member
    cases found with
    | lexeme found => cases member
    | stop reason =>
      cases reason with
      | endOfInput => cases member
      | invalid error =>
        cases member
        exact Token.next_again reads

theorem next?_eq {scanner : Scanner} (keeps : scanner.Keeps)
    (enough : scanner.input.length < 2 * rounds) :
    ∃ after, scanner.next? rounds = some ((Token.next scanner.input).1, after) ∧
      after.input = (Token.next scanner.input).2 ∧ after.Keeps := by
  obtain ⟨input, _ | token⟩ := scanner
  · have called : next? rounds ⟨input, none⟩ = some ((Token.next input).1,
        ⟨(Token.next input).2, (Token.next input).1.failure?⟩) := by
      simp only [next?, skipRounds_eq enough]
      rfl
    exact ⟨_, called, rfl, failed_keeps input⟩
  · have kept : Token.next input = (token, input) := keeps token rfl
    refine ⟨⟨input, some token⟩, ?_, ?_, keeps⟩
    · simp only [next?, kept]
    · simp only [kept]

theorem calls?_eq {scanner : Scanner} (keeps : scanner.Keeps)
    (enough : scanner.input.length < 2 * rounds) (count : Nat) :
    scanner.calls? rounds count = some (Token.pull count scanner.input) := by
  induction count generalizing scanner with
  | zero => rfl
  | succ count ih =>
    obtain ⟨after, called, input, keeps⟩ := next?_eq keeps enough
    have shorter := Token.next_length_le scanner.input
    rw [← input] at shorter
    have others := ih keeps (Nat.lt_of_le_of_lt shorter enough)
    rw [input] at others
    rw [calls?, called, Option.bind_eq_bind, Option.bind_some]
    dsimp only
    rw [others]
    rfl

end Scanner

-- Skipping ends after a round for every two characters and one more. After no more lexemes than
-- there are characters the calls come to an end, and however many follow, to no other.
theorem calls_end_for_good (text : List Char) :
    (∀ spare, skipRounds (text.length / 2 + 1 + spare) text = some (skipTrivia text)) ∧
    (∀ spare count, (Scanner.ofText text).calls? (text.length / 2 + 1 + spare) count =
      some (Token.pull count text)) ∧
    ∃ (lexemes : List Lexeme) (reason : Stop), lexemes.length ≤ text.length ∧
      ∀ spare more,
        (Scanner.ofText text).calls? (text.length / 2 + 1 + spare) (lexemes.length + (more + 1)) =
          some (lexemes.map .lexeme ++ List.replicate (more + 1) (.stop reason)) := by
  have enough (spare : Nat) : text.length < 2 * (text.length / 2 + 1 + spare) := by omega
  have pulls (spare count : Nat) := Scanner.calls?_eq (Scanner.ofText_keeps text) (enough spare) count
  refine ⟨fun spare => skipRounds_eq (enough spare), pulls, _, (lex text).2, lex_length_le text, ?_⟩
  intro spare more
  rw [← Token.pull_lexed text more]
  exact pulls spare _

example : (Scanner.ofText "//\na //b".toList).calls? 2 3 =
    some [.lexeme (.word "a"), .stop .endOfInput, .stop .endOfInput] := by decide +kernel

end Ebml.Edtd
