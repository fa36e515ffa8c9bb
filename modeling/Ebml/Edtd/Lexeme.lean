import Ebml.Text.Alphanumeric

namespace Ebml.Edtd

inductive Symbol where
  | assign
  | atLeast
  | atMost
  | openBrace
  | closeBrace
  | openBracket
  | closeBracket
  | colon
  | semicolon
  | comma
  | percent
  | less
  | greater
  | star
  | question
  | plus
deriving DecidableEq, Repr

inductive Lexeme where
  -- An identifier or a number, with a sign if it has one.
  | word (text : String)
  | symbol (mark : Symbol)
  -- What stands between the quotes, escapes unresolved.
  | quoted (body : String)
deriving DecidableEq, Repr

inductive LexFault where
  | unterminatedText
  | unexpectedCharacter (found : Char)
deriving DecidableEq, Repr

inductive Stop where
  | endOfInput
  | invalid (error : LexFault)
deriving DecidableEq, Repr

inductive Token where
  | lexeme (found : Lexeme)
  | stop (reason : Stop)
deriving DecidableEq, Repr

namespace Symbol

def text : Symbol → String
  | assign => ":="
  | atLeast => ">="
  | atMost => "<="
  | openBrace => "\x7b"
  | closeBrace => "\x7d"
  | openBracket => "["
  | closeBracket => "]"
  | colon => ":"
  | semicolon => ";"
  | comma => ","
  | percent => "%"
  | less => "<"
  | greater => ">"
  | star => "*"
  | question => "?"
  | plus => "+"

def read? : List Char → Option (Symbol × List Char)
  | ':' :: '=' :: rest => some (assign, rest)
  | '>' :: '=' :: rest => some (atLeast, rest)
  | '<' :: '=' :: rest => some (atMost, rest)
  | '\x7b' :: rest => some (openBrace, rest)
  | '\x7d' :: rest => some (closeBrace, rest)
  | '[' :: rest => some (openBracket, rest)
  | ']' :: rest => some (closeBracket, rest)
  | ':' :: rest => some (colon, rest)
  | ';' :: rest => some (semicolon, rest)
  | ',' :: rest => some (comma, rest)
  | '%' :: rest => some (percent, rest)
  | '<' :: rest => some (less, rest)
  | '>' :: rest => some (greater, rest)
  | '*' :: rest => some (star, rest)
  | '?' :: rest => some (question, rest)
  | '+' :: rest => some (plus, rest)
  | _ => none

theorem read?_shortens {text rest : List Char} {symbol : Symbol}
    (found : read? text = some (symbol, rest)) : rest.length < text.length := by
  unfold read? at found
  split at found <;> cases found <;> simp only [List.length_cons] <;> omega

end Symbol

namespace Lexeme

def text : Lexeme → String
  | word text => text
  | symbol mark => mark.text
  | quoted body => s!"\"{body}\""

def display (lexeme : Lexeme) : String := s!"'{lexeme.text}'"

end Lexeme

namespace LexFault

def message : LexFault → String
  | unterminatedText => "unterminated quoted string"
  | unexpectedCharacter found => s!"unexpected character '{found}'"

end LexFault

def isWordChar (c : Char) : Bool := Text.isAlphanumeric c || c == '.' || c == '_'

def isBlank (c : Char) : Bool := c == ' ' || c == '\t' || c == '\r' || c == '\n'

mutual
def skipTrivia : List Char → List Char
  | [] => []
  | '/' :: '/' :: rest => skipComment rest
  | c :: rest => if isBlank c then skipTrivia rest else c :: rest

def skipComment : List Char → List Char
  | [] => []
  | '\n' :: rest => skipTrivia rest
  | _ :: rest => skipComment rest
end

-- A word may start with a minus sign, but needs a word character after it.
def readWord? (text : List Char) : Option (List Char × List Char) :=
  let (sign, rest) := match text with
    | '-' :: rest => (['-'], rest)
    | _ => ([], text)
  let body := rest.takeWhile isWordChar
  if body.isEmpty then none else some (sign ++ body, rest.dropWhile isWordChar)

def readQuoted? : List Char → Option (List Char × List Char)
  | [] => none
  | '"' :: rest => some ([], rest)
  | ['\\'] => none
  | '\\' :: escaped :: rest =>
    (readQuoted? rest).map fun (body, after) => ('\\' :: escaped :: body, after)
  | c :: rest => (readQuoted? rest).map fun (body, after) => (c :: body, after)

namespace Token

def text : Token → String
  | lexeme found => found.text
  | stop .endOfInput => ""
  | stop (.invalid error) => error.message

def display : Token → String
  | lexeme found => found.display
  | stop .endOfInput => "end of input"
  | stop (.invalid error) => s!"'{error.message}'"

-- Reads the token that starts a text free of blanks and comments. After a stop the text
-- is left where it is, so that every later call stops in the same way.
def read : List Char → Token × List Char
  | [] => (stop .endOfInput, [])
  | '"' :: rest =>
    match readQuoted? rest with
    | some (body, after) => (lexeme (.quoted (String.ofList body)), after)
    | none => (stop (.invalid .unterminatedText), '"' :: rest)
  | c :: rest =>
    match readWord? (c :: rest) with
    | some (word, after) => (lexeme (.word (String.ofList word)), after)
    | none =>
      match Symbol.read? (c :: rest) with
      | some (symbol, after) => (lexeme (.symbol symbol), after)
      | none => (stop (.invalid (.unexpectedCharacter c)), c :: rest)

def next (text : List Char) : Token × List Char := read (skipTrivia text)

def pull : Nat → List Char → List Token
  | 0, _ => []
  | count + 1, text =>
    let (token, rest) := next text
    token :: pull count rest

end Token

theorem skipTrivia_length_le (text : List Char) : (skipTrivia text).length ≤ text.length := by
  refine skipTrivia.induct (fun text => (skipTrivia text).length ≤ text.length)
    (fun text => (skipComment text).length ≤ text.length) ?_ ?_ ?_ ?_ ?_ ?_ ?_ text
  all_goals intros; simp_all [skipTrivia, skipComment]
  all_goals omega

theorem readWord?_shortens {text word rest : List Char}
    (found : readWord? text = some (word, rest)) : rest.length < text.length := by
  have split (body : List Char) (nonempty : (body.takeWhile isWordChar).isEmpty = false) :
      (body.dropWhile isWordChar).length < body.length := by
    have parts := congrArg List.length
      (List.takeWhile_append_dropWhile (p := isWordChar) (l := body))
    have positive : 0 < (body.takeWhile isWordChar).length := by
      simpa [List.length_pos_iff] using nonempty
    simp only [List.length_append] at parts
    omega
  unfold readWord? at found
  split at found
  rename_i sign body signed
  have short : body.length ≤ text.length := by
    split at signed <;> cases signed <;> simp
  dsimp only at found
  split at found
  · cases found
  · rename_i nonempty
    cases found
    exact Nat.lt_of_lt_of_le (split body (by simpa using nonempty)) short

theorem readQuoted?_shortens {text body rest : List Char}
    (found : readQuoted? text = some (body, rest)) : rest.length < text.length := by
  fun_induction readQuoted? text generalizing body rest with
  | case1 => cases found
  | case2 => cases found; simp
  | case3 => cases found
  | case4 escaped after ih =>
    obtain ⟨⟨inner, left⟩, inside, same⟩ := Option.map_eq_some_iff.mp found
    cases same
    have := ih inside
    simp only [List.length_cons]
    omega
  | case5 c after _ _ _ ih =>
    obtain ⟨⟨inner, left⟩, inside, same⟩ := Option.map_eq_some_iff.mp found
    cases same
    have := ih inside
    simp only [List.length_cons]
    omega

namespace Token

theorem read_shortens {text rest : List Char} {found : Lexeme}
    (reads : read text = (lexeme found, rest)) : rest.length < text.length := by
  unfold read at reads
  split at reads
  · cases reads
  · split at reads
    · rename_i closed
      cases reads
      have := readQuoted?_shortens closed
      simp only [List.length_cons]
      omega
    · cases reads
  · split at reads
    · rename_i isWord
      cases reads
      exact readWord?_shortens isWord
    · split at reads
      · rename_i isSymbol
        cases reads
        exact Symbol.read?_shortens isSymbol
      · cases reads

theorem next_shortens {text rest : List Char} {found : Lexeme}
    (reads : next text = (lexeme found, rest)) : rest.length < text.length :=
  Nat.lt_of_lt_of_le (read_shortens reads) (skipTrivia_length_le text)

end Token

def lex (text : List Char) : List Lexeme × Stop :=
  match reads : Token.next text with
  | (.lexeme found, rest) =>
    have := Token.next_shortens reads
    let (found', stop) := lex rest
    (found :: found', stop)
  | (.stop reason, _) => ([], reason)
termination_by text.length

example : lex "a:=b // c\n\t\"x\\\"y\" >=-1".toList =
    ([.word "a", .symbol .assign, .word "b", .quoted "x\\\"y", .symbol .atLeast, .word "-1"],
      .endOfInput) := by decide +kernel
example : lex "a -".toList = ([.word "a"], .invalid (.unexpectedCharacter '-')) := by
  decide +kernel
example : lex "\"a".toList = ([], .invalid .unterminatedText) := by decide +kernel

end Ebml.Edtd
