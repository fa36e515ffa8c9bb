import Ebml.Bytes

namespace Ebml.Quoted

-- What stands between the quotes of a quoted text, read as bytes. A backslash and a
-- character after it stand for one character, except that the letter x and two hex
-- digits stand for one byte; all other characters are taken in UTF-8.
def escaped? : Char → Option Char
  | 'n' => some '\n'
  | 't' => some '\t'
  | 'r' => some '\r'
  | '0' => some (Char.ofNat 0)
  | '\\' => some '\\'
  | '"' => some '"'
  | '\x27' => some '\x27'
  | _ => none

def unescape : List Char → Option Bytes
  | [] => some []
  | '\\' :: 'x' :: high :: low :: rest => do
    let byte ← Bytes.hexPair? high low
    let bytes ← unescape rest
    return byte :: bytes
  | '\\' :: c :: rest => do
    let meant ← escaped? c
    let bytes ← unescape rest
    return String.utf8EncodeChar meant ++ bytes
  | ['\\'] => none
  | c :: rest => (unescape rest).map (String.utf8EncodeChar c ++ ·)

example : unescape ['a', '\\', 't', '\\', 'x', 'f', 'F'] = some [97, 9, 255] := by decide
example : unescape ['\\', 'x', '4'] = none := by decide
example : unescape ['\\', 'q'] = none := by decide

end Ebml.Quoted
