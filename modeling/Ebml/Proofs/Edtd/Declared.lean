import Ebml.Edtd.Compilation
import Ebml.Proofs.Edtd.Hexadecimal

namespace Ebml.Edtd

-- Declarations as they may be written, each part of them with what it means. What stands
-- in a text is kept beside its meaning, so that either can be had without the other.
structure Name where
  text : String
  spelled : isWord text.toList = true

structure IdLiteral where
  digits : List Char
  vint : Vint
  valid : vint.Valid
  nonzero : vint.value ≠ 0
  spells : Bytes.ofHex? digits = some vint.encode

inductive Piece where
  | plain (c : Char) (noQuote : c ≠ '"') (noEscape : c ≠ '\\')
  | escape (letter meant : Char) (means : Quoted.escaped? letter = some meant)
  | byte (high low : Char) (value : UInt8) (means : Bytes.hexPair? high low = some value)

namespace Piece

def text : Piece → List Char
  | plain c _ _ => [c]
  | escape letter _ _ => ['\\', letter]
  | byte high low _ _ => ['\\', 'x', high, low]

def bytes : Piece → Bytes
  | plain c _ _ => String.utf8EncodeChar c
  | escape _ meant _ => String.utf8EncodeChar meant
  | byte _ _ value _ => [value]

end Piece

inductive DefaultLiteral : ElementType → Type
  | int (number : Numeral Literal.int64?) : DefaultLiteral .int
  | uint (number : Numeral Literal.uint64?) : DefaultLiteral .uint
  | float (number : Numeral Literal.float?) : DefaultLiteral .float
  | quoted {type : ElementType} (textual : type = .string ∨ type = .binary)
      (pieces : List Piece) : DefaultLiteral type
  | hex {type : ElementType} (textual : type = .string ∨ type = .binary) (digits : List Char)
      (value : Bytes) (spells : Bytes.ofHex? digits = some value) : DefaultLiteral type

namespace DefaultLiteral

variable {type : ElementType}

def lexeme : DefaultLiteral type → Lexeme
  | int number => .word (String.ofList number.text)
  | uint number => .word (String.ofList number.text)
  | float number => .word (String.ofList number.text)
  | quoted _ pieces => .quoted (String.ofList (pieces.flatMap Piece.text))
  | hex _ digits _ _ => .word (String.ofList ('0' :: 'x' :: digits))

def bytes : DefaultLiteral type → Bytes
  | int number => signedBytes number.value
  | uint number => Bytes.toBigEndian 8 number.value
  | float number => Bytes.toBigEndian 8 number.value.bits.toNat
  | quoted _ pieces => pieces.flatMap Piece.bytes
  | hex _ _ value _ => value

end DefaultLiteral

-- One interval of a range. The number after two points has no sign, and the one before
-- them no point at its end, which would be read as one of the two.
inductive Term {α : Type} (read? : List Char → Option α) where
  | related (relation : Relation) (number : Numeral read?)
  | exactly (number : Numeral read?)
  | span (lower? upper? : Option (Numeral read?))
      (noPoint : ∀ lower ∈ lower?, lower.text.getLast? ≠ some '.')
      (noSign : ∀ upper ∈ upper?, upper.text.head? ≠ some '-')

def Relation.symbol : Relation → Symbol
  | .less => .less
  | .atMost => .atMost
  | .greater => .greater
  | .atLeast => .atLeast

namespace RangeTerm

def lexemes : RangeTerm → List Lexeme
  | related relation number => [.symbol relation.symbol, .word number]
  | span text => [.word text]

def listed (first : RangeTerm) (others : List RangeTerm) : List Lexeme :=
  first.lexemes ++ others.flatMap fun term => .symbol .comma :: term.lexemes

end RangeTerm

namespace Term

variable {α : Type} {read? : List Char → Option α}

def lexemes : Term read? → List Lexeme
  | related relation number => [.symbol relation.symbol, .word (String.ofList number.text)]
  | exactly number => [.word (String.ofList number.text)]
  | span lower? upper? _ _ =>
    [.word (String.ofList (lower?.elim [] (·.text) ++ '.' :: '.' :: upper?.elim [] (·.text)))]

def interval : Term read? → Interval α
  | related .less number => ⟨.unbounded, .excluded number.value⟩
  | related .atMost number => ⟨.unbounded, .included number.value⟩
  | related .greater number => ⟨.excluded number.value, .unbounded⟩
  | related .atLeast number => ⟨.included number.value, .unbounded⟩
  | exactly number => ⟨.included number.value, .included number.value⟩
  | span lower? upper? _ _ =>
    ⟨lower?.elim .unbounded (.included ·.value), upper?.elim .unbounded (.included ·.value)⟩

def separated (first : Term read?) (others : List (Term read?)) : List Lexeme :=
  first.lexemes ++ others.flatMap fun term => .symbol .comma :: term.lexemes

end Term

inductive RangeLiteral : ElementType → Type
  | int {type : ElementType} (signed : type = .int ∨ type = .date)
      (first : Term Literal.int64?) (others : List (Term Literal.int64?)) : RangeLiteral type
  | uint {type : ElementType} (unsigned : type = .uint ∨ type = .string ∨ type = .binary)
      (first : Term Literal.uint64?) (others : List (Term Literal.uint64?)) : RangeLiteral type
  | float (first : Term Literal.float?) (others : List (Term Literal.float?)) : RangeLiteral .float

namespace RangeLiteral

variable {type : ElementType}

def lexemes : RangeLiteral type → List Lexeme
  | int _ first others => first.separated others
  | uint _ first others => first.separated others
  | float first others => first.separated others

def range : RangeLiteral type → Range
  | int _ first others => .int ((first :: others).map (·.interval))
  | uint _ first others => .uint ((first :: others).map (·.interval))
  | float first others => .float ((first :: others).map (·.interval))

end RangeLiteral

def cardinalityMark : Cardinality → Lexeme
  | .zeroOrMore => .symbol .star
  | .zeroOrOne => .symbol .question
  | .exactlyOne => .word "1"
  | .oneOrMore => .symbol .plus

structure Parameters (type : ElementType) where
  cardinality? : Option Cardinality
  default? : Option (DefaultLiteral type)
  size? : Option (Numeral Literal.uint64?)
  range? : Option (RangeLiteral type)

namespace Parameters

variable {type : ElementType}

def parameter (name : String) (value : List Lexeme) : List Lexeme :=
  .word name :: .symbol .colon :: (value ++ [.symbol .semicolon])

def lexemes (parameters : Parameters type) : List Lexeme :=
  parameters.cardinality?.elim [] (fun written => parameter "card" [cardinalityMark written]) ++
  (parameters.default?.elim [] (fun literal => parameter "def" [literal.lexeme]) ++
  (parameters.size?.elim [] (fun size => parameter "size" [.word (String.ofList size.text)]) ++
  parameters.range?.elim [] (fun literal => parameter "range" literal.lexemes)))

def bracketed (parameters : Parameters type) : List Lexeme :=
  if parameters.lexemes = [] then []
  else .symbol .openBracket :: (parameters.lexemes ++ [.symbol .closeBracket])

-- What is not written is as if one element, no default, any size and any value were.
def define (parameters : Parameters type) (id : ElementId) (name : String)
    (children? : Option (List Definition)) : Definition where
  id := id
  type := type
  name := name
  default? := parameters.default?.map (·.bytes)
  size := (parameters.size?.map (·.value)).getD 0
  cardinality := parameters.cardinality?.getD .exactlyOne
  range? := parameters.range?.map (·.range)
  children? := children?

end Parameters

inductive Declarations where
  | none
  | leaf (name : Name) (id : IdLiteral) {type : ElementType} (plain : type ≠ .container)
      (parameters : Parameters type) (rest : Declarations)
  | container (name : Name) (id : IdLiteral) (parameters : Parameters .container)
      (children rest : Declarations)

namespace Declarations

def head (name : Name) (id : IdLiteral) (type : ElementType) : List Lexeme :=
  [.word name.text, .symbol .assign, .word (String.ofList id.digits), .word type.name]

def leafEnd {type : ElementType} (parameters : Parameters type) : List Lexeme :=
  if parameters.lexemes = [] then [.symbol .semicolon] else parameters.bracketed

def lexemes : Declarations → List Lexeme
  | .none => []
  | @leaf name id type _ parameters rest =>
    head name id type ++ (leafEnd parameters ++ rest.lexemes)
  | container name id parameters children rest =>
    head name id .container ++ (parameters.bracketed ++
      (.symbol .openBrace :: (children.lexemes ++ (.symbol .closeBrace :: rest.lexemes))))

def print (declared : Declarations) : String :=
  String.ofList (spell (.word "define" :: .word "elements" :: .symbol .openBrace ::
    (declared.lexemes ++ [.symbol .closeBrace])))

def definitions : Declarations → List Definition
  | .none => []
  | leaf name id _ parameters rest =>
    parameters.define id.vint.value name.text Option.none :: rest.definitions
  | container name id parameters children rest =>
    parameters.define id.vint.value name.text (some children.definitions) :: rest.definitions

def everyDefinition : Declarations → List Definition
  | .none => []
  | leaf name id _ parameters rest =>
    parameters.define id.vint.value name.text Option.none :: rest.everyDefinition
  | container name id parameters children rest =>
    parameters.define id.vint.value name.text (some children.definitions) ::
      (children.everyDefinition ++ rest.everyDefinition)

end Declarations

end Ebml.Edtd
