import Ebml.Builtin
import Ebml.Edtd.Fault
import Ebml.Literal
import Ebml.Quoted
import Ebml.Vint

namespace Ebml.Edtd

-- What the lexemes of a declaration mean: its identifier, and the values of its parameters.
-- A word that spells a value wrongly is reported with the type it was read for.
def readLiteral {α : Type} (type : ElementType) (read? : List Char → Option α)
    (literal : String) : Except Fault α :=
  match read? literal.toList with
  | some value => .ok value
  | none => .error (.invalidLiteral type literal)

def elementId? (literal : String) : Option ElementId := do
  let bytes ← Bytes.ofHex? literal.toList
  match Vint.decode bytes with
  | .ok (vint, []) => if vint.value = 0 then none else some vint.value
  | _ => none

def elementId (literal : String) : Except Fault ElementId :=
  match elementId? literal with
  | some id => .ok id
  | none => .error (.invalidId literal)

def cardinality : Lexeme → Except Fault Cardinality
  | .symbol .star => .ok .zeroOrMore
  | .symbol .question => .ok .zeroOrOne
  | .word "1" => .ok .exactlyOne
  | .symbol .plus => .ok .oneOrMore
  | found => .error (.unknownCardinality found)

def payloadSize (value : Lexeme) : Except Fault Nat :=
  readLiteral .uint Literal.uint64? value.text

def signedBytes (n : Int) : Bytes := Bytes.toBigEndian 8 (n % 0x10000000000000000).toNat

def textDefault (type : ElementType) (value : Lexeme) : Except Fault Bytes :=
  match value with
  | .quoted body =>
    match Quoted.unescape body.toList with
    | some bytes => .ok bytes
    | none => .error (.invalidLiteral .string value.text)
  | .word word =>
    match word.toList with
    | '0' :: 'x' :: digits =>
      match Bytes.ofHex? digits with
      | some bytes => .ok bytes
      | none => .error (.invalidLiteral type word)
    | _ => .error (.unexpected .textDefault (some value))
  | .symbol _ => .error (.unexpected .textDefault (some value))

-- A default as an element of the type stores it: numbers take eight bytes.
def defaultBytes (type : ElementType) (value : Lexeme) : Except Fault Bytes :=
  match type with
  | .int => signedBytes <$> readLiteral type Literal.int64? value.text
  | .uint => Bytes.toBigEndian 8 <$> readLiteral type Literal.uint64? value.text
  | .float =>
    (fun x => Bytes.toBigEndian 8 x.bits.toNat) <$> readLiteral type Literal.float? value.text
  | .string | .binary => textDefault type value
  | .date | .container => .error (.unsupportedDefault type)

inductive Relation where
  | less
  | atMost
  | greater
  | atLeast
deriving DecidableEq, Repr

def Relation.ofSymbol? : Symbol → Option Relation
  | .less => some .less
  | .atMost => some .atMost
  | .greater => some .greater
  | .atLeast => some .atLeast
  | _ => none

inductive RangeTerm where
  | related (relation : Relation) (number : String)
  | span (text : String)
deriving DecidableEq, Repr

def splitAtPoints? : List Char → Option (List Char × List Char)
  | '.' :: '.' :: rest => some ([], rest)
  | c :: rest => (splitAtPoints? rest).map fun (before, after) => (c :: before, after)
  | [] => none

def endpoint {α : Type} (value : String → Except Fault α) (literal : List Char) :
    Except Fault (Bound α) :=
  if literal.isEmpty then .ok .unbounded else .included <$> value (String.ofList literal)

def spanned {α : Type} (value : String → Except Fault α) (text : String) :
    Except Fault (Interval α) :=
  match splitAtPoints? text.toList with
  | some (lower, upper) => do
    let lower ← endpoint value lower
    let upper ← endpoint value upper
    return ⟨lower, upper⟩
  | none => Interval.exactly <$> value text

def RangeTerm.interval {α : Type} (value : String → Except Fault α) :
    RangeTerm → Except Fault (Interval α)
  | related .less number => (⟨.unbounded, .excluded ·⟩) <$> value number
  | related .atMost number => (⟨.unbounded, .included ·⟩) <$> value number
  | related .greater number => (⟨.excluded ·, .unbounded⟩) <$> value number
  | related .atLeast number => (⟨.included ·, .unbounded⟩) <$> value number
  | span text => spanned value text

-- Texts and byte strings are ranged by their codes, dates by their count of nanoseconds.
def rangeOf (type : ElementType) (terms : List RangeTerm) : Except Fault Range :=
  match type with
  | .int | .date =>
    .int <$> terms.mapM (·.interval (readLiteral type Literal.int64?))
  | .uint | .string | .binary =>
    .uint <$> terms.mapM (·.interval (readLiteral type Literal.uint64?))
  | .float =>
    .float <$> terms.mapM (·.interval (readLiteral type Literal.float?))
  | .container => .error (.unsupportedRange type)

end Ebml.Edtd
