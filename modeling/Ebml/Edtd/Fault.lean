import Ebml.Edtd.Lexeme
import Ebml.ElementType

namespace Ebml.Edtd

inductive Expected where
  | blockStart
  | blockKind
  | symbol (mark : Symbol)
  | childrenMarker
  | elementName
  | word
  | headerValue
  | declarationTail
  | punctuation
  | parameterName
  | parameterValue
  | textDefault
  | rangeTerm
  | rangeSeparator
deriving DecidableEq, Repr

-- Why a source text is no schema. What was found is `none` at the end of the input.
inductive Fault where
  | notUtf8
  | lexical (error : LexFault)
  | unexpected (expected : Expected) (found? : Option Lexeme)
  | unknownType (name : String)
  | invalidId (literal : String)
  | invalidLiteral (type : ElementType) (literal : String)
  | unsupportedDefault (type : ElementType)
  | unsupportedRange (type : ElementType)
  | unknownCardinality (found : Lexeme)
  | unexpectedChildren (name : String)
  | missingChildren (name : String) (found? : Option Lexeme)
  | unknownElement (name : String)
deriving DecidableEq, Repr

namespace Expected

def text : Expected → String
  | blockStart => "'declare' or 'define'"
  | blockKind => "'elements' or 'header' or 'types'"
  | symbol mark => s!"'{mark.text}'"
  | childrenMarker => "'children'"
  | elementName => "an element name or '\x7d'"
  | word => "an identifier or number"
  | headerValue => "an identifier or number or a quoted string"
  | declarationTail => "';', '[' or '\x7b'"
  | punctuation => "punctuation"
  | parameterName => "a parameter name or ']'"
  | parameterValue => "an identifier or number or a quoted string or punctuation"
  | textDefault => "a quoted string or a 0x-prefixed hex literal"
  | rangeTerm => "a range bound"
  | rangeSeparator => "';' or ','"

end Expected

namespace Fault

def foundText : Option Lexeme → String
  | some lexeme => lexeme.display
  | none => "end of input"

def message : Fault → String
  | notUtf8 => "I/O error: stream did not contain valid UTF-8"
  | lexical error => s!"lexical error: {error.message}"
  | unexpected expected found? => s!"expected {expected.text} but found {foundText found?}"
  | unknownType name => s!"unknown type '{name}'"
  | invalidId literal => s!"invalid element ID '{literal}'"
  | invalidLiteral type literal => s!"invalid {type.name} literal '{literal}'"
  | unsupportedDefault type => s!"default values are not supported for {type.name} elements"
  | unsupportedRange type => s!"ranges are not supported for {type.name} elements"
  | unknownCardinality found => s!"unknown cardinality {found.display}"
  | unexpectedChildren name => s!"{name} is not a container and cannot have children"
  | missingChildren name found? =>
    s!"container {name} must open its children with '\x7b' but found {foundText found?}"
  | unknownElement name => s!"header refers to unknown element '{name}'"

example : (unexpected .declarationTail none).message =
    "expected ';', '[' or '\x7b' but found end of input" := by decide +kernel

end Fault

end Ebml.Edtd
