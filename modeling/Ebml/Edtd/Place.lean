import Ebml.Edtd.Parameter

namespace Ebml.Edtd

-- Where in the language a reader of lexemes stands, together with what it has read of the
-- constructs that are still open. Blocks do not nest, but containers in a block do.
inductive BlockKind where
  | elements
  | header
  | types
deriving DecidableEq, Repr

inductive DeclarationKind where
  | element
  | alias
deriving DecidableEq, Repr

structure OpenContainer where
  container : Definition
  children : List Definition

structure Nesting where
  kind : DeclarationKind
  enclosing : List OpenContainer

inductive HeaderPlace where
  | entry
  | assign (name : String)
  | value (name : String)
  | finish (name : String) (value : Lexeme)

inductive DeclarationPlace where
  | entry
  -- Inside a marker that stands for the children of the surroundings.
  | marker
  | markerEnd
  | assign (name : String)
  | id (name : String)
  | type (name : String) (id : ElementId)
  | tail (definition : Definition)
  | parameter (definition : Definition)
  | colon (definition : Definition) (parameter : String)
  | value (definition : Definition) (parameter : String)
  | parameterEnd (definition : Definition)
  -- Between the terms of a range, of which some have been read.
  | term (definition : Definition) (terms : List RangeTerm)
  | termNumber (definition : Definition) (terms : List RangeTerm) (relation : Relation)
  | termEnd (definition : Definition) (terms : List RangeTerm)
  -- Inside a parameter of no known name.
  | ignored (definition : Definition)
  | children (definition : Definition)

inductive Place where
  | block
  | blockKind
  | blockStart (kind : BlockKind)
  | header (place : HeaderPlace)
  | declarations (nesting : Nesting) (place : DeclarationPlace)

namespace HeaderPlace

def expected : HeaderPlace → Expected
  | entry => .elementName
  | assign _ => .symbol .assign
  | value _ => .headerValue
  | finish _ _ => .symbol .semicolon

end HeaderPlace

namespace DeclarationPlace

def refusal (found? : Option Lexeme) : DeclarationPlace → Fault
  | entry => .unexpected .elementName found?
  | marker => .unexpected .childrenMarker found?
  | markerEnd => .unexpected (.symbol .semicolon) found?
  | assign _ => .unexpected (.symbol .assign) found?
  | id _ => .unexpected .word found?
  | type _ _ => .unexpected .word found?
  | tail _ =>
    match found? with
    | some (.symbol _) => .unexpected .declarationTail found?
    | _ => .unexpected .punctuation found?
  | parameter _ => .unexpected .parameterName found?
  | colon _ _ => .unexpected (.symbol .colon) found?
  | value _ _ => .unexpected .parameterValue found?
  | parameterEnd _ => .unexpected (.symbol .semicolon) found?
  | term _ _ => .unexpected .rangeTerm found?
  | termNumber _ _ _ => .unexpected .word found?
  | termEnd _ _ => .unexpected .rangeSeparator found?
  | ignored _ => .unexpected (.symbol .semicolon) found?
  | children definition => .missingChildren definition.name found?

end DeclarationPlace

namespace Place

def refusal (found? : Option Lexeme) : Place → Fault
  | block => .unexpected .blockStart found?
  | blockKind => .unexpected .blockKind found?
  | blockStart _ => .unexpected (.symbol .openBrace) found?
  | header place => .unexpected place.expected found?
  | declarations _ place => place.refusal found?

end Place

end Ebml.Edtd
