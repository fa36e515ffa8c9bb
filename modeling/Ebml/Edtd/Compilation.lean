import Ebml.Edtd.Place

namespace Ebml.Edtd

-- Reading a schema's source lexeme by lexeme. What has been declared so far and the place
-- reached are all that the rest of the source depends on.
structure State where
  schema : Schema
  place : Place

namespace State

def start : State := ⟨Builtin.schema, .block⟩

def declare (schema : Schema) (nesting : Nesting) (definition : Definition) : State :=
  match nesting.enclosing with
  | around :: outer =>
    let around := { around with children := around.children ++ [definition] }
    ⟨schema, .declarations { nesting with enclosing := around :: outer } .entry⟩
  | [] =>
    let schema := match nesting.kind with
      | .element => schema.declare definition
      | .alias => schema.addAlias definition
    ⟨schema, .declarations nesting .entry⟩

def endList (schema : Schema) (nesting : Nesting) : State :=
  match nesting.enclosing with
  | around :: outer =>
    declare schema { nesting with enclosing := outer }
      { around.container with children? := some around.children }
  | [] => ⟨schema, .block⟩

def startList (schema : Schema) (nesting : Nesting) (container : Definition) : State :=
  ⟨schema, .declarations { nesting with enclosing := ⟨container, []⟩ :: nesting.enclosing } .entry⟩

def ofType (schema : Schema) (id : ElementId) (name type : String) :
    Except Fault Definition :=
  match ElementType.ofName? type with
  | some type => .ok (.new id type name)
  | none =>
    match schema.alias? type with
    | some template => .ok { template with id := id, name := name }
    | none => .error (.unknownType type)

def feedHeader (schema : Schema) (place : HeaderPlace) (lexeme : Lexeme) :
    Except Fault State :=
  let refused := .error (.unexpected place.expected (some lexeme))
  match place with
  | .entry =>
    match lexeme with
    | .symbol .closeBrace => .ok ⟨schema, .block⟩
    | .word name => .ok ⟨schema, .header (.assign name)⟩
    | _ => refused
  | .assign name =>
    if lexeme = .symbol .assign then .ok ⟨schema, .header (.value name)⟩ else refused
  | .value name =>
    match lexeme with
    | .symbol _ => refused
    | value => .ok ⟨schema, .header (.finish name value)⟩
  | .finish name value =>
    if lexeme = .symbol .semicolon then
      match schema.lastNamed? name with
      | none => .error (.unknownElement name)
      | some definition => do
        let bytes ← defaultBytes definition.type value
        return ⟨schema.overrideDefault name bytes, .header .entry⟩
    else refused

def feedTerm (schema : Schema) (nesting : Nesting) (definition : Definition)
    (terms : List RangeTerm) (lexeme : Lexeme) : Except Fault State :=
  let refused := .error (.unexpected .rangeTerm (some lexeme))
  match lexeme with
  | .word text =>
    .ok ⟨schema, .declarations nesting (.termEnd definition (terms ++ [.span text]))⟩
  | .symbol mark =>
    match Relation.ofSymbol? mark with
    | some relation =>
      .ok ⟨schema, .declarations nesting (.termNumber definition terms relation)⟩
    | none => refused
  | .quoted _ => refused

-- A parameter of no known name ends at the first semicolon.
def feedIgnored (schema : Schema) (nesting : Nesting) (definition : Definition)
    (lexeme : Lexeme) : Except Fault State :=
  match lexeme with
  | .symbol .semicolon => .ok ⟨schema, .declarations nesting (.parameter definition)⟩
  | .symbol .closeBracket => .error (.unexpected (.symbol .semicolon) (some lexeme))
  | _ => .ok ⟨schema, .declarations nesting (.ignored definition)⟩

def feedValue (schema : Schema) (nesting : Nesting) (definition : Definition)
    (parameter : String) (lexeme : Lexeme) : Except Fault State :=
  let ended (definition : Definition) : State :=
    ⟨schema, .declarations nesting (.parameterEnd definition)⟩
  match parameter with
  | "card" => do
    let cardinality ← cardinality lexeme
    return ended { definition with cardinality := cardinality }
  | "def" => do
    let bytes ← defaultBytes definition.type lexeme
    return ended { definition with default? := some bytes }
  | "size" => do
    let size ← payloadSize lexeme
    return ended { definition with size := size }
  | "range" => feedTerm schema nesting definition [] lexeme
  | _ => feedIgnored schema nesting definition lexeme

def feedDeclaration (schema : Schema) (nesting : Nesting) (place : DeclarationPlace)
    (lexeme : Lexeme) : Except Fault State :=
  let goto (place : DeclarationPlace) : Except Fault State :=
    .ok ⟨schema, .declarations nesting place⟩
  let refused := .error (place.refusal (some lexeme))
  match place with
  | .entry =>
    match lexeme with
    | .symbol .closeBrace => .ok (endList schema nesting)
    | .symbol .percent => goto .marker
    | .word name => goto (.assign name)
    | _ => refused
  | .marker => if lexeme = .word "children" then goto .markerEnd else refused
  | .markerEnd => if lexeme = .symbol .semicolon then goto .entry else refused
  | .assign name =>
    if lexeme = .symbol .assign then
      match nesting.kind with
      | .element => goto (.id name)
      | .alias => goto (.type name 0)
    else refused
  | .id name =>
    match lexeme with
    | .word literal => do
      let id ← elementId literal
      goto (.type name id)
    | _ => refused
  | .type name id =>
    match lexeme with
    | .word type => do
      let definition ← ofType schema id name type
      goto (.tail definition)
    | _ => refused
  | .tail definition =>
    match lexeme with
    | .symbol .semicolon => .ok (declare schema nesting definition)
    | .symbol .openBracket => goto (.parameter definition)
    | .symbol .openBrace =>
      if definition.isContainer then .ok (startList schema nesting definition)
      else .error (.unexpectedChildren definition.name)
    | _ => refused
  | .parameter definition =>
    match lexeme with
    | .symbol .closeBracket =>
      if definition.isContainer then goto (.children definition)
      else .ok (declare schema nesting definition)
    | .word parameter => goto (.colon definition parameter)
    | _ => refused
  | .colon definition parameter =>
    if lexeme = .symbol .colon then goto (.value definition parameter) else refused
  | .value definition parameter => feedValue schema nesting definition parameter lexeme
  | .parameterEnd definition =>
    if lexeme = .symbol .semicolon then goto (.parameter definition) else refused
  | .term definition terms => feedTerm schema nesting definition terms lexeme
  | .termNumber definition terms relation =>
    match lexeme with
    | .word number => goto (.termEnd definition (terms ++ [.related relation number]))
    | _ => refused
  | .termEnd definition terms =>
    match lexeme with
    | .symbol .comma => goto (.term definition terms)
    | .symbol .semicolon => do
      let range ← rangeOf definition.type terms
      goto (.parameter { definition with range? := some range })
    | _ => refused
  | .ignored definition => feedIgnored schema nesting definition lexeme
  | .children definition =>
    if lexeme = .symbol .openBrace then .ok (startList schema nesting definition) else refused

def feed (state : State) (lexeme : Lexeme) : Except Fault State :=
  let refused := .error (state.place.refusal (some lexeme))
  match state.place with
  | .block =>
    if lexeme = .word "declare" ∨ lexeme = .word "define" then
      .ok { state with place := .blockKind }
    else refused
  | .blockKind =>
    match lexeme with
    | .word "elements" => .ok { state with place := .blockStart .elements }
    | .word "header" => .ok { state with place := .blockStart .header }
    | .word "types" => .ok { state with place := .blockStart .types }
    | _ => refused
  | .blockStart kind =>
    if lexeme = .symbol .openBrace then
      .ok { state with place := match kind with
        | .elements => .declarations ⟨.element, []⟩ .entry
        | .header => .header .entry
        | .types => .declarations ⟨.alias, []⟩ .entry }
    else refused
  | .header place => feedHeader state.schema place lexeme
  | .declarations nesting place => feedDeclaration state.schema nesting place lexeme

def feedAll (state : State) (lexemes : List Lexeme) : Except Fault State :=
  lexemes.foldlM feed state

def finish (state : State) : Stop → Except Fault Schema
  | .invalid error => .error (.lexical error)
  | .endOfInput =>
    match state.place with
    | .block => .ok state.schema
    | place => .error (place.refusal none)

theorem feedAll_append (state : State) (first rest : List Lexeme) :
    feedAll state (first ++ rest) = (feedAll state first).bind (feedAll · rest) :=
  List.foldlM_append

end State

end Ebml.Edtd

namespace Ebml.Schema

def ofText (source : String) : Except Edtd.Fault Schema := do
  let (lexemes, stop) := Edtd.lex source.toList
  let state ← Edtd.State.start.feedAll lexemes
  state.finish stop

def ofBytes (source : Bytes) : Except Edtd.Fault Schema :=
  match Bytes.utf8? source with
  | some text => ofText text
  | none => .error .notUtf8

end Ebml.Schema
