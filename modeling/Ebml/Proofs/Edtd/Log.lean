import Ebml.Proofs.Edtd.Outcome

namespace Ebml

-- What an onlooker notes while a source is read: the head of every element that it declares,
-- at whatever depth, the key of every template, every default that it sets in a header block,
-- and of which kind each block is.
structure Head where
  name : String
  id : ElementId
  type : ElementType
deriving DecidableEq, Repr

def Definition.head (definition : Definition) : Head :=
  ⟨definition.name, definition.id, definition.type⟩

structure Override where
  head : Head
  bytes : Bytes
deriving DecidableEq, Repr

namespace Edtd.State

variable {α : Type} {note : State → Lexeme → Option α} {state next : State} {lexeme : Lexeme}
  {schema : Schema}

def headRead? (state : State) (lexeme : Lexeme) : Option Head :=
  match state.place, lexeme with
  | .declarations ⟨.element, _⟩ (.type name id), .word type =>
    (ofType state.schema id name type).toOption.map Definition.head
  | _, _ => none

def overrideRead? (state : State) (lexeme : Lexeme) : Option Override :=
  match state.place, lexeme with
  | .header (.finish name value), .symbol .semicolon => do
    let definition ← state.schema.lastNamed? name
    let bytes ← (defaultBytes definition.type value).toOption
    return ⟨definition.head, bytes⟩
  | _, _ => none

def templateRead? (state : State) (lexeme : Lexeme) : Option String :=
  match state.place, lexeme with
  | .declarations ⟨.alias, []⟩ (.type name _), .word _ => some (Text.lower name)
  | _, _ => none

def blockRead? (state : State) (lexeme : Lexeme) : Option BlockKind :=
  match state.place, lexeme with
  | .blockKind, .word "elements" => some .elements
  | .blockKind, .word "header" => some .header
  | .blockKind, .word "types" => some .types
  | _, _ => none

def noted (note : State → Lexeme → Option α) (state : State) : List Lexeme → List α
  | [] => []
  | lexeme :: rest =>
    (note state lexeme).toList ++
      match state.feed lexeme with
      | .ok next => noted note next rest
      | .error _ => []

theorem noted_cons (fed : state.feed lexeme = .ok next) (rest : List Lexeme) :
    noted note state (lexeme :: rest) = (note state lexeme).toList ++ noted note next rest := by
  rw [noted, fed]

theorem noted_append {first : List Lexeme} (fed : state.feedAll first = .ok next)
    (rest : List Lexeme) :
    noted note state (first ++ rest) = noted note state first ++ noted note next rest := by
  induction first generalizing state with
  | nil =>
    cases fed
    rfl
  | cons lexeme others ih =>
    rw [feedAll_cons] at fed
    obtain ⟨between, fed, later⟩ := bind_eq_ok.mp fed
    rw [List.cons_append, noted_cons fed, noted_cons fed, ih later, List.append_assoc]

def Untyped (state : State) : Prop :=
  ∀ nesting name id, state.place ≠ .declarations nesting (.type name id)

theorem headRead?_untyped (untyped : state.Untyped) : state.headRead? lexeme = none := by
  unfold headRead?
  split
  · rename_i enclosing name id type place
    exact absurd place (untyped _ name id)
  · rfl

theorem templateRead?_untyped (untyped : state.Untyped) : state.templateRead? lexeme = none := by
  unfold templateRead?
  split
  · rename_i name id type place
    exact absurd place (untyped _ name id)
  · rfl

theorem Fed.untyped (fed : Fed state lexeme next) :
    state.Untyped ∨ ∃ schema nesting name id type definition,
      state = ⟨schema, .declarations nesting (.type name id)⟩ ∧ lexeme = .word type ∧
      next = ⟨schema, .declarations nesting (.tail definition)⟩ ∧
      ofType schema id name type = .ok definition := by
  cases fed with
  | typed numbered known => exact .inr ⟨_, _, _, _, _, _, rfl, rfl, rfl, known⟩
  | outside before after =>
    left
    intro nesting name id typed
    cases typed
    exact before
  | begun before =>
    left
    intro nesting name id typed
    cases typed
    exact before
  | headed early undrafted sound =>
    left
    intro nesting name id typed
    cases typed
    exact early
  | overridden named encoded => exact .inl nofun
  | closed => exact .inl nofun
  | _ =>
    left
    intro nesting name id typed
    cases typed
    contradiction

theorem overrideRead?_finish {name : String} {value : Lexeme} {definition : Definition}
    {bytes : Bytes} (named : schema.lastNamed? name = some definition)
    (encoded : defaultBytes definition.type value = .ok bytes) :
    overrideRead? ⟨schema, .header (.finish name value)⟩ (.symbol .semicolon) =
      some ⟨definition.head, bytes⟩ := by
  simp [overrideRead?, named, encoded, Except.toOption]

end Edtd.State

namespace Schema

def headsRead (schema : Schema) (source : String) : List Head :=
  Edtd.State.noted Edtd.State.headRead? ⟨schema, .block⟩ (Edtd.lex source.toList).1

def templatesRead (schema : Schema) (source : String) : List String :=
  Edtd.State.noted Edtd.State.templateRead? ⟨schema, .block⟩ (Edtd.lex source.toList).1

def blocksRead (schema : Schema) (source : String) : List Edtd.BlockKind :=
  Edtd.State.noted Edtd.State.blockRead? ⟨schema, .block⟩ (Edtd.lex source.toList).1

def overridesRead (schema : Schema) (source : String) : List Override :=
  Edtd.State.noted Edtd.State.overrideRead? ⟨schema, .block⟩ (Edtd.lex source.toList).1

end Schema

end Ebml
