import Ebml.Edtd.Compilation

namespace Ebml.Edtd

-- What one lexeme can do to a reader of schema sources, said once. What holds of every schema
-- is proved along these outcomes, not along the places of the grammar.

def Numbered : DeclarationKind → ElementId → Prop
  | .element, id => ∃ literal, elementId literal = .ok id
  | .alias, id => id = 0

namespace DeclarationPlace

def draft? : DeclarationPlace → Option Definition
  | entry => none
  | marker => none
  | markerEnd => none
  | assign _ => none
  | id _ => none
  | type _ _ => none
  | tail definition => some definition
  | parameter definition => some definition
  | colon definition _ => some definition
  | value definition _ => some definition
  | parameterEnd definition => some definition
  | term definition _ => some definition
  | termNumber definition _ _ => some definition
  | termEnd definition _ => some definition
  | ignored definition => some definition
  | children definition => some definition

def Early : DeclarationPlace → Prop
  | entry => True
  | marker => True
  | markerEnd => True
  | assign _ => True
  | id _ => True
  | _ => False

-- What is settled wherever a reader comes to a place.
def Sound (kind : DeclarationKind) : DeclarationPlace → Prop
  | id _ => kind = .element
  | type _ number => Numbered kind number
  | children definition => definition.isContainer = true
  | _ => True

end DeclarationPlace

def Place.Outside : Place → Prop
  | declarations _ _ => False
  | _ => True

inductive Revised (definition : Definition) : Definition → Prop
  | unchanged : Revised definition definition
  | cardinality (cardinality : Cardinality) :
      Revised definition { definition with cardinality := cardinality }
  | default {value : Lexeme} {bytes : Bytes}
      (encoded : defaultBytes definition.type value = .ok bytes) :
      Revised definition { definition with default? := some bytes }
  | size (size : Nat) : Revised definition { definition with size := size }
  | range {terms : List RangeTerm} {range : Range}
      (ranged : rangeOf definition.type terms = .ok range) :
      Revised definition { definition with range? := some range }

namespace Revised

variable {definition changed : Definition}

theorem id (revised : Revised definition changed) : changed.id = definition.id := by
  cases revised <;> rfl

theorem name (revised : Revised definition changed) : changed.name = definition.name := by
  cases revised <;> rfl

theorem type (revised : Revised definition changed) : changed.type = definition.type := by
  cases revised <;> rfl

theorem children? (revised : Revised definition changed) :
    changed.children? = definition.children? := by
  cases revised <;> rfl

theorem children (revised : Revised definition changed) :
    changed.children = definition.children := by
  rw [Definition.children, revised.children?, Definition.children]

end Revised

theorem bind_eq_ok {α β : Type} {read : Except Fault α} {next : α → Except Fault β} {result : β} :
    (read >>= next) = .ok result ↔ ∃ value, read = .ok value ∧ next value = .ok result := by
  constructor
  · intro done
    cases read with
    | error fault => cases done
    | ok value => exact ⟨value, rfl, done⟩
  · rintro ⟨value, rfl, done⟩
    exact done

theorem toOption_eq_some {ε α : Type} {read : Except ε α} {value : α} :
    read.toOption = some value ↔ read = .ok value := by
  cases read <;> simp [Except.toOption]

theorem map_eq_map {α β : Type} {view : α → β} {one other : Except Fault α}
    (same : view <$> one = view <$> other) :
    (∃ fault, one = .error fault ∧ other = .error fault) ∨
      ∃ value value', one = .ok value ∧ other = .ok value' ∧ view value = view value' := by
  cases one with
  | error fault =>
    cases other with
    | error fault' =>
      cases same
      exact .inl ⟨fault, rfl, rfl⟩
    | ok value' => cases same
  | ok value =>
    cases other with
    | error fault' => cases same
    | ok value' => exact .inr ⟨value, value', rfl, rfl, Except.ok.inj same⟩

namespace State

theorem feedAll_cons (state : State) (lexeme : Lexeme) (rest : List Lexeme) :
    state.feedAll (lexeme :: rest) = (state.feed lexeme).bind (feedAll · rest) :=
  List.foldlM_cons

def Sound (state : State) : Prop :=
  match state.place with
  | .declarations nesting place => place.Sound nesting.kind
  | _ => True

inductive Fed : State → Lexeme → State → Prop
  | outside {schema : Schema} {place next : Place} {lexeme : Lexeme}
      (before : place.Outside) (after : next.Outside) :
      Fed ⟨schema, place⟩ lexeme ⟨schema, next⟩
  -- The end of an entry of a header block.
  | overridden {schema : Schema} {name : String} {value : Lexeme} {definition : Definition}
      {bytes : Bytes} (named : schema.lastNamed? name = some definition)
      (encoded : defaultBytes definition.type value = .ok bytes) :
      Fed ⟨schema, .header (.finish name value)⟩ (.symbol .semicolon)
        ⟨schema.overrideDefault name bytes, .header .entry⟩
  | begun {schema : Schema} {place : Place} {kind : DeclarationKind} {lexeme : Lexeme}
      (before : place.Outside) :
      Fed ⟨schema, place⟩ lexeme ⟨schema, .declarations ⟨kind, []⟩ .entry⟩
  | headed {schema : Schema} {nesting : Nesting} {place next : DeclarationPlace} {lexeme : Lexeme}
      (early : place.Early) (undrafted : next.draft? = none) (sound : next.Sound nesting.kind) :
      Fed ⟨schema, .declarations nesting place⟩ lexeme ⟨schema, .declarations nesting next⟩
  | typed {schema : Schema} {nesting : Nesting} {name type : String} {id : ElementId}
      {definition : Definition} (numbered : Numbered nesting.kind id)
      (known : ofType schema id name type = .ok definition) :
      Fed ⟨schema, .declarations nesting (.type name id)⟩ (.word type)
        ⟨schema, .declarations nesting (.tail definition)⟩
  | revised {schema : Schema} {nesting : Nesting} {place next : DeclarationPlace}
      {lexeme : Lexeme} {definition definition' : Definition}
      (draft : place.draft? = some definition) (draft' : next.draft? = some definition')
      (revised : Revised definition definition') (sound : next.Sound nesting.kind) :
      Fed ⟨schema, .declarations nesting place⟩ lexeme ⟨schema, .declarations nesting next⟩
  | declared {schema : Schema} {nesting : Nesting} {place : DeclarationPlace} {lexeme : Lexeme}
      {definition : Definition} (draft : place.draft? = some definition) :
      Fed ⟨schema, .declarations nesting place⟩ lexeme (declare schema nesting definition)
  | opened {schema : Schema} {nesting : Nesting} {place : DeclarationPlace} {lexeme : Lexeme}
      {definition : Definition} (draft : place.draft? = some definition)
      (nests : definition.isContainer = true) :
      Fed ⟨schema, .declarations nesting place⟩ lexeme (startList schema nesting definition)
  | closed {schema : Schema} {nesting : Nesting} {lexeme : Lexeme} :
      Fed ⟨schema, .declarations nesting .entry⟩ lexeme (endList schema nesting)

variable {schema : Schema} {nesting : Nesting} {lexeme : Lexeme} {next : State}

theorem feedHeader_finish {name : String} {value : Lexeme}
    (fed : feedHeader schema (.finish name value) lexeme = .ok next) :
    lexeme = .symbol .semicolon ∧ ∃ definition bytes,
      schema.lastNamed? name = some definition ∧
      defaultBytes definition.type value = .ok bytes ∧
      next = ⟨schema.overrideDefault name bytes, .header .entry⟩ := by
  simp only [feedHeader] at fed
  split at fed
  · rename_i ended
    cases named : schema.lastNamed? name with
    | none =>
      rw [named] at fed
      cases fed
    | some definition =>
      rw [named] at fed
      obtain ⟨bytes, encoded, done⟩ := bind_eq_ok.mp fed
      cases done
      exact ⟨ended, definition, bytes, rfl, encoded, rfl⟩
  · cases fed

theorem feedHeader_fed {place : HeaderPlace} (fed : feedHeader schema place lexeme = .ok next) :
    Fed ⟨schema, .header place⟩ lexeme next := by
  cases place with
  | entry =>
    simp only [feedHeader] at fed
    split at fed <;> cases fed <;> exact .outside trivial trivial
  | assign name =>
    simp only [feedHeader] at fed
    split at fed <;> cases fed
    exact .outside trivial trivial
  | value name =>
    simp only [feedHeader] at fed
    split at fed <;> cases fed
    exact .outside trivial trivial
  | finish name value =>
    obtain ⟨ended, definition, bytes, named, encoded, reached⟩ := feedHeader_finish fed
    subst ended reached
    exact .overridden named encoded

theorem feedTerm_fed {place : DeclarationPlace} {definition : Definition}
    {terms : List RangeTerm} (draft : place.draft? = some definition)
    (fed : feedTerm schema nesting definition terms lexeme = .ok next) :
    Fed ⟨schema, .declarations nesting place⟩ lexeme next := by
  unfold feedTerm at fed
  split at fed
  · cases fed
    exact .revised draft rfl .unchanged trivial
  · split at fed <;> cases fed
    exact .revised draft rfl .unchanged trivial
  · cases fed

theorem feedIgnored_fed {place : DeclarationPlace} {definition : Definition}
    (draft : place.draft? = some definition)
    (fed : feedIgnored schema nesting definition lexeme = .ok next) :
    Fed ⟨schema, .declarations nesting place⟩ lexeme next := by
  unfold feedIgnored at fed
  split at fed <;> cases fed <;> exact .revised draft rfl .unchanged trivial

theorem feedValue_fed {place : DeclarationPlace} {definition : Definition} {parameter : String}
    (draft : place.draft? = some definition)
    (fed : feedValue schema nesting definition parameter lexeme = .ok next) :
    Fed ⟨schema, .declarations nesting place⟩ lexeme next := by
  unfold feedValue at fed
  dsimp only at fed
  split at fed
  · obtain ⟨written, _, done⟩ := bind_eq_ok.mp fed
    cases done
    exact .revised draft rfl (.cardinality written) trivial
  · obtain ⟨bytes, encoded, done⟩ := bind_eq_ok.mp fed
    cases done
    exact .revised draft rfl (.default encoded) trivial
  · obtain ⟨size, _, done⟩ := bind_eq_ok.mp fed
    cases done
    exact .revised draft rfl (.size size) trivial
  · exact feedTerm_fed draft fed
  · exact feedIgnored_fed draft fed

theorem feedDeclaration_fed {place : DeclarationPlace} (sound : place.Sound nesting.kind)
    (fed : feedDeclaration schema nesting place lexeme = .ok next) :
    Fed ⟨schema, .declarations nesting place⟩ lexeme next := by
  cases place with
  | entry =>
    simp only [feedDeclaration] at fed
    split at fed <;> cases fed
    · exact .closed
    · exact .headed trivial rfl trivial
    · exact .headed trivial rfl trivial
  | marker =>
    simp only [feedDeclaration] at fed
    split at fed <;> cases fed
    exact .headed trivial rfl trivial
  | markerEnd =>
    simp only [feedDeclaration] at fed
    split at fed <;> cases fed
    exact .headed trivial rfl trivial
  | assign name =>
    simp only [feedDeclaration] at fed
    split at fed
    · cases kind : nesting.kind <;> simp only [kind] at fed <;> cases fed
      · exact .headed trivial rfl kind
      · exact .headed trivial rfl (by rw [kind]; rfl)
    · cases fed
  | id name =>
    simp only [feedDeclaration] at fed
    split at fed
    · rename_i literal
      obtain ⟨number, read, done⟩ := bind_eq_ok.mp fed
      cases done
      have elements : nesting.kind = .element := sound
      refine .headed trivial rfl ?_
      rw [elements]
      exact ⟨literal, read⟩
    · cases fed
  | type name number =>
    simp only [feedDeclaration] at fed
    split at fed
    · obtain ⟨definition, known, done⟩ := bind_eq_ok.mp fed
      cases done
      exact .typed sound known
    · cases fed
  | tail definition =>
    simp only [feedDeclaration] at fed
    split at fed
    · cases fed
      exact .declared rfl
    · cases fed
      exact .revised rfl rfl .unchanged trivial
    · split at fed <;> cases fed
      rename_i nests
      exact .opened rfl nests
    · cases fed
  | parameter definition =>
    simp only [feedDeclaration] at fed
    split at fed
    · split at fed <;> cases fed
      · rename_i nests
        exact .revised rfl rfl .unchanged nests
      · exact .declared rfl
    · cases fed
      exact .revised rfl rfl .unchanged trivial
    · cases fed
  | colon definition parameter =>
    simp only [feedDeclaration] at fed
    split at fed <;> cases fed
    exact .revised rfl rfl .unchanged trivial
  | value definition parameter => exact feedValue_fed rfl fed
  | parameterEnd definition =>
    simp only [feedDeclaration] at fed
    split at fed <;> cases fed
    exact .revised rfl rfl .unchanged trivial
  | term definition terms => exact feedTerm_fed rfl fed
  | termNumber definition terms relation =>
    simp only [feedDeclaration] at fed
    split at fed <;> cases fed
    exact .revised rfl rfl .unchanged trivial
  | termEnd definition terms =>
    simp only [feedDeclaration] at fed
    split at fed
    · cases fed
      exact .revised rfl rfl .unchanged trivial
    · obtain ⟨range, ranged, done⟩ := bind_eq_ok.mp fed
      cases done
      exact .revised rfl rfl (.range ranged) trivial
    · cases fed
  | ignored definition => exact feedIgnored_fed rfl fed
  | children definition =>
    simp only [feedDeclaration] at fed
    split at fed <;> cases fed
    exact .opened rfl sound

theorem feed_fed {state : State} (sound : state.Sound) (fed : state.feed lexeme = .ok next) :
    Fed state lexeme next := by
  obtain ⟨schema, place⟩ := state
  cases place with
  | block =>
    simp only [feed] at fed
    split at fed <;> cases fed
    exact .outside trivial trivial
  | blockKind =>
    simp only [feed] at fed
    split at fed <;> cases fed <;> exact .outside trivial trivial
  | blockStart kind =>
    simp only [feed] at fed
    split at fed <;> cases fed
    cases kind
    · exact .begun trivial
    · exact .outside trivial trivial
    · exact .begun trivial
  | header place => exact feedHeader_fed fed
  | declarations nesting place => exact feedDeclaration_fed sound fed

theorem finish_eq_ok_iff {state : State} {stop : Stop} {schema : Schema} :
    state.finish stop = .ok schema ↔ stop = .endOfInput ∧ state = ⟨schema, .block⟩ := by
  obtain ⟨read, place⟩ := state
  cases stop with
  | invalid error => simp [finish]
  | endOfInput => cases place <;> simp [finish]

end State

end Ebml.Edtd

namespace Ebml.Schema

-- What a source makes of a schema: the built-in elements are where every schema starts from.
def extend (schema : Schema) (source : String) : Except Edtd.Fault Schema := do
  let (lexemes, stop) := Edtd.lex source.toList
  let state ← Edtd.State.feedAll ⟨schema, .block⟩ lexemes
  state.finish stop

theorem ofText_eq (source : String) : ofText source = Builtin.schema.extend source := rfl

theorem ofText_lexed {source : String} {lexemes : List Edtd.Lexeme} {stop : Edtd.Stop}
    (lexed : Edtd.lex source.toList = (lexemes, stop)) :
    ofText source = (Edtd.State.start.feedAll lexemes).bind (·.finish stop) := by
  rw [ofText, lexed]
  rfl

theorem extend_eq (schema : Schema) (source : String) :
    schema.extend source =
      (Edtd.State.feedAll ⟨schema, .block⟩ (Edtd.lex source.toList).1).bind
        (·.finish (Edtd.lex source.toList).2) :=
  rfl

theorem extend_eq_ok_iff {schema extended : Schema} {source : String} :
    schema.extend source = .ok extended ↔
      (Edtd.lex source.toList).2 = .endOfInput ∧
        Edtd.State.feedAll ⟨schema, .block⟩ (Edtd.lex source.toList).1 =
          .ok ⟨extended, .block⟩ := by
  unfold extend
  rw [Edtd.bind_eq_ok]
  constructor
  · rintro ⟨state, fed, finished⟩
    obtain ⟨ended, rfl⟩ := Edtd.State.finish_eq_ok_iff.mp finished
    exact ⟨ended, fed⟩
  · rintro ⟨ended, fed⟩
    exact ⟨_, fed, Edtd.State.finish_eq_ok_iff.mpr ⟨ended, rfl⟩⟩

end Ebml.Schema
