import Ebml.Proofs.Edtd.Log
import Ebml.Proofs.Schema

namespace Ebml.Edtd

-- What holds of a schema and of the definitions that go into it, those still being read and
-- those read whole, and is kept by all that a source can say. The schema does not change
-- while a definition is being read, so what holds of a definition may depend on it. Header
-- blocks have to keep to the defaults that are admitted.
structure Invariant where
  admits : Override → Prop
  schema : Schema → Prop
  draft : Schema → DeclarationKind → Definition → Prop
  whole : Schema → DeclarationKind → Definition → Prop
  typed {known : Schema} {kind : DeclarationKind} {id : ElementId} {name type : String}
    {definition : Definition} : schema known → Numbered kind id →
    State.ofType known id name type = .ok definition → draft known kind definition
  revised {known : Schema} {kind : DeclarationKind} {definition changed : Definition} :
    draft known kind definition → Revised definition changed → draft known kind changed
  -- A definition is whole as it is, or with the children that are listed for it.
  plain {known : Schema} {kind : DeclarationKind} {definition : Definition} :
    draft known kind definition → whole known kind definition
  filled {known : Schema} {kind : DeclarationKind} {container : Definition}
    {children : List Definition} : draft known kind container → container.isContainer = true →
    (∀ child ∈ children, whole known kind child) →
    whole known kind { container with children? := some children }
  declared {known : Schema} {definition : Definition} :
    schema known → whole known .element definition → schema (known.declare definition)
  aliased {known : Schema} {template : Definition} :
    schema known → whole known .alias template → schema (known.addAlias template)
  overridden {known : Schema} {name : String} {definition : Definition} {value : Lexeme}
    {bytes : Bytes} : schema known → known.lastNamed? name = some definition →
    defaultBytes definition.type value = .ok bytes → admits ⟨definition.head, bytes⟩ →
    schema (known.overrideDefault name bytes)

theorem ofType_cases {known : Schema} {id : ElementId} {name type : String}
    {definition : Definition}
    (typed : State.ofType known id name type = .ok definition) :
    (∃ primitive, definition = .new id primitive name) ∨
      ∃ key template, (key, template) ∈ known.aliases ∧
        definition = { template with id := id, name := name } := by
  unfold State.ofType at typed
  split at typed
  · cases typed
    exact .inl ⟨_, rfl⟩
  · split at typed
    · rename_i template found
      cases typed
      obtain ⟨key, member⟩ := Schema.alias?_mem found
      exact .inr ⟨key, template, member, rfl⟩
    · cases typed

theorem ofType_name {known : Schema} {id : ElementId} {name type : String}
    {definition : Definition} (typed : State.ofType known id name type = .ok definition) :
    definition.name = name := by
  rcases ofType_cases typed with ⟨primitive, fresh⟩ | ⟨key, template, member, copied⟩
  · rw [fresh]
    rfl
  · rw [copied]

namespace Invariant

variable (invariant : Invariant)

structure Around (known : Schema) (kind : DeclarationKind) (around : OpenContainer) : Prop where
  nests : around.container.isContainer = true
  draft : invariant.draft known kind around.container
  children : ∀ child ∈ around.children, invariant.whole known kind child

structure Among (known : Schema) (nesting : Nesting) (place : DeclarationPlace) : Prop where
  sound : place.Sound nesting.kind
  draft : ∀ definition, place.draft? = some definition →
    invariant.draft known nesting.kind definition
  enclosing : ∀ around ∈ nesting.enclosing, invariant.Around known nesting.kind around

structure Holds (state : State) : Prop where
  schema : invariant.schema state.schema
  place : match state.place with
    | .declarations nesting place => invariant.Among state.schema nesting place
    | _ => True

variable {invariant} {schema : Schema} {nesting : Nesting} {state next : State} {lexeme : Lexeme}

theorem Holds.sound (holds : invariant.Holds state) : state.Sound := by
  obtain ⟨schema, place⟩ := state
  cases place with
  | declarations nesting place => exact holds.place.sound
  | _ => trivial

theorem Holds.outside {place : Place} (holds : invariant.schema schema) (outside : place.Outside) :
    invariant.Holds ⟨schema, place⟩ := by
  refine ⟨holds, ?_⟩
  cases place with
  | declarations nesting place => exact outside.elim
  | _ => trivial

theorem declare_holds {definition : Definition} (holds : invariant.schema schema)
    (enclosing : ∀ around ∈ nesting.enclosing, invariant.Around schema nesting.kind around)
    (whole : invariant.whole schema nesting.kind definition) :
    invariant.Holds (State.declare schema nesting definition) := by
  obtain ⟨kind, _ | ⟨around, outer⟩⟩ := nesting
  · cases kind
    · exact ⟨invariant.declared holds whole, trivial, nofun, nofun⟩
    · exact ⟨invariant.aliased holds whole, trivial, nofun, nofun⟩
  · obtain ⟨inner, others⟩ := List.forall_mem_cons.mp enclosing
    have children : ∀ child ∈ around.children ++ [definition],
        invariant.whole schema kind child := by
      simp only [List.forall_mem_append, List.forall_mem_singleton]
      exact ⟨inner.children, whole⟩
    exact ⟨holds, trivial, nofun,
      List.forall_mem_cons.mpr ⟨⟨inner.nests, inner.draft, children⟩, others⟩⟩

theorem endList_holds (holds : invariant.schema schema)
    (enclosing : ∀ around ∈ nesting.enclosing, invariant.Around schema nesting.kind around) :
    invariant.Holds (State.endList schema nesting) := by
  obtain ⟨kind, _ | ⟨around, outer⟩⟩ := nesting
  · exact .outside holds trivial
  · obtain ⟨inner, others⟩ := List.forall_mem_cons.mp enclosing
    exact declare_holds holds others (invariant.filled inner.draft inner.nests inner.children)

theorem fed_holds (holds : invariant.Holds state)
    (admitted : ∀ override ∈ state.overrideRead? lexeme, invariant.admits override)
    (fed : State.Fed state lexeme next) : invariant.Holds next := by
  cases fed with
  | outside before after => exact .outside holds.schema after
  | overridden named encoded =>
    have kept := admitted _ (State.overrideRead?_finish named encoded)
    exact .outside (invariant.overridden holds.schema named encoded kept) trivial
  | begun before => exact ⟨holds.schema, trivial, nofun, nofun⟩
  | headed early undrafted sound =>
    refine ⟨holds.schema, sound, ?_, holds.place.enclosing⟩
    intro definition draft
    rw [undrafted] at draft
    cases draft
  | typed numbered known =>
    refine ⟨holds.schema, trivial, ?_, holds.place.enclosing⟩
    rintro _ ⟨⟩
    exact invariant.typed holds.schema numbered known
  | revised draft draft' revised sound =>
    refine ⟨holds.schema, sound, ?_, holds.place.enclosing⟩
    intro definition same
    cases draft'.symm.trans same
    exact invariant.revised (holds.place.draft _ draft) revised
  | declared draft =>
    exact declare_holds holds.schema holds.place.enclosing
      (invariant.plain (holds.place.draft _ draft))
  | opened draft nests =>
    exact ⟨holds.schema, trivial, nofun, List.forall_mem_cons.mpr
      ⟨⟨nests, holds.place.draft _ draft, nofun⟩, holds.place.enclosing⟩⟩
  | closed => exact endList_holds holds.schema holds.place.enclosing

theorem feedAll_holds {lexemes : List Lexeme} (holds : invariant.Holds state)
    (admitted : ∀ override ∈ State.noted State.overrideRead? state lexemes,
      invariant.admits override)
    (fed : state.feedAll lexemes = .ok next) : invariant.Holds next := by
  induction lexemes generalizing state with
  | nil =>
    cases fed
    exact holds
  | cons lexeme rest ih =>
    obtain ⟨between, fed, later⟩ := bind_eq_ok.mp (List.foldlM_cons.symm.trans fed)
    rw [State.noted_cons fed, List.forall_mem_append] at admitted
    have here : ∀ override ∈ state.overrideRead? lexeme, invariant.admits override :=
      fun override member => admitted.1 override (Option.mem_toList.mpr member)
    exact ih (fed_holds holds here (State.feed_fed holds.sound fed)) admitted.2 later

-- A view of the reader that each lexeme adds its note to is, after a run, what it was before
-- and all notes of the run.
theorem feedAll_noted {α : Type} {note : State → Lexeme → Option α} {view : State → List α}
    {lexemes : List Lexeme} (free : ∀ override, invariant.admits override)
    (step : ∀ {state next : State} {lexeme : Lexeme}, invariant.Holds state →
      State.Fed state lexeme next → view next = view state ++ (note state lexeme).toList)
    (holds : invariant.Holds state) (fed : state.feedAll lexemes = .ok next) :
    view next = view state ++ State.noted note state lexemes := by
  induction lexemes generalizing state with
  | nil =>
    cases fed
    simp [State.noted]
  | cons lexeme rest ih =>
    obtain ⟨between, fed, later⟩ := bind_eq_ok.mp (List.foldlM_cons.symm.trans fed)
    have done := State.feed_fed holds.sound fed
    have kept : invariant.Holds between := fed_holds holds (fun override _ => free override) done
    rw [ih kept later, step holds done, State.noted_cons fed, List.append_assoc]

theorem extend_holds {known extended : Schema} {source : String} (holds : invariant.schema known)
    (admitted : ∀ override ∈ known.overridesRead source, invariant.admits override)
    (compiled : known.extend source = .ok extended) : invariant.schema extended := by
  obtain ⟨_, fed⟩ := Schema.extend_eq_ok_iff.mp compiled
  have start : invariant.Holds ⟨known, .block⟩ := .outside holds trivial
  exact (feedAll_holds start admitted fed).schema

end Invariant

end Ebml.Edtd
