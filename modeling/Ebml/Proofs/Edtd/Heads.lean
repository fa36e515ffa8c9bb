import Ebml.Proofs.Edtd.Hexadecimal
import Ebml.Proofs.Edtd.Invariant
import Ebml.Proofs.Schema

namespace Ebml

namespace Definition

def heads (definition : Definition) : List Head :=
  (definition.preorder.filter (·.id != 0)).map head

def Inert (definition : Definition) : Prop := ∀ node ∈ definition.descendants, node.id = 0

variable {definition : Definition}

theorem inert_of_childless (childless : definition.children = []) : definition.Inert := by
  rw [Inert, descendants, childless]
  exact List.forall_mem_nil _

theorem heads_of_numbered (numbered : definition.id ≠ 0) :
    definition.heads = definition.head :: definition.children.flatMap heads := by
  rw [heads, preorder_eq, List.filter_cons, if_pos (bne_iff_ne.mpr numbered), List.map_cons,
    List.filter_flatMap, List.map_flatMap]
  rfl

theorem heads_of_inert (numbered : definition.id ≠ 0) (inert : definition.Inert) :
    definition.heads = [definition.head] := by
  have none : definition.descendants.filter (·.id != 0) = [] := by
    rw [List.filter_eq_nil_iff]
    intro node member
    simp [inert node member]
  rw [heads, preorder_descendants, List.filter_cons, if_pos (bne_iff_ne.mpr numbered), none]
  rfl

end Definition

namespace Schema

def heads (schema : Schema) : List Head := schema.declarations.map Definition.head

theorem heads_eq (schema : Schema) : schema.heads = schema.roots.flatMap Definition.heads := by
  rw [heads, declarations, List.filter_flatMap, List.map_flatMap]
  rfl

theorem definition?_head (schema : Schema) (id : ElementId) :
    schema.heads.reverse.find? (·.id == id) = (schema.definition? id).map Definition.head := by
  rw [heads, ← List.map_reverse, List.find?_map]
  rfl

theorem heads_declare (schema : Schema) (definition : Definition) :
    (schema.declare definition).heads = schema.heads ++ definition.heads := by
  rw [heads_eq, heads_eq, declare, List.flatMap_append, List.flatMap_singleton]

theorem heads_overrideDefault (schema : Schema) (name : String) (bytes : Bytes) :
    (schema.overrideDefault name bytes).heads = schema.heads := by
  rw [heads, declarations_overrideDefault, List.map_map, heads]
  congr 1
  funext definition
  simp only [Function.comp_apply, Definition.head, Definition.overrideDefault_toProperties,
    Properties.withDefault]

end Schema

namespace Edtd

variable {known : Schema} {kind : DeclarationKind} {id : ElementId} {name type : String}
  {definition changed : Definition}

namespace Revised

theorem head (revised : Revised definition changed) : changed.head = definition.head := by
  rw [Definition.head, revised.name, revised.id, revised.type, Definition.head]

theorem inert (revised : Revised definition changed) (inert : definition.Inert) :
    changed.Inert := by
  rwa [Definition.Inert, Definition.descendants, revised.children]

end Revised

def numbering : Invariant where
  admits _ := True
  schema known := ∀ key template, (key, template) ∈ known.aliases →
    template.id = 0 ∧ template.Inert
  draft _ kind definition := Numbered kind definition.id ∧ definition.Inert
  whole _ kind definition := kind = .alias → definition.id = 0 ∧ definition.Inert
  typed := by
    intro known kind id name type definition templates numbered typed
    rcases ofType_cases typed with ⟨primitive, rfl⟩ | ⟨key, template, member, rfl⟩
    · exact ⟨numbered, Definition.inert_of_childless (Definition.new_children id primitive name)⟩
    · exact ⟨numbered, (templates key template member).2⟩
  revised := by
    rintro known kind definition changed ⟨numbered, inert⟩ revised
    exact ⟨by rwa [revised.id], revised.inert inert⟩
  plain := by
    rintro known kind definition ⟨numbered, inert⟩ rfl
    exact ⟨numbered, inert⟩
  filled := by
    rintro known kind container children ⟨numbered, _⟩ _ whole rfl
    refine ⟨numbered, ?_⟩
    intro node member
    obtain ⟨child, listed, inside⟩ := List.mem_flatMap.mp member
    obtain ⟨unnumbered, inert⟩ := whole child listed rfl
    rw [Definition.preorder_descendants, List.mem_cons] at inside
    rcases inside with rfl | deeper
    · exact unnumbered
    · exact inert node deeper
  declared := by
    intro known definition templates _
    exact templates
  aliased := by
    intro known template templates whole key other member
    rcases List.mem_cons.mp member with same | earlier
    · cases same
      exact whole rfl
    · exact templates key other earlier
  overridden := by
    intro known name definition value bytes templates _ _ _
    exact templates

namespace State

-- The heads that a reader has come by: those of the schema, those of the open containers
-- with the children they have, the outermost first, and the one being read.
def heads (state : State) : List Head :=
  state.schema.heads ++
    match state.place with
    | .declarations ⟨.element, enclosing⟩ place =>
      (enclosing.reverse.flatMap fun around =>
        around.container.head :: around.children.flatMap Definition.heads) ++
        (place.draft?.map Definition.head).toList
    | _ => []

variable {state next : State} {lexeme : Lexeme} {schema : Schema} {enclosing : List OpenContainer}

theorem heads_alias (schema : Schema) (enclosing : List OpenContainer) (place : DeclarationPlace) :
    heads ⟨schema, .declarations ⟨.alias, enclosing⟩ place⟩ = schema.heads := by
  rw [heads, List.append_nil]

theorem heads_declare_alias (schema : Schema) (enclosing : List OpenContainer)
    (definition : Definition) :
    (declare schema ⟨.alias, enclosing⟩ definition).heads = schema.heads := by
  cases enclosing <;> exact heads_alias _ _ _

theorem heads_declare_element (schema : Schema) (enclosing : List OpenContainer)
    (definition : Definition) :
    (declare schema ⟨.element, enclosing⟩ definition).heads =
      heads ⟨schema, .declarations ⟨.element, enclosing⟩ .entry⟩ ++ definition.heads := by
  cases enclosing with
  | nil => simp [declare, heads, DeclarationPlace.draft?, Schema.heads_declare]
  | cons around outer => simp [declare, heads, DeclarationPlace.draft?]

theorem heads_endList_element (numbered : ∀ around ∈ enclosing, around.container.id ≠ 0) :
    (endList schema ⟨.element, enclosing⟩).heads =
      heads ⟨schema, .declarations ⟨.element, enclosing⟩ .entry⟩ := by
  cases enclosing with
  | nil => simp [endList, heads, DeclarationPlace.draft?]
  | cons around outer =>
    have filled : ({ around.container with children? := some around.children } : Definition).heads =
        around.container.head :: around.children.flatMap Definition.heads :=
      Definition.heads_of_numbered (numbered around List.mem_cons_self)
    rw [endList, heads_declare_element, filled]
    simp [heads, DeclarationPlace.draft?]

theorem heads_draft (schema : Schema) (enclosing : List OpenContainer) (place : DeclarationPlace) :
    heads ⟨schema, .declarations ⟨.element, enclosing⟩ place⟩ =
      heads ⟨schema, .declarations ⟨.element, enclosing⟩ .entry⟩ ++
        (place.draft?.map Definition.head).toList := by
  simp [heads, DeclarationPlace.draft?]

theorem heads_startList (schema : Schema) (enclosing : List OpenContainer)
    (container : Definition) :
    (startList schema ⟨.element, enclosing⟩ container).heads =
      heads ⟨schema, .declarations ⟨.element, enclosing⟩ .entry⟩ ++ [container.head] := by
  simp [startList, heads, DeclarationPlace.draft?]

theorem fed_heads_untyped (holds : numbering.Holds state) (untyped : state.Untyped)
    (fed : Fed state lexeme next) : next.heads = state.heads := by
  cases fed with
  | @outside schema place next lexeme before after =>
    cases place <;> cases next <;> first | rfl | contradiction
  | overridden named encoded => simp only [heads, Schema.heads_overrideDefault]
  | @begun schema place kind lexeme before =>
    cases place <;> cases kind <;> first | rfl | contradiction
  | @headed schema nesting place next lexeme early undrafted sound =>
    obtain ⟨kind, enclosing⟩ := nesting
    have undrafted' : place.draft? = none := by
      cases place <;> first | rfl | contradiction
    cases kind
    · rw [heads_draft, undrafted, heads_draft _ _ place, undrafted']
    · rw [heads_alias, heads_alias]
  | typed numbered known => exact absurd rfl (untyped _ _ _)
  | @revised schema nesting place next lexeme definition changed draft draft' revised sound =>
    obtain ⟨kind, enclosing⟩ := nesting
    cases kind
    · rw [heads_draft, draft', heads_draft _ _ place, draft, Option.map_some, Option.map_some,
        revised.head]
    · rw [heads_alias, heads_alias]
  | @declared schema nesting place lexeme definition draft =>
    obtain ⟨kind, enclosing⟩ := nesting
    obtain ⟨numbered, inert⟩ := holds.place.draft _ draft
    cases kind
    · obtain ⟨literal, read⟩ := numbered
      rw [heads_declare_element, heads_draft _ _ place, draft,
        Definition.heads_of_inert (elementId_ne_zero read) inert]
      rfl
    · rw [heads_declare_alias, heads_alias]
  | @opened schema nesting place lexeme definition draft nests =>
    obtain ⟨kind, enclosing⟩ := nesting
    cases kind
    · rw [heads_startList, heads_draft _ _ place, draft]
      rfl
    · exact (heads_alias _ _ _).trans (heads_alias _ _ _).symm
  | @closed schema nesting lexeme =>
    obtain ⟨kind, enclosing⟩ := nesting
    cases kind
    · refine heads_endList_element ?_
      intro around member
      obtain ⟨literal, read⟩ := (holds.place.enclosing around member).draft.1
      exact elementId_ne_zero read
    · cases enclosing with
      | nil => exact (List.append_nil _).trans (heads_alias _ _ _).symm
      | cons around outer => rw [endList, heads_declare_alias, heads_alias]

theorem fed_heads (holds : numbering.Holds state) (fed : Fed state lexeme next) :
    next.heads = state.heads ++ (state.headRead? lexeme).toList := by
  rcases fed.untyped with untyped | ⟨schema, ⟨kind, enclosing⟩, name, id, type, definition, typed⟩
  · rw [headRead?_untyped untyped, fed_heads_untyped holds untyped fed, Option.toList_none,
      List.append_nil]
  · obtain ⟨here, read, there, known⟩ := typed
    subst here read there
    cases kind
    · rw [heads_draft, heads_draft _ _ (.type name id)]
      simp [headRead?, known, DeclarationPlace.draft?, Except.toOption]
    · rw [heads_alias, heads_alias]
      exact (List.append_nil _).symm

theorem feedAll_heads {lexemes : List Lexeme} (holds : numbering.Holds state)
    (fed : state.feedAll lexemes = .ok next) :
    next.heads = state.heads ++ noted headRead? state lexemes :=
  Invariant.feedAll_noted (fun _ => trivial) fed_heads holds fed

end State

end Edtd

namespace Schema

theorem extend_heads {schema extended : Schema} {source : String}
    (numbered : Edtd.numbering.schema schema) (compiled : schema.extend source = .ok extended) :
    extended.heads = schema.heads ++ schema.headsRead source := by
  have holds : Edtd.numbering.Holds ⟨schema, .block⟩ := .outside numbered trivial
  have read := Edtd.State.feedAll_heads holds (extend_eq_ok_iff.mp compiled).2
  rw [headsRead]
  simpa only [Edtd.State.heads, List.append_nil] using read

theorem ofText_heads {schema : Schema} {source : String} (compiled : ofText source = .ok schema) :
    schema.heads = Builtin.schema.heads ++ Builtin.schema.headsRead source :=
  extend_heads nofun compiled

end Schema

end Ebml
