import Ebml.Proofs.Edtd.Continuation
import Ebml.Proofs.Edtd.Heads

namespace Ebml

namespace Definition

def overrideEach (overrides : List Override) (definition : Definition) : Definition :=
  overrides.foldl (fun changed override =>
    changed.overrideDefault override.head.name override.bytes) definition

@[simp] theorem overrideEach_nil : overrideEach [] = id := rfl

theorem overrideEach_append (first later : List Override) (definition : Definition) :
    definition.overrideEach (first ++ later) =
      (definition.overrideEach first).overrideEach later :=
  List.foldl_append

theorem overrideEach_preserves {α : Type} (view : Definition → α)
    (preserved : ∀ name bytes definition,
      view (overrideDefault name bytes definition) = view definition)
    (overrides : List Override) (definition : Definition) :
    view (definition.overrideEach overrides) = view definition := by
  induction overrides generalizing definition with
  | nil => rfl
  | cons override others ih => exact (ih _).trans (preserved _ _ _)

theorem overrideEach_id (overrides : List Override) (definition : Definition) :
    (definition.overrideEach overrides).id = definition.id :=
  overrideEach_preserves (·.id) (fun name bytes definition => by
    simp [Properties.withDefault]) overrides definition

theorem overrideEach_head (overrides : List Override) (definition : Definition) :
    (definition.overrideEach overrides).head = definition.head :=
  overrideEach_preserves head (fun name bytes definition => by
    simp [head, Properties.withDefault]) overrides definition

theorem overrideEach_withoutDefaults (overrides : List Override) (definition : Definition) :
    (definition.overrideEach overrides).withoutDefaults = definition.withoutDefaults :=
  overrideEach_preserves withoutDefaults overrideDefault_withoutDefaults overrides definition

theorem overrideEach_preorder (overrides : List Override) (definition : Definition) :
    (definition.overrideEach overrides).preorder =
      definition.preorder.map (overrideEach overrides) := by
  induction overrides generalizing definition with
  | nil => simp
  | cons override others ih =>
    have step := ih (definition.overrideDefault override.head.name override.bytes)
    rw [overrideDefault_preorder, List.map_map] at step
    exact step

end Definition

namespace Schema

variable {before between after : Schema} {first later overrides : List Override}

-- One schema goes on from another: nothing that was declared is lost, and all that it suffers
-- are the overrides that came after it.
structure Continues (overrides : List Override) (before after : Schema) : Prop where
  roots : ∃ added, after.roots = before.roots.map (Definition.overrideEach overrides) ++ added
  aliases : ∃ added, after.aliases = added ++ before.aliases

theorem Continues.refl (schema : Schema) : Continues [] schema schema := by
  refine ⟨⟨[], ?_⟩, ⟨[], rfl⟩⟩
  simp

theorem Continues.trans (one : Continues first before between)
    (two : Continues later between after) : Continues (first ++ later) before after := by
  obtain ⟨⟨roots, extended⟩, ⟨aliases, added⟩⟩ := one
  obtain ⟨⟨roots', extended'⟩, ⟨aliases', added'⟩⟩ := two
  refine ⟨⟨roots.map (Definition.overrideEach later) ++ roots', ?_⟩, ⟨aliases' ++ aliases, ?_⟩⟩
  · have twice : Definition.overrideEach (first ++ later) =
        Definition.overrideEach later ∘ Definition.overrideEach first := by
      funext definition
      exact Definition.overrideEach_append first later definition
    simp [extended', extended, twice]
  · simp [added', added]

theorem continues_declare (schema : Schema) (definition : Definition) :
    Continues [] schema (schema.declare definition) := by
  refine ⟨⟨[definition], ?_⟩, ⟨[], rfl⟩⟩
  simp [declare]

theorem continues_addAlias (schema : Schema) (template : Definition) :
    Continues [] schema (schema.addAlias template) := by
  refine ⟨⟨[], ?_⟩, ⟨[(Text.lower template.name, template)], rfl⟩⟩
  simp [addAlias]

theorem continues_override (schema : Schema) (override : Override) :
    Continues [override] schema (schema.overrideDefault override.head.name override.bytes) :=
  ⟨⟨[], (List.append_nil _).symm⟩, ⟨[], rfl⟩⟩

theorem Continues.declarations (continues : Continues overrides before after) :
    ∃ added, after.declarations =
      before.declarations.map (Definition.overrideEach overrides) ++ added := by
  obtain ⟨added, extended⟩ := continues.roots
  have numbered : (fun definition => definition.id != 0) ∘ Definition.overrideEach overrides =
      fun definition => definition.id != 0 := by
    funext definition
    simp [Definition.overrideEach_id]
  refine ⟨(added.flatMap Definition.preorder).filter (·.id != 0), ?_⟩
  rw [Schema.declarations, extended, List.flatMap_append, List.filter_append, List.flatMap_map,
    List.flatMap_congr fun root _ => Definition.overrideEach_preorder overrides root,
    ← List.map_flatMap, List.filter_map, numbered, Schema.declarations]

theorem definition?_isSome_iff {schema : Schema} {id : ElementId} :
    (schema.definition? id).isSome = true ↔ ∃ head ∈ schema.heads, head.id = id := by
  constructor
  · intro defined
    obtain ⟨definition, found⟩ := Option.isSome_iff_exists.mp defined
    obtain ⟨declared, same⟩ := definition?_mem found
    exact ⟨definition.head, List.mem_map_of_mem declared, same⟩
  · intro declared
    obtain ⟨head, member, same⟩ := declared
    obtain ⟨definition, declared, headed⟩ := List.mem_map.mp member
    subst headed same
    simpa [definition?, Definition.head] using ⟨definition, declared, rfl⟩

theorem Continues.definition? {heads : List Head} {id : ElementId}
    (continues : Continues overrides before after) (declared : after.heads = before.heads ++ heads)
    (undeclared : ∀ head ∈ heads, head.id ≠ id) :
    after.definition? id = (before.definition? id).map (Definition.overrideEach overrides) := by
  obtain ⟨added, extended⟩ := continues.declarations
  have sameHeads : Definition.head ∘ Definition.overrideEach overrides = Definition.head := by
    funext definition
    exact Definition.overrideEach_head overrides definition
  have sameId : (fun definition => definition.id == id) ∘ Definition.overrideEach overrides =
      fun definition => definition.id == id := by
    funext definition
    simp [Definition.overrideEach_id]
  have headed : added.map Definition.head = heads := by
    rw [Schema.heads, extended, List.map_append, List.map_map, sameHeads, Schema.heads] at declared
    exact List.append_cancel_left declared
  have absent : added.reverse.find? (·.id == id) = none := by
    rw [List.find?_eq_none]
    intro definition member
    have head := undeclared definition.head
      (headed ▸ List.mem_map_of_mem (List.mem_reverse.mp member))
    simpa [Definition.head] using head
  rw [Schema.definition?, extended, List.reverse_append, List.find?_append, absent, Option.none_or,
    ← List.map_reverse, List.find?_map, sameId, Schema.definition?]

end Schema

namespace Edtd.State

variable {state next : State} {lexeme : Lexeme} {schema : Schema}

theorem overrideRead?_unfinished (unfinished : ∀ name value,
    state.place ≠ .header (.finish name value)) : state.overrideRead? lexeme = none := by
  unfold overrideRead?
  split
  · rename_i name value place
    exact absurd place (unfinished name value)
  · rfl

theorem declare_continues (schema : Schema) (nesting : Nesting) (definition : Definition) :
    Schema.Continues [] schema (declare schema nesting definition).schema := by
  obtain ⟨kind, _ | ⟨around, outer⟩⟩ := nesting
  · cases kind
    · exact Schema.continues_declare schema definition
    · exact Schema.continues_addAlias schema definition
  · exact .refl schema

theorem endList_continues (schema : Schema) (nesting : Nesting) :
    Schema.Continues [] schema (endList schema nesting).schema := by
  obtain ⟨kind, _ | ⟨around, outer⟩⟩ := nesting
  · exact .refl schema
  · exact declare_continues schema ⟨kind, outer⟩ _

theorem fed_continues (fed : Fed state lexeme next)
    (unfinished : ∀ name value, state.place ≠ .header (.finish name value)) :
    Schema.Continues [] state.schema next.schema := by
  cases fed with
  | overridden named encoded => exact absurd rfl (unfinished _ _)
  | declared draft => exact declare_continues _ _ _
  | closed => exact endList_continues _ _
  | _ => exact .refl _

theorem feed_continues (sound : state.Sound) (fed : state.feed lexeme = .ok next) :
    Schema.Continues (state.overrideRead? lexeme).toList state.schema next.schema := by
  by_cases unfinished : ∀ name value, state.place ≠ .header (.finish name value)
  · rw [overrideRead?_unfinished unfinished]
    exact fed_continues (feed_fed sound fed) unfinished
  · obtain ⟨schema, place⟩ := state
    simp only [not_forall, not_not] at unfinished
    obtain ⟨name, value, finished⟩ := unfinished
    subst finished
    obtain ⟨ended, definition, bytes, named, encoded, reached⟩ := feedHeader_finish fed
    subst ended reached
    obtain ⟨_, same⟩ := Schema.lastNamed?_mem named
    subst same
    rw [overrideRead?_finish named encoded]
    exact Schema.continues_override schema ⟨definition.head, bytes⟩

theorem feedAll_continues {lexemes : List Lexeme} (holds : numbering.Holds state)
    (fed : state.feedAll lexemes = .ok next) :
    Schema.Continues (noted overrideRead? state lexemes) state.schema next.schema := by
  induction lexemes generalizing state with
  | nil =>
    cases fed
    exact .refl _
  | cons lexeme rest ih =>
    obtain ⟨between, fed, later⟩ := bind_eq_ok.mp (List.foldlM_cons.symm.trans fed)
    have kept : numbering.Holds between :=
      Invariant.fed_holds holds (fun _ _ => trivial) (feed_fed holds.sound fed)
    rw [noted_cons fed]
    exact (feed_continues holds.sound fed).trans (ih kept later)

def outermost? : List OpenContainer → Option Definition → Option Definition
  | [], draft? => draft?
  | around :: outer, _ => outermost? outer (some around.container)

def templates (state : State) : List String :=
  (state.schema.aliases.map (·.1)).reverse ++
    match state.place with
    | .declarations ⟨.alias, enclosing⟩ place =>
      ((outermost? enclosing place.draft?).map (Text.lower ·.name)).toList
    | _ => []

theorem templates_declare (schema : Schema) (enclosing : List OpenContainer)
    (definition : Definition) :
    (declare schema ⟨.alias, enclosing⟩ definition).templates =
      (schema.aliases.map (·.1)).reverse ++
        ((outermost? enclosing (some definition)).map (Text.lower ·.name)).toList := by
  cases enclosing with
  | nil => simp [declare, templates, Schema.addAlias, outermost?, DeclarationPlace.draft?]
  | cons around outer => rfl

theorem templates_endList (schema : Schema) (around : OpenContainer)
    (outer : List OpenContainer) :
    (endList schema ⟨.alias, around :: outer⟩).templates =
      (schema.aliases.map (·.1)).reverse ++
        ((outermost? outer (some around.container)).map (Text.lower ·.name)).toList := by
  rw [endList, templates_declare]
  cases outer <;> rfl

theorem templates_element (schema : Schema) (enclosing : List OpenContainer)
    (place : DeclarationPlace) :
    templates ⟨schema, .declarations ⟨.element, enclosing⟩ place⟩ =
      (schema.aliases.map (·.1)).reverse :=
  List.append_nil _

theorem templates_declare_element (schema : Schema) (enclosing : List OpenContainer)
    (definition : Definition) :
    (declare schema ⟨.element, enclosing⟩ definition).templates =
      (schema.aliases.map (·.1)).reverse := by
  cases enclosing <;> exact templates_element _ _ _

theorem outermost?_name {definition changed : Definition} (same : changed.name = definition.name)
    (enclosing : List OpenContainer) :
    (outermost? enclosing (some changed)).map (Text.lower ·.name) =
      (outermost? enclosing (some definition)).map (Text.lower ·.name) := by
  cases enclosing with
  | nil => simp [outermost?, same]
  | cons around outer => rfl

theorem fed_templates_untyped (untyped : state.Untyped) (fed : Fed state lexeme next) :
    next.templates = state.templates := by
  cases fed with
  | @outside schema place next lexeme before after =>
    cases place <;> cases next <;> first | rfl | contradiction
  | overridden named encoded => rfl
  | @begun schema place kind lexeme before =>
    cases place <;> cases kind <;> first | rfl | contradiction
  | @headed schema nesting place next lexeme early undrafted sound =>
    obtain ⟨kind, enclosing⟩ := nesting
    have undrafted' : place.draft? = none := by
      cases place <;> first | rfl | contradiction
    cases kind <;> simp [templates, undrafted, undrafted']
  | typed numbered known => exact absurd rfl (untyped _ _ _)
  | @revised schema nesting place next lexeme definition changed draft draft' revised sound =>
    obtain ⟨kind, enclosing⟩ := nesting
    cases kind
    · rw [templates_element, templates_element]
    · simp [templates, draft, draft', outermost?_name revised.name]
  | @declared schema nesting place lexeme definition draft =>
    obtain ⟨kind, enclosing⟩ := nesting
    cases kind
    · rw [templates_declare_element, templates_element]
    · rw [templates_declare]
      simp [templates, draft]
  | @opened schema nesting place lexeme definition draft nests =>
    obtain ⟨kind, enclosing⟩ := nesting
    cases kind <;> simp [startList, templates, draft, outermost?]
  | @closed schema nesting lexeme =>
    obtain ⟨kind, enclosing⟩ := nesting
    cases enclosing with
    | nil => cases kind <;> simp [endList, templates, outermost?, DeclarationPlace.draft?]
    | cons around outer =>
      cases kind
      · rw [endList, templates_declare_element, templates_element]
      · rw [templates_endList]
        rfl

theorem fed_templates (fed : Fed state lexeme next) :
    next.templates = state.templates ++ (state.templateRead? lexeme).toList := by
  rcases fed.untyped with untyped | ⟨schema, ⟨kind, enclosing⟩, name, id, type, definition, typed⟩
  · rw [templateRead?_untyped untyped, fed_templates_untyped untyped fed, Option.toList_none,
      List.append_nil]
  · obtain ⟨here, read, there, known⟩ := typed
    subst here read there
    have named := ofType_name known
    cases kind
    · simp [templates, templateRead?]
    · cases enclosing <;>
        simp [templates, templateRead?, outermost?, DeclarationPlace.draft?, named]

theorem feedAll_templates {lexemes : List Lexeme} (holds : numbering.Holds state)
    (fed : state.feedAll lexemes = .ok next) :
    next.templates = state.templates ++ noted templateRead? state lexemes :=
  Invariant.feedAll_noted (fun _ => trivial) (fun _ => fed_templates) holds fed

theorem feedAll_alias_unread {lexemes : List Lexeme} {key : String} (holds : numbering.Holds state)
    (idle : state.templates = (state.schema.aliases.map (·.1)).reverse)
    (fed : state.feedAll lexemes = .ok next) (unread : key ∉ noted templateRead? state lexemes) :
    next.schema.aliases.lookup key = state.schema.aliases.lookup key := by
  obtain ⟨added, aliases⟩ := (feedAll_continues holds fed).aliases
  have read := feedAll_templates holds fed
  rw [idle, templates, aliases, List.map_append, List.reverse_append, List.append_assoc] at read
  have keys := List.append_cancel_left read
  have absent : added.lookup key = none := by
    rw [List.lookup_eq_none_iff]
    intro entry member
    have other : entry.1 ≠ key := by
      intro same
      subst same
      refine unread ?_
      rw [← keys]
      exact List.mem_append_left _ (List.mem_reverse.mpr (List.mem_map_of_mem member))
    simpa using other.symm
  rw [aliases, List.lookup_append, absent, Option.none_or]

-- In a header block, or before its opening brace.
def InHeader (state : State) : Prop :=
  match state.place with
  | .blockStart .header => True
  | .header _ => True
  | _ => False

theorem fed_declarations_outside {nesting : Nesting} {place : DeclarationPlace}
    (fed : Fed ⟨schema, .declarations nesting place⟩ lexeme next) : ¬next.InHeader := by
  obtain ⟨kind, enclosing⟩ := nesting
  cases fed with
  | outside before after => exact before.elim
  | declared draft => cases enclosing <;> exact id
  | closed =>
    obtain _ | ⟨around, _ | outer⟩ := enclosing <;> exact id
  | _ => exact id

theorem feed_outside (sound : state.Sound) (outside : ¬state.InHeader)
    (unread : state.blockRead? lexeme ≠ some .header) (fed : state.feed lexeme = .ok next) :
    ¬next.InHeader := by
  obtain ⟨schema, place⟩ := state
  cases place with
  | block =>
    simp only [feed] at fed
    split at fed <;> cases fed
    exact id
  | blockKind =>
    simp only [feed] at fed
    split at fed <;> cases fed
    · exact id
    · exact absurd rfl unread
    · exact id
  | blockStart kind =>
    simp only [feed] at fed
    split at fed <;> cases fed
    cases kind with
    | header => exact absurd trivial outside
    | _ => exact id
  | header place => exact absurd trivial outside
  | declarations nesting place => exact fed_declarations_outside (feedDeclaration_fed sound fed)

theorem overrideRead?_outside (outside : ¬state.InHeader) : state.overrideRead? lexeme = none := by
  refine overrideRead?_unfinished ?_
  intro name value finished
  simp [InHeader, finished] at outside

theorem noted_overrides_outside {lexemes : List Lexeme} (holds : numbering.Holds state)
    (outside : ¬state.InHeader) (unread : .header ∉ noted blockRead? state lexemes) :
    noted overrideRead? state lexemes = [] := by
  induction lexemes generalizing state with
  | nil => rfl
  | cons lexeme rest ih =>
    cases fed : state.feed lexeme with
    | error fault => simp [noted, fed, overrideRead?_outside outside]
    | ok next =>
      have kept : numbering.Holds next :=
        Invariant.fed_holds holds (fun _ _ => trivial) (feed_fed holds.sound fed)
      rw [noted_cons fed, List.mem_append, not_or, Option.mem_toList] at unread
      rw [noted_cons fed, overrideRead?_outside outside,
        ih kept (feed_outside holds.sound outside unread.1 fed) unread.2]
      rfl

end Edtd.State

namespace Schema

variable {schema extended : Schema} {source : String}

theorem extend_continues (numbered : Edtd.numbering.schema schema)
    (compiled : schema.extend source = .ok extended) :
    Continues (schema.overridesRead source) schema extended := by
  have holds : Edtd.numbering.Holds ⟨schema, .block⟩ := .outside numbered trivial
  exact Edtd.State.feedAll_continues holds (extend_eq_ok_iff.mp compiled).2

theorem extend_alias_unread {key : String} (numbered : Edtd.numbering.schema schema)
    (compiled : schema.extend source = .ok extended) (unread : key ∉ schema.templatesRead source) :
    extended.aliases.lookup key = schema.aliases.lookup key := by
  have holds : Edtd.numbering.Holds ⟨schema, .block⟩ := .outside numbered trivial
  exact Edtd.State.feedAll_alias_unread holds (List.append_nil _) (extend_eq_ok_iff.mp compiled).2
    unread

theorem extend_definition? {id : ElementId} (numbered : Edtd.numbering.schema schema)
    (compiled : schema.extend source = .ok extended)
    (undeclared : ∀ head ∈ schema.headsRead source, head.id ≠ id) :
    extended.definition? id =
      (schema.definition? id).map (Definition.overrideEach (schema.overridesRead source)) :=
  (extend_continues numbered compiled).definition? (extend_heads numbered compiled) undeclared

theorem extend_isSome {id : ElementId} (numbered : Edtd.numbering.schema schema)
    (compiled : schema.extend source = .ok extended)
    (defined : (schema.definition? id).isSome = true) :
    (extended.definition? id).isSome = true := by
  obtain ⟨head, member, same⟩ := definition?_isSome_iff.mp defined
  refine definition?_isSome_iff.mpr ⟨head, ?_, same⟩
  rw [extend_heads numbered compiled]
  exact List.mem_append_left _ member

theorem overridesRead_headless (numbered : Edtd.numbering.schema schema)
    (headless : .header ∉ schema.blocksRead source) : schema.overridesRead source = [] := by
  have holds : Edtd.numbering.Holds ⟨schema, .block⟩ := .outside numbered trivial
  exact Edtd.State.noted_overrides_outside holds id headless

-- More lines lose none of the definitions and change no others than those they declare again,
-- but for the defaults that header blocks among them set. The built-in elements are there from
-- the start.
theorem extension_keeps_definitions {more : String} (compiled : ofText source = .ok schema)
    (compiled' : ofText (source ++ "\n" ++ more) = .ok extended) :
    (∀ builtin ∈ Builtin.schema.nodes, (schema.definition? builtin.id).isSome = true) ∧
      (∀ id, (schema.definition? id).isSome = true → (extended.definition? id).isSome = true) ∧
      (∀ key, (schema.aliases.lookup key).isSome = true →
        (extended.aliases.lookup key).isSome = true) ∧
      (∀ id before after, schema.definition? id = some before →
        extended.definition? id = some after →
        before.withoutDefaults ≠ after.withoutDefaults →
        ∃ head ∈ schema.headsRead more, head.id = id) ∧
      (∀ key before after, schema.aliases.lookup key = some before →
        extended.aliases.lookup key = some after → before ≠ after →
        key ∈ schema.templatesRead more) ∧
      (.header ∉ schema.blocksRead more → ∀ id, (∀ head ∈ schema.headsRead more, head.id ≠ id) →
        extended.definition? id = schema.definition? id) := by
  have initial : Edtd.numbering.schema Builtin.schema := nofun
  have numbered : Edtd.numbering.schema schema :=
    Edtd.Invariant.extend_holds initial (fun _ _ => trivial) compiled
  have further : schema.extend more = .ok extended := by
    rw [ofText_eq, extend_line compiled] at compiled'
    exact compiled'
  refine ⟨?_, ?_, ?_, ?_, ?_, ?_⟩
  · intro builtin member
    have defined : ∀ node ∈ Builtin.schema.nodes,
        (Builtin.schema.definition? node.id).isSome = true := by decide +kernel
    exact extend_isSome initial compiled (defined builtin member)
  · intro id defined
    exact extend_isSome numbered further defined
  · intro key known
    obtain ⟨added, aliases⟩ := (extend_continues numbered further).aliases
    rw [aliases, List.lookup_append, Option.isSome_or, known, Bool.or_true]
  · intro id before after defined defined' differ
    by_contra undeclared
    have unread : ∀ head ∈ schema.headsRead more, head.id ≠ id := by simpa using undeclared
    rw [extend_definition? numbered further unread, defined] at defined'
    cases defined'
    exact differ (before.overrideEach_withoutDefaults _).symm
  · intro key before after known known' differ
    by_contra unread
    rw [extend_alias_unread numbered further unread, known] at known'
    exact differ (Option.some.inj known')
  · intro headless id undeclared
    rw [extend_definition? numbered further undeclared, overridesRead_headless numbered headless]
    simp

def templated : String :=
  "define types \x7b N := uint; \x7d " ++
    "define elements \x7b A := 4081 container \x7b B := 82 n; \x7d \x7d"

def redeclared : String :=
  "define types \x7b N := string; \x7d define elements \x7b B := 82 N; \x7d"

theorem redeclaration_keeps_the_others :
    ∃ schema, ofText templated = .ok schema ∧ ∃ extended,
      ofText (templated ++ "\n" ++ redeclared) = .ok extended ∧
      (schema.definition? 2).map (·.type) = some .uint ∧
      (extended.definition? 2).map (·.type) = some .string ∧
      (∃ head ∈ schema.headsRead redeclared, head.id = 2) ∧
      (extended.aliases.lookup "n").isSome = true ∧
      .header ∉ schema.blocksRead redeclared ∧
      extended.definition? 129 = schema.definition? 129 := by
  have compiles : (ofText templated).toOption.map (fun schema =>
      ((schema.definition? 2).map (·.type), (schema.aliases.lookup "n").isSome,
        schema.headsRead redeclared, schema.blocksRead redeclared)) =
      some (some .uint, true, [⟨"B", 2, .string⟩], [.types, .elements]) := by decide +kernel
  have compiles' : (ofText (templated ++ "\n" ++ redeclared)).toOption.map (fun extended =>
      (extended.definition? 2).map (·.type)) = some (some .string) := by decide +kernel
  obtain ⟨schema, read, views⟩ := Option.map_eq_some_iff.mp compiles
  obtain ⟨extended, read', string⟩ := Option.map_eq_some_iff.mp compiles'
  have compiled := Edtd.toOption_eq_some.mp read
  have compiled' := Edtd.toOption_eq_some.mp read'
  simp only [Prod.mk.injEq] at views
  obtain ⟨uint, known, heads, blocks⟩ := views
  obtain ⟨_, _, keys, again, _, same⟩ := extension_keeps_definitions compiled compiled'
  obtain ⟨before, defined, wasUint⟩ := Option.map_eq_some_iff.mp uint
  obtain ⟨after, defined', isString⟩ := Option.map_eq_some_iff.mp string
  have differ : before.withoutDefaults ≠ after.withoutDefaults := by
    intro equal
    rw [Definition.withoutDefaults_eq, Definition.withoutDefaults_eq] at equal
    have types := congrArg (·.type) equal
    simp only [wasUint, isString] at types
    cases types
  have headless : .header ∉ schema.blocksRead redeclared := by simp [blocks]
  exact ⟨schema, compiled, extended, compiled', uint, string,
    again 2 before after defined defined' differ, keys "n" known, headless,
    same headless 129 (by simp [heads])⟩

end Schema

end Ebml
