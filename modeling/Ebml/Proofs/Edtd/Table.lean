import Ebml.Proofs.Edtd.Slots

namespace Ebml

namespace Edtd

namespace Descent

-- Two readers that ask for the same tokens, fail alike and read values that agree.
variable {α β γ δ : Type} {agrees : α → β → Prop} {post : α → Prop}

inductive Matches (agrees : α → β → Prop) :
    Option (Except Fault α × Lexer) → Option (Except Fault β × Lexer) → Prop
  | unfinished : Matches agrees none none
  | failed (fault : Fault) (lexer : Lexer) :
      Matches agrees (some (.error fault, lexer)) (some (.error fault, lexer))
  | done {value : α} {value' : β} (same : agrees value value') (lexer : Lexer) :
      Matches agrees (some (.ok value, lexer)) (some (.ok value', lexer))

def Alike (agrees : α → β → Prop) (one : Descent α) (other : Descent β) : Prop :=
  ∀ lexer, Matches agrees (one lexer) (other lexer)

def Same (post : α → Prop) (value value' : α) : Prop := value = value' ∧ post value

namespace Alike

theorem unfinished : Alike agrees unfinished unfinished := fun _ => .unfinished

theorem refuse (fault : Fault) : Alike agrees (refuse fault) (refuse fault) :=
  fun lexer => .failed fault lexer

theorem refused {fault : Fault} {other : Descent β} (refuses : other = Descent.refuse fault) :
    Alike agrees (Descent.refuse fault) other :=
  refuses ▸ .refuse fault

theorem pure {value : α} {value' : β} (same : agrees value value') :
    Alike agrees (pure value) (pure value') :=
  fun lexer => .done same lexer

theorem meaning {read : Except Fault α} (ensures : ∀ value, read = .ok value → post value) :
    Alike (Same post) (meaning read) (meaning read) := by
  intro lexer
  cases read with
  | error fault => exact .failed fault lexer
  | ok value => exact .done ⟨rfl, ensures value rfl⟩ lexer

theorem refl (read : Descent α) : Alike Eq read read := by
  intro lexer
  rcases read lexer with _ | ⟨fault | value, after⟩
  · exact .unfinished
  · exact .failed fault after
  · exact .done rfl after

theorem mono {weaker : α → β → Prop} {one : Descent α} {other : Descent β}
    (alike : Alike agrees one other)
    (weakens : ∀ value value', agrees value value' → weaker value value') :
    Alike weaker one other := by
  intro lexer
  have here := alike lexer
  generalize one lexer = result, other lexer = result' at here
  cases here with
  | unfinished => exact .unfinished
  | failed fault after => exact .failed fault after
  | done same after => exact .done (weakens _ _ same) after

theorem bind {agree : γ → δ → Prop} {one : Descent α} {other : Descent β} {two : α → Descent γ}
    {two' : β → Descent δ} (first : Alike agrees one other)
    (second : ∀ value value', agrees value value' → Alike agree (two value) (two' value')) :
    Alike agree (one >>= two) (other >>= two') := by
  intro lexer
  have here := first lexer
  change Matches agree ((one lexer).bind _) ((other lexer).bind _)
  generalize one lexer = result, other lexer = result' at here
  cases here with
  | unfinished => exact .unfinished
  | failed fault after => exact .failed fault after
  | done same after => exact second _ _ same after

theorem stored {agree : γ → β → Prop} {one : Descent α} {other : Descent β} {store : α → γ}
    (alike : Alike agrees one other)
    (stores : ∀ value value', agrees value value' → agree (store value) value') :
    Alike agree (one >>= fun value => Pure.pure (store value)) other := by
  rw [← bind_pure other]
  exact .bind alike fun value value' same => .pure (stores value value' same)

theorem after {agree : γ → δ → Prop} (read : Descent α) {two : α → Descent γ} {two' : α → Descent δ}
    (second : ∀ value, Alike agree (two value) (two' value)) :
    Alike agree (read >>= two) (read >>= two') := by
  refine .bind (.refl read) ?_
  rintro value _ rfl
  exact second value

theorem bind_same {agree : γ → δ → Prop} {read : Descent α} {two : α → Descent γ}
    {two' : α → Descent δ} (first : Alike (Same post) read read)
    (second : ∀ value, post value → Alike agree (two value) (two' value)) :
    Alike agree (read >>= two) (read >>= two') := by
  refine .bind first ?_
  rintro value _ ⟨rfl, holds⟩
  exact second value holds

end Alike

end Descent

namespace Table

open Descent (Alike Same)

variable {kind : DeclarationKind} {definition changed : Definition} {schema : Schema}
  {table : Table}

def Unnumbered (templates : List (String × Definition)) : Prop :=
  ∀ entry ∈ templates, ∀ node ∈ entry.2.preorder, node.id = 0

-- A definition before its own children are read: below it there is only what a template lends.
structure Draft (kind : DeclarationKind) (definition : Definition) : Prop where
  numbered : definition.id = 0 ↔ kind = .alias
  below : ∀ node ∈ definition.descendants, node.id = 0

theorem draft_of_children (draft : Draft kind definition) (id : changed.id = definition.id)
    (children : changed.children = definition.children) : Draft kind changed := by
  obtain ⟨numbered, below⟩ := draft
  refine ⟨by rw [id]; exact numbered, ?_⟩
  rw [Definition.descendants, children]
  exact below

theorem parameter_draft (calls : Nat) (draft : Draft kind definition) (name : String)
    (value : Lexeme) :
    Alike (Same (Draft kind)) (Descent.parameter calls definition name value)
      (Descent.parameter calls definition name value) := by
  have revised {changed : Definition} (id : changed.id = definition.id)
      (children : changed.children = definition.children) :
      Alike (Same (Draft kind)) (pure changed) (pure changed) :=
    .pure ⟨rfl, draft_of_children draft id children⟩
  unfold Descent.parameter
  split
  · exact .after _ fun cardinality => .after _ fun _ => revised rfl rfl
  · exact .after _ fun bytes => .after _ fun _ => revised rfl rfl
  · exact .after _ fun size => .after _ fun _ => revised rfl rfl
  · exact .after _ fun first => .after _ fun terms => .after _ fun range => revised rfl rfl
  · exact .after _ fun _ => revised rfl rfl

theorem parameters_draft (calls : Nat) (draft : Draft kind definition) :
    Alike (Same (Draft kind)) (Descent.parameters calls definition)
      (Descent.parameters calls definition) := by
  induction calls generalizing definition with
  | zero => exact .unfinished
  | succ calls ih =>
    refine .after Descent.next fun found? => ?_
    split
    · exact .pure ⟨rfl, draft⟩
    · rename_i name
      refine .after _ fun _ => .after Descent.next fun value? => ?_
      split
      · rename_i value
        exact .bind_same (parameter_draft calls draft name value) fun changed draft => ih draft
      · exact .refuse _
    · exact .refuse _

theorem ofType_draft {id : ElementId} {name type : String} (templates : Unnumbered schema.aliases)
    (numbered : id = 0 ↔ kind = .alias)
    (typed : State.ofType schema id name type = .ok definition) : Draft kind definition := by
  rcases ofType_cases typed with ⟨primitive, rfl⟩ | ⟨key, template, member, rfl⟩
  · refine ⟨numbered, ?_⟩
    rw [Definition.descendants, Definition.new_children]
    nofun
  · refine ⟨numbered, fun node inside => ?_⟩
    have nested : node ∈ template.preorder := by
      rw [Definition.preorder_descendants]
      exact List.mem_cons_of_mem _ inside
    exact templates _ member node nested

theorem heading_draft (templates : Unnumbered schema.aliases) (kind : DeclarationKind)
    (name : String) :
    Alike (Same (Draft kind)) (Descent.heading schema kind name)
      (Descent.heading schema kind name) := by
  refine .after _ fun _ => ?_
  cases kind
  · refine .after _ fun literal => ?_
    refine .bind_same (.meaning fun id read => elementId_ne_zero read) fun id nonzero => ?_
    refine .after _ fun type => .meaning fun definition typed => ?_
    exact ofType_draft templates (iff_of_false nonzero nofun) typed
  · refine .after _ fun type => .meaning fun definition typed => ?_
    exact ofType_draft templates (iff_of_true rfl rfl) typed

-- The definitions with an identifier of their own, in the order in which their slots are taken.
def entries (definition : Definition) : List Definition := definition.preorder.filter (·.id != 0)

theorem entries_eq (numbered : definition.id ≠ 0) :
    entries definition = definition :: definition.children.flatMap entries := by
  rw [entries, Definition.preorder_eq, List.filter_cons, if_pos (bne_iff_ne.mpr numbered),
    List.filter_flatMap]
  rfl

structure Placed (kind : DeclarationKind) (before : Slots) (definition : Definition)
    (slots : Slots) : Prop where
  slots : kind = .element → slots = before.append (entries definition)
  unnumbered : kind = .alias → ∀ node ∈ definition.preorder, node.id = 0

def Stored (kind : DeclarationKind) (before : Slots) (read : Definition × Slots)
    (definition : Definition) : Prop :=
  read.1 = definition ∧ Placed kind before definition read.2

inductive Itemized (kind : DeclarationKind) (before : Slots) :
    Option Definition × Slots → Option Definition → Prop
  | ended : Itemized kind before (none, before) none
  | item {definition : Definition} {slots : Slots} (placed : Placed kind before definition slots) :
      Itemized kind before (some definition, slots) (some definition)

inductive Listed (kind : DeclarationKind) (earlier : List Definition) (before : Slots) :
    List Definition × Slots → List Definition → Prop
  | listed {later : List Definition} {slots : Slots}
      (placed : kind = .element → slots = before.append (later.flatMap entries))
      (unnumbered : kind = .alias → ∀ child ∈ later, ∀ node ∈ child.preorder, node.id = 0) :
      Listed kind earlier before (earlier ++ later, slots) (earlier ++ later)

theorem Draft.placed (draft : Draft kind definition) (before : Slots) :
    Placed kind before definition (before.reserve.2.fill before.reserve.1 definition) := by
  constructor
  · rintro rfl
    have numbered : definition.id ≠ 0 := fun zero => nomatch draft.numbered.mp zero
    have alone : definition.children.flatMap entries = [] := by
      change definition.children.flatMap (fun child => child.preorder.filter (·.id != 0)) = []
      rw [← List.filter_flatMap]
      refine List.filter_eq_nil_iff.mpr ?_
      intro node inside
      rw [draft.below node inside]
      exact Bool.false_ne_true
    rw [entries_eq numbered, alone, ← Slots.fill_reserve, Slots.append_nil]
  · rintro rfl node inside
    rw [Definition.preorder_descendants] at inside
    rcases List.mem_cons.mp inside with rfl | below
    · exact draft.numbered.mpr rfl
    · exact draft.below node below

theorem Draft.filled (draft : Draft kind definition) {before slots : Slots}
    {children : List Definition} (listed : Listed kind [] before.reserve.2 (children, slots) children) :
    Placed kind before { definition with children? := some children }
      (slots.fill before.reserve.1 { definition with children? := some children }) := by
  generalize whole : { definition with children? := some children : Definition } = filled
  have numbered : filled.id = 0 ↔ kind = .alias := by
    rw [← whole]
    exact draft.numbered
  have nested : filled.children = children := by
    rw [← whole]
    rfl
  cases listed with
  | listed placed unnumbered =>
    constructor
    · rintro rfl
      have own : filled.id ≠ 0 := fun zero => nomatch numbered.mp zero
      rw [placed rfl, Slots.fill_reserve, entries_eq own, nested, List.nil_append]
    · rintro rfl node inside
      rcases Definition.mem_preorder_iff.mp inside with rfl | ⟨child, member, within⟩
      · exact numbered.mpr rfl
      · rw [nested] at member
        exact unnumbered rfl child member node within

theorem Listed.none (earlier : List Definition) (before : Slots) :
    Listed kind earlier before (earlier, before) earlier := by
  have listed : Listed kind earlier before (earlier ++ [], before) (earlier ++ []) := by
    refine .listed (fun _ => ?_) nofun
    rw [List.flatMap_nil, Slots.append_nil]
  rwa [List.append_nil] at listed

theorem Listed.item {earlier : List Definition} {before slots : Slots}
    {read : List Definition × Slots} {children : List Definition}
    (placed : Placed kind before definition slots)
    (listed : Listed kind (earlier ++ [definition]) slots read children) :
    Listed kind earlier before read children := by
  cases listed with
  | @listed later last others unnumbered =>
    rw [List.append_assoc, List.singleton_append]
    refine .listed ?_ ?_
    · intro elements
      rw [others elements, placed.slots elements, Slots.append_append, List.flatMap_cons]
    · intro template
      exact List.forall_mem_cons.mpr ⟨placed.unnumbered template, unnumbered template⟩

-- With the table or without it, the same is read, and each definition is in its slot, those
-- that are nested in it right after it.
structure NestedAlike (schema : Schema) (kind : DeclarationKind) (calls : Nat) : Prop where
  declaration : ∀ name before,
    Alike (Stored kind before) (declaration schema.aliases kind calls name before)
      (Descent.declaration schema kind calls name)
  item : ∀ before, Alike (Itemized kind before) (item schema.aliases kind calls before)
    (Descent.item schema kind calls)
  items : ∀ earlier before, Alike (Listed kind earlier before)
    (items schema.aliases kind calls earlier before) (Descent.items schema kind calls earlier)

namespace NestedAlike

variable {calls : Nat}

theorem children (nested : NestedAlike schema kind calls) (draft : Draft kind definition)
    (before : Slots) :
    Alike (Stored kind before)
      (do
        return closed definition before.reserve.1
          (← Table.items schema.aliases kind calls [] before.reserve.2))
      (do
        let children ← Descent.items schema kind calls []
        return { definition with children? := some children }) := by
  refine .bind (nested.items [] before.reserve.2) ?_
  rintro ⟨children, slots⟩ children' listed
  obtain rfl : children = children' := by
    cases listed
    rfl
  exact .pure ⟨rfl, draft.filled listed⟩

theorem declaration_succ (nested : NestedAlike schema kind calls)
    (templates : Unnumbered schema.aliases) (name : String) (before : Slots) :
    Alike (Stored kind before)
      (Table.declaration schema.aliases kind (calls + 1) name before)
      (Descent.declaration schema kind (calls + 1) name) := by
  refine .bind_same (heading_draft templates kind name) fun definition draft => ?_
  refine .after Descent.next fun found? => ?_
  split
  · exact .pure ⟨rfl, draft.placed before⟩
  · refine .bind_same (parameters_draft calls draft) fun changed draft => ?_
    split
    · exact .after _ fun _ => nested.children draft before
    · exact .pure ⟨rfl, draft.placed before⟩
  · split
    · exact nested.children draft before
    · exact .refuse _
  · exact .refused (by simp [*])

theorem item_succ (nested : NestedAlike schema kind calls) (before : Slots) :
    Alike (Itemized kind before) (Table.item schema.aliases kind (calls + 1) before)
      (Descent.item schema kind (calls + 1)) := by
  refine .after Descent.next fun found? => ?_
  split
  · exact .pure .ended
  · exact .after _ fun _ => nested.item before
  · rename_i name
    refine .bind (nested.declaration name before) ?_
    rintro ⟨definition, slots⟩ _ ⟨rfl, placed⟩
    exact .pure (.item placed)
  · exact .refused (by simp [*])

theorem items_succ (nested : NestedAlike schema kind calls) (earlier : List Definition)
    (before : Slots) :
    Alike (Listed kind earlier before) (Table.items schema.aliases kind (calls + 1) earlier before)
      (Descent.items schema kind (calls + 1) earlier) := by
  refine .bind (nested.item before) ?_
  rintro _ _ (_ | ⟨placed⟩)
  · exact .pure (.none earlier before)
  · refine (nested.items _ _).mono ?_
    intro read children listed
    exact listed.item placed

end NestedAlike

theorem nested_alike (templates : Unnumbered schema.aliases) (kind : DeclarationKind)
    (calls : Nat) : NestedAlike schema kind calls := by
  induction calls with
  | zero => exact ⟨fun _ _ => .unfinished, fun _ => .unfinished, fun _ _ => .unfinished⟩
  | succ calls ih => exact ⟨ih.declaration_succ templates, ih.item_succ, ih.items_succ⟩

-- The table of a schema: a slot for every declaration, and the same templates.
structure Agrees (table : Table) (schema : Schema) : Prop where
  slots : table.slots = Slots.empty.append schema.declarations
  templates : table.templates = schema.aliases
  unnumbered : Unnumbered schema.aliases

theorem declarations_declare (schema : Schema) (root : Definition) :
    (schema.declare root).declarations = schema.declarations ++ entries root := by
  rw [Schema.declarations, ← Schema.nodes, Schema.nodes_declare, List.filter_append]
  rfl

theorem items_alike (templates : Unnumbered schema.aliases) (calls : Nat) (known : Schema)
    (same : known.aliases = schema.aliases) (earlier : List Definition) :
    Alike (fun read extended => read.2 = Slots.empty.append extended.declarations ∧
        extended.aliases = schema.aliases)
      (items schema.aliases .element calls earlier (.append .empty known.declarations))
      (Descent.declarations .element calls known) := by
  induction calls generalizing known earlier with
  | zero => exact .unfinished
  | succ calls ih =>
    rw [← same] at templates ⊢
    refine .bind ((nested_alike templates .element calls).item _) ?_
    rintro _ _ (_ | ⟨placed⟩)
    · exact .pure ⟨rfl, rfl⟩
    · rename_i definition slots
      have next := ih (known.declare definition) same (earlier ++ [definition])
      rw [declarations_declare, ← Slots.append_append, ← placed.slots rfl, ← same] at next
      exact next

theorem elements_alike (calls : Nat) (agrees : Agrees table schema) :
    Alike Agrees (elements calls table) (Descent.declarations .element calls schema) := by
  rw [elements, agrees.slots, agrees.templates]
  refine .stored (items_alike agrees.unnumbered calls schema rfl []) ?_
  rintro ⟨children, slots⟩ extended ⟨placed, same⟩
  exact ⟨placed, same.symm, same ▸ agrees.unnumbered⟩

theorem aliases_alike (calls : Nat) (agrees : Agrees table schema) (scratch : Slots) :
    Alike Agrees (aliases calls table scratch) (Descent.declarations .alias calls schema) := by
  induction calls generalizing table schema scratch with
  | zero => exact .unfinished
  | succ calls ih =>
    have items := (nested_alike agrees.unnumbered .alias calls).item scratch
    rw [← agrees.templates] at items
    refine .bind items ?_
    rintro _ _ (_ | ⟨placed⟩)
    · exact .pure agrees
    · rename_i template scratch
      have known : Agrees { table with
          templates := (Text.lower template.name, template) :: table.templates }
          (schema.addAlias template) := by
        refine ⟨agrees.slots, ?_, ?_⟩
        · rw [agrees.templates]
          rfl
        · exact List.forall_mem_cons.mpr ⟨placed.unnumbered rfl, agrees.unnumbered⟩
      exact ih known scratch

theorem headerEntry_alike (agrees : Agrees table schema) (name : String) (value : Lexeme) :
    Alike Agrees (headerEntry table name value) (Descent.headerEntry schema name value) := by
  refine .after _ fun _ => ?_
  have named : table.slots.lastNamed? name = schema.lastNamed? name := by
    rw [agrees.slots, Slots.lastNamed?_append]
    rfl
  rw [named]
  cases schema.lastNamed? name with
  | none => exact .refuse _
  | some definition =>
    refine .after _ fun bytes => .pure ⟨?_, agrees.templates, agrees.unnumbered⟩
    change table.slots.overrideDefault name bytes = _
    rw [agrees.slots, Slots.overrideDefault_append, ← Schema.declarations_overrideDefault]

theorem headerEntries_alike (calls : Nat) (agrees : Agrees table schema) :
    Alike Agrees (headerEntries calls table) (Descent.headerEntries calls schema) := by
  induction calls generalizing table schema with
  | zero => exact .unfinished
  | succ calls ih =>
    refine .after Descent.next fun found? => ?_
    split
    · exact .pure agrees
    · rename_i name
      refine .after _ fun _ => .after Descent.next fun value? => ?_
      cases value? with
      | none => exact .refuse _
      | some value =>
        cases value with
        | symbol mark => exact .refuse _
        | _ => exact .bind (headerEntry_alike agrees name _) fun _ _ agrees => ih agrees
    · exact .refused (by simp [*])

theorem block_alike (calls : Nat) (agrees : Agrees table schema) :
    Alike Agrees (block calls table) (Descent.block calls schema) := by
  refine .after Descent.next fun found? => ?_
  split
  · exact .after _ fun _ => elements_alike calls agrees
  · exact .after _ fun _ => headerEntries_alike calls agrees
  · exact .after _ fun _ => aliases_alike calls agrees .empty
  · exact .refused (by simp [*])

theorem blocks_alike (calls : Nat) (agrees : Agrees table schema) :
    Alike Agrees (blocks calls table) (Descent.blocks calls schema) := by
  induction calls generalizing table schema with
  | zero => exact .unfinished
  | succ calls ih =>
    refine .after Descent.next fun found? => ?_
    cases found? with
    | none => exact .pure agrees
    | some lexeme =>
      dsimp only
      split
      · exact .bind (block_alike calls agrees) fun _ _ agrees => ih agrees
      · exact .refuse _

theorem read_extend (agrees : Agrees table schema) {calls : Nat} (source : String)
    (enough : (lex source.toList).1.length < calls) :
    (∃ fault, read calls table source = some (.error fault) ∧ schema.extend source = .error fault) ∨
      ∃ table' extended, read calls table source = some (.ok table') ∧
        schema.extend source = .ok extended ∧ Agrees table' extended := by
  obtain ⟨lexer, completes, _⟩ := Descent.blocks_complete (Nat.le_refl _) schema source.toList 0 _ _
    rfl (Nat.lt_succ_self _)
  have reads : Descent.blocks calls schema ⟨source.toList, 0⟩ =
      some (schema.extend source, lexer) :=
    Descent.Within.of_le (Descent.blocks_within · schema) enough _ _ completes
  have here := blocks_alike calls agrees ⟨source.toList, 0⟩
  rw [reads] at here
  unfold read
  generalize blocks calls table ⟨source.toList, 0⟩ = outcome at here
  generalize schema.extend source = result at here
  cases here with
  | failed fault => exact .inl ⟨fault, rfl, rfl⟩
  | done agrees => exact .inr ⟨_, _, rfl, rfl, agrees⟩

def ofSchema (schema : Schema) : Table := ⟨.append .empty schema.declarations, schema.aliases⟩

theorem Agrees.eq (agrees : Agrees table schema) : table = ofSchema schema := by
  obtain ⟨slots, templates⟩ := table
  obtain ⟨rfl, rfl, _⟩ := agrees
  rfl

theorem empty_agrees : Agrees .empty .empty := ⟨rfl, rfl, nofun⟩

end Table

end Edtd

set_option maxRecDepth 4000 in
theorem Builtin.schema_compiled : Schema.empty.extend text = .ok schema := by
  have characters : text.toList = _ := String.toList_ofList
  refine Edtd.toOption_eq_some.mp ?_
  rw [Schema.extend_eq, characters]
  decide +kernel

-- Compiling into slots gives what compiling gives, with each definition in a slot of its own.
theorem Edtd.Table.compile_eq {calls : Nat} {source : String} (enough : Builtin.text.length < calls)
    (enough' : source.length < calls) :
    compile calls source = some ((Schema.ofText source).map ofSchema) := by
  have lexemes (text : String) (enough : text.length < calls) :
      (lex text.toList).1.length < calls :=
    Nat.lt_of_le_of_lt (lex_length_le text.toList) enough
  rcases read_extend empty_agrees Builtin.text (lexemes _ enough) with
    ⟨fault, _, refused⟩ | ⟨builtin, schema, read, extended, agrees⟩
  · cases Builtin.schema_compiled.symm.trans refused
  · cases Builtin.schema_compiled.symm.trans extended
    rw [compile, read, Option.bind_some]
    dsimp only
    rw [Schema.ofText_eq]
    rcases read_extend agrees source (lexemes _ enough') with
      ⟨fault, read, refused⟩ | ⟨table, extended, read, compiled, agrees⟩
    · rw [read, refused]
      rfl
    · rw [read, compiled, agrees.eq]
      rfl

end Ebml
