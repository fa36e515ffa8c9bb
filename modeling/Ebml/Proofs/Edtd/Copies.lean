import Ebml.Proofs.Edtd.Heads
import Ebml.Proofs.Edtd.Table
import Mathlib.Data.List.Nodup

namespace Ebml

-- A copy of a template keeps what the template says, but for the defaults that header blocks
-- set in it later.
def Properties.undefaulted (own : Properties) : Properties := { own with default? := none }

namespace Schema

def Lends (schema : Schema) (node : Definition) : Prop :=
  ∃ key template, (key, template) ∈ schema.aliases ∧
    ∃ lent ∈ template.descendants, lent.toProperties.undefaulted = node.toProperties.undefaulted

variable {schema : Schema} {node : Definition}

theorem Lends.addAlias (lends : schema.Lends node) (template : Definition) :
    (schema.addAlias template).Lends node := by
  obtain ⟨key, lender, member, lent⟩ := lends
  exact ⟨key, lender, .tail _ member, lent⟩

theorem Lends.overridden (lends : schema.Lends node) (name : String) (bytes : Bytes) :
    (schema.overrideDefault name bytes).Lends (node.overrideDefault name bytes) := by
  obtain ⟨key, template, member, lent, inside, same⟩ := lends
  refine ⟨key, template, member, lent, inside, ?_⟩
  rw [Definition.overrideDefault_toProperties, same]
  rfl

theorem definition?_of_mem (declared : node ∈ schema.declarations) :
    ∃ entry, schema.definition? node.id = some entry := by
  cases defined : schema.definition? node.id with
  | none =>
    have absent := List.find?_eq_none.mp defined node (List.mem_reverse.mpr declared)
    exact absurd (beq_self_eq_true _) absent
  | some entry => exact ⟨entry, rfl⟩

theorem definition?_of_nodup (distinct : (schema.declarations.map (·.id)).Nodup)
    (declared : node ∈ schema.declarations) : schema.definition? node.id = some node := by
  obtain ⟨entry, defined⟩ := definition?_of_mem declared
  obtain ⟨member, same⟩ := definition?_mem defined
  rw [defined, List.inj_on_of_nodup_map distinct member declared same]

end Schema

namespace Edtd

def lending : Invariant where
  admits _ := True
  schema known := ∀ node ∈ known.nodes, node.id = 0 → known.Lends node
  draft known kind definition :=
    Numbered kind definition.id ∧ ∀ node ∈ definition.descendants, known.Lends node
  whole known kind definition :=
    kind = .element → ∀ node ∈ definition.preorder, node.id = 0 → known.Lends node
  typed := by
    intro known kind id name type definition _ numbered typed
    rcases ofType_cases typed with ⟨primitive, rfl⟩ | ⟨key, template, member, rfl⟩
    · refine ⟨numbered, ?_⟩
      rw [Definition.descendants, Definition.new_children]
      nofun
    · exact ⟨numbered, fun node inside => ⟨key, template, member, node, inside, rfl⟩⟩
  revised := by
    rintro known kind definition changed ⟨numbered, lent⟩ revised
    rw [Definition.descendants, ← revised.children] at lent
    exact ⟨by rwa [revised.id], lent⟩
  plain := by
    rintro known kind definition ⟨numbered, lent⟩ rfl
    rw [Definition.preorder_descendants, List.forall_mem_cons]
    obtain ⟨literal, read⟩ := numbered
    refine ⟨fun unnumbered => absurd unnumbered (elementId_ne_zero read), ?_⟩
    exact fun node inside _ => lent node inside
  filled := by
    rintro known kind container children ⟨numbered, _⟩ _ whole rfl
    rw [Definition.preorder_descendants, List.forall_mem_cons]
    obtain ⟨literal, read⟩ := numbered
    refine ⟨fun unnumbered => absurd unnumbered (elementId_ne_zero read), ?_⟩
    intro node inside unnumbered
    obtain ⟨child, listed, within⟩ := List.mem_flatMap.mp inside
    exact whole child listed rfl node within unnumbered
  declared := by
    intro known definition elements whole
    rw [Schema.nodes_declare, List.forall_mem_append]
    exact ⟨elements, whole rfl⟩
  aliased := by
    intro known template elements _ node member unnumbered
    exact (elements node member unnumbered).addAlias template
  overridden := by
    intro known name definition value bytes elements _ _ _
    rw [Schema.nodes_overrideDefault, List.forall_mem_map]
    intro node member unnumbered
    rw [Definition.overrideDefault_toProperties] at unnumbered
    exact (elements node member unnumbered).overridden name bytes

end Edtd

namespace Schema

-- The map of the slots knows every definition that is nested in one of its own and has not come
-- from a template; where identifiers are declared once each, it holds the very copy that is nested.
theorem nested_definition_in_force {source : String} {schema : Schema}
    (compiled : ofText source = .ok schema) :
    ∃ table : Edtd.Table,
      (∀ calls, Builtin.text.length < calls → source.length < calls →
        Edtd.Table.compile calls source = some (.ok table)) ∧
      table.slots.elements = schema.definition? ∧ table.templates = schema.aliases ∧
      (∀ id definition, table.slots.elements id = some definition →
        ∀ node ∈ definition.preorder, node.id = 0 ∧ schema.Lends node ∨
          ∃ entry, table.slots.elements node.id = some entry) ∧
      (((Builtin.schema.heads ++ Builtin.schema.headsRead source).map Head.id).Nodup →
        ∀ id definition, table.slots.elements id = some definition →
          ∀ node ∈ definition.preorder, node.id ≠ 0 →
            table.slots.elements node.id = some node) := by
  have builtin : ∀ node ∈ Builtin.schema.nodes, node.id ≠ 0 := by decide
  have lent : Edtd.lending.schema schema := Edtd.Invariant.extend_holds
    (fun node member unnumbered => absurd unnumbered (builtin node member))
    (fun _ _ => trivial) compiled
  have elements : (Edtd.Table.ofSchema schema).slots.elements = schema.definition? :=
    Slots.elements_append schema.declarations
  refine ⟨.ofSchema schema, ?_, elements, rfl, ?_, ?_⟩
  · intro calls enough enough'
    rw [Edtd.Table.compile_eq enough enough', compiled]
    rfl
  · intro id definition defined node inside
    rw [elements] at defined ⊢
    by_cases numbered : node.id = 0
    · have declared := (mem_declarations.mp (definition?_mem defined).1).2
      exact .inl ⟨numbered, lent node (mem_nodes_of_mem_preorder declared inside) numbered⟩
    · exact .inr (definition?_of_mem
        (mem_declarations_of_mem_preorder (definition?_mem defined).1 inside numbered))
  · intro distinct id definition defined node inside numbered
    rw [elements] at defined ⊢
    rw [← ofText_heads compiled, heads, List.map_map] at distinct
    exact definition?_of_nodup distinct
      (mem_declarations_of_mem_preorder (definition?_mem defined).1 inside numbered)

def lentAndNested : String :=
  "define types \x7b T := container \x7b X := uint [ def: 1; ] \x7d \x7d " ++
    "define elements \x7b B := 82 container \x7b X := 84 uint; D := 85 T; \x7d \x7d " ++
      "declare header \x7b X := 5; \x7d"

theorem lent_and_nested_definitions_in_force :
    ∃ schema table calls, ofText lentAndNested = .ok schema ∧
      Edtd.Table.compile calls lentAndNested = some (.ok table) ∧
      ((Builtin.schema.heads ++ Builtin.schema.headsRead lentAndNested).map Head.id).Nodup ∧
      ∃ outer nested lent, table.slots.elements 2 = some outer ∧
        nested ∈ outer.preorder ∧ nested.id = 4 ∧ table.slots.elements 4 = some nested ∧
        lent ∈ outer.preorder ∧ lent.id = 0 ∧ schema.Lends lent ∧
        nested.default? = some [0, 0, 0, 0, 0, 0, 0, 5] ∧ lent.default? = nested.default? := by
  have distinct : ((Builtin.schema.heads ++ Builtin.schema.headsRead lentAndNested).map
      Head.id).Nodup := by decide +kernel
  have compiles : (ofText lentAndNested).toOption.bind (fun schema => do
      let outer ← schema.definition? 2
      let nested ← outer.at? [0]
      let lent ← outer.at? [1, 0]
      return ((nested.id, nested.default?), (lent.id, lent.default?))) =
        some ((4, some [0, 0, 0, 0, 0, 0, 0, 5]), (0, some [0, 0, 0, 0, 0, 0, 0, 5])) := by
    decide +kernel
  cases compiled : ofText lentAndNested with
  | error fault => simp [compiled, Except.toOption] at compiles
  | ok schema =>
    simp only [compiled, Except.toOption, Option.bind_some, Option.bind_eq_bind,
      Option.bind_eq_some_iff, Option.pure_def, Option.some.injEq, Prod.mk.injEq] at compiles
    obtain ⟨outer, defined, nested, atFirst, lent, below, ⟨numbered, set⟩, unnumbered, set'⟩ :=
      compiles
    have nestedInside := Definition.mem_preorder_iff_at?.mpr ⟨_, atFirst⟩
    have lentInside := Definition.mem_preorder_iff_at?.mpr ⟨_, below⟩
    obtain ⟨table, read, elements, _, closed, agrees⟩ := nested_definition_in_force compiled
    rw [← elements] at defined
    have inForce := agrees distinct 2 outer defined nested nestedInside (by rw [numbered]; decide)
    have lends : schema.Lends lent := by
      rcases closed 2 outer defined lent lentInside with ⟨_, lends⟩ | ⟨entry, found⟩
      · exact lends
      · rw [unnumbered, elements] at found
        exact absurd (definition?_mem found).2
          (fun same => (mem_declarations.mp (definition?_mem found).1).1 same)
    rw [numbered] at inForce
    have within (text other : String) : text.length < text.length + other.length + 1 :=
      Nat.lt_succ_of_le (Nat.le_add_right _ _)
    have within' (text other : String) : other.length < text.length + other.length + 1 :=
      Nat.lt_succ_of_le (Nat.le_add_left _ _)
    exact ⟨schema, table, _, rfl, read _ (within _ _) (within' _ _), distinct, outer, nested, lent,
      defined, nestedInside, numbered, inForce, lentInside, unnumbered, lends, set,
      set'.trans set.symm⟩

end Schema

end Ebml
