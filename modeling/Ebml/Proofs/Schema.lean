import Mathlib.Logic.Function.Basic
import Ebml.Proofs.Definition
import Ebml.Schema

namespace Ebml.Schema

def inForce (declarations : List Definition) (id : ElementId) : Option Definition :=
  declarations.reverse.find? (·.id == id)

def override (known : ElementId → Option Definition) (definition : Definition) :
    ElementId → Option Definition :=
  Function.update known definition.id (some definition)

theorem definition?_eq (schema : Schema) : schema.definition? = inForce schema.declarations := rfl

theorem inForce_append_singleton (earlier : List Definition) (last : Definition) :
    inForce (earlier ++ [last]) = override (inForce earlier) last := by
  funext id
  rw [inForce, List.reverse_append, List.reverse_singleton, List.singleton_append,
    List.find?_cons, override]
  by_cases same : id = last.id
  · subst same
    rw [Function.update_self, beq_self_eq_true]
  · rw [Function.update_of_ne same, beq_false_of_ne (Ne.symm same)]
    rfl

theorem inForce_append (earlier later : List Definition) :
    inForce (earlier ++ later) = later.foldl override (inForce earlier) := by
  induction later generalizing earlier with
  | nil => rw [List.append_nil, List.foldl_nil]
  | cons first others ih =>
    rw [List.append_cons, ih, inForce_append_singleton, List.foldl_cons]

def nodes (schema : Schema) : List Definition := schema.roots.flatMap Definition.preorder

-- Every definition that there is a way to from an identifier or from the name of a template.
inductive Reaches (schema : Schema) (node : Definition) : Prop
  | element {id : ElementId} {definition : Definition}
      (defined : schema.definition? id = some definition) (inside : node ∈ definition.preorder) :
      Reaches schema node
  | template {name : String} {template : Definition}
      (known : schema.alias? name = some template) (inside : node ∈ template.preorder) :
      Reaches schema node

variable {schema : Schema} {id : ElementId} {definition node : Definition}

theorem nodes_declare (schema : Schema) (root : Definition) :
    (schema.declare root).nodes = schema.nodes ++ root.preorder := by
  rw [nodes, declare, List.flatMap_append, List.flatMap_singleton, nodes]

theorem mem_nodes_of_mem_preorder (known : definition ∈ schema.nodes)
    (inside : node ∈ definition.preorder) : node ∈ schema.nodes := by
  obtain ⟨root, member, within⟩ := List.mem_flatMap.mp known
  exact List.mem_flatMap.mpr ⟨root, member, Definition.mem_preorder_trans within inside⟩

theorem mem_declarations :
    definition ∈ schema.declarations ↔ definition.id ≠ 0 ∧ definition ∈ schema.nodes := by
  rw [declarations, List.mem_filter, bne_iff_ne, and_comm, nodes]

theorem mem_declarations_of_mem_preorder (declared : definition ∈ schema.declarations)
    (inside : node ∈ definition.preorder) (identified : node.id ≠ 0) :
    node ∈ schema.declarations :=
  mem_declarations.mpr
    ⟨identified, mem_nodes_of_mem_preorder (mem_declarations.mp declared).2 inside⟩

theorem definition?_mem (defined : schema.definition? id = some definition) :
    definition ∈ schema.declarations ∧ definition.id = id := by
  have member := List.mem_of_find?_eq_some defined
  have same := List.find?_some defined
  exact ⟨List.mem_reverse.mp member, beq_iff_eq.mp same⟩

theorem lastNamed?_mem {name : String} (named : schema.lastNamed? name = some definition) :
    definition ∈ schema.declarations ∧ definition.name = name := by
  have member := List.mem_of_find?_eq_some named
  have same := List.find?_some named
  exact ⟨List.mem_reverse.mp member, beq_iff_eq.mp same⟩

theorem alias?_mem {name : String} {template : Definition}
    (known : schema.alias? name = some template) : ∃ key, (key, template) ∈ schema.aliases := by
  obtain ⟨earlier, later, split, _⟩ := List.lookup_eq_some_iff.mp known
  exact ⟨_, by rw [split]; exact List.mem_append_right _ List.mem_cons_self⟩

section Definitions

variable {α κ : Type} [BEq κ] [LawfulBEq κ] {key : α → κ}

theorem mem_firstOfEach {list : List α} {item : α} :
    item ∈ firstOfEach key list ↔ list.find? (key · == key item) = some item := by
  induction list with
  | nil => simp [firstOfEach]
  | cons first rest ih =>
    rw [firstOfEach, List.mem_cons, List.mem_filter, ih, List.find?_cons]
    by_cases same : key first = key item
    · simp [same, eq_comm]
    · simp only [beq_false_of_ne same, bne_iff_ne, ne_eq, Ne.symm same, not_false_eq_true, and_true]
      refine or_iff_right ?_
      rintro rfl
      exact same rfl

theorem firstOfEach_pairwise (list : List α) :
    (firstOfEach key list).Pairwise fun one other => key one ≠ key other := by
  induction list with
  | nil => exact .nil
  | cons first rest ih =>
    refine .cons ?_ (ih.filter _)
    intro item member
    exact fun same => bne_iff_ne.mp (List.mem_filter.mp member).2 same.symm

theorem mem_definitions_iff :
    definition ∈ schema.definitions ↔ schema.definition? definition.id = some definition := by
  rw [definitions, List.mem_mergeSort, mem_firstOfEach]
  rfl

theorem definitions_nodup (schema : Schema) : schema.definitions.Nodup := by
  refine (List.mergeSort_perm _ _).nodup_iff.mpr ?_
  exact (firstOfEach_pairwise _).imp fun apart same =>
    apart (congrArg (fun definition : Definition => definition.id) same)

theorem named_eq_unique {name : String} (defined : definition ∈ schema.definitions)
    (named : definition.name = name)
    (only : ∀ other ∈ schema.definitions, other.name = name → other = definition) :
    schema.named name = .unique definition := by
  have listed : schema.definitions.filter (·.name == name) = [definition] := by
    refine List.perm_singleton.mp ?_
    refine (List.perm_ext_iff_of_nodup (schema.definitions_nodup.filter _)
      (List.pairwise_singleton _ definition)).mpr fun other => ?_
    rw [List.mem_filter, List.mem_singleton, beq_iff_eq]
    constructor
    · rintro ⟨member, same⟩
      exact only other member same
    · rintro rfl
      exact ⟨defined, named⟩
  rw [Schema.named, listed]

end Definitions

variable (name : String) (bytes : Bytes)

theorem nodes_overrideDefault (schema : Schema) :
    (schema.overrideDefault name bytes).nodes =
      schema.nodes.map (Definition.overrideDefault name bytes) := by
  rw [nodes, overrideDefault, List.flatMap_map, nodes, List.map_flatMap]
  exact List.flatMap_congr fun root _ => Definition.overrideDefault_preorder name bytes root

theorem declarations_overrideDefault (schema : Schema) :
    (schema.overrideDefault name bytes).declarations =
      schema.declarations.map (Definition.overrideDefault name bytes) := by
  have identified : (fun definition => definition.id != 0) ∘ Definition.overrideDefault name bytes =
      fun definition => definition.id != 0 := by
    funext definition
    rw [Function.comp_apply, Definition.overrideDefault_toProperties]
    rfl
  rw [declarations, ← nodes, nodes_overrideDefault, List.filter_map, identified, nodes,
    declarations]

theorem definition?_overrideDefault (schema : Schema) (id : ElementId) :
    (schema.overrideDefault name bytes).definition? id =
      (schema.definition? id).map (Definition.overrideDefault name bytes) := by
  have sameId : (fun definition => definition.id == id) ∘ Definition.overrideDefault name bytes =
      fun definition => definition.id == id := by
    funext definition
    rw [Function.comp_apply, Definition.overrideDefault_toProperties]
    rfl
  rw [definition?, declarations_overrideDefault, ← List.map_reverse, List.find?_map, sameId,
    definition?]

end Ebml.Schema
