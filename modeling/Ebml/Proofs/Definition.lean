import Ebml.Definition
import Mathlib.Data.List.Basic

namespace Ebml

def Properties.withDefault (name : String) (bytes : Bytes) (own : Properties) : Properties :=
  { own with default? := if own.name = name then some bytes else own.default? }

namespace Definition

-- Definitions as trees: what is below one of them, what lies at the end of a way down, and
-- that setting a default leaves all of this where it is.
variable {definition node lower : Definition}

def at? (definition : Definition) : List Nat → Option Definition
  | [] => some definition
  | place :: way => definition.children[place]?.bind (·.at? way)

def width? (definition : Definition) : Option Nat := definition.children?.map List.length

def descendants (definition : Definition) : List Definition := definition.children.flatMap preorder

theorem new_children (id : ElementId) (type : ElementType) (name : String) :
    (new id type name).children = [] := by
  unfold new children
  split <;> rfl

theorem preorder_descendants (definition : Definition) :
    definition.preorder = definition :: definition.descendants :=
  preorder_eq definition

theorem mem_preorder_iff :
    node ∈ definition.preorder ↔
      node = definition ∨ ∃ child ∈ definition.children, node ∈ child.preorder := by
  rw [preorder_descendants, List.mem_cons, descendants, List.mem_flatMap]

theorem mem_preorder_self (definition : Definition) : definition ∈ definition.preorder :=
  mem_preorder_iff.mpr (.inl rfl)

theorem mem_preorder_trans (inside : node ∈ definition.preorder) (deeper : lower ∈ node.preorder) :
    lower ∈ definition.preorder := by
  induction definition using Definition.induction with
  | step definition ih =>
    rcases mem_preorder_iff.mp inside with rfl | ⟨child, member, inside⟩
    · exact deeper
    · exact mem_preorder_iff.mpr (.inr ⟨child, member, ih child member inside⟩)

theorem mem_preorder_iff_at? :
    node ∈ definition.preorder ↔ ∃ way, definition.at? way = some node := by
  constructor
  · intro inside
    induction definition using Definition.induction with
    | step definition ih =>
      rcases mem_preorder_iff.mp inside with rfl | ⟨child, member, inside⟩
      · exact ⟨[], rfl⟩
      · obtain ⟨way, reached⟩ := ih child member inside
        obtain ⟨place, found⟩ := List.mem_iff_getElem?.mp member
        exact ⟨place :: way, by rw [at?, found, Option.bind_some, reached]⟩
  · rintro ⟨way, reached⟩
    induction way generalizing definition with
    | nil =>
      cases reached
      exact mem_preorder_self _
    | cons place way ih =>
      obtain ⟨child, found, reached⟩ := Option.bind_eq_some_iff.mp reached
      exact mem_preorder_iff.mpr (.inr ⟨child, List.mem_of_getElem? found, ih reached⟩)

variable (name : String) (bytes : Bytes)

@[simp] theorem overrideDefault_toProperties (definition : Definition) :
    (definition.overrideDefault name bytes).toProperties =
      definition.toProperties.withDefault name bytes := by
  rw [overrideDefault_eq]
  rfl

@[simp] theorem overrideDefault_children (definition : Definition) :
    (definition.overrideDefault name bytes).children =
      definition.children.map (overrideDefault name bytes) := by
  rw [overrideDefault_eq]
  unfold children
  cases definition.children? <;> rfl

@[simp] theorem overrideDefault_width? (definition : Definition) :
    (definition.overrideDefault name bytes).width? = definition.width? := by
  rw [overrideDefault_eq]
  simp only [width?, Option.map_map]
  congr 1
  funext children
  exact List.length_map _

theorem overrideDefault_at? (definition : Definition) (way : List Nat) :
    (definition.overrideDefault name bytes).at? way =
      (definition.at? way).map (overrideDefault name bytes) := by
  induction way generalizing definition with
  | nil => rfl
  | cons place way ih =>
    rw [at?, at?, overrideDefault_children, List.getElem?_map]
    cases definition.children[place]? with
    | none => rfl
    | some child => exact ih child

theorem overrideDefault_preorder (definition : Definition) :
    (definition.overrideDefault name bytes).preorder =
      definition.preorder.map (overrideDefault name bytes) := by
  induction definition using Definition.induction with
  | step definition ih =>
    rw [preorder_eq, preorder_eq, overrideDefault_children, List.map_cons, List.flatMap_map,
      List.map_flatMap]
    congr 1
    exact List.flatMap_congr ih

mutual
-- All that a definition says, the defaults in it and below it apart.
def withoutDefaults : Definition → Definition
  | ⟨own, children?⟩ =>
    { own with default? := none, children? := childrenWithoutDefaults children? }

def childrenWithoutDefaults : Option (List Definition) → Option (List Definition)
  | none => none
  | some children => some (allWithoutDefaults children)

def allWithoutDefaults : List Definition → List Definition
  | [] => []
  | first :: rest => withoutDefaults first :: allWithoutDefaults rest
end

theorem allWithoutDefaults_eq (definitions : List Definition) :
    allWithoutDefaults definitions = definitions.map withoutDefaults := by
  induction definitions with
  | nil => rfl
  | cons first rest ih => simp [allWithoutDefaults, ih]

theorem withoutDefaults_eq (definition : Definition) :
    definition.withoutDefaults = { definition with
      default? := none
      children? := definition.children?.map (List.map withoutDefaults) } := by
  obtain ⟨own, _ | children⟩ := definition
  · simp [withoutDefaults, childrenWithoutDefaults]
  · simp [withoutDefaults, childrenWithoutDefaults, allWithoutDefaults_eq]

theorem overrideDefault_withoutDefaults (definition : Definition) :
    (definition.overrideDefault name bytes).withoutDefaults = definition.withoutDefaults := by
  induction definition using Definition.induction with
  | step definition ih =>
    rw [withoutDefaults_eq, overrideDefault_eq, withoutDefaults_eq]
    cases present : definition.children? with
    | none => simp
    | some children =>
      have same : ∀ child ∈ children,
          (child.overrideDefault name bytes).withoutDefaults = child.withoutDefaults := by
        simpa [Definition.children, present] using ih
      simpa using same

end Definition

end Ebml
