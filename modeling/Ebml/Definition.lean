import Ebml.Cardinality
import Ebml.Range
import Ebml.Value

namespace Ebml

-- Identifiers are kept without the marker bit of their variable-length form.
abbrev ElementId := Nat

def ElementId.text (id : ElementId) : String := "0x" ++ String.ofList (Nat.toDigits 16 id)

-- What a definition says of an element itself, its children apart.
-- A size of 0 means that the payload may have any size.
structure Properties where
  id : ElementId
  type : ElementType
  name : String
  default? : Option Bytes
  size : Nat
  cardinality : Cardinality
  range? : Option Range
deriving DecidableEq, Repr

-- One node of a schema. Exactly the containers have a list of children, if only an
-- empty one.
structure Definition extends Properties where
  children? : Option (List Definition)

namespace Definition

def isContainer (definition : Definition) : Bool := definition.type == .container

def children (definition : Definition) : List Definition := definition.children?.getD []

def new (id : ElementId) (type : ElementType) (name : String) : Definition where
  id := id
  type := type
  name := name
  default? := none
  size := 0
  cardinality := default
  range? := none
  children? := if type = .container then some [] else none

def child? (definition : Definition) (id : ElementId) : Option Definition :=
  definition.children.find? (·.id == id)

def defaultUInt? (definition : Definition) : Option Nat :=
  definition.default?.bind (Payload.whole Payload.uint)

def defaultInt? (definition : Definition) : Option Int :=
  definition.default?.bind (Payload.whole Payload.int)

def defaultFloat? (definition : Definition) : Option Binary64 :=
  definition.default?.bind (Payload.whole Payload.float)

def defaultString? (definition : Definition) : Option String :=
  definition.default?.bind Payload.text?

theorem induction {motive : Definition → Prop}
    (step : ∀ definition, (∀ child ∈ definition.children, motive child) → motive definition)
    (definition : Definition) : motive definition := by
  refine @Definition.rec motive
    (fun children? => ∀ child ∈ children?.getD [], motive child)
    (fun children => ∀ child ∈ children, motive child)
    ?_ ?_ ?_ ?_ ?_ definition
  · intro own children? below
    exact step ⟨own, children?⟩ below
  · simp
  · intro children below
    simpa using below
  · simp
  · intro first rest atFirst atRest
    simpa using ⟨atFirst, atRest⟩

mutual
def preorder : Definition → List Definition
  | ⟨own, none⟩ => [⟨own, none⟩]
  | ⟨own, some children⟩ => ⟨own, some children⟩ :: preorderAll children

def preorderAll : List Definition → List Definition
  | [] => []
  | first :: rest => first.preorder ++ preorderAll rest
end

theorem preorderAll_eq (definitions : List Definition) :
    preorderAll definitions = definitions.flatMap preorder := by
  induction definitions with
  | nil => rfl
  | cons first rest ih => simp [preorderAll, ih]

theorem preorder_eq (definition : Definition) :
    definition.preorder = definition :: definition.children.flatMap preorder := by
  rcases definition with ⟨own, _ | children⟩
  · simp [preorder, children]
  · simp [preorder, Definition.children, preorderAll_eq]

mutual
def overrideDefault (name : String) (bytes : Bytes) : Definition → Definition
  | ⟨own, children?⟩ =>
    { own with
      default? := if own.name = name then some bytes else own.default?
      children? := overrideChildren name bytes children? }

def overrideChildren (name : String) (bytes : Bytes) :
    Option (List Definition) → Option (List Definition)
  | none => none
  | some children => some (overrideAll name bytes children)

def overrideAll (name : String) (bytes : Bytes) : List Definition → List Definition
  | [] => []
  | first :: rest => overrideDefault name bytes first :: overrideAll name bytes rest
end

theorem overrideAll_eq (name : String) (bytes : Bytes) (definitions : List Definition) :
    overrideAll name bytes definitions = definitions.map (overrideDefault name bytes) := by
  induction definitions with
  | nil => rfl
  | cons first rest ih => simp [overrideAll, ih]

theorem overrideDefault_eq (name : String) (bytes : Bytes) (definition : Definition) :
    overrideDefault name bytes definition =
      { definition with
        default? := if definition.name = name then some bytes else definition.default?
        children? := definition.children?.map (List.map (overrideDefault name bytes)) } := by
  rcases definition with ⟨own, _ | children⟩
  · simp [overrideDefault, overrideChildren]
  · simp [overrideDefault, overrideChildren, overrideAll_eq]

mutual
def equal : Definition → Definition → Bool
  | ⟨own, children?⟩, ⟨own', children?'⟩ =>
    decide (own = own') && equalChildren children? children?'

def equalChildren : Option (List Definition) → Option (List Definition) → Bool
  | none, none => true
  | some children, some children' => equalAll children children'
  | _, _ => false

def equalAll : List Definition → List Definition → Bool
  | [], [] => true
  | first :: rest, first' :: rest' => equal first first' && equalAll rest rest'
  | _, _ => false
end

theorem equal_iff (one other : Definition) : equal one other = true ↔ one = other := by
  refine @Definition.rec
    (fun one => ∀ other, equal one other = true ↔ one = other)
    (fun one => ∀ other, equalChildren one other = true ↔ one = other)
    (fun one => ∀ other, equalAll one other = true ↔ one = other)
    ?_ ?_ ?_ ?_ ?_ one other
  · intro own children? below other
    cases other
    simp [equal, below]
  · intro other
    cases other <;> simp [equalChildren]
  · intro children below other
    cases other <;> simp [equalChildren, below]
  · intro other
    cases other <;> simp [equalAll]
  · intro first rest atFirst atRest other
    cases other <;> simp [equalAll, atFirst, atRest]

instance : DecidableEq Definition := fun one other =>
  decidable_of_iff (equal one other = true) (equal_iff one other)

end Definition

end Ebml
