import Ebml.Schema

namespace Ebml

structure Limits where
  maxIdLength : Nat
  maxSizeLength : Nat
deriving DecidableEq, Repr

-- Several definitions in force share a name, so that it stands for none of them. A search of a
-- table in no fixed order would take any one of them for the limit; here it is refused instead.
structure AmbiguousName where
  name : String
  count : Nat
deriving DecidableEq, Repr

namespace Limits

instance : Inhabited Limits := ⟨⟨4, 8⟩⟩

def stated (schema : Schema) (name : String) (otherwise : Nat) : Except AmbiguousName Nat :=
  match schema.named name with
  | .absent => .ok otherwise
  | .unique definition => .ok (definition.defaultUInt?.getD otherwise)
  | .ambiguous count => .error ⟨name, count⟩

def ofSchema (schema : Schema) : Except AmbiguousName Limits := do
  let maxIdLength ← stated schema "EBMLMaxIDLength" (default : Limits).maxIdLength
  let maxSizeLength ← stated schema "EBMLMaxSizeLength" (default : Limits).maxSizeLength
  return ⟨maxIdLength, maxSizeLength⟩

end Limits

end Ebml
