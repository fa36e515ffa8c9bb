import Ebml.Definition
import Ebml.Text.Lowercase

namespace Ebml

-- A schema is a forest of declared elements and a table of type aliases. Elements of all
-- depths share one space of identifiers, in which the last declaration is in force.
-- Aliases are found by the lower case of their name, the latest first.
structure Schema where
  roots : List Definition
  aliases : List (String × Definition)
deriving DecidableEq

inductive Named where
  | absent
  | unique (definition : Definition)
  | ambiguous (count : Nat)
deriving DecidableEq

namespace Schema

def empty : Schema := ⟨[], []⟩

-- Every declaration, each parent before its children. What a container took over from
-- an alias carries no identifier and declares nothing.
def declarations (schema : Schema) : List Definition :=
  (schema.roots.flatMap Definition.preorder).filter (·.id != 0)

def definition? (schema : Schema) (id : ElementId) : Option Definition :=
  schema.declarations.reverse.find? (·.id == id)

-- The last declaration of a name, be it still in force or not.
def lastNamed? (schema : Schema) (name : String) : Option Definition :=
  schema.declarations.reverse.find? (·.name == name)

def alias? (schema : Schema) (name : String) : Option Definition :=
  schema.aliases.lookup (Text.lower name)

def declare (schema : Schema) (root : Definition) : Schema :=
  { schema with roots := schema.roots ++ [root] }

def addAlias (schema : Schema) (template : Definition) : Schema :=
  { schema with aliases := (Text.lower template.name, template) :: schema.aliases }

-- Aliases keep their own defaults.
def overrideDefault (schema : Schema) (name : String) (bytes : Bytes) : Schema :=
  { schema with roots := schema.roots.map (Definition.overrideDefault name bytes) }

def firstOfEach {α κ : Type} [BEq κ] (key : α → κ) : List α → List α
  | [] => []
  | first :: rest => first :: (firstOfEach key rest).filter (key · != key first)

def definitions (schema : Schema) : List Definition :=
  (firstOfEach (·.id) schema.declarations.reverse).mergeSort (·.id ≤ ·.id)

def templates (schema : Schema) : List (String × Definition) :=
  (firstOfEach (·.1) schema.aliases).mergeSort (·.1 ≤ ·.1)

def named (schema : Schema) (name : String) : Named :=
  match schema.definitions.filter (·.name == name) with
  | [] => .absent
  | [definition] => .unique definition
  | several => .ambiguous several.length

end Schema

end Ebml
