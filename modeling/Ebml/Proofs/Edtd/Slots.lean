import Ebml.Proofs.Edtd.Demand
import Ebml.Proofs.Schema
import Mathlib.Data.List.ReduceOption

namespace Ebml

-- A compiler that stores every definition twice: in a slot of its own, where it is found by its
-- identifier, and inside each definition around it. Slots are taken from the outside in and
-- filled from the inside out.
structure Slots where
  entries : List (Option Definition)
deriving DecidableEq

namespace Slots

def empty : Slots := ⟨[]⟩

def reserve (slots : Slots) : Nat × Slots := (slots.entries.length, ⟨slots.entries ++ [none]⟩)

def fill (slots : Slots) (slot : Nat) (definition : Definition) : Slots :=
  ⟨slots.entries.set slot (some definition)⟩

def lastNamed? (slots : Slots) (name : String) : Option Definition :=
  slots.entries.reverse.reduceOption.find? (·.name == name)

def overrideDefault (slots : Slots) (name : String) (bytes : Bytes) : Slots :=
  ⟨slots.entries.map (Option.map (Definition.overrideDefault name bytes))⟩

-- The slots as a map, into which they go in order.
def elements (slots : Slots) : ElementId → Option Definition :=
  slots.entries.reduceOption.foldl Schema.override fun _ => none

def append (slots : Slots) (definitions : List Definition) : Slots :=
  ⟨slots.entries ++ definitions.map some⟩

variable (slots : Slots) (definitions : List Definition)

theorem append_nil : slots.append [] = slots := by
  rw [append, List.map_nil, List.append_nil]

theorem append_append (others : List Definition) :
    (slots.append definitions).append others = slots.append (definitions ++ others) := by
  rw [append, append, append, List.map_append, List.append_assoc]

-- The slot that was reserved first is filled last, before all that have been filled meanwhile.
theorem fill_reserve (definition : Definition) :
    (slots.reserve.2.append definitions).fill slots.reserve.1 definition =
      slots.append (definition :: definitions) := by
  simp [reserve, append, fill]

theorem reduceOption_map_some : (definitions.map some).reduceOption = definitions := by
  induction definitions with
  | nil => rfl
  | cons first rest ih => rw [List.map_cons, List.reduceOption_cons_of_some, ih]

theorem lastNamed?_append (name : String) :
    (empty.append definitions).lastNamed? name = definitions.reverse.find? (·.name == name) := by
  rw [lastNamed?, append, empty, List.nil_append, ← List.map_reverse, reduceOption_map_some]

theorem overrideDefault_append (name : String) (bytes : Bytes) :
    (empty.append definitions).overrideDefault name bytes =
      empty.append (definitions.map (Definition.overrideDefault name bytes)) := by
  simp [overrideDefault, append, empty, Function.comp_def]

theorem elements_append :
    (empty.append definitions).elements = Schema.inForce definitions := by
  rw [elements, append, empty, List.nil_append, reduceOption_map_some]
  exact (Schema.inForce_append [] definitions).symm

end Slots

namespace Edtd

structure Table where
  slots : Slots
  templates : List (String × Definition)
deriving DecidableEq

namespace Table

open Descent (next unfinished refuse meaning expect expectSymbol)

def empty : Table := ⟨.empty, []⟩

def closed (definition : Definition) (slot : Nat) (read : List Definition × Slots) :
    Definition × Slots :=
  let whole := { definition with children? := some read.1 }
  (whole, read.2.fill slot whole)

mutual
def declaration (templates : List (String × Definition)) (kind : DeclarationKind) :
    Nat → String → Slots → Descent (Definition × Slots)
  | 0, _, _ => unfinished
  | calls + 1, name, slots => do
    let definition ← Descent.heading ⟨[], templates⟩ kind name
    let (slot, slots) := slots.reserve
    match ← next with
    | some (.symbol .semicolon) => return (definition, slots.fill slot definition)
    | some (.symbol .openBracket) =>
      let definition ← Descent.parameters calls definition
      if definition.isContainer then
        expect (.symbol .openBrace) (.missingChildren definition.name)
        return closed definition slot (← items templates kind calls [] slots)
      else return (definition, slots.fill slot definition)
    | some (.symbol .openBrace) =>
      if definition.isContainer then
        return closed definition slot (← items templates kind calls [] slots)
      else refuse (.unexpectedChildren definition.name)
    | found? => refuse ((DeclarationPlace.tail definition).refusal found?)

def item (templates : List (String × Definition)) (kind : DeclarationKind) :
    Nat → Slots → Descent (Option Definition × Slots)
  | 0, _ => unfinished
  | calls + 1, slots => do
    match ← next with
    | some (.symbol .closeBrace) => return (none, slots)
    | some (.symbol .percent) =>
      Descent.marker
      item templates kind calls slots
    | some (.word name) =>
      let (definition, slots) ← declaration templates kind calls name slots
      return (some definition, slots)
    | found? => refuse (.unexpected .elementName found?)

def items (templates : List (String × Definition)) (kind : DeclarationKind) :
    Nat → List Definition → Slots → Descent (List Definition × Slots)
  | 0, _, _ => unfinished
  | calls + 1, earlier, slots => do
    match ← item templates kind calls slots with
    | (none, slots) => return (earlier, slots)
    | (some definition, slots) => items templates kind calls (earlier ++ [definition]) slots
end

def elements (calls : Nat) (table : Table) : Descent Table := do
  let (_, slots) ← items table.templates .element calls [] table.slots
  return { table with slots := slots }

-- The slots that a block of templates takes are thrown away after it.
def aliases : Nat → Table → Slots → Descent Table
  | 0, _, _ => unfinished
  | calls + 1, table, scratch => do
    match ← item table.templates .alias calls scratch with
    | (none, _) => return table
    | (some template, scratch) =>
      aliases calls { table with
        templates := (Text.lower template.name, template) :: table.templates } scratch

def headerEntry (table : Table) (name : String) (value : Lexeme) : Descent Table := do
  expectSymbol .semicolon
  match table.slots.lastNamed? name with
  | none => refuse (.unknownElement name)
  | some definition =>
    let bytes ← meaning (defaultBytes definition.type value)
    return { table with slots := table.slots.overrideDefault name bytes }

def headerEntries : Nat → Table → Descent Table
  | 0, _ => unfinished
  | calls + 1, table => do
    match ← next with
    | some (.symbol .closeBrace) => return table
    | some (.word name) =>
      expectSymbol .assign
      match ← next with
      | some (.symbol mark) => refuse (.unexpected .headerValue (some (.symbol mark)))
      | some value =>
        let changed ← headerEntry table name value
        headerEntries calls changed
      | none => refuse (.unexpected .headerValue none)
    | found? => refuse (.unexpected .elementName found?)

def block (calls : Nat) (table : Table) : Descent Table := do
  match ← next with
  | some (.word "elements") =>
    expectSymbol .openBrace
    elements calls table
  | some (.word "header") =>
    expectSymbol .openBrace
    headerEntries calls table
  | some (.word "types") =>
    expectSymbol .openBrace
    aliases calls table .empty
  | found? => refuse (.unexpected .blockKind found?)

def blocks : Nat → Table → Descent Table
  | 0, _ => unfinished
  | calls + 1, table => do
    match ← next with
    | none => return table
    | some lexeme =>
      if lexeme = .word "declare" ∨ lexeme = .word "define" then
        let table ← block calls table
        blocks calls table
      else refuse (.unexpected .blockStart (some lexeme))

def read (calls : Nat) (table : Table) (source : String) : Option (Except Fault Table) :=
  (blocks calls table ⟨source.toList, 0⟩).map Prod.fst

def compile (calls : Nat) (source : String) : Option (Except Fault Table) :=
  (read calls .empty Builtin.text).bind fun
    | .ok builtin => read calls builtin source
    | .error fault => some (.error fault)

end Table

end Edtd

end Ebml
