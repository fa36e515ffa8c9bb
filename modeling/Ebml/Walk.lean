import Ebml.Cursor.Progress

namespace Ebml

inductive Content where
  -- Elements that the schema does not define are passed over.
  | unknown
  | container
  | value (value : Value)
deriving DecidableEq, Repr

structure Event where
  id : ElementId
  name? : Option String
  depth : Nat
  content : Content
  -- Whether the value lies in the range that the schema demands, if it demands one.
  admitted? : Option Bool
deriving DecidableEq, Repr

structure Walk where
  events : List Event
  failure? : Option ReadError
  cursor : Cursor

namespace Range

def admitsValue (range : Range) : Value → Bool
  | .int value => range.admitsInt value
  | .uint value => range.admitsUInt value
  | .float value => range.admitsFloat value
  | .string text => range.admitsText text
  | .date nanoseconds => range.admitsInt nanoseconds
  | .binary bytes => range.admitsBytes bytes

end Range

namespace Walk

def visit (schema : Schema) (header : Header) : Reading Event :=
  match schema.definition? header.id with
  | none => return ⟨header.id, none, header.depth, .unknown, none⟩
  | some definition => do
    if definition.isContainer then
      Cursor.enter
      return ⟨header.id, some definition.name, header.depth, .container, none⟩
    else
      let value ← Cursor.readValue definition.type
      return ⟨header.id, some definition.name, header.depth, .value value,
        definition.range?.map (·.admitsValue value)⟩

theorem visit_pending {schema : Schema} {header : Header} {before after : Cursor} {event : Event}
    (visited : visit schema header before = .ok event after) :
    after.source.pending ≤ before.source.pending ∧ after.depth ≤ before.depth + 1 := by
  unfold visit at visited
  cases found : schema.definition? header.id with
  | none =>
    rw [found] at visited
    cases visited
    exact ⟨Nat.le_refl _, Nat.le_succ _⟩
  | some definition =>
    rw [found] at visited
    dsimp only at visited
    split at visited
    · obtain ⟨_, between, entered, rest⟩ := Cursor.bind_eq_ok.mp visited
      have := Cursor.enter_deepens entered
      cases rest
      omega
    · obtain ⟨value, between, read, rest⟩ := Cursor.bind_eq_ok.mp visited
      have := Cursor.readValue_takes _ before value between read
      cases rest
      omega

-- Every header takes bytes, and a container is left once for each time one is entered,
-- so the walk ends. The first failure ends it too.
def ofCursor (schema : Schema) (cursor : Cursor) : Walk :=
  match advanced : Cursor.advance cursor with
  | .error error after => ⟨[], some error, after⟩
  | .ok none after =>
    if cursor.depth = 0 then ⟨[], none, after⟩
    else match left : Cursor.leave after with
      | .error error last => ⟨[], some error, last⟩
      | .ok () next =>
        have : 2 * next.source.pending + next.depth < 2 * cursor.source.pending + cursor.depth := by
          have first := Cursor.advance_takes cursor none after advanced
          have second := Cursor.leave_rises left
          omega
        ofCursor schema next
  | .ok (some header) after =>
    match visited : visit schema header after with
    | .error error last => ⟨[], some error, last⟩
    | .ok event next =>
      have : 2 * next.source.pending + next.depth < 2 * cursor.source.pending + cursor.depth := by
        have first := Cursor.advance_takes cursor (some header) after advanced
        have second := visit_pending visited
        simp only [Option.isSome_some, if_true] at first
        omega
      let rest := ofCursor schema next
      { rest with events := event :: rest.events }
termination_by 2 * cursor.source.pending + cursor.depth

-- The limits on headers are those that the schema states.
def ofSource (schema : Schema) (source : Source) : Except AmbiguousName (Limits × Walk) := do
  let limits ← Limits.ofSchema schema
  return (limits, ofCursor schema (Cursor.ofSource source limits))

end Walk

end Ebml
