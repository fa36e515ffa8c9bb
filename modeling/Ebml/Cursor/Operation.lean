import Ebml.Cursor

namespace Ebml

inductive Operation where
  | advance
  | current
  | enter
  | leave
  | skip
  | readUInt
  | readInt
  | readFloat
  | readDate
  | readString
  | readBinary
  | readValue (type : ElementType)
deriving DecidableEq, Repr

inductive Answer where
  | header (header? : Option Header)
  | done
  | value (value : Value)
deriving DecidableEq, Repr

namespace Operation

def perform : Operation → Reading Answer
  | advance => .header <$> Cursor.advance
  | current => (fun cursor => .header cursor.current) <$> get
  | enter => (fun _ => .done) <$> Cursor.enter
  | leave => (fun _ => .done) <$> Cursor.leave
  | skip => (fun _ => .done) <$> Cursor.skip
  | readUInt => (fun value => .value (.uint value)) <$> Cursor.readUInt
  | readInt => (fun value => .value (.int value)) <$> Cursor.readInt
  | readFloat => (fun value => .value (.float value)) <$> Cursor.readFloat
  | readDate => (fun value => .value (.date value)) <$> Cursor.readDate
  | readString => (fun value => .value (.string value)) <$> Cursor.readString
  | readBinary => (fun value => .value (.binary value)) <$> Cursor.readBinary
  | readValue type => .value <$> Cursor.readValue type

def outcome (operation : Operation) (cursor : Cursor) : Except ReadError Answer × Cursor :=
  match operation.perform cursor with
  | .ok answer after => (.ok answer, after)
  | .error error after => (.error error, after)

end Operation

structure Observation where
  answer : Except ReadError Answer
  current : Option Header
  depth : Nat
  position : Nat

namespace Cursor

-- Performs steps in order; a refusal does not end the run.
def run : List Operation → Cursor → List Observation × Cursor
  | [], cursor => ([], cursor)
  | operation :: rest, cursor =>
    let (answer, after) := operation.outcome cursor
    let (observations, last) := run rest after
    (⟨answer, after.current, after.depth, after.position⟩ :: observations, last)

end Cursor

end Ebml
