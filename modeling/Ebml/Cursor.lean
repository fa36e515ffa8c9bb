import Ebml.Limits
import Ebml.ReadError
import Ebml.Source

namespace Ebml

-- The header of an element: identifier and payload size, the bytes that each of them
-- took, and the number of containers around the element.
structure Header where
  id : ElementId
  size : Nat
  idLength : Nat
  sizeLength : Nat
  depth : Nat
deriving DecidableEq, Repr

-- A forward-only cursor over the elements of a document. For every entered container,
-- the innermost first, it knows how many bytes are left for further children.
structure Cursor where
  source : Source
  limits : Limits
  scopes : List Nat
  current : Option Header
  -- Payload bytes of the current element that are neither read nor skipped.
  unread : Nat
  -- The payload of the current element has been read.
  consumed : Bool

-- A step keeps what it has done to the cursor also when it is refused.
abbrev Reading := EStateM ReadError Cursor

namespace Cursor

def ofSource (source : Source) (limits : Limits) : Cursor where
  source := source
  limits := limits
  scopes := []
  current := none
  unread := 0
  consumed := false

def depth (cursor : Cursor) : Nat := cursor.scopes.length

def position (cursor : Cursor) : Nat := cursor.source.taken

def takeBytes (wanted : Nat) : Reading Bytes := fun cursor =>
  match cursor.source.take wanted with
  | (bytes, none, source) => .ok bytes { cursor with source := source }
  | (_, some reason, source) => .error (.io reason) { cursor with source := source }

def refuseIf (condition : Prop) [Decidable condition] (error : ReadError) : Reading Unit :=
  if condition then throw error else pure ()

def skipBytes (count : Nat) (id : ElementId) : Reading Unit := do
  let skipped ← takeBytes count
  refuseIf (skipped.length < count) (.truncated id (count - skipped.length))

def readVint? : Reading (Option Vint) := do
  match ← takeBytes 1 with
  | [] => return none
  | leading :: _ =>
    match Vint.lengthOf leading with
    | .error error => throw (.vint error)
    | .ok length =>
      let tail ← takeBytes (length - 1)
      match Vint.decode (leading :: tail) with
      | .ok (vint, _) => return some vint
      | .error error => throw (.vint error)

def skip : Reading Unit := do
  let cursor ← get
  set { cursor with unread := 0 }
  skipBytes cursor.unread (cursor.current.elim 0 (·.id))

def forget : Reading Unit := modify ({ · with current := none })

-- Takes a child's header and payload off the bytes left in the innermost container.
def charge (id : ElementId) (headerLength size : Nat) : Reading Unit := fun cursor =>
  match cursor.scopes with
  | [] => .ok () cursor
  | left :: outer =>
    let available := left - headerLength
    if available < size ∨ left < headerLength then
      .error (.overflowsParent id size available) cursor
    else .ok () { cursor with scopes := (left - (headerLength + size)) :: outer }

def readHeader (id : Vint) : Reading Header := do
  let cursor ← get
  refuseIf (cursor.limits.maxIdLength < id.length)
    (.idTooLong id.length cursor.limits.maxIdLength)
  match ← readVint? with
  | none => throw (.vint (.unexpectedEnd 1))
  | some size =>
    refuseIf (cursor.limits.maxSizeLength < size.length)
      (.sizeTooLong size.length cursor.limits.maxSizeLength)
    refuseIf (Vint.isUnknownSize size.value size.length) (.unknownSize id.value)
    charge id.value (id.length + size.length) size.value
    return ⟨id.value, size.value, id.length, size.length, cursor.depth⟩

def moveTo (header : Header) : Reading Unit :=
  modify ({ · with current := some header, unread := header.size, consumed := false })

def endOfSource : Reading (Option Header) := fun cursor =>
  match cursor.scopes with
  | [] => .ok none cursor
  | missing :: _ => .error (.truncated 0 missing) cursor

-- Moves to the next sibling, past what is unread of the current element. There is none
-- at the end of the innermost container, or of the source outside of all containers.
def advance : Reading (Option Header) := do
  skip
  forget
  let cursor ← get
  if cursor.scopes.head? = some 0 then return none
  else
    match ← readVint? with
    | none => endOfSource
    | some id =>
      let header ← readHeader id
      moveTo header
      return some header

def enter : Reading Unit := fun cursor =>
  match cursor.current with
  | none => .error .noElement cursor
  | some header =>
    if cursor.consumed then .error (.payloadConsumed header.id) cursor
    else .ok () { cursor with
      scopes := cursor.unread :: cursor.scopes
      unread := 0
      current := none }

def close : Reading Nat := fun cursor =>
  match cursor.scopes with
  | [] => .error .notInContainer cursor
  | left :: outer => .ok left { cursor with scopes := outer }

def leave : Reading Unit := do
  skip
  forget
  let left ← close
  skipBytes left 0

def startPayload : Reading Header := fun cursor =>
  match cursor.current with
  | none => .error .noElement cursor
  | some header =>
    if cursor.consumed then .error (.payloadConsumed header.id) cursor
    else .ok header { cursor with consumed := true, unread := 0 }

def takePayload : Reading (Header × Bytes) := do
  let header ← startPayload
  let payload ← takeBytes header.size
  refuseIf (payload.length < header.size) (.truncated header.id (header.size - payload.length))
  return (header, payload)

def readPayload {α : Type} (type : ElementType) (decode : Bytes → Nat → Decoded α) :
    Reading α := do
  let (header, payload) ← takePayload
  match Payload.whole decode payload with
  | some value => return value
  | none => throw (.invalidPayload header.id header.size type)

def readUInt : Reading Nat := readPayload .uint Payload.uint

def readInt : Reading Int := readPayload .int Payload.int

def readFloat : Reading Binary64 := readPayload .float Payload.float

def readDate : Reading Int := readPayload .date Payload.date

def readBinary : Reading Bytes := readPayload .binary Payload.binary

def readString : Reading String := do
  let (header, payload) ← takePayload
  match Payload.text? payload with
  | some text => return text
  | none => throw (.notUtf8 header.id)

def refuseContainer {α : Type} : Reading α := fun cursor =>
  match cursor.current with
  | none => .error .noElement cursor
  | some header => .error (.containerValue header.id) cursor

def readValue (type : ElementType) : Reading Value := do
  match type with
  | .int => return .int (← readInt)
  | .uint => return .uint (← readUInt)
  | .float => return .float (← readFloat)
  | .string => return .string (← readString)
  | .date => return .date (← readDate)
  | .binary => return .binary (← readBinary)
  | .container => refuseContainer

end Cursor

end Ebml
