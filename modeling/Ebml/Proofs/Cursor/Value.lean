import Ebml.Cursor.Operation
import Ebml.Proofs.Cursor.Steps
import Ebml.Proofs.Payload

namespace Ebml

namespace Cursor

-- The payload of an element is taken whole from where the cursor stands, or as much of it
-- as there is, and only then made a value of.
variable {cursor after : Cursor} {bytes : Bytes} {taken : Nat} {header : Header}

def took (cursor : Cursor) (header : Header) (bytes : Bytes) (taken : Nat) : Cursor :=
  { cursor with
    source := .holding (bytes.drop header.size) (taken + (bytes.take header.size).length)
    unread := 0
    consumed := true }

theorem takePayload_none (nowhere : cursor.current = none) :
    takePayload cursor = .error .noElement cursor := by
  refine bind_of_error ?_
  unfold startPayload
  rw [nowhere]

theorem takePayload_consumed (current : cursor.current = some header)
    (consumed : cursor.consumed = true) :
    takePayload cursor = .error (.payloadConsumed header.id) cursor := by
  refine bind_of_error ?_
  unfold startPayload
  rw [current]
  simp only [if_pos consumed]

theorem takePayload_held (held : cursor.source = .holding bytes taken)
    (current : cursor.current = some header) (fresh : cursor.consumed = false) :
    takePayload cursor =
      if bytes.length < header.size then
        .error (.truncated header.id (header.size - bytes.length)) (cursor.took header bytes taken)
      else .ok (header, bytes.take header.size) (cursor.took header bytes taken) := by
  have started : startPayload cursor =
      .ok header { cursor with consumed := true, unread := 0 } := by
    unfold startPayload
    rw [current]
    simp only [fresh, Bool.false_eq_true, if_false]
  have stays : ({ cursor with consumed := true, unread := 0 } : Cursor).source =
      .holding bytes taken := held
  have read : takeBytes header.size { cursor with consumed := true, unread := 0 } =
      .ok (bytes.take header.size) (cursor.took header bytes taken) := takeBytes_held stays _
  unfold takePayload
  rw [bind_of_ok started, bind_of_ok read]
  split
  · rename_i short
    have all : bytes.take header.size = bytes := List.take_of_length_le (Nat.le_of_lt short)
    rw [all]
    exact bind_of_error (refuseIf_of _ short _)
  · rename_i enough
    have length : ¬(bytes.take header.size).length < header.size := by
      rw [List.length_take]
      omega
    rw [bind_of_ok (refuseIf_of_not length _)]
    rfl

def refusal (type : ElementType) (header : Header) : ReadError :=
  match type with
  | .string => .notUtf8 header.id
  | _ => .invalidPayload header.id header.size type

def valueOf (type : ElementType) (header : Header) (payload : Bytes) : Reading Value :=
  match Payload.value? type payload with
  | some value => pure value
  | none => throw (refusal type header)

theorem readPayload_map {α : Type} {type : ElementType} {decode : Bytes → Nat → Decoded α}
    {wrap : α → Value} (noText : type ≠ .string)
    (decodes : ∀ payload, Payload.value? type payload = (Payload.whole decode payload).map wrap) :
    (do return wrap (← readPayload type decode)) =
      takePayload >>= fun (header, payload) => valueOf type header payload := by
  have refused : ∀ header, refusal type header = .invalidPayload header.id header.size type := by
    intro header
    cases type <;> first | rfl | contradiction
  unfold readPayload
  rw [bind_assoc]
  congr 1
  funext (header, payload)
  simp only [valueOf, decodes, refused]
  cases Payload.whole decode payload <;> rfl

theorem readString_map :
    (do return Value.string (← readString)) =
      takePayload >>= fun (header, payload) => valueOf .string header payload := by
  unfold readString
  rw [bind_assoc]
  congr 1
  funext (header, payload)
  simp only [valueOf, Payload.value?, refusal]
  cases Payload.text? payload <;> rfl

theorem readValue_eq {type : ElementType} (plain : type ≠ .container) :
    readValue type = takePayload >>= fun (header, payload) => valueOf type header payload := by
  cases type with
  | int => exact readPayload_map (by decide) fun _ => rfl
  | uint => exact readPayload_map (by decide) fun _ => rfl
  | float => exact readPayload_map (by decide) fun _ => rfl
  | string => exact readString_map
  | date => exact readPayload_map (by decide) fun _ => rfl
  | binary => exact readPayload_map (by decide) fun _ => rfl
  | container => contradiction

theorem readValue_none {type : ElementType} (nowhere : cursor.current = none) :
    readValue type cursor = .error .noElement cursor := by
  by_cases plain : type = .container
  · subst plain
    simp only [readValue, refuseContainer, nowhere]
  · rw [readValue_eq plain]
    exact bind_of_error (takePayload_none nowhere)

theorem readValue_container (current : cursor.current = some header) :
    readValue .container cursor = .error (.containerValue header.id) cursor := by
  simp only [readValue, refuseContainer, current]

theorem readValue_consumed {type : ElementType} (plain : type ≠ .container)
    (current : cursor.current = some header) (consumed : cursor.consumed = true) :
    readValue type cursor = .error (.payloadConsumed header.id) cursor := by
  rw [readValue_eq plain]
  exact bind_of_error (takePayload_consumed current consumed)

theorem readValue_short {type : ElementType} (plain : type ≠ .container)
    (held : cursor.source = .holding bytes taken) (current : cursor.current = some header)
    (fresh : cursor.consumed = false) (short : bytes.length < header.size) :
    readValue type cursor =
      .error (.truncated header.id (header.size - bytes.length))
        (cursor.took header bytes taken) := by
  have failed := takePayload_held held current fresh
  rw [if_pos short] at failed
  rw [readValue_eq plain]
  exact bind_of_error failed

theorem readValue_enough {type : ElementType} (plain : type ≠ .container)
    (held : cursor.source = .holding bytes taken) (current : cursor.current = some header)
    (fresh : cursor.consumed = false) (enough : header.size ≤ bytes.length) :
    readValue type cursor =
      match Payload.value? type (bytes.take header.size) with
      | some value => .ok value (cursor.took header bytes taken)
      | none => .error (refusal type header) (cursor.took header bytes taken) := by
  have read := takePayload_held held current fresh
  rw [if_neg (Nat.not_lt.mpr enough)] at read
  rw [readValue_eq plain, bind_of_ok read]
  simp only [valueOf]
  cases Payload.value? type (bytes.take header.size) <;> rfl

theorem readValue_eq_ok_iff {type : ElementType} {value : Value}
    (held : cursor.source = .holding bytes taken) (current : cursor.current = some header)
    (fresh : cursor.consumed = false) :
    readValue type cursor = .ok value after ↔
      header.size ≤ bytes.length ∧ Spells type (bytes.take header.size) value ∧
        after = cursor.took header bytes taken := by
  rw [← Payload.value?_eq_some_iff]
  by_cases plain : type = .container
  · subst plain
    rw [readValue_container current]
    simp [Payload.value?]
  · rcases Nat.lt_or_ge bytes.length header.size with short | enough
    · rw [readValue_short plain held current fresh short]
      simp only [reduceCtorEq, false_iff, not_and]
      intro enough
      omega
    · rw [readValue_enough plain held current fresh enough]
      cases Payload.value? type (bytes.take header.size) with
      | none => simp
      | some found => simp [enough, eq_comm]

theorem readBinary_eq_ok_iff {payload : Bytes} :
    readBinary cursor = .ok payload after ↔
      readValue .binary cursor = .ok (.binary payload) after := by
  constructor
  · intro read
    exact bind_eq_ok.mpr ⟨payload, after, read, rfl⟩
  · intro read
    obtain ⟨_, _, read, answered⟩ := bind_eq_ok.mp read
    cases answered
    exact read

end Cursor

namespace Operation

def reads : Operation → Option ElementType
  | readUInt => some .uint
  | readInt => some .int
  | readFloat => some .float
  | readDate => some .date
  | readString => some .string
  | readBinary => some .binary
  | readValue type => some type
  | _ => none

theorem map_value {α : Type} (wrap : α → Value) (read : Reading α) :
    (fun value => Answer.value (wrap value)) <$> read =
      Answer.value <$> (do return wrap (← read)) := by
  rw [map_bind, map_eq_pure_bind]
  rfl

theorem perform_of_reads {operation : Operation} {type : ElementType}
    (read : operation.reads = some type) : operation.perform = .value <$> Cursor.readValue type := by
  cases operation <;> cases read
  case readValue => rfl
  all_goals exact map_value _ _

end Operation

end Ebml
