import Ebml.Proofs.Cursor.Delivery

namespace Ebml

def ReadError.unsuitable : ReadError → Bool
  | .invalidPayload _ _ _ => true
  | .notUtf8 _ => true
  | _ => false

namespace Cursor

-- A default that is stored with a definition, and the payload of an element, are read alike
-- where they are the same bytes, in whatever pieces the source hands them over.
variable {α : Type} {cursor : Cursor} {header : Header} {payload : Bytes} {type : ElementType}

-- Nothing of the payload of the current element is read or skipped yet, and all of it is there.
-- What comes after it may be anything, also a failure.
structure Untouched (cursor : Cursor) (header : Header) (payload : Bytes) : Prop where
  current : cursor.current = some header
  size : header.size = payload.length
  unread : cursor.unread = payload.length
  fresh : cursor.consumed = false
  ahead : cursor.source.Begins payload

-- What is stored is a value exactly where reading ends in this value, which is where the payload
-- spells it, and is none exactly where the payload is refused as unsuitable.
structure ReadAlike (stored? : Option α) (read : Reading α) (wrap : α → Value)
    (type : ElementType) (cursor : Cursor) (payload : Bytes) (refusal : ReadError) : Prop where
  value : ∀ value, stored? = some value ↔ ∃ after, read cursor = .ok value after
  spelled : ∀ value, stored? = some value ↔ Spells type payload (wrap value)
  none : stored? = none ↔ ∃ error after, read cursor = .error error after ∧ error.unsuitable = true
  refused : ∀ error after, read cursor = .error error after → error = refusal

theorem takeBytes_begins (begins : cursor.source.Begins payload) :
    ∃ source, takeBytes payload.length cursor = .ok payload (cursor.withSource source) := by
  obtain ⟨later, ready⟩ := begins
  have enough : payload.length ≤ (Delivery.ready cursor.source.deliveries).length := by
    rw [← ready, List.length_append]
    omega
  obtain ⟨rest, taken, _⟩ := Source.take_ready (.inl enough)
  rw [← ready, List.take_left] at taken
  rw [takeBytes_eq, taken]
  exact ⟨_, rfl⟩

theorem takePayload_untouched (untouched : cursor.Untouched header payload) :
    ∃ after, takePayload cursor = .ok (header, payload) after := by
  obtain ⟨current, size, _, fresh, ahead⟩ := untouched
  have started : startPayload cursor =
      .ok header { cursor with consumed := true, unread := 0 } := by
    unfold startPayload
    rw [current]
    simp only [fresh, Bool.false_eq_true, if_false]
  have begins : ({ cursor with consumed := true, unread := 0 } : Cursor).source.Begins payload :=
    ahead
  obtain ⟨source, taken⟩ := takeBytes_begins begins
  rw [← size] at taken
  have whole : ¬payload.length < header.size := by omega
  unfold takePayload
  rw [bind_of_ok started, bind_of_ok taken, bind_of_ok (refuseIf_of_not whole _)]
  exact ⟨_, rfl⟩

def readAs (type : ElementType) (view : Bytes → Option α) : Reading α := do
  let (header, payload) ← takePayload
  match view payload with
  | some value => return value
  | none => throw (refusal type header)

theorem readString_eq : readString = readAs .string Payload.text? := by
  unfold readString readAs
  congr 1
  funext (header, payload)
  dsimp only
  cases Payload.text? payload <;> rfl

theorem readAs_untouched (type : ElementType) (view : Bytes → Option α)
    (untouched : cursor.Untouched header payload) :
    ∃ after, readAs type view cursor =
      (view payload).elim (.error (refusal type header) after) (.ok · after) := by
  obtain ⟨after, taken⟩ := takePayload_untouched untouched
  refine ⟨after, ?_⟩
  unfold readAs
  rw [bind_of_ok taken]
  dsimp only
  cases view payload <;> rfl

theorem spells_iff_of_value? (type : ElementType) (view : Bytes → Option α) {wrap : α → Value}
    (injective : Function.Injective wrap)
    (decodes : ∀ payload, Payload.value? type payload = (view payload).map wrap) (payload : Bytes)
    (value : α) :
    view payload = some value ↔ Spells type payload (wrap value) := by
  rw [← Payload.value?_eq_some_iff, decodes, Option.map_eq_some_iff]
  constructor
  · intro found
    exact ⟨value, found, rfl⟩
  · rintro ⟨other, found, same⟩
    rw [found, injective same]

theorem readAlike_of_view {read : Reading α} {wrap : α → Value} (type : ElementType)
    (view : Bytes → Option α) (untouched : cursor.Untouched header payload)
    (reads : read = readAs type view)
    (injective : Function.Injective wrap)
    (decodes : ∀ payload, Payload.value? type payload = (view payload).map wrap) :
    ReadAlike (view payload) read wrap type cursor payload (refusal type header) := by
  have unsuitable : (refusal type header).unsuitable = true := by cases type <;> rfl
  have spelled := spells_iff_of_value? type view injective decodes payload
  obtain ⟨after, ends⟩ := readAs_untouched type view untouched
  rw [← reads] at ends
  cases viewed : view payload with
  | some found =>
    rw [viewed] at ends spelled
    constructor
    · intro value
      simp [ends]
    · exact spelled
    · simp [ends]
    · intro error last failed
      rw [ends] at failed
      cases failed
  | none =>
    rw [viewed] at ends spelled
    constructor
    · intro value
      simp [ends]
    · exact spelled
    · simp [ends, unsuitable]
    · intro error last failed
      rw [ends] at failed
      cases failed
      rfl

-- The accessors of a stored default and the reads of a payload agree in each of the four kinds,
-- whatever the type of the definition is, and it does not matter which of the two is asked.
theorem default_read_as_payload (definition : Definition) (payload : Bytes)
    (stored : definition.default? = some payload) (cursor : Cursor) (header : Header)
    (untouched : cursor.Untouched header payload) :
    ReadAlike definition.defaultUInt? readUInt .uint .uint cursor payload
      (.invalidPayload header.id payload.length .uint) ∧
    ReadAlike definition.defaultInt? readInt .int .int cursor payload
      (.invalidPayload header.id payload.length .int) ∧
    ReadAlike definition.defaultFloat? readFloat .float .float cursor payload
      (.invalidPayload header.id payload.length .float) ∧
    ReadAlike definition.defaultString? readString .string .string cursor payload
      (.notUtf8 header.id) := by
  have uint : definition.defaultUInt? = Payload.whole Payload.uint payload := by
    rw [Definition.defaultUInt?, stored, Option.bind_some]
  have int : definition.defaultInt? = Payload.whole Payload.int payload := by
    rw [Definition.defaultInt?, stored, Option.bind_some]
  have float : definition.defaultFloat? = Payload.whole Payload.float payload := by
    rw [Definition.defaultFloat?, stored, Option.bind_some]
  have text : definition.defaultString? = Payload.text? payload := by
    rw [Definition.defaultString?, stored, Option.bind_some]
  rw [uint, int, float, text, ← untouched.size]
  refine ⟨?_, ?_, ?_, ?_⟩
  · exact readAlike_of_view .uint (Payload.whole Payload.uint) untouched rfl
      (fun _ _ => Value.uint.inj) fun _ => rfl
  · exact readAlike_of_view .int (Payload.whole Payload.int) untouched rfl
      (fun _ _ => Value.int.inj) fun _ => rfl
  · exact readAlike_of_view .float (Payload.whole Payload.float) untouched rfl
      (fun _ _ => Value.float.inj) fun _ => rfl
  · exact readAlike_of_view .string Payload.text? untouched readString_eq
      (fun _ _ => Value.string.inj) fun _ => rfl

def padded : Definition := { Definition.new 1 .string "Padded" with default? := some [0x61, 0x00] }

theorem padded_read_alike :
    let source : Source := ⟨[.piece 0x81 [0x82, 0x61], .interrupted, .piece 0x00 []],
      some "unplugged", 0⟩
    let cursor := (run [.advance] (ofSource source default)).2
    cursor.Untouched ⟨1, 2, 1, 1, 0⟩ [0x61, 0x00] ∧ padded.default? = some [0x61, 0x00] ∧
      padded.defaultUInt? = some 0x6100 ∧ (∃ after, readUInt cursor = .ok 0x6100 after) ∧
      padded.defaultString? = some "a" ∧ (∃ after, readString cursor = .ok "a" after) ∧
      padded.defaultFloat? = none ∧
      ∃ after, readFloat cursor = .error (.invalidPayload 1 2 .float) after := by
  intro source cursor
  have untouched : cursor.Untouched ⟨1, 2, 1, 1, 0⟩ [0x61, 0x00] :=
    ⟨by decide, rfl, by decide, by decide, [], by decide⟩
  obtain ⟨uint, _, float, text⟩ :=
    default_read_as_payload padded [0x61, 0x00] rfl cursor _ untouched
  have number : padded.defaultUInt? = some 0x6100 := by decide
  have letter : padded.defaultString? = some "a" := by decide
  have noFloat : padded.defaultFloat? = none := by decide
  obtain ⟨error, after, failed, _⟩ := float.none.mp noFloat
  refine ⟨untouched, rfl, number, (uint.value _).mp number, letter, (text.value _).mp letter,
    noFloat, after, ?_⟩
  rw [failed, float.refused error after failed]
  rfl

end Cursor

end Ebml
