import Ebml.Proofs.Cursor.Value

namespace Ebml.Cursor

-- Every operation is put together from a few parts. A property of steps that each of the parts
-- has and that goes through their composition is one of all operations.
variable {α β : Type} {before after : Cursor} {id vint : Vint} {header : Header}

def Returns (step : Reading α) (value : α) : Prop :=
  ∃ before after, step before = .ok value after

def startSkip : Reading (Nat × ElementId) := fun cursor =>
  .ok (cursor.unread, cursor.current.elim 0 (·.id)) { cursor with unread := 0 }

def innermost : Reading (Option Nat) := fun cursor => .ok cursor.scopes.head? cursor

theorem skip_eq : skip = startSkip >>= fun (count, id) => skipBytes count id := rfl

theorem advance_eq : advance = do
    skip
    forget
    let left? ← innermost
    if left? = some 0 then return none
    else
      match ← readVint? with
      | none => endOfSource
      | some id =>
        let header ← readHeader id
        moveTo header
        return some header := rfl

def startHeader : Reading (Limits × Nat) := fun cursor => .ok (cursor.limits, cursor.depth) cursor

theorem readHeader_eq (id : Vint) : readHeader id = do
    let (limits, depth) ← startHeader
    refuseIf (limits.maxIdLength < id.length) (.idTooLong id.length limits.maxIdLength)
    match ← readVint? with
    | none => throw (.vint (.unexpectedEnd 1))
    | some size =>
      refuseIf (limits.maxSizeLength < size.length)
        (.sizeTooLong size.length limits.maxSizeLength)
      refuseIf (Vint.isUnknownSize size.value size.length) (.unknownSize id.value)
      charge id.value (id.length + size.length) size.value
      return ⟨id.value, size.value, id.length, size.length, depth⟩ := rfl

abbrev Ending (α : Type) := EStateM.Result ReadError Cursor α

def under (cursor : Cursor) (source : Source) (limits : Limits) : Cursor :=
  { cursor with source := source, limits := limits }

namespace Ending

def last : Ending α → Cursor
  | .ok _ cursor => cursor
  | .error _ cursor => cursor

def under (ending : Ending α) (source : Source) (limits : Limits) : Ending α :=
  match ending with
  | .ok value cursor => .ok value (cursor.under source limits)
  | .error error cursor => .error error (cursor.under source limits)

theorem last_under (ending : Ending α) (source : Source) (limits : Limits) :
    (ending.under source limits).last = ending.last.under source limits := by
  cases ending <;> rfl

end Ending

theorem outcome_last (operation : Operation) (cursor : Cursor) :
    (operation.outcome cursor).2 = Ending.last (operation.perform cursor) := by
  unfold Operation.outcome
  cases operation.perform cursor <;> rfl

-- Most parts neither look at source and limits nor change them.
def Blind (step : Reading α) : Prop :=
  ∀ cursor source limits,
    step (cursor.under source limits) = Ending.under (step cursor) source limits

theorem Blind.keeps {step : Reading α} (blind : Blind step) (cursor : Cursor) :
    (Ending.last (step cursor)).source = cursor.source ∧
      (Ending.last (step cursor)).limits = cursor.limits := by
  have same : Ending.last (step cursor) =
      (Ending.last (step cursor)).under cursor.source cursor.limits := by
    rw [← Ending.last_under, ← blind]
    rfl
  constructor
  · rw [same]
    rfl
  · rw [same]
    rfl

theorem endOfSource_blind : Blind endOfSource := by
  rintro ⟨own, limits, scopes, current, unread, consumed⟩ source others
  cases scopes <;> rfl

theorem enter_blind : Blind enter := by
  rintro ⟨own, limits, scopes, current, unread, consumed⟩ source others
  cases current with
  | none => rfl
  | some header => cases consumed <;> rfl

theorem close_blind : Blind close := by
  rintro ⟨own, limits, scopes, current, unread, consumed⟩ source others
  cases scopes <;> rfl

theorem startPayload_blind : Blind startPayload := by
  rintro ⟨own, limits, scopes, current, unread, consumed⟩ source others
  cases current with
  | none => rfl
  | some header => cases consumed <;> rfl

theorem refuseContainer_blind : Blind (refuseContainer (α := α)) := by
  rintro ⟨own, limits, scopes, current, unread, consumed⟩ source others
  cases current <;> rfl

theorem charge_blind (id : ElementId) (headerLength size : Nat) :
    Blind (charge id headerLength size) := by
  rintro ⟨own, limits, scopes, current, unread, consumed⟩ source others
  cases scopes with
  | nil => rfl
  | cons left outer =>
    simp only [charge, under]
    split <;> rfl

-- The parts that open no container. The start of a header is left out here: the limits are for
-- each property to look at.
structure Unnesting (P : ∀ {α : Type}, Reading α → Prop) : Prop where
  pure {α : Type} (value : α) : P (Pure.pure value : Reading α)
  throw {α : Type} (error : ReadError) : P (throw error : Reading α)
  bind {α β : Type} {step : Reading α} {next : α → Reading β} (one : P step)
    (two : ∀ value, Returns step value → P (next value)) : P (step >>= next)
  takeBytes (wanted : Nat) : P (takeBytes wanted)
  startSkip : P startSkip
  forget : P forget
  innermost : P innermost
  endOfSource : P endOfSource
  moveTo {header : Header} (bounded : header.size < 2 ^ 56) : P (moveTo header)
  current : P Operation.current.perform
  close : P close
  charge (id : ElementId) (headerLength size : Nat) : P (charge id headerLength size)
  startPayload : P startPayload
  refuseContainer : P (refuseContainer : Reading Value)

structure Compositional (P : ∀ {α : Type}, Reading α → Prop) : Prop extends Unnesting P where
  enter : P enter

theorem Compositional.of_blind {P : ∀ {α : Type}, Reading α → Prop}
    (blind : ∀ {α : Type} {step : Reading α}, Blind step → P step)
    (bind : ∀ {α β : Type} {step : Reading α} {next : α → Reading β}, P step →
      (∀ value, Returns step value → P (next value)) → P (step >>= next))
    (takeBytes : ∀ wanted, P (Cursor.takeBytes wanted)) : Compositional P where
  pure _ := blind fun _ _ _ => rfl
  throw _ := blind fun _ _ _ => rfl
  bind := bind
  takeBytes := takeBytes
  startSkip := blind fun _ _ _ => rfl
  forget := blind fun _ _ _ => rfl
  innermost := blind fun _ _ _ => rfl
  endOfSource := blind endOfSource_blind
  moveTo _ := blind fun _ _ _ => rfl
  current := blind fun _ _ _ => rfl
  enter := blind enter_blind
  close := blind close_blind
  charge _ _ _ := blind (charge_blind _ _ _)
  startPayload := blind startPayload_blind
  refuseContainer := blind refuseContainer_blind

theorem readVint?_valid (read : readVint? before = .ok (some vint) after) : vint.Valid := by
  obtain ⟨first, _, _, read⟩ := bind_eq_ok.mp read
  cases first with
  | nil => cases read
  | cons leading more =>
    cases lengthOf : Vint.lengthOf leading with
    | error error =>
      simp only [lengthOf] at read
      cases read
    | ok length =>
      simp only [lengthOf] at read
      obtain ⟨tail, _, _, read⟩ := bind_eq_ok.mp read
      cases decoded : Vint.decode (leading :: tail) with
      | error error =>
        simp only [decoded] at read
        cases read
      | ok pair =>
        simp only [decoded] at read
        cases read
        exact (Vint.decode_sound decoded).1

theorem readHeader_bounded (read : readHeader id before = .ok header after) :
    header.size < 2 ^ 56 := by
  obtain ⟨_, _, _, read⟩ := bind_eq_ok.mp read
  obtain ⟨_, _, _, read⟩ := bind_eq_ok.mp read
  obtain ⟨size?, _, sized, read⟩ := bind_eq_ok.mp read
  cases size? with
  | none => cases read
  | some size =>
    obtain ⟨_, _, _, read⟩ := bind_eq_ok.mp read
    obtain ⟨_, _, _, read⟩ := bind_eq_ok.mp read
    obtain ⟨_, _, _, read⟩ := bind_eq_ok.mp read
    cases read
    exact (readVint?_valid sized).value_lt

namespace Unnesting

variable {P : ∀ {α : Type}, Reading α → Prop} (parts : Unnesting P)

include parts

theorem map {step : Reading α} (tell : α → β) (holds : P step) : P (tell <$> step) := by
  rw [← bind_pure_comp]
  exact parts.bind holds fun value _ => parts.pure (tell value)

theorem refuseIf (condition : Prop) [Decidable condition] (error : ReadError) :
    P (Cursor.refuseIf condition error) := by
  unfold Cursor.refuseIf
  split
  · exact parts.throw error
  · exact parts.pure ()

theorem skipBytes (count : Nat) (id : ElementId) : P (Cursor.skipBytes count id) :=
  parts.bind (parts.takeBytes count) fun _ _ => parts.refuseIf _ _

theorem readVint? : P Cursor.readVint? := by
  apply parts.bind (parts.takeBytes 1)
  intro first _
  rcases first with _ | ⟨leading, more⟩
  · exact parts.pure none
  · dsimp only
    split
    · exact parts.throw _
    · apply parts.bind (parts.takeBytes _)
      intro tail _
      split
      · exact parts.pure _
      · exact parts.throw _

theorem skip : P Cursor.skip := by
  rw [skip_eq]
  exact parts.bind parts.startSkip fun _ _ => parts.skipBytes _ _

theorem readHeader (start : P startHeader) (id : Vint) : P (Cursor.readHeader id) := by
  rw [readHeader_eq]
  apply parts.bind start
  intro (limits, depth) _
  apply parts.bind (parts.refuseIf _ _)
  intro _ _
  apply parts.bind parts.readVint?
  intro size? _
  cases size? with
  | none => exact parts.throw _
  | some size =>
    apply parts.bind (parts.refuseIf _ _)
    intro _ _
    apply parts.bind (parts.refuseIf _ _)
    intro _ _
    exact parts.bind (parts.charge _ _ _) fun _ _ => parts.pure _

theorem advance (header : ∀ id, P (Cursor.readHeader id)) : P Cursor.advance := by
  rw [advance_eq]
  apply parts.bind parts.skip
  intro _ _
  apply parts.bind parts.forget
  intro _ _
  apply parts.bind parts.innermost
  intro left? _
  split
  · exact parts.pure none
  · apply parts.bind parts.readVint?
    intro id? _
    cases id? with
    | none => exact parts.endOfSource
    | some id =>
      apply parts.bind (header id)
      rintro found ⟨_, _, read⟩
      exact parts.bind (parts.moveTo (readHeader_bounded read)) fun _ _ => parts.pure _

theorem leave : P Cursor.leave := by
  apply parts.bind parts.skip
  intro _ _
  apply parts.bind parts.forget
  intro _ _
  exact parts.bind parts.close fun left _ => parts.skipBytes left 0

theorem takePayload : P Cursor.takePayload := by
  apply parts.bind parts.startPayload
  intro header _
  apply parts.bind (parts.takeBytes header.size)
  intro payload _
  exact parts.bind (parts.refuseIf _ _) fun _ _ => parts.pure _

theorem readValue (type : ElementType) : P (Cursor.readValue type) := by
  by_cases nests : type = .container
  · subst nests
    exact parts.refuseContainer
  · rw [readValue_eq nests]
    apply parts.bind parts.takePayload
    intro (header, payload) _
    dsimp only [valueOf]
    split
    · exact parts.pure _
    · exact parts.throw _

end Unnesting

theorem Compositional.perform {P : ∀ {α : Type}, Reading α → Prop} (parts : Compositional P)
    (header : ∀ id, P (Cursor.readHeader id)) (operation : Operation) :
    P operation.perform := by
  cases operation with
  | advance => exact parts.map _ (parts.advance header)
  | current => exact parts.current
  | enter => exact parts.map _ parts.enter
  | leave => exact parts.map _ parts.leave
  | skip => exact parts.map _ parts.skip
  | _ =>
    rw [Operation.perform_of_reads rfl]
    exact parts.map _ (parts.readValue _)

end Ebml.Cursor
