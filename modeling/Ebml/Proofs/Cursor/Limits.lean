import Ebml.Proofs.Cursor.Lockstep
import Ebml.Proofs.Cursor.Outcome

namespace Ebml

structure Header.Within (limits : Limits) (header : Header) : Prop where
  idLength : header.idLength ≤ limits.maxIdLength
  sizeLength : header.sizeLength ≤ limits.maxSizeLength

def Answer.Within (limits : Limits) : Answer → Prop
  | .header header? => ∀ header ∈ header?, header.Within limits
  | .done => True
  | .value _ => True

structure Observation.Within (limits : Limits) (observation : Observation) : Prop where
  answer : ∀ answer, observation.answer = .ok answer → answer.Within limits
  current : ∀ header ∈ observation.current, header.Within limits

namespace Cursor

-- The limits that a cursor starts with are those of all its headers, whatever its source does
-- and whatever is asked of it.
variable {α β : Type} {limits : Limits} {cursor : Cursor} {good better : α → Prop}

structure Heeds (limits : Limits) (cursor : Cursor) : Prop where
  same : cursor.limits = limits
  current : ∀ header ∈ cursor.current, header.Within limits

-- A step after which the limits are heeded still, be it refused or not, and whose answers are
-- all good.
structure Keeps (limits : Limits) (good : α → Prop) (step : Reading α) : Prop where
  ok {before after : Cursor} {value : α} (heeds : Heeds limits before)
    (stepped : step before = .ok value after) : good value ∧ Heeds limits after
  error {before after : Cursor} {error : ReadError} (heeds : Heeds limits before)
    (failed : step before = .error error after) : Heeds limits after

namespace Keeps

theorem bind {good : α → Prop} {better : β → Prop} {step : Reading α} {next : α → Reading β}
    (one : Keeps limits good step) (two : ∀ value, good value → Keeps limits better (next value)) :
    Keeps limits better (step >>= next) := by
  constructor
  · intro before after value heeds stepped
    obtain ⟨first, between, begun, ended⟩ := bind_eq_ok.mp stepped
    obtain ⟨fine, heeds⟩ := one.ok heeds begun
    exact (two first fine).ok heeds ended
  · intro before after error heeds failed
    rcases bind_eq_error.mp failed with failed | ⟨first, between, begun, failed⟩
    · exact one.error heeds failed
    · obtain ⟨fine, heeds⟩ := one.ok heeds begun
      exact (two first fine).error heeds failed

theorem imp {step : Reading α} (keeps : Keeps limits good step)
    (implied : ∀ value, good value → better value) : Keeps limits better step := by
  constructor
  · intro before after value heeds stepped
    obtain ⟨fine, heeds⟩ := keeps.ok heeds stepped
    exact ⟨implied value fine, heeds⟩
  · exact keeps.error

theorem pure {value : α} (fine : good value) : Keeps limits good (pure value) := by
  constructor
  · rintro before after _ heeds ⟨⟩
    exact ⟨fine, heeds⟩
  · rintro before after error heeds ⟨⟩

theorem throw (error : ReadError) : Keeps limits good (throw error : Reading α) := by
  constructor
  · rintro before after value heeds ⟨⟩
  · rintro before after _ heeds ⟨⟩
    exact heeds

theorem map {tell : α → β} {better : β → Prop} {step : Reading α} (keeps : Keeps limits good step)
    (told : ∀ value, good value → better (tell value)) : Keeps limits better (tell <$> step) := by
  rw [← bind_pure_comp]
  exact keeps.bind fun value fine => .pure (told value fine)

theorem aside {step : Reading α}
    (frame : ∀ before, (Ending.last (step before)).limits = before.limits ∧
      ((Ending.last (step before)).current = before.current ∨
        (Ending.last (step before)).current = none)) :
    Keeps limits (fun _ => True) step := by
  have kept {before : Cursor} (heeds : Heeds limits before) :
      Heeds limits (Ending.last (step before)) := by
    obtain ⟨same, current | none⟩ := frame before
    · exact ⟨same.trans heeds.same, by rw [current]; exact heeds.current⟩
    · exact ⟨same.trans heeds.same, by rw [none]; exact nofun⟩
  constructor
  · intro before after value heeds stepped
    have heeds := kept heeds
    rw [stepped] at heeds
    exact ⟨trivial, heeds⟩
  · intro before after error heeds failed
    have heeds := kept heeds
    rw [failed] at heeds
    exact heeds

end Keeps

theorem get_keeps : Keeps limits (Heeds limits) (get : Reading Cursor) := by
  constructor
  · rintro before after _ heeds ⟨⟩
    exact ⟨heeds, heeds⟩
  · rintro before after error heeds ⟨⟩

theorem refuseIf_keeps (condition : Prop) [Decidable condition] (error : ReadError) :
    Keeps limits (fun _ => ¬condition) (refuseIf condition error) := by
  unfold refuseIf
  split
  · exact .throw error
  · rename_i allowed
    exact .pure allowed

theorem takeBytes_keeps (wanted : Nat) : Keeps limits (fun _ => True) (takeBytes wanted) := by
  refine .aside fun before => ?_
  rw [takeBytes_eq]
  split <;> exact ⟨rfl, .inl rfl⟩

theorem skipBytes_keeps (count : Nat) (id : ElementId) :
    Keeps limits (fun _ => True) (skipBytes count id) :=
  (takeBytes_keeps count).bind fun _ _ => (refuseIf_keeps _ _).imp fun _ _ => trivial

theorem readVint?_keeps : Keeps limits (fun _ => True) readVint? := by
  refine (takeBytes_keeps 1).bind fun first _ => ?_
  rcases first with _ | ⟨leading, more⟩
  · exact .pure trivial
  · dsimp only
    split
    · exact .throw _
    · refine (takeBytes_keeps _).bind fun tail _ => ?_
      split
      · exact .pure trivial
      · exact .throw _

theorem set_keeps (heeds : Heeds limits cursor) :
    Keeps limits (fun _ => True) (set cursor : Reading PUnit) := by
  constructor
  · rintro before after _ _ ⟨⟩
    exact ⟨trivial, heeds⟩
  · rintro before after error _ ⟨⟩

theorem skip_keeps : Keeps limits (fun _ => True) skip := by
  refine get_keeps.bind fun cursor heeds => ?_
  have emptied : Heeds limits { cursor with unread := 0 } := ⟨heeds.same, heeds.current⟩
  exact (set_keeps emptied).bind fun _ _ => skipBytes_keeps _ _

theorem forget_keeps : Keeps limits (fun _ => True) forget :=
  .aside fun _ => ⟨rfl, .inr rfl⟩

theorem charge_keeps (id : ElementId) (headerLength size : Nat) :
    Keeps limits (fun _ => True) (charge id headerLength size) := by
  refine .aside fun before => ?_
  unfold charge
  split
  · exact ⟨rfl, .inl rfl⟩
  · dsimp only
    split <;> exact ⟨rfl, .inl rfl⟩

theorem endOfSource_keeps :
    Keeps limits (fun header? => ∀ header ∈ header?, header.Within limits) endOfSource := by
  constructor
  · intro before after header? heeds ended
    obtain ⟨_, rfl, rfl⟩ := endOfSource_ok ended
    exact ⟨nofun, heeds⟩
  · intro before after error heeds failed
    unfold endOfSource at failed
    split at failed <;> cases failed
    exact heeds

theorem readHeader_keeps (id : Vint) : Keeps limits (Header.Within limits) (readHeader id) := by
  refine get_keeps.bind fun cursor heeds => ?_
  refine (refuseIf_keeps _ _).bind fun _ idShort => ?_
  refine readVint?_keeps.bind fun size? _ => ?_
  cases size? with
  | none => exact .throw _
  | some size =>
    refine (refuseIf_keeps _ _).bind fun _ sizeShort => ?_
    refine (refuseIf_keeps _ _).bind fun _ _ => ?_
    refine (charge_keeps _ _ _).bind fun _ _ => ?_
    rw [heeds.same] at idShort sizeShort
    exact .pure ⟨Nat.not_lt.mp idShort, Nat.not_lt.mp sizeShort⟩

theorem moveTo_keeps {header : Header} (within : header.Within limits) :
    Keeps limits (fun _ => True) (moveTo header) := by
  constructor
  · rintro before after _ heeds ⟨⟩
    refine ⟨trivial, heeds.same, ?_⟩
    rintro _ ⟨⟩
    exact within
  · rintro before after error heeds ⟨⟩

theorem advance_keeps :
    Keeps limits (fun header? => ∀ header ∈ header?, header.Within limits) advance := by
  refine skip_keeps.bind fun _ _ => forget_keeps.bind fun _ _ => get_keeps.bind fun cursor _ => ?_
  split
  · exact .pure nofun
  · refine readVint?_keeps.bind fun id? _ => ?_
    cases id? with
    | none => exact endOfSource_keeps
    | some id =>
      refine (readHeader_keeps id).bind fun header within => ?_
      refine (moveTo_keeps within).bind fun _ _ => ?_
      refine .pure ?_
      rintro _ ⟨⟩
      exact within

theorem enter_keeps : Keeps limits (fun _ => True) enter := by
  refine .aside fun before => ?_
  unfold enter
  split
  · exact ⟨rfl, .inl rfl⟩
  · split
    · exact ⟨rfl, .inl rfl⟩
    · exact ⟨rfl, .inr rfl⟩

theorem close_keeps : Keeps limits (fun _ => True) close := by
  refine .aside fun before => ?_
  unfold close
  split <;> exact ⟨rfl, .inl rfl⟩

theorem leave_keeps : Keeps limits (fun _ => True) leave :=
  skip_keeps.bind fun _ _ => forget_keeps.bind fun _ _ => close_keeps.bind fun _ _ =>
    skipBytes_keeps _ _

theorem startPayload_keeps : Keeps limits (fun _ => True) startPayload := by
  refine .aside fun before => ?_
  unfold startPayload
  split
  · exact ⟨rfl, .inl rfl⟩
  · split <;> exact ⟨rfl, .inl rfl⟩

theorem takePayload_keeps : Keeps limits (fun _ => True) takePayload :=
  startPayload_keeps.bind fun _ _ => (takeBytes_keeps _).bind fun _ _ =>
    (refuseIf_keeps _ _).bind fun _ _ => .pure trivial

theorem refuseContainer_keeps : Keeps limits (fun _ => True) (refuseContainer (α := α)) := by
  refine .aside fun before => ?_
  unfold refuseContainer
  split <;> exact ⟨rfl, .inl rfl⟩

theorem valueOf_keeps (type : ElementType) (header : Header) (payload : Bytes) :
    Keeps limits (fun _ => True) (valueOf type header payload) := by
  unfold valueOf
  split
  · exact .pure trivial
  · exact .throw _

theorem readValue_keeps (type : ElementType) : Keeps limits (fun _ => True) (readValue type) := by
  by_cases nests : type = .container
  · subst nests
    exact refuseContainer_keeps
  · rw [readValue_eq nests]
    exact takePayload_keeps.bind fun _ _ => valueOf_keeps _ _ _

theorem perform_keeps (operation : Operation) :
    Keeps limits (Answer.Within limits) operation.perform := by
  cases operation with
  | advance => exact advance_keeps.map fun _ within => within
  | current => exact get_keeps.map fun _ heeds => heeds.current
  | enter => exact enter_keeps.map fun _ _ => trivial
  | leave => exact leave_keeps.map fun _ _ => trivial
  | skip => exact skip_keeps.map fun _ _ => trivial
  | _ =>
    rw [Operation.perform_of_reads rfl]
    exact (readValue_keeps _).map fun _ _ => trivial

theorem outcome_keeps (operation : Operation) (heeds : Heeds limits cursor) :
    (∀ answer, (operation.outcome cursor).1 = .ok answer → answer.Within limits) ∧
      Heeds limits (operation.outcome cursor).2 := by
  unfold Operation.outcome
  cases performed : operation.perform cursor with
  | ok answer after =>
    obtain ⟨within, heeds⟩ := (perform_keeps operation).ok heeds performed
    refine ⟨?_, heeds⟩
    rintro _ ⟨⟩
    exact within
  | error error after => exact ⟨nofun, (perform_keeps operation).error heeds performed⟩

theorem run_keeps (operations : List Operation) (heeds : Heeds limits cursor) :
    (∀ observation ∈ (run operations cursor).1, observation.Within limits) ∧
      Heeds limits (run operations cursor).2 := by
  induction operations generalizing cursor with
  | nil => exact ⟨nofun, heeds⟩
  | cons operation others ih =>
    obtain ⟨within, heeds⟩ := outcome_keeps operation heeds
    obtain ⟨later, last⟩ := ih heeds
    exact ⟨List.forall_mem_cons.mpr ⟨⟨within, heeds.current⟩, later⟩, last⟩

theorem ofSource_heeds (source : Source) (limits : Limits) :
    Heeds limits (ofSource source limits) :=
  ⟨rfl, nofun⟩

end Cursor

end Ebml
