import Ebml.Proofs.Cursor.Lockstep

namespace Ebml

def ReadError.tooLong : ReadError → Bool
  | .idTooLong _ _ => true
  | .sizeTooLong _ _ => true
  | _ => false

def Observation.tooLong (observation : Observation) : Bool :=
  match observation.answer with
  | .ok _ => false
  | .error error => error.tooLong

instance : LE Limits where
  le limits larger :=
    limits.maxIdLength ≤ larger.maxIdLength ∧ limits.maxSizeLength ≤ larger.maxSizeLength

namespace Cursor

-- Cursors that differ in nothing but their limits do the same until the one with the smaller
-- limits complains of the length of a header.
variable {α β : Type} {limits larger : Limits} {cursor : Cursor}

def withLimits (cursor : Cursor) (limits : Limits) : Cursor := { cursor with limits := limits }

namespace Ending

def withLimits (ending : Ending α) (limits : Limits) : Ending α :=
  match ending with
  | .ok value cursor => .ok value (cursor.withLimits limits)
  | .error error cursor => .error error (cursor.withLimits limits)

def GivesUp (ending : Ending α) : Prop :=
  ∃ error cursor, ending = .error error cursor ∧ error.tooLong = true

theorem under_source {ending : Ending α} {source : Source} (same : ending.last.source = source)
    (limits : Limits) : ending.under source limits = ending.withLimits limits := by
  subst same
  cases ending <;> rfl

end Ending

def Eased (limits larger : Limits) (step other : Reading α) : Prop :=
  ∀ cursor : Cursor, cursor.limits = limits →
    Ending.GivesUp (step cursor) ∨
      other (cursor.withLimits larger) = Ending.withLimits (step cursor) larger ∧
        (Ending.last (step cursor)).limits = limits

namespace Eased

theorem bind {step other : Reading α} {next otherNext : α → Reading β}
    (one : Eased limits larger step other)
    (two : ∀ value, Returns step value → Eased limits larger (next value) (otherNext value)) :
    Eased limits larger (step >>= next) (other >>= otherNext) := by
  intro cursor same
  have first := one cursor same
  cases stepped : step cursor with
  | error error between =>
    rw [stepped] at first
    rw [bind_of_error stepped]
    rcases first with ⟨_, _, failed, long⟩ | ⟨eased, kept⟩
    · cases failed
      exact .inl ⟨error, between, rfl, long⟩
    · exact .inr ⟨bind_of_error eased, kept⟩
  | ok value between =>
    rw [stepped] at first
    rw [bind_of_ok stepped]
    rcases first with ⟨_, _, failed, _⟩ | ⟨eased, kept⟩
    · cases failed
    · rw [bind_of_ok eased]
      exact two value ⟨cursor, between, stepped⟩ between kept

theorem still {step : Reading α} (blind : Blind step) : Eased limits larger step step := by
  intro cursor same
  obtain ⟨source, kept⟩ := blind.keeps cursor
  refine .inr ⟨?_, kept.trans same⟩
  rw [← Ending.under_source source]
  exact blind cursor cursor.source larger

theorem get {next otherNext : Cursor → Reading β}
    (each : ∀ cursor, cursor.limits = limits →
      Eased limits larger (next cursor) (otherNext (cursor.withLimits larger))) :
    Eased limits larger ((MonadState.get : Reading Cursor) >>= next)
      ((MonadState.get : Reading Cursor) >>= otherNext) :=
  fun cursor same => each cursor same cursor same

theorem refuseIf {length maximum raised : Nat} (above : maximum ≤ raised)
    {error : ReadError} (long : error.tooLong = true) (other : ReadError) :
    Eased limits larger (Cursor.refuseIf (maximum < length) error)
      (Cursor.refuseIf (raised < length) other) := by
  intro cursor same
  by_cases refused : maximum < length
  · exact .inl ⟨error, cursor, refuseIf_of error refused cursor, long⟩
  · have admitted : ¬raised < length := by omega
    rw [refuseIf_of_not refused, refuseIf_of_not admitted]
    exact .inr ⟨rfl, same⟩

end Eased

theorem takeBytes_eased (wanted : Nat) :
    Eased limits larger (takeBytes wanted) (takeBytes wanted) := by
  intro cursor same
  right
  rw [takeBytes_eq, takeBytes_eq]
  rw [show (cursor.withLimits larger).source = cursor.source from rfl]
  cases (cursor.source.take wanted).2.1 <;> exact ⟨rfl, same⟩

theorem eased_parts : Compositional fun {_} step => Eased limits larger step step :=
  .of_blind .still .bind takeBytes_eased

theorem readHeader_eased (raised : limits ≤ larger) (id : Vint) :
    Eased limits larger (readHeader id) (readHeader id) := by
  have parts := @eased_parts limits larger
  refine .get fun cursor same => ?_
  subst same
  refine .bind (.refuseIf raised.1 rfl _) fun _ _ => ?_
  refine .bind parts.readVint? fun size? _ => ?_
  cases size? with
  | none => exact parts.throw _
  | some size =>
    refine .bind (.refuseIf raised.2 rfl _) fun _ _ => ?_
    refine .bind (parts.refuseIf _ _) fun _ _ => ?_
    exact .bind (parts.charge _ _ _) fun _ _ => parts.pure _

theorem perform_eased (raised : limits ≤ larger) (operation : Operation) :
    Eased limits larger operation.perform operation.perform :=
  eased_parts.perform (readHeader_eased raised) operation

theorem outcome_eased (raised : limits ≤ larger) (operation : Operation)
    (same : cursor.limits = limits) :
    (∃ error, (operation.outcome cursor).1 = .error error ∧ error.tooLong = true) ∨
      operation.outcome (cursor.withLimits larger) =
          ((operation.outcome cursor).1, (operation.outcome cursor).2.withLimits larger) ∧
        (operation.outcome cursor).2.limits = limits := by
  rcases perform_eased raised operation cursor same with ⟨error, after, failed, long⟩ |
    ⟨other, kept⟩
  · refine .inl ⟨error, ?_, long⟩
    rw [Operation.outcome, failed]
  · rw [outcome_last]
    refine .inr ⟨?_, kept⟩
    unfold Operation.outcome
    rw [other]
    cases operation.perform cursor <;> rfl

theorem run_eased (raised : limits ≤ larger) (operations : List Operation)
    (same : cursor.limits = limits) :
    (run operations cursor).1.takeWhile (!·.tooLong) <+:
      (run operations (cursor.withLimits larger)).1 := by
  induction operations generalizing cursor with
  | nil => exact List.nil_prefix
  | cons operation others ih =>
    simp only [run]
    rcases outcome_eased raised operation same with ⟨error, failed, long⟩ | ⟨other, kept⟩
    · rw [failed, List.takeWhile_cons_of_neg]
      · exact List.nil_prefix
      · simp only [Observation.tooLong, long]
        decide
    · have onward := ih kept
      rw [other, List.takeWhile_cons]
      split
      · exact (List.prefix_cons_inj _).mpr onward
      · exact List.nil_prefix

-- Whatever is read under some limits is read under larger ones, step for step with the same
-- answers in the same places, up to the first header that is refused for its length.
theorem raised_limits_keep_readable (source : Source) (limits larger : Limits)
    (raised : limits ≤ larger) (operations : List Operation) :
    (run operations (ofSource source limits)).1.takeWhile (!·.tooLong) <+:
      (run operations (ofSource source larger)).1 :=
  run_eased raised operations rfl

theorem run_up_to_long_identifier :
    let limits : Limits := ⟨1, 8⟩
    let larger : Limits := ⟨2, 8⟩
    let source : Source := ⟨[.piece 0x81 [0x83, 0x82], .interrupted, .piece 0x81 [0xAA, 0x40],
      .piece 0x02 [0x80]], none, 0⟩
    let operations : List Operation :=
      [.enter, .advance, .enter, .advance, .readUInt, .advance, .leave, .advance, .current]
    limits ≤ larger ∧
      ((run operations (ofSource source limits)).1.takeWhile (!·.tooLong)).length = 7 ∧
      (run operations (ofSource source limits)).1.takeWhile (!·.tooLong) <+:
        (run operations (ofSource source larger)).1 := by
  intro limits larger source operations
  have raised : limits ≤ larger := ⟨by decide, by decide⟩
  exact ⟨raised, by decide +kernel,
    raised_limits_keep_readable source limits larger raised operations⟩

end Cursor

end Ebml
