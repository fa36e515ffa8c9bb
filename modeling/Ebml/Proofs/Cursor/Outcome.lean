import Ebml.Proofs.Cursor.Header
import Ebml.Proofs.Cursor.Value

namespace Ebml

-- Failures after which a cursor may stand where no element starts.
def ReadError.fatal : ReadError → Bool
  | .io _ => true
  | .vint _ => true
  | .truncated _ _ => true
  | .overflowsParent _ _ _ => true
  | .idTooLong _ _ => true
  | .sizeTooLong _ _ => true
  | .unknownSize _ => true
  | _ => false

namespace Cursor

variable {α β : Type} {cursor before after : Cursor} {bytes : Bytes} {taken : Nat}

-- A step that neither moves to another element nor fails in a way that can be mended: it
-- takes bytes from the source if anything, and at most those there are.
structure Onward (bytes : Bytes) (taken : Nat) (before after : Cursor) : Prop where
  current : after.current = before.current
  further : ∃ count ≤ bytes.length, after.source = .holding (bytes.drop count) (taken + count)

def Forwards (step : Reading α) : Prop :=
  ∀ before bytes taken, before.source = .holding bytes taken →
    match step before with
    | .ok _ after => Onward bytes taken before after
    | .error error after => error.fatal = true ∧ Onward bytes taken before after

namespace Onward

theorem rfl (held : before.source = .holding bytes taken) : Onward bytes taken before before :=
  ⟨Eq.refl _, 0, Nat.zero_le _, held⟩

theorem trans {between : Cursor} {count : Nat} (same : between.current = before.current)
    (within : count ≤ bytes.length)
    (onward : Onward (bytes.drop count) (taken + count) between after) :
    Onward bytes taken before after := by
  obtain ⟨same', more, within', held⟩ := onward
  rw [List.length_drop] at within'
  refine ⟨same'.trans same, count + more, by omega, ?_⟩
  rw [held, List.drop_drop, Nat.add_assoc]

end Onward

namespace Forwards

theorem bind {step : Reading α} {next : α → Reading β} (one : Forwards step)
    (two : ∀ value, Forwards (next value)) : Forwards (step >>= next) := by
  intro before bytes taken held
  have first := one before bytes taken held
  cases stepped : step before with
  | error error after =>
    rw [stepped] at first
    rw [bind_of_error stepped]
    exact first
  | ok value between =>
    rw [stepped] at first
    rw [bind_of_ok stepped]
    obtain ⟨same, count, within, held'⟩ := first
    have second := two value between _ _ held'
    cases finished : next value between with
    | ok result after =>
      rw [finished] at second
      exact second.trans same within
    | error error after =>
      rw [finished] at second
      exact ⟨second.1, second.2.trans same within⟩

theorem pure (value : α) : Forwards (pure value) := by
  intro before bytes taken held
  exact Onward.rfl held

theorem throw {error : ReadError} (fatal : error.fatal = true) :
    Forwards (throw error : Reading α) := by
  intro before bytes taken held
  exact ⟨fatal, Onward.rfl held⟩

theorem failed {step : Reading α} {error : ReadError} (forwards : Forwards step)
    (held : before.source = .holding bytes taken) (failed : step before = .error error after) :
    error.fatal = true ∧ Onward bytes taken before after := by
  have onward := forwards before bytes taken held
  rw [failed] at onward
  exact onward

theorem succeeded {step : Reading α} {value : α} (forwards : Forwards step)
    (held : before.source = .holding bytes taken) (succeeded : step before = .ok value after) :
    Onward bytes taken before after := by
  have onward := forwards before bytes taken held
  rw [succeeded] at onward
  exact onward

end Forwards

theorem get_forwards : Forwards (get : Reading Cursor) := by
  intro before bytes taken held
  exact Onward.rfl held

theorem refuseIf_forwards (condition : Prop) [Decidable condition] {error : ReadError}
    (fatal : error.fatal = true) : Forwards (refuseIf condition error) := by
  unfold refuseIf
  split
  · exact .throw fatal
  · exact .pure ()

theorem takeBytes_forwards (wanted : Nat) : Forwards (takeBytes wanted) := by
  intro before bytes taken held
  rw [takeBytes_held held]
  refine ⟨rfl, min wanted bytes.length, Nat.min_le_right _ _, ?_⟩
  rw [List.length_take, List.drop_eq_drop_min]

theorem skipBytes_forwards (count : Nat) (id : ElementId) : Forwards (skipBytes count id) :=
  .bind (takeBytes_forwards count) fun _ => refuseIf_forwards _ rfl

theorem readVint?_forwards : Forwards readVint? := by
  refine .bind (takeBytes_forwards 1) fun first => ?_
  rcases first with _ | ⟨leading, more⟩
  · exact .pure none
  · dsimp only
    split
    · exact .throw rfl
    · refine .bind (takeBytes_forwards _) fun tail => ?_
      split
      · exact .pure _
      · exact .throw rfl

theorem charge_forwards (id : ElementId) (headerLength size : Nat) :
    Forwards (charge id headerLength size) := by
  intro before bytes taken held
  cases scopes : before.scopes with
  | nil =>
    simp only [charge, scopes]
    exact Onward.rfl held
  | cons left outer =>
    simp only [charge, scopes]
    by_cases exceeds : left - headerLength < size ∨ left < headerLength
    · rw [if_pos exceeds]
      exact ⟨rfl, Onward.rfl held⟩
    · rw [if_neg exceeds]
      exact ⟨rfl, 0, Nat.zero_le _, held⟩

theorem readHeader_forwards (id : Vint) : Forwards (readHeader id) := by
  refine .bind get_forwards fun cursor => ?_
  refine .bind (refuseIf_forwards _ rfl) fun _ => ?_
  refine .bind readVint?_forwards fun size? => ?_
  cases size? with
  | none => exact .throw rfl
  | some size =>
    refine .bind (refuseIf_forwards _ rfl) fun _ => ?_
    refine .bind (refuseIf_forwards _ rfl) fun _ => ?_
    exact .bind (charge_forwards _ _ _) fun _ => .pure _

theorem endOfSource_forwards : Forwards endOfSource := by
  intro before bytes taken held
  cases scopes : before.scopes with
  | nil =>
    simp only [endOfSource, scopes]
    exact Onward.rfl held
  | cons missing outer =>
    simp only [endOfSource, scopes]
    exact ⟨rfl, Onward.rfl held⟩

theorem bind_eq_error {step : Reading α} {next : α → Reading β} {error : ReadError} :
    (step >>= next) before = .error error after ↔
      step before = .error error after ∨
        ∃ value between, step before = .ok value between ∧ next value between = .error error after := by
  cases stepped : step before with
  | ok value between =>
    rw [bind_of_ok stepped]
    constructor
    · exact fun failed => .inr ⟨value, between, rfl, failed⟩
    · rintro (failed | ⟨_, _, same, failed⟩)
      · cases failed
      · cases same
        exact failed
  | error error between =>
    rw [bind_of_error stepped]
    constructor
    · intro failed
      cases failed
      exact .inl rfl
    · rintro (failed | ⟨_, _, same, _⟩)
      · cases failed
        rfl
      · cases same

def stranded (cursor : Cursor) (bytes : Bytes) (taken : Nat) : Cursor :=
  { cursor with source := .holding [] (taken + bytes.length), unread := 0 }

theorem skip_error {error : ReadError} (held : cursor.source = .holding bytes taken)
    (failed : skip cursor = .error error after) :
    error.fatal = true ∧ bytes.length < cursor.unread ∧ after = cursor.stranded bytes taken := by
  rcases Nat.lt_or_ge bytes.length cursor.unread with short | enough
  · rw [skip_short held short] at failed
    cases failed
    exact ⟨rfl, short, rfl⟩
  · rw [skip_enough held enough] at failed
    cases failed

theorem advance_failed {error : ReadError} (held : cursor.source = .holding bytes taken)
    (failed : advance cursor = .error error after) :
    skip cursor = .error error after ∨
      cursor.unread ≤ bytes.length ∧
        (readVint? (cursor.past bytes taken) = .error error after ∨
          (∃ between, readVint? (cursor.past bytes taken) = .ok none between ∧
            endOfSource between = .error error after) ∨
          ∃ id between, readVint? (cursor.past bytes taken) = .ok (some id) between ∧
            readHeader id between = .error error after) := by
  rcases bind_eq_error.mp failed with stopped | ⟨_, _, skipped, _⟩
  · exact .inl stopped
  have enough := (skip_ok held skipped).1
  have inside : cursor.scopes.head? ≠ some 0 := by
    intro full
    rw [advance_none held enough (.inl full)] at failed
    cases failed
  rw [advance_past held enough inside] at failed
  refine .inr ⟨enough, ?_⟩
  rcases bind_eq_error.mp failed with failed | ⟨id?, between, idRead, failed⟩
  · exact .inl failed
  cases id? with
  | none => exact .inr (.inl ⟨between, idRead, failed⟩)
  | some id =>
    rcases bind_eq_error.mp failed with failed | ⟨_, _, _, failed⟩
    · exact .inr (.inr ⟨id, between, idRead, failed⟩)
    · cases failed

theorem advance_error {error : ReadError} (held : cursor.source = .holding bytes taken)
    (failed : advance cursor = .error error after) :
    error.fatal = true ∧
      (bytes.length < cursor.unread ∧ after = cursor.stranded bytes taken ∨
        cursor.unread ≤ bytes.length ∧
          Onward (bytes.drop cursor.unread) (taken + cursor.unread) (cursor.past bytes taken)
            after) := by
  rcases advance_failed held failed with failed | ⟨enough, header⟩
  · obtain ⟨fatal, short, stranded⟩ := skip_error held failed
    exact ⟨fatal, .inl ⟨short, stranded⟩⟩
  rcases header with failed | ⟨between, idRead, failed⟩ | ⟨id, between, idRead, failed⟩
  · obtain ⟨fatal, onward⟩ := readVint?_forwards.failed rfl failed
    exact ⟨fatal, .inr ⟨enough, onward⟩⟩
  · obtain ⟨same, count, within, held'⟩ := readVint?_forwards.succeeded rfl idRead
    obtain ⟨fatal, onward⟩ := endOfSource_forwards.failed held' failed
    exact ⟨fatal, .inr ⟨enough, onward.trans same within⟩⟩
  · obtain ⟨same, count, within, held'⟩ := readVint?_forwards.succeeded rfl idRead
    obtain ⟨fatal, onward⟩ := (readHeader_forwards id).failed held' failed
    exact ⟨fatal, .inr ⟨enough, onward.trans same within⟩⟩

theorem leave_error {error : ReadError} (held : cursor.source = .holding bytes taken)
    (failed : leave cursor = .error error after) :
    error.fatal = true ∧ bytes.length < cursor.unread ∧ after = cursor.stranded bytes taken ∨
      error.fatal = true ∧ cursor.unread ≤ bytes.length ∧
        Onward (bytes.drop cursor.unread) (taken + cursor.unread) (cursor.past bytes taken) after ∨
      cursor.scopes = [] ∧ cursor.unread ≤ bytes.length ∧ error = .notInContainer ∧
        after = cursor.past bytes taken := by
  rcases bind_eq_error.mp failed with failed | ⟨_, _, skipped, failed⟩
  · exact .inl (skip_error held failed)
  obtain ⟨enough, rfl⟩ := skip_ok held skipped
  rcases bind_eq_error.mp failed with failed | ⟨_, _, forgotten, failed⟩
  · cases failed
  cases forgotten
  rcases bind_eq_error.mp failed with failed | ⟨count, _, closed, failed⟩
  · unfold close at failed
    split at failed
    · rename_i outside
      cases failed
      exact .inr (.inr ⟨outside, enough, rfl, rfl⟩)
    · cases failed
  · unfold close at closed
    split at closed
    · cases closed
    · cases closed
      obtain ⟨fatal, onward⟩ := (skipBytes_forwards _ _).failed rfl failed
      exact .inr (.inl ⟨fatal, enough, onward.current, onward.further⟩)

-- All that one step can do to a cursor.
inductive Stepped (cursor : Cursor) (bytes : Bytes) (taken : Nat) :
    Operation → Except ReadError Answer → Cursor → Prop
  | moved {header? : Option Header} {after : Cursor} (enough : cursor.unread ≤ bytes.length)
      (moved : Moved cursor bytes taken header? after) :
      Stepped cursor bytes taken .advance (.ok (.header header?)) after
  | skipped (enough : cursor.unread ≤ bytes.length) :
      Stepped cursor bytes taken .skip (.ok .done) { cursor with
        unread := 0
        source := .holding (bytes.drop cursor.unread) (taken + cursor.unread) }
  | entered {header : Header} (current : cursor.current = some header)
      (fresh : cursor.consumed = false) :
      Stepped cursor bytes taken .enter (.ok .done) { cursor with
        scopes := cursor.unread :: cursor.scopes
        unread := 0
        current := none }
  | left {count : Nat} {outer : List Nat} (inside : cursor.scopes = count :: outer)
      (enough : cursor.unread + count ≤ bytes.length) :
      Stepped cursor bytes taken .leave (.ok .done) { cursor with
        source := .holding (bytes.drop (cursor.unread + count)) (taken + (cursor.unread + count))
        scopes := outer
        current := none
        unread := 0 }
  | took {operation : Operation} {type : ElementType} {header : Header}
      {answer : Except ReadError Answer} (reads : operation.reads = some type)
      (plain : type ≠ .container) (current : cursor.current = some header)
      (fresh : cursor.consumed = false)
      (short : bytes.length < header.size → ∃ error, answer = .error error ∧ error.fatal = true) :
      Stepped cursor bytes taken operation answer (cursor.took header bytes taken)
  | seen : Stepped cursor bytes taken .current (.ok (.header cursor.current)) cursor
  -- Refusals that leave everything as it is.
  | notEntered {error : ReadError} : Stepped cursor bytes taken .enter (.error error) cursor
  | notRead {operation : Operation} {type : ElementType} {error : ReadError}
      (reads : operation.reads = some type)
      (refused : type = .container ∨ cursor.current = none ∨ cursor.consumed = true) :
      Stepped cursor bytes taken operation (.error error) cursor
  -- There is no container to leave, but the current element is left behind.
  | outside {error : ReadError} (outside : cursor.scopes = [])
      (enough : cursor.unread ≤ bytes.length) :
      Stepped cursor bytes taken .leave (.error error) (cursor.past bytes taken)
  | stranded {operation : Operation} {error : ReadError} (fatal : error.fatal = true)
      (noRead : operation.reads = none) (noEntry : operation ≠ .enter)
      (short : bytes.length < cursor.unread) :
      Stepped cursor bytes taken operation (.error error) (cursor.stranded bytes taken)
  -- No element follows where one should, or the source ends within a container.
  | lost {operation : Operation} {error : ReadError} {after : Cursor} (fatal : error.fatal = true)
      (moves : operation = .advance ∨ operation = .leave) (enough : cursor.unread ≤ bytes.length)
      (onward : Onward (bytes.drop cursor.unread) (taken + cursor.unread) (cursor.past bytes taken)
        after) :
      Stepped cursor bytes taken operation (.error error) after

section Answer

variable {operation : Operation} {step : Reading α} {tell : α → Answer}

theorem outcome_of_ok {value : α} (performs : operation.perform = tell <$> step)
    (stepped : step cursor = .ok value after) :
    operation.outcome cursor = (.ok (tell value), after) := by
  have performed : operation.perform cursor = .ok (tell value) after := by
    rw [performs, ← bind_pure_comp]
    exact bind_of_ok stepped
  rw [Operation.outcome, performed]

theorem outcome_of_error {error : ReadError} (performs : operation.perform = tell <$> step)
    (stepped : step cursor = .error error after) :
    operation.outcome cursor = (.error error, after) := by
  have performed : operation.perform cursor = .error error after := by
    rw [performs, ← bind_pure_comp]
    exact bind_of_error stepped
  rw [Operation.outcome, performed]

end Answer

theorem read_stepped {operation : Operation} {type : ElementType}
    (reads : operation.reads = some type) (held : cursor.source = .holding bytes taken) :
    Stepped cursor bytes taken operation (operation.outcome cursor).1
      (operation.outcome cursor).2 := by
  have performs := Operation.perform_of_reads reads
  cases current : cursor.current with
  | none =>
    rw [outcome_of_error performs (readValue_none current)]
    exact .notRead reads (.inr (.inl current))
  | some header =>
    by_cases nests : type = .container
    · subst nests
      rw [outcome_of_error performs (readValue_container current)]
      exact .notRead reads (.inl rfl)
    · cases fresh : cursor.consumed with
      | true =>
        rw [outcome_of_error performs (readValue_consumed nests current fresh)]
        exact .notRead reads (.inr (.inr fresh))
      | false =>
        rcases Nat.lt_or_ge bytes.length header.size with short | enough
        · rw [outcome_of_error performs (readValue_short nests held current fresh short)]
          exact .took reads nests current fresh fun _ => ⟨_, rfl, rfl⟩
        · have read := readValue_enough nests held current fresh enough
          cases decoded : Payload.value? type (bytes.take header.size) with
          | some value =>
            rw [decoded] at read
            rw [outcome_of_ok performs read]
            exact .took reads nests current fresh fun short => absurd enough (by omega)
          | none =>
            rw [decoded] at read
            rw [outcome_of_error performs read]
            exact .took reads nests current fresh fun short => absurd enough (by omega)

theorem outcome_stepped (operation : Operation) (held : cursor.source = .holding bytes taken) :
    Stepped cursor bytes taken operation (operation.outcome cursor).1
      (operation.outcome cursor).2 := by
  cases operation with
  | advance =>
    have performs : Operation.advance.perform = .header <$> advance := rfl
    cases advanced : advance cursor with
    | ok header? after =>
      obtain ⟨enough, moved⟩ := advance_ok held advanced
      rw [outcome_of_ok performs advanced]
      exact .moved enough moved
    | error error after =>
      rw [outcome_of_error performs advanced]
      obtain ⟨fatal, ⟨short, rfl⟩ | ⟨enough, onward⟩⟩ := advance_error held advanced
      · exact .stranded fatal rfl (by decide) short
      · exact .lost fatal (.inl rfl) enough onward
  | current => exact .seen
  | enter =>
    have performs : Operation.enter.perform = (fun _ => .done) <$> enter := rfl
    cases current : cursor.current with
    | none =>
      have refused : enter cursor = .error .noElement cursor := by simp only [enter, current]
      rw [outcome_of_error performs refused]
      exact .notEntered
    | some header =>
      cases fresh : cursor.consumed with
      | true =>
        have refused : enter cursor = .error (.payloadConsumed header.id) cursor := by
          simp only [enter, current, fresh, if_true]
        rw [outcome_of_error performs refused]
        exact .notEntered
      | false =>
        rw [outcome_of_ok performs (enter_fresh current fresh)]
        exact .entered current fresh
  | leave =>
    have performs : Operation.leave.perform = (fun _ => .done) <$> leave := rfl
    cases left : leave cursor with
    | ok value after =>
      rw [outcome_of_ok performs left]
      obtain ⟨count, outer, inside, enough, rfl⟩ := leave_ok held left
      exact .left inside enough
    | error error after =>
      rw [outcome_of_error performs left]
      rcases leave_error held left with ⟨fatal, short, rfl⟩ | ⟨fatal, enough, onward⟩ |
        ⟨outside, enough, rfl, rfl⟩
      · exact .stranded fatal rfl (by decide) short
      · exact .lost fatal (.inr rfl) enough onward
      · exact .outside outside enough
  | skip =>
    have performs : Operation.skip.perform = (fun _ => .done) <$> skip := rfl
    cases skipped : skip cursor with
    | ok value after =>
      rw [outcome_of_ok performs skipped]
      obtain ⟨enough, rfl⟩ := skip_ok held skipped
      exact .skipped enough
    | error error after =>
      rw [outcome_of_error performs skipped]
      obtain ⟨fatal, short, rfl⟩ := skip_error held skipped
      exact .stranded fatal rfl (by decide) short
  | _ => exact read_stepped rfl held

end Cursor

end Ebml
