import Ebml.Proofs.Cursor.Lockstep
import Ebml.Proofs.Cursor.Outcome

namespace Ebml

-- Complaints that a step cannot be asked for where the cursor stands, whatever the bytes are.
def ReadError.misuse : ReadError → Bool
  | .noElement => true
  | .payloadConsumed _ => true
  | .containerValue _ => true
  | .notInContainer => true
  | _ => false

namespace Cursor

-- Whatever source a cursor reads from, a step that is refused as misuse has not begun, but for
-- leaving where no container is open.
variable {α β : Type} {cursor before after : Cursor}

def Settled (cursor : Cursor) : Prop := cursor.current = none → cursor.unread = 0

def Ending.Meets (good : Option ReadError → Cursor → Prop) : Ending α → Prop
  | .ok _ after => good none after
  | .error error after => good (some error) after

-- The current element is as it was, and a refusal is not for misuse.
structure Beside (before : Cursor) (error? : Option ReadError) (after : Cursor) : Prop where
  current : after.current = before.current
  unread : after.unread = before.unread
  proper : ∀ error ∈ error?, error.misuse = false

def Bystands (step : Reading α) : Prop := ∀ before, Ending.Meets (Beside before) (step before)

structure Refusable (before : Cursor) (error? : Option ReadError) (after : Cursor) : Prop where
  untouched : ∀ error ∈ error?, error.misuse = true → after = before
  settled : before.Settled → after.Settled

theorem Ending.Meets.imp {good better : Option ReadError → Cursor → Prop} {ending : Ending α}
    (meets : Meets good ending) (better_of : ∀ error? after, good error? after → better error? after) :
    Meets better ending := by
  cases ending with
  | ok value after => exact better_of none after meets
  | error error after => exact better_of (some error) after meets

theorem Ending.meets_bind {good between : Option ReadError → Cursor → Prop} {step : Reading α}
    {next : α → Reading β} (one : Meets between (step before))
    (fails : ∀ error after, between (some error) after → good (some error) after)
    (goes : ∀ value after, between none after → Meets good (next value after)) :
    Meets good ((step >>= next) before) := by
  cases stepped : step before with
  | ok value after =>
    rw [stepped] at one
    rw [bind_of_ok stepped]
    exact goes value after one
  | error error after =>
    rw [stepped] at one
    rw [bind_of_error stepped]
    exact fails error after one

theorem Beside.rfl (cursor : Cursor) : Beside cursor none cursor := ⟨Eq.refl _, Eq.refl _, nofun⟩

theorem Beside.trans {between : Cursor} {error? : Option ReadError}
    (one : Beside before none between) (two : Beside between error? after) :
    Beside before error? after :=
  ⟨two.current.trans one.current, two.unread.trans one.unread, two.proper⟩

namespace Bystands

theorem bind {step : Reading α} {next : α → Reading β} (one : Bystands step)
    (two : ∀ value, Bystands (next value)) : Bystands (step >>= next) := by
  intro before
  refine Ending.meets_bind (one before) (fun _ _ failed => failed) ?_
  intro value between beside
  exact (two value between).imp fun _ _ later => beside.trans later

theorem pure (value : α) : Bystands (pure value) := Beside.rfl

theorem throw {error : ReadError} (proper : error.misuse = false) :
    Bystands (throw error : Reading α) :=
  fun _ => ⟨rfl, rfl, by rintro _ ⟨⟩; exact proper⟩

end Bystands

theorem get_bystands : Bystands (get : Reading Cursor) := Beside.rfl

theorem refuseIf_bystands (condition : Prop) [Decidable condition] {error : ReadError}
    (proper : error.misuse = false) : Bystands (refuseIf condition error) := by
  unfold refuseIf
  split
  · exact .throw proper
  · exact .pure ()

theorem takeBytes_bystands (wanted : Nat) : Bystands (takeBytes wanted) := by
  intro before
  rw [takeBytes_eq]
  split
  · exact ⟨rfl, rfl, nofun⟩
  · exact ⟨rfl, rfl, by rintro _ ⟨⟩; rfl⟩

theorem skipBytes_bystands (count : Nat) (id : ElementId) : Bystands (skipBytes count id) :=
  .bind (takeBytes_bystands count) fun _ => refuseIf_bystands _ rfl

theorem readVint?_bystands : Bystands readVint? := by
  refine .bind (takeBytes_bystands 1) fun first => ?_
  rcases first with _ | ⟨leading, more⟩
  · exact .pure none
  · dsimp only
    split
    · exact .throw rfl
    · refine .bind (takeBytes_bystands _) fun tail => ?_
      split
      · exact .pure _
      · exact .throw rfl

theorem charge_bystands (id : ElementId) (headerLength size : Nat) :
    Bystands (charge id headerLength size) := by
  intro before
  unfold charge
  split
  · exact Beside.rfl before
  · dsimp only
    split
    · exact ⟨rfl, rfl, by rintro _ ⟨⟩; rfl⟩
    · exact ⟨rfl, rfl, nofun⟩

theorem readHeader_bystands (id : Vint) : Bystands (readHeader id) := by
  refine .bind get_bystands fun cursor => ?_
  refine .bind (refuseIf_bystands _ rfl) fun _ => ?_
  refine .bind readVint?_bystands fun size? => ?_
  cases size? with
  | none => exact .throw rfl
  | some size =>
    refine .bind (refuseIf_bystands _ rfl) fun _ => ?_
    refine .bind (refuseIf_bystands _ rfl) fun _ => ?_
    exact .bind (charge_bystands _ _ _) fun _ => .pure _

theorem endOfSource_bystands : Bystands endOfSource := by
  intro before
  unfold endOfSource
  split
  · exact Beside.rfl before
  · exact ⟨rfl, rfl, by rintro _ ⟨⟩; rfl⟩

theorem skip_meets (cursor : Cursor) :
    Ending.Meets (Beside { cursor with unread := 0 }) (skip cursor) :=
  skipBytes_bystands cursor.unread (cursor.current.elim 0 (·.id)) { cursor with unread := 0 }

theorem settled_of_beside {error? : Option ReadError} (beside : Beside before error? after)
    (read : before.unread = 0) : after.Settled := fun _ => beside.unread.trans read

theorem refusable_of_beside {error? : Option ReadError} (beside : Beside before error? after)
    (read : before.unread = 0) : Refusable cursor error? after := by
  refine ⟨?_, fun _ => settled_of_beside beside read⟩
  intro error failed misused
  rw [beside.proper error failed] at misused
  cases misused

theorem refusable_of_bystands {step : Reading α} (bystands : Bystands step)
    (read : before.unread = 0) : Ending.Meets (Refusable cursor) (step before) :=
  (bystands before).imp fun _ _ beside => refusable_of_beside beside read

theorem moveOn_refusable (read : before.unread = 0) :
    Ending.Meets (Refusable cursor)
      ((readVint? >>= fun id? => match id? with
        | none => endOfSource
        | some id => do
          let header ← readHeader id
          moveTo header
          return some header) before) := by
  refine Ending.meets_bind (readVint?_bystands before)
    (fun _ _ failed => refusable_of_beside failed read) ?_
  intro id? between beside
  have read := beside.unread.trans read
  cases id? with
  | none => exact refusable_of_bystands endOfSource_bystands read
  | some id =>
    refine Ending.meets_bind (readHeader_bystands id between)
      (fun _ _ failed => refusable_of_beside failed read) ?_
    intro header found beside
    exact ⟨nofun, nofun⟩

theorem advance_refusable (cursor : Cursor) :
    Ending.Meets (Refusable cursor) (advance cursor) := by
  unfold advance
  refine Ending.meets_bind (skip_meets cursor) (fun _ _ failed => refusable_of_beside failed rfl) ?_
  intro _ skipped beside
  have read : ({ skipped with current := none } : Cursor).unread = 0 := beside.unread
  rw [bind_of_ok (show forget skipped = .ok () { skipped with current := none } from rfl),
    bind_of_ok (show (get : Reading Cursor) { skipped with current := none } =
      .ok { skipped with current := none } { skipped with current := none } from rfl)]
  split
  · exact ⟨nofun, fun _ _ => read⟩
  · exact moveOn_refusable read

theorem enter_refusable (cursor : Cursor) : Ending.Meets (Refusable cursor) (enter cursor) := by
  unfold enter
  split
  · exact ⟨fun _ _ _ => rfl, id⟩
  · split
    · exact ⟨fun _ _ _ => rfl, id⟩
    · exact ⟨nofun, fun _ _ => rfl⟩

theorem takePayload_refusable (cursor : Cursor) :
    Ending.Meets (Refusable cursor) (takePayload cursor) ∧
      ∀ payload after, takePayload cursor = .ok payload after → after.unread = 0 := by
  cases current : cursor.current with
  | none =>
    rw [takePayload_none current]
    exact ⟨⟨fun _ _ _ => rfl, id⟩, nofun⟩
  | some header =>
    cases fresh : cursor.consumed with
    | true =>
      rw [takePayload_consumed current fresh]
      exact ⟨⟨fun _ _ _ => rfl, id⟩, nofun⟩
    | false =>
      have started : startPayload cursor =
          .ok header { cursor with consumed := true, unread := 0 } := by
        simp only [startPayload, current, fresh, Bool.false_eq_true, if_false]
      have taken : Bystands (takeBytes header.size >>= fun payload => do
          refuseIf (payload.length < header.size)
            (.truncated header.id (header.size - payload.length))
          return (header, payload)) :=
        .bind (takeBytes_bystands _) fun _ => .bind (refuseIf_bystands _ rfl) fun _ => .pure _
      unfold takePayload
      rw [bind_of_ok started]
      refine ⟨refusable_of_bystands taken rfl, ?_⟩
      intro payload after read
      have beside := taken { cursor with consumed := true, unread := 0 }
      rw [read] at beside
      exact beside.unread

theorem readValue_refusable (type : ElementType) (cursor : Cursor) :
    Ending.Meets (Refusable cursor) (readValue type cursor) := by
  by_cases plain : type = .container
  · subst plain
    cases current : cursor.current with
    | none =>
      rw [readValue_none current]
      exact ⟨fun _ _ _ => rfl, id⟩
    | some header =>
      rw [readValue_container current]
      exact ⟨fun _ _ _ => rfl, id⟩
  · rw [readValue_eq plain]
    obtain ⟨refusable, emptied⟩ := takePayload_refusable cursor
    cases taken : takePayload cursor with
    | error error after =>
      rw [taken] at refusable
      rw [bind_of_error taken]
      exact refusable
    | ok payload after =>
      have valued : Bystands (valueOf type payload.1 payload.2) := by
        unfold valueOf
        split
        · exact .pure _
        · refine .throw ?_
          cases type <;> rfl
      rw [bind_of_ok taken]
      exact refusable_of_bystands valued (emptied payload after taken)

def beyond (cursor : Cursor) : Cursor :=
  { cursor with
    source := (cursor.source.take cursor.unread).2.2
    current := none
    unread := 0 }

theorem skip_taken {value : Unit} (skipped : skip cursor = .ok value after) :
    after = { cursor with source := (cursor.source.take cursor.unread).2.2, unread := 0 } ∧
      after.position = cursor.position + cursor.unread := by
  have parts : (takeBytes cursor.unread >>= fun skipped => refuseIf (skipped.length < cursor.unread)
      (.truncated (cursor.current.elim 0 (·.id)) (cursor.unread - skipped.length)))
        { cursor with unread := 0 } = .ok value after := skipped
  obtain ⟨bytes, between, taken, rest⟩ := bind_eq_ok.mp parts
  obtain ⟨enough, rfl⟩ := refuseIf_ok rest
  have most := cursor.source.take_length_le cursor.unread
  rw [takeBytes_eq] at taken
  split at taken
  · cases taken
    have length : (cursor.source.take cursor.unread).1.length = cursor.unread :=
      Nat.le_antisymm most (Nat.le_of_not_lt enough)
    exact ⟨rfl, congrArg (cursor.source.taken + ·) length⟩
  · cases taken

theorem leave_misused {error : ReadError} (failed : leave cursor = .error error after)
    (misused : error.misuse = true) :
    error = .notInContainer ∧ cursor.scopes = [] ∧ after = cursor.beyond ∧
      after.position = cursor.position + cursor.unread := by
  rcases bind_eq_error.mp failed with failed | ⟨_, skipped, skips, failed⟩
  · have beside := skip_meets cursor
    rw [failed] at beside
    rw [beside.proper error rfl] at misused
    cases misused
  obtain ⟨rfl, position⟩ := skip_taken skips
  rcases bind_eq_error.mp failed with failed | ⟨_, forgotten, forgets, failed⟩
  · cases failed
  cases forgets
  rcases bind_eq_error.mp failed with failed | ⟨count, closed, closes, failed⟩
  · unfold close at failed
    split at failed
    · rename_i outside
      cases failed
      exact ⟨rfl, outside, rfl, position⟩
    · cases failed
  · have beside := skipBytes_bystands count 0 closed
    rw [failed] at beside
    rw [beside.proper error rfl] at misused
    cases misused

theorem leave_settled (cursor : Cursor) :
    Ending.Meets (fun _ after => after.Settled) (leave cursor) := by
  refine Ending.meets_bind (skip_meets cursor) (fun _ _ failed => settled_of_beside failed rfl) ?_
  intro _ skipped beside
  have read : ({ skipped with current := none } : Cursor).unread = 0 := beside.unread
  rw [bind_of_ok (show forget skipped = .ok () { skipped with current := none } from rfl)]
  cases closed : close { skipped with current := none } with
  | error error after =>
    rw [bind_of_error closed]
    unfold close at closed
    split at closed <;> cases closed
    exact fun _ => read
  | ok count after =>
    have emptied : after.unread = 0 := by
      unfold close at closed
      split at closed <;> cases closed
      exact read
    rw [bind_of_ok closed]
    exact (skipBytes_bystands count 0 after).imp fun _ _ beside => settled_of_beside beside emptied

theorem skip_refusable (cursor : Cursor) : Ending.Meets (Refusable cursor) (skip cursor) :=
  (skip_meets cursor).imp fun _ _ beside => refusable_of_beside beside rfl

def refusal? : Except ReadError Answer → Option ReadError
  | .ok _ => none
  | .error error => some error

theorem outcome_meets {operation : Operation} {step : Reading α} {tell : α → Answer}
    {good : Option ReadError → Cursor → Prop} (performs : operation.perform = tell <$> step)
    (meets : Ending.Meets good (step cursor)) :
    good (refusal? (operation.outcome cursor).1) (operation.outcome cursor).2 := by
  cases stepped : step cursor with
  | ok value after =>
    rw [stepped] at meets
    rw [outcome_of_ok performs stepped]
    exact meets
  | error error after =>
    rw [stepped] at meets
    rw [outcome_of_error performs stepped]
    exact meets

theorem outcome_unless_leave {operation : Operation} (stays : operation ≠ .leave) (cursor : Cursor) :
    Refusable cursor (refusal? (operation.outcome cursor).1) (operation.outcome cursor).2 := by
  cases operation with
  | advance => exact outcome_meets rfl (advance_refusable cursor)
  | current => exact ⟨nofun, id⟩
  | enter => exact outcome_meets rfl (enter_refusable cursor)
  | leave => contradiction
  | skip => exact outcome_meets rfl (skip_refusable cursor)
  | _ => exact outcome_meets (Operation.perform_of_reads rfl) (readValue_refusable _ cursor)

theorem leave_performs : Operation.leave.perform = (fun _ => .done) <$> leave := rfl

theorem outcome_settled (operation : Operation) (settled : cursor.Settled) :
    (operation.outcome cursor).2.Settled := by
  by_cases leaves : operation = .leave
  · subst leaves
    exact outcome_meets leave_performs (leave_settled cursor)
  · exact (outcome_unless_leave leaves cursor).settled settled

theorem run_settled (operations : List Operation) (settled : cursor.Settled) :
    (run operations cursor).2.Settled := by
  induction operations generalizing cursor with
  | nil => exact settled
  | cons operation rest ih => exact ih (outcome_settled operation settled)

theorem outcome_leave_misused {error : ReadError}
    (refused : (Operation.leave.outcome cursor).1 = .error error) (misused : error.misuse = true) :
    error = .notInContainer ∧ cursor.scopes = [] ∧
      (Operation.leave.outcome cursor).2 = cursor.beyond ∧
      (Operation.leave.outcome cursor).2.position = cursor.position + cursor.unread := by
  cases left : leave cursor with
  | ok value last =>
    rw [outcome_of_ok leave_performs left] at refused
    cases refused
  | error error' last =>
    rw [outcome_of_error leave_performs left] at refused ⊢
    cases refused
    exact leave_misused left misused

theorem beyond_eq (nowhere : cursor.current = none) (settled : cursor.Settled) :
    cursor.beyond = cursor := by
  have read := settled nowhere
  unfold beyond
  rw [read, Source.take_zero, ← nowhere, ← read]

-- A step that is refused as misuse takes nothing and changes nothing, so that whatever is done
-- next goes as if it had not been asked for. The one exception is to leave outside of all
-- containers while an element is under the cursor: the element is then gone past, and the next
-- look at the cursor shows it.
theorem misuse_unnoticed_unless_left (source : Source) (limits : Limits)
    (earlier : List Operation) (operation : Operation) (error : ReadError) :
    let cursor := (run earlier (ofSource source limits)).2
    let after := (operation.outcome cursor).2
    (operation.outcome cursor).1 = .error error → error.misuse = true →
      (after = cursor ↔ ¬(operation = .leave ∧ cursor.current.isSome = true)) ∧
      ((∀ later, run later after = run later cursor) ↔
        ¬(operation = .leave ∧ cursor.current.isSome = true)) ∧
      (operation = .leave → error = .notInContainer ∧ cursor.depth = 0 ∧ after = cursor.beyond ∧
        after.position = cursor.position + cursor.unread) := by
  intro cursor after refused misused
  have settled : cursor.Settled := run_settled earlier fun _ => rfl
  have untouched : ¬(operation = .leave ∧ cursor.current.isSome = true) → after = cursor := by
    intro kept
    by_cases leaves : operation = .leave
    · subst leaves
      have nowhere : cursor.current = none := by
        rw [← Option.not_isSome_iff_eq_none]
        exact fun current => kept ⟨rfl, current⟩
      exact (outcome_leave_misused refused misused).2.2.1.trans (beyond_eq nowhere settled)
    · refine (outcome_unless_leave leaves cursor).untouched error ?_ misused
      rw [refused]
      rfl
  -- Asked for the current element, the two cursors give different answers.
  have noticed : run [.current] after = run [.current] cursor →
      ¬(operation = .leave ∧ cursor.current.isSome = true) := by
    rintro same ⟨rfl, current⟩
    have last : after = cursor := congrArg Prod.snd same
    rw [← last] at current
    have beyond : after = cursor.beyond := (outcome_leave_misused refused misused).2.2.1
    rw [beyond] at current
    cases current
  refine ⟨⟨?_, untouched⟩, ⟨fun same => noticed (same [.current]), ?_⟩, ?_⟩
  · intro same
    exact noticed (by rw [same])
  · intro kept later
    rw [untouched kept]
  · rintro rfl
    obtain ⟨outside, scopes, beyond, position⟩ := outcome_leave_misused refused misused
    exact ⟨outside, congrArg List.length scopes, beyond, position⟩

theorem second_read_unnoticed :
    let source : Source := ⟨[.piece 0x81 [0x82], .interrupted, .piece 0xAA [0xBB, 0x82], .piece 0x80 []],
      none, 0⟩
    let cursor := (run [.advance, .readBinary] (ofSource source default)).2
    (Operation.readUInt.outcome cursor).1 = .error (.payloadConsumed 1) ∧
      ReadError.misuse (.payloadConsumed 1) = true ∧
      (Operation.readUInt.outcome cursor).2 = cursor := by
  intro source cursor
  have refused : (Operation.readUInt.outcome cursor).1 = .error (.payloadConsumed 1) := by decide
  exact ⟨refused, rfl, (misuse_unnoticed_unless_left source default [.advance, .readBinary]
    .readUInt (.payloadConsumed 1) refused rfl).1.mpr (by decide)⟩

-- Leaving is refused outside of all containers, yet the payload is skipped and the element gone.
theorem leave_outside_noticed :
    let cursor := (run [.advance] (ofSource (.ofBytes [0x81, 0x81, 0xAA]) default)).2
    let after := (Operation.leave.outcome cursor).2
    (Operation.leave.outcome cursor).1 = .error .notInContainer ∧
      ReadError.misuse .notInContainer = true ∧
      cursor.position = 2 ∧ after.position = 3 ∧ after ≠ cursor ∧
      (Operation.readBinary.outcome cursor).1 = .ok (.value (.binary [0xAA])) ∧
      (Operation.readBinary.outcome after).1 = .error .noElement := by
  intro cursor after
  have moved : cursor.position = 2 ∧ after.position = 3 := by decide
  refine ⟨by decide, rfl, moved.1, moved.2, ?_, by decide, by decide⟩
  intro same
  have position := moved.2
  rw [same, moved.1] at position
  cases position

end Cursor

end Ebml
