import Ebml.Proofs.Cursor.Invariant
import Ebml.Proofs.Cursor.Outcome
import Ebml.Proofs.Walk

namespace Ebml

-- A walk asks for the next element again and again. Every time but the last pays for itself:
-- with the bytes of a header, or with a container's end, which an earlier header has paid for.
namespace Cursor

variable {before after : Cursor} {most : Nat} {header : Header}

theorem level_parts : Unnesting (Lasts fun cursor => cursor.depth ≤ most) where
  pure _ := fun _ within => within
  throw _ := fun _ within => within
  bind := .bind
  takeBytes wanted := by
    intro before within
    rw [takeBytes_eq]
    split <;> exact within
  startSkip := fun _ within => within
  forget := fun _ within => within
  innermost := fun _ within => within
  endOfSource := by
    intro before within
    unfold endOfSource
    split <;> exact within
  moveTo _ := fun _ within => within
  current := fun _ within => within
  close := by
    intro before within
    unfold close
    split
    · exact within
    · rename_i left outer inside
      rw [depth, inside] at within
      exact Nat.le_of_succ_le within
  charge id headerLength size := by
    intro before within
    unfold charge
    split
    · exact within
    · rename_i left outer inside
      dsimp only
      split
      · exact within
      · rw [depth, inside] at within
        exact within
  startPayload := by
    intro before within
    unfold startPayload
    split
    · exact within
    · split <;> exact within
  refuseContainer := by
    intro before within
    unfold refuseContainer
    split <;> exact within

theorem advance_level (cursor : Cursor) : (Ending.last (advance cursor)).depth ≤ cursor.depth :=
  level_parts.advance (level_parts.readHeader fun _ within => within) cursor (Nat.le_refl _)

theorem leave_level (cursor : Cursor) : (Ending.last (leave cursor)).depth ≤ cursor.depth :=
  level_parts.leave cursor (Nat.le_refl _)

theorem readHeader_depth {id : Vint} (read : readHeader id before = .ok header after) :
    header.depth = before.depth := by
  rw [readHeader_eq] at read
  obtain ⟨_, _, started, read⟩ := bind_eq_ok.mp read
  cases started
  obtain ⟨_, _, _, read⟩ := bind_eq_ok.mp read
  obtain ⟨size?, _, _, read⟩ := bind_eq_ok.mp read
  cases size? with
  | none => cases read
  | some size =>
    obtain ⟨_, _, _, read⟩ := bind_eq_ok.mp read
    obtain ⟨_, _, _, read⟩ := bind_eq_ok.mp read
    obtain ⟨_, _, _, read⟩ := bind_eq_ok.mp read
    cases read
    rfl

theorem advance_depth (advanced : advance before = .ok (some header) after) :
    header.depth = before.depth := by
  rw [advance_eq] at advanced
  obtain ⟨_, skipped, skips, advanced⟩ := bind_eq_ok.mp advanced
  obtain ⟨_, forgotten, forgets, advanced⟩ := bind_eq_ok.mp advanced
  obtain ⟨left?, _, looked, advanced⟩ := bind_eq_ok.mp advanced
  have first := (skip_takes before _ skipped skips).2
  have second := (forget_takes skipped _ forgotten forgets).2
  cases looked
  split at advanced
  · cases advanced
  · obtain ⟨id?, between, idRead, advanced⟩ := bind_eq_ok.mp advanced
    have third := (readVint?_takes forgotten id? between idRead).2
    cases id? with
    | none =>
      obtain ⟨_, none, _⟩ := endOfSource_ok advanced
      cases none
    | some id =>
      obtain ⟨found, _, read, advanced⟩ := bind_eq_ok.mp advanced
      obtain ⟨_, _, _, advanced⟩ := bind_eq_ok.mp advanced
      cases advanced
      rw [readHeader_depth read, third, second, first]

end Cursor

namespace Walk

-- A walk that is going on, with what it has told so far, or one that has come to its end.
inductive Stage where
  | going (events : List Event) (cursor : Cursor)
  | settled (walk : Walk)

namespace Stage

def events : Stage → List Event
  | going events _ => events
  | settled walk => walk.events

def cursor : Stage → Cursor
  | going _ cursor => cursor
  | settled walk => walk.cursor

-- One round of the walk, which asks once for the next element.
def round (schema : Schema) : Stage → Stage
  | settled walk => settled walk
  | going events cursor =>
    match Cursor.advance cursor with
    | .error error after => settled ⟨events, some error, after⟩
    | .ok none after =>
      if cursor.depth = 0 then settled ⟨events, none, after⟩
      else match Cursor.leave after with
        | .error error last => settled ⟨events, some error, last⟩
        | .ok () next => going events next
    | .ok (some header) after =>
      match visit schema header after with
      | .error error last => settled ⟨events, some error, last⟩
      | .ok event next => going (events ++ [event]) next

def after (schema : Schema) (start : Cursor) : Nat → Stage
  | 0 => going [] start
  | calls + 1 => (after schema start calls).round schema

def outcome (schema : Schema) : Stage → Walk
  | going events cursor =>
    let rest := ofCursor schema cursor
    { rest with events := events ++ rest.events }
  | settled walk => walk

def pending : Stage → Nat
  | going _ cursor => cursor.source.pending
  | settled _ => 0

-- An event takes two bytes. A round takes a byte too, or has been paid for by the container that
-- it leaves.
structure Paid (size calls : Nat) (stage : Stage) : Prop where
  shallow : stage.cursor.depth ≤ stage.events.length
  nested : ∀ index (inside : index < stage.events.length), stage.events[index].depth ≤ index
  sized : 2 * stage.events.length + stage.pending ≤ size
  paced : ∀ events cursor, stage = going events cursor →
    calls + cursor.source.pending + cursor.depth ≤ size

end Stage

variable {schema : Schema} {cursor after : Cursor} {header : Header} {event : Event}
  {events : List Event} {calls size : Nat} {stage : Stage}

theorem visit_depth (visited : visit schema header cursor = .ok event after) :
    event.depth = header.depth := by
  unfold visit at visited
  cases found : schema.definition? header.id with
  | none =>
    rw [found] at visited
    cases visited
    rfl
  | some definition =>
    rw [found] at visited
    dsimp only at visited
    split at visited
    · obtain ⟨_, _, _, told⟩ := Cursor.bind_eq_ok.mp visited
      cases told
      rfl
    · obtain ⟨_, _, _, told⟩ := Cursor.bind_eq_ok.mp visited
      cases told
      rfl

theorem visit_level {error : ReadError} (failed : visit schema header cursor = .error error after) :
    after.depth ≤ cursor.depth := by
  unfold visit at failed
  cases found : schema.definition? header.id with
  | none =>
    rw [found] at failed
    cases failed
  | some definition =>
    rw [found] at failed
    dsimp only at failed
    split at failed
    · rcases Cursor.bind_eq_error.mp failed with failed | ⟨_, _, _, failed⟩
      · unfold Cursor.enter at failed
        split at failed
        · cases failed
          exact Nat.le_refl _
        · split at failed <;> cases failed
          exact Nat.le_refl _
      · cases failed
    · rcases Cursor.bind_eq_error.mp failed with failed | ⟨_, _, _, failed⟩
      · have level := Cursor.level_parts.readValue definition.type cursor (Nat.le_refl _)
        rw [failed] at level
        exact level
      · cases failed

namespace Stage

theorem Paid.settled {walk : Walk} (paid : Paid size calls (going walk.events cursor))
    (level : walk.cursor.depth ≤ cursor.depth) : Paid size (calls + 1) (settled walk) where
  shallow := Nat.le_trans level paid.shallow
  nested := paid.nested
  sized := Nat.le_trans (Nat.le_add_right _ _) paid.sized
  paced _ _ going := by cases going

theorem Paid.left {next : Cursor} (paid : Paid size calls (going events cursor))
    (ended : Cursor.advance cursor = .ok none after) (left : Cursor.leave after = .ok () next) :
    Paid size (calls + 1) (going events next) := by
  obtain ⟨shallow, nested, sized, paced⟩ := paid
  have paced := paced events cursor rfl
  have taken := Cursor.advance_takes cursor none after ended
  have risen := Cursor.leave_rises left
  dsimp only [Stage.events, Stage.cursor, Stage.pending] at shallow sized
  refine ⟨?_, nested, ?_, ?_⟩
  · change next.depth ≤ events.length
    omega
  · change 2 * events.length + next.source.pending ≤ size
    omega
  · rintro _ _ ⟨⟩
    omega

theorem Paid.told {next : Cursor} (paid : Paid size calls (going events cursor))
    (moved : Cursor.advance cursor = .ok (some header) after)
    (visited : visit schema header after = .ok event next) :
    Paid size (calls + 1) (going (events ++ [event]) next) := by
  obtain ⟨shallow, nested, sized, paced⟩ := paid
  have paced := paced events cursor rfl
  have taken := Cursor.advance_takes cursor (some header) after moved
  have entered := visit_pending visited
  have deep := (visit_depth visited).trans (Cursor.advance_depth moved)
  dsimp only [Stage.events, Stage.cursor, Stage.pending] at shallow nested sized
  simp only [Option.isSome_some, if_true] at taken
  refine ⟨?_, ?_, ?_, ?_⟩
  · change next.depth ≤ (events ++ [event]).length
    rw [List.length_append, List.length_singleton]
    omega
  · change ∀ index (inside : index < (events ++ [event]).length), _
    intro index inside
    dsimp only [Stage.events]
    rw [List.getElem_append]
    split
    · exact nested index _
    · rename_i last
      rw [List.getElem_singleton, deep]
      omega
  · change 2 * (events ++ [event]).length + next.source.pending ≤ size
    rw [List.length_append, List.length_singleton]
    omega
  · rintro _ _ ⟨⟩
    omega

theorem Paid.round (schema : Schema) (paid : Paid size calls stage) :
    Paid size (calls + 1) (stage.round schema) := by
  cases stage with
  | settled walk => exact ⟨paid.shallow, paid.nested, paid.sized, by intro _ _ going; cases going⟩
  | going events cursor =>
    have level := Cursor.advance_level cursor
    dsimp only [Stage.round]
    cases advanced : Cursor.advance cursor with
    | error error after =>
      rw [advanced] at level
      exact .settled paid level
    | ok header? after =>
      rw [advanced] at level
      cases header? with
      | none =>
        dsimp only
        by_cases outside : cursor.depth = 0
        · rw [if_pos outside]
          exact .settled paid level
        · rw [if_neg outside]
          have lower := Cursor.leave_level after
          cases left : Cursor.leave after with
          | error error last =>
            rw [left] at lower
            exact .settled paid (Nat.le_trans lower level)
          | ok value next => exact paid.left advanced left
      | some header =>
        dsimp only
        cases visited : visit schema header after with
        | error error last => exact .settled paid (Nat.le_trans (visit_level visited) level)
        | ok event next => exact paid.told advanced visited

theorem after_paid (schema : Schema) (start : Cursor) (outside : start.depth = 0) (calls : Nat) :
    Paid start.source.pending calls (Stage.after schema start calls) := by
  induction calls with
  | zero =>
    refine ⟨Nat.le_of_eq outside, ?_, ?_, ?_⟩
    · intro index inside
      cases inside
    · exact Nat.le_of_eq (Nat.zero_add _)
    · rintro _ _ ⟨⟩
      omega
  | succ calls ih => exact ih.round schema

theorem outcome_round (schema : Schema) (stage : Stage) :
    (stage.round schema).outcome schema = stage.outcome schema := by
  cases stage with
  | settled walk => rfl
  | going events cursor =>
    dsimp only [round, outcome]
    rw [ofCursor_eq schema cursor]
    cases advanced : Cursor.advance cursor with
    | error error after => simp only [List.append_nil]
    | ok header? after =>
      cases header? with
      | none =>
        dsimp only
        by_cases outside : cursor.depth = 0
        · simp only [if_pos outside, List.append_nil]
        · simp only [if_neg outside]
          cases left : Cursor.leave after with
          | error error last => simp only [List.append_nil]
          | ok value next => rfl
      | some header =>
        dsimp only
        cases visited : visit schema header after with
        | error error last => simp only [List.append_nil]
        | ok event next => simp only [List.append_assoc, List.singleton_append]

theorem after_outcome (schema : Schema) (start : Cursor) (calls : Nat) :
    (Stage.after schema start calls).outcome schema = ofCursor schema start := by
  induction calls with
  | zero => rfl
  | succ calls ih => exact (outcome_round schema _).trans ih

theorem events_prefix (schema : Schema) (stage : Stage) :
    stage.events <+: (stage.outcome schema).events := by
  cases stage with
  | settled walk => exact List.prefix_refl _
  | going events cursor => exact List.prefix_append _ _

end Stage

-- Whatever the bytes are, the walk asks for the next element at most once more often than there
-- are bytes, tells of an element for every two of them at most, and is nowhere deeper than it
-- has told of elements.
theorem ends_within_size (schema : Schema) (limits : Limits) (bytes : Bytes) :
    let start := Cursor.ofSource (.ofBytes bytes) limits
    let walk := ofCursor schema start
    Stage.after schema start (bytes.length + 1) = .settled walk ∧
      walk.events.length ≤ bytes.length / 2 ∧
      (∀ index (inside : index < walk.events.length), walk.events[index].depth ≤ index) ∧
      ∀ calls, (Stage.after schema start calls).events <+: walk.events ∧
        (Stage.after schema start calls).cursor.depth ≤
          (Stage.after schema start calls).events.length := by
  intro start walk
  have pending : start.source.pending = bytes.length := by
    change (Source.ofBytes bytes).pending = _
    cases bytes <;> rfl
  have paid := fun calls => Stage.after_paid schema start rfl calls
  have outcome := fun calls => Stage.after_outcome schema start calls
  rw [pending] at paid
  have settled : Stage.after schema start (bytes.length + 1) = .settled walk := by
    have ended := outcome (bytes.length + 1)
    have paced := (paid (bytes.length + 1)).paced
    cases reached : Stage.after schema start (bytes.length + 1) with
    | settled last =>
      rw [reached] at ended
      exact congrArg Stage.settled ended
    | going events cursor =>
      have := paced events cursor reached
      omega
  have final := paid (bytes.length + 1)
  rw [settled] at final
  refine ⟨settled, ?_, final.nested, ?_⟩
  · have sized := final.sized
    change 2 * walk.events.length + 0 ≤ bytes.length at sized
    omega
  · intro calls
    refine ⟨?_, (paid calls).shallow⟩
    have told := Stage.events_prefix schema (Stage.after schema start calls)
    rwa [outcome] at told

end Walk

end Ebml
