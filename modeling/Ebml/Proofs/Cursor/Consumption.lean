import Ebml.Proofs.Cursor.Log

namespace Ebml

-- What may be known of the payload of the current element, whatever has been done before
-- and however it failed.
namespace Log

theorem note_error (log : Log) {operation : Operation} (noRead : operation.reads = none)
    (error : ReadError) (before after : Cursor) :
    (log.note operation (.error error) before after).payload = log.payload ∧
      (log.note operation (.error error) before after).read = log.read := by
  have takesNone : operation.takesPayload = false := by
    rw [Operation.takesPayload, noRead]
  cases operation <;> simp [note, takesNone]

end Log

namespace Watched

variable {document : Bytes} {watched : Watched} {operation : Operation} {header : Header}

-- The payload has not been touched, or the cursor is past it without having read it.
inductive Unread (document : Bytes) (cursor : Cursor) (log : Log) (header : Header) : Prop
  | ahead (whole : cursor.unread = header.size) (position : cursor.position = log.payload)
      (unskipped : log.skipped = false)
  | behind (none : cursor.unread = 0)
      (position : cursor.position = min (log.payload + header.size) document.length)
      (why : log.skipped = true ∨ document.length < log.payload + header.size)

structure Tracked (document : Bytes) (watched : Watched) : Prop where
  standing : Cursor.Standing document watched.cursor
  begun : watched.cursor.current.isSome = true → watched.log.payload ≤ document.length
  known : watched.cursor.current.isSome = true → watched.cursor.consumed = watched.log.read
  unread : ∀ header, watched.cursor.current = some header → watched.log.read = false →
    Unread document watched.cursor watched.log header

namespace Tracked

theorem nowhere {cursor : Cursor} {log : Log} (standing : Cursor.Standing document cursor)
    (nowhere : cursor.current = none) : Tracked document ⟨cursor, log⟩ where
  standing := standing
  begun := by
    intro current
    rw [nowhere] at current
    cases current
  known := by
    intro current
    rw [nowhere] at current
    cases current
  unread := by
    intro header current
    rw [nowhere] at current
    cases current

theorem onto {id size : Vint} {rest : Bytes} {scopes : List Nat} {taken : Nat}
    {before after : Cursor} (log : Log) (moved : after = before.onto id size scopes rest taken)
    (standing : Cursor.Standing document after) :
    Tracked document ⟨after, { log with
      payload := after.position, skipped := false, read := false }⟩ where
  standing := standing
  begun := fun _ => standing.inside
  known := by
    intro _
    rw [moved]
    rfl
  unread := by
    intro header current _
    refine .ahead ?_ rfl rfl
    rw [moved] at current ⊢
    cases current
    rfl

theorem passed {after : Cursor} {log : Log} (tracked : Tracked document watched)
    (same : after.current = watched.cursor.current)
    (consumed : after.consumed = watched.cursor.consumed) (none : after.unread = 0)
    (position : after.position =
      min (watched.cursor.position + watched.cursor.unread) document.length)
    (payload : log.payload = watched.log.payload) (read : log.read = watched.log.read)
    (why : log.skipped = true ∨ document.length < watched.cursor.position + watched.cursor.unread)
    (standing : Cursor.Standing document after) : Tracked document ⟨after, log⟩ := by
  refine ⟨standing, ?_, ?_, ?_⟩
  · intro current
    dsimp only at current ⊢
    rw [payload]
    exact tracked.begun (same ▸ current)
  · intro current
    dsimp only at current ⊢
    rw [read, consumed]
    exact tracked.known (same ▸ current)
  · intro header current fresh
    dsimp only at current fresh
    have inside := tracked.standing.inside
    refine .behind none ?_ ?_
    · rw [position, payload]
      cases tracked.unread header (same ▸ current) (read ▸ fresh) with
      | ahead whole start unskipped => rw [whole, start]
      | behind none start why =>
        rw [none, start]
        omega
    · rcases why with asked | short
      · exact .inl asked
      · rw [payload]
        cases tracked.unread header (same ▸ current) (read ▸ fresh) with
        | ahead whole start unskipped =>
          rw [whole, start] at short
          exact .inr short
        | behind none start why =>
          rw [none, Nat.add_zero] at short
          omega

theorem noted {log : Log} (tracked : Tracked document watched)
    (payload : log.payload = watched.log.payload) (skipped : log.skipped = watched.log.skipped)
    (read : log.read = watched.log.read) : Tracked document ⟨watched.cursor, log⟩ where
  standing := tracked.standing
  begun := payload ▸ tracked.begun
  known := read ▸ tracked.known
  unread := by
    intro header current fresh
    cases tracked.unread header current (read ▸ fresh) with
    | ahead whole position unskipped =>
      exact .ahead whole (payload ▸ position) (skipped ▸ unskipped)
    | behind none position why =>
      exact .behind none (payload ▸ position) (skipped ▸ payload ▸ why)

theorem took {bytes : Bytes} {taken : Nat} {after : Cursor} {log : Log}
    (tracked : Tracked document watched) (taken : after = watched.cursor.took header bytes taken)
    (payload : log.payload = watched.log.payload) (read : log.read = true)
    (standing : Cursor.Standing document after) : Tracked document ⟨after, log⟩ where
  standing := standing
  begun := by
    intro current
    rw [taken] at current
    dsimp only
    rw [payload]
    exact tracked.begun current
  known := by
    intro _
    dsimp only
    rw [taken, read]
    rfl
  unread := by
    intro header _ fresh
    rw [read] at fresh
    cases fresh

end Tracked

theorem start_tracked (document : Bytes) (limits : Limits) :
    Tracked document (start document limits) :=
  .nowhere (Cursor.start_standing document limits) rfl

theorem step_tracked (tracked : Tracked document watched) (operation : Operation) :
    Tracked document (watched.step operation) := by
  have stepped := Cursor.outcome_stepped operation tracked.standing.held
  have standing := stepped.standing tracked.standing
  have inside := tracked.standing.inside
  unfold step
  generalize operation.outcome watched.cursor = outcome at *
  obtain ⟨answer, after⟩ := outcome
  dsimp only at stepped standing ⊢
  cases stepped with
  | moved enough moved =>
    cases moved with
    | ended last => exact .nowhere standing rfl
    | header admits ahead room => exact .onto watched.log rfl standing
  | skipped enough =>
    rw [List.length_drop] at enough
    refine tracked.passed rfl rfl rfl ?_ rfl rfl (.inl rfl) standing
    change watched.cursor.position + watched.cursor.unread = _
    omega
  | entered current fresh => exact .nowhere standing rfl
  | left inside enough => exact .nowhere standing rfl
  | @took _ type _ _ reads plain current fresh short =>
    have takes := Operation.takesPayload_iff.mpr ⟨type, reads, plain⟩
    rw [Log.note_of_reads _ reads, takes, Bool.or_true]
    exact tracked.took rfl rfl rfl standing
  | seen => exact tracked.noted rfl rfl (Bool.or_false _)
  | notEntered => exact tracked.noted rfl rfl (Bool.or_false _)
  | @notRead _ type _ reads refused =>
    rw [Log.note_of_reads _ reads]
    rcases refused with nests | nowhere | consumed
    · have takesNone : operation.takesPayload = false := by
        rw [Operation.takesPayload, reads, nests]
        rfl
      rw [takesNone]
      exact tracked.noted rfl rfl (Bool.or_false _)
    · exact .nowhere standing nowhere
    · cases current : watched.cursor.current with
      | none => exact .nowhere standing current
      | some header =>
        have known := tracked.known (by rw [current]; rfl)
        rw [consumed] at known
        refine tracked.noted rfl rfl ?_
        rw [← known, Bool.true_or]
  | outside outside enough => exact .nowhere standing rfl
  | stranded fatal noRead noEntry short =>
    rw [List.length_drop] at short
    obtain ⟨payload, read⟩ := watched.log.note_error noRead _ watched.cursor _
    refine tracked.passed rfl rfl rfl ?_ payload read (.inr (by omega)) standing
    change watched.cursor.position + (document.drop watched.cursor.position).length = _
    rw [List.length_drop]
    omega
  | lost fatal moves enough onward => exact .nowhere standing onward.current

theorem run_tracked (tracked : Tracked document watched) (operations : List Operation) :
    Tracked document (watched.run operations) := by
  induction operations generalizing watched with
  | nil => exact tracked
  | cons operation rest ih => exact ih (step_tracked tracked operation)

-- Whatever is read of an element is its own payload, and that only once: after the payload
-- has been skipped or read every step that would read it is refused and takes nothing.
structure ReadsOnce (document : Bytes) (watched : Watched) (header : Header) : Prop where
  own : ∀ payload after, Cursor.readBinary watched.cursor = .ok payload after →
    payload.length = header.size ∧
      payload = (document.drop watched.log.payload).take header.size
  once : watched.log.skipped = true ∨ watched.log.read = true →
    ∀ operation : Operation, operation.takesPayload = true →
      operation.outcome watched.cursor = (.error (.payloadConsumed header.id), watched.cursor)

-- Where reading would start: skipping the payload moves the place by as much.
def offset (watched : Watched) (header : Header) : Nat :=
  watched.log.payload + if watched.log.skipped then header.size else 0

theorem position_eq_offset (tracked : Tracked document watched)
    (current : watched.cursor.current = some header) (fresh : watched.log.read = false)
    (room : watched.cursor.position + header.size ≤ document.length ∨
      watched.offset header + header.size ≤ document.length) :
    watched.cursor.position = watched.offset header := by
  have begun := tracked.begun (by rw [current]; rfl)
  unfold offset at room ⊢
  cases tracked.unread header current fresh with
  | ahead whole position unskipped =>
    rw [unskipped, if_neg Bool.false_ne_true, Nat.add_zero, position]
  | behind none position why =>
    cases skipped : watched.log.skipped with
    | true =>
      rw [skipped, if_pos rfl] at room
      rw [if_pos rfl]
      omega
    | false =>
      rw [skipped, if_neg Bool.false_ne_true] at room
      rw [skipped] at why
      rcases why with asked | short
      · cases asked
      · omega

theorem readBinary_eq_ok_iff (tracked : Tracked document watched)
    (current : watched.cursor.current = some header) (payload : Bytes) :
    (∃ after, Cursor.readBinary watched.cursor = .ok payload after) ↔
      watched.log.read = false ∧ watched.offset header + header.size ≤ document.length ∧
        payload = (document.drop (watched.offset header)).take header.size := by
  have known := tracked.known (by rw [current]; rfl)
  have inside := tracked.standing.inside
  constructor
  · rintro ⟨after, read⟩
    have read := Cursor.readBinary_eq_ok_iff.mp read
    have fresh : watched.cursor.consumed = false := by
      by_contra consumed
      rw [Cursor.readValue_consumed (by decide) current (by simpa using consumed)] at read
      cases read
    obtain ⟨enough, spells, _⟩ :=
      (Cursor.readValue_eq_ok_iff tracked.standing.held current fresh).mp read
    rw [List.length_drop] at enough
    rw [fresh] at known
    have position := position_eq_offset tracked current known.symm (.inl (by omega))
    rw [← position]
    cases spells
    exact ⟨known.symm, by omega, rfl⟩
  · rintro ⟨fresh, room, rfl⟩
    have position := position_eq_offset tracked current fresh (.inr room)
    rw [fresh] at known
    refine ⟨_, Cursor.readBinary_eq_ok_iff.mpr
      ((Cursor.readValue_eq_ok_iff tracked.standing.held current known).mpr ⟨?_, ?_, rfl⟩)⟩
    · rw [List.length_drop]
      omega
    · rw [position]
      exact .binary

theorem readsOnce_iff (tracked : Tracked document watched)
    (current : watched.cursor.current = some header) :
    ReadsOnce document watched header ↔
      ¬(watched.log.skipped = true ∧ watched.log.read = false) := by
  have known := tracked.known (by rw [current]; rfl)
  constructor
  · rintro readsOnce ⟨skipped, fresh⟩
    have refused := congrArg Prod.fst (readsOnce.once (.inl skipped) .readBinary rfl)
    have reads : Operation.readBinary.reads = some .binary := rfl
    have performs := Operation.perform_of_reads reads
    have plain : ElementType.binary ≠ .container := by decide
    rw [fresh] at known
    rcases Nat.lt_or_ge (document.drop watched.cursor.position).length header.size with short | enough
    · have read := Cursor.readValue_short plain tracked.standing.held current known short
      rw [Cursor.outcome_of_error performs read] at refused
      cases refused
    · have read := Cursor.readValue_enough plain tracked.standing.held current known enough
      simp only [Payload.value?, Payload.whole_binary, Option.map_some] at read
      rw [Cursor.outcome_of_ok performs read] at refused
      cases refused
  · intro notOnlySkipped
    refine ⟨?_, ?_⟩
    · intro payload after read
      obtain ⟨fresh, room, rfl⟩ := (readBinary_eq_ok_iff tracked current payload).mp ⟨after, read⟩
      have unskipped : watched.log.skipped = false := by
        by_contra skipped
        exact notOnlySkipped ⟨by simpa using skipped, fresh⟩
      have start : watched.offset header = watched.log.payload := by
        rw [offset, unskipped, if_neg Bool.false_ne_true, Nat.add_zero]
      rw [start] at room ⊢
      refine ⟨List.length_take_of_le ?_, rfl⟩
      rw [List.length_drop]
      omega
    · intro touched operation takes
      obtain ⟨type, reads, plain⟩ := Operation.takesPayload_iff.mp takes
      have read : watched.log.read = true := by
        rcases touched with skipped | read
        · by_contra fresh
          exact notOnlySkipped ⟨skipped, by simpa using fresh⟩
        · exact read
      rw [read] at known
      exact Cursor.outcome_of_error (Operation.perform_of_reads reads)
        (Cursor.readValue_consumed plain current known)

-- In every run the payload under the cursor is read once and as its own, unless it has been
-- skipped and nothing has been read since: then reading goes on after it.
theorem payload_final_unless_only_skipped (document : Bytes) (limits : Limits)
    (operations : List Operation) (header : Header)
    (current : ((start document limits).run operations).cursor.current = some header) :
    let watched := (start document limits).run operations
    (ReadsOnce document watched header ↔
      ¬(watched.log.skipped = true ∧ watched.log.read = false)) ∧
    ∀ payload, (∃ after, Cursor.readBinary watched.cursor = .ok payload after) ↔
      watched.log.read = false ∧ watched.offset header + header.size ≤ document.length ∧
        payload = (document.drop (watched.offset header)).take header.size := by
  have tracked := run_tracked (start_tracked document limits) operations
  exact ⟨readsOnce_iff tracked current, readBinary_eq_ok_iff tracked current⟩

theorem payload_final_before_skipping :
    let watched := (start [0x81, 0x85, 0x82, 0x82, 0xAA, 0xBB, 0xCC] default).run
      [.advance, .enter, .advance, .readBinary]
    watched.cursor.current = some ⟨2, 2, 1, 1, 1⟩ ∧
      watched.log.read = true ∧
      ReadsOnce [0x81, 0x85, 0x82, 0x82, 0xAA, 0xBB, 0xCC] watched ⟨2, 2, 1, 1, 1⟩ ∧
      Operation.readUInt.outcome watched.cursor = (.error (.payloadConsumed 2), watched.cursor) := by
  have current : ((start [0x81, 0x85, 0x82, 0x82, 0xAA, 0xBB, 0xCC] default).run
      [.advance, .enter, .advance, .readBinary]).cursor.current = some ⟨2, 2, 1, 1, 1⟩ := by
    decide
  have final := (payload_final_unless_only_skipped [0x81, 0x85, 0x82, 0x82, 0xAA, 0xBB, 0xCC]
    default [.advance, .enter, .advance, .readBinary] ⟨2, 2, 1, 1, 1⟩ current).1.mpr (by decide)
  exact ⟨current, by decide, final, final.once (.inr (by decide)) .readUInt rfl⟩

-- A skipped payload of one byte, and the byte after it read in its place.
theorem skipped_payload_not_final :
    let watched := (start [0x81, 0x81, 0xAA, 0xBB] default).run [.advance, .skip]
    watched.cursor.current = some ⟨1, 1, 1, 1, 0⟩ ∧
      (∃ after, Cursor.readBinary watched.cursor = .ok [0xBB] after) ∧
      ¬ReadsOnce [0x81, 0x81, 0xAA, 0xBB] watched ⟨1, 1, 1, 1, 0⟩ := by
  have tracked := run_tracked (start_tracked [0x81, 0x81, 0xAA, 0xBB] default) [.advance, .skip]
  have current : ((start [0x81, 0x81, 0xAA, 0xBB] default).run [.advance, .skip]).cursor.current =
      some ⟨1, 1, 1, 1, 0⟩ := by decide
  refine ⟨current, (readBinary_eq_ok_iff tracked current _).mpr (by decide), ?_⟩
  rw [readsOnce_iff tracked current]
  decide

end Watched

end Ebml
