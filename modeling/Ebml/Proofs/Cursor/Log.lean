import Ebml.Proofs.Cursor.Outcome

namespace Ebml

-- A run of steps as an onlooker sees it, who notes where payloads start and how large they
-- were declared to be.
structure Extent where
  start : Nat
  size : Nat
deriving DecidableEq, Repr

structure Log where
  -- Where the payload of the last header starts, right after the header itself.
  payload : Nat
  -- What has been done since then: skipping that was asked for, and reading.
  skipped : Bool
  read : Bool
  enclosing : List Extent
deriving Repr

structure Watched where
  cursor : Cursor
  log : Log

namespace Operation

def takesPayload (operation : Operation) : Bool :=
  match operation.reads with
  | some type => type != .container
  | none => false

theorem takesPayload_iff {operation : Operation} :
    operation.takesPayload = true ↔
      ∃ type, operation.reads = some type ∧ type ≠ .container := by
  unfold takesPayload
  cases operation.reads with
  | none => simp
  | some type => simp

end Operation

namespace Log

def note (log : Log) (operation : Operation) (answer : Except ReadError Answer)
    (before after : Cursor) : Log :=
  match operation, answer with
  | .advance, .ok (.header (some _)) =>
    { log with payload := after.position, skipped := false, read := false }
  | .skip, _ => { log with skipped := true }
  | .enter, .ok _ =>
    { log with enclosing := ⟨log.payload, before.current.elim 0 (·.size)⟩ :: log.enclosing }
  | .leave, .ok _ => { log with enclosing := log.enclosing.tail }
  | _, _ => { log with read := log.read || operation.takesPayload }

theorem note_of_reads {operation : Operation} {type : ElementType} (log : Log)
    (reads : operation.reads = some type) (answer : Except ReadError Answer)
    (before after : Cursor) :
    log.note operation answer before after =
      { log with read := log.read || operation.takesPayload } := by
  cases operation <;> first | rfl | cases reads

end Log

namespace Watched

def start (document : Bytes) (limits : Limits) : Watched where
  cursor := .ofSource (.ofBytes document) limits
  log := ⟨0, false, false, []⟩

def step (watched : Watched) (operation : Operation) : Watched :=
  let (answer, after) := operation.outcome watched.cursor
  ⟨after, watched.log.note operation answer watched.cursor after⟩

def run (watched : Watched) (operations : List Operation) : Watched :=
  operations.foldl step watched

theorem run_cursor (operations : List Operation) (watched : Watched) :
    (watched.run operations).cursor = (Cursor.run operations watched.cursor).2 := by
  induction operations generalizing watched with
  | nil => rfl
  | cons operation rest ih => exact ih (watched.step operation)

end Watched

namespace Cursor

variable {cursor after : Cursor} {bytes document : Bytes} {taken : Nat} {operation : Operation}
  {answer : Except ReadError Answer}

-- A cursor over a document has taken a part of it, and its source holds the rest.
structure Standing (document : Bytes) (cursor : Cursor) : Prop where
  held : cursor.source = .holding (document.drop cursor.position) cursor.position
  inside : cursor.position ≤ document.length

theorem Stepped.further (stepped : Stepped cursor bytes taken operation answer after)
    (held : cursor.source = .holding bytes taken) :
    ∃ count ≤ bytes.length, after.source = .holding (bytes.drop count) (taken + count) := by
  cases stepped with
  | moved enough moved =>
    cases moved with
    | ended last => exact ⟨cursor.unread, enough, rfl⟩
    | @header id size rest scopes admits ahead room =>
      have length := congrArg List.length ahead
      have left := congrArg (List.drop (id.encode.length + size.encode.length)) ahead
      rw [List.length_drop, List.length_append, List.length_append] at length
      rw [List.drop_drop, ← List.append_assoc, List.drop_left' List.length_append] at left
      refine ⟨cursor.unread + (id.encode.length + size.encode.length), by omega, ?_⟩
      rw [left, Vint.encode_length, Vint.encode_length, ← Nat.add_assoc, ← Nat.add_assoc]
      rfl
  | skipped enough => exact ⟨cursor.unread, enough, rfl⟩
  | entered current fresh => exact ⟨0, Nat.zero_le _, held⟩
  | left inside enough => exact ⟨_, enough, rfl⟩
  | @took _ _ header _ reads plain current fresh short =>
    refine ⟨min header.size bytes.length, Nat.min_le_right _ _, ?_⟩
    rw [← List.drop_eq_drop_min, ← List.length_take]
    rfl
  | seen => exact ⟨0, Nat.zero_le _, held⟩
  | notEntered => exact ⟨0, Nat.zero_le _, held⟩
  | notRead reads refused => exact ⟨0, Nat.zero_le _, held⟩
  | outside outside enough => exact ⟨cursor.unread, enough, rfl⟩
  | stranded fatal noRead noEntry short =>
    refine ⟨bytes.length, Nat.le_refl _, ?_⟩
    rw [List.drop_length]
    rfl
  | lost fatal moves enough onward =>
    obtain ⟨count, within, source⟩ := onward.further
    rw [List.length_drop] at within
    refine ⟨cursor.unread + count, by omega, ?_⟩
    rw [source, List.drop_drop, Nat.add_assoc]

theorem Stepped.standing
    (stepped : Stepped cursor (document.drop cursor.position) cursor.position operation answer after)
    (standing : Standing document cursor) : Standing document after := by
  obtain ⟨count, within, source⟩ := stepped.further standing.held
  have inside := standing.inside
  have position : after.position = cursor.position + count := congrArg Source.taken source
  rw [List.length_drop] at within
  refine ⟨?_, by omega⟩
  rw [source, List.drop_drop, position]

theorem start_standing (document : Bytes) (limits : Limits) :
    Standing document (Watched.start document limits).cursor := by
  have held : (Watched.start document limits).cursor.source = .holding document 0 :=
    Source.ofBytes_eq document
  have position : (Watched.start document limits).cursor.position = 0 := congrArg Source.taken held
  exact ⟨by rw [position]; exact held, by rw [position]; exact Nat.zero_le _⟩

end Cursor

end Ebml
