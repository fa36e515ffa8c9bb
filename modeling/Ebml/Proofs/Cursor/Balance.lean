import Ebml.Proofs.Cursor.Log

namespace Ebml.Watched

-- The bytes of a document are accounted for once: as taken, as unread of the current
-- element, or as left of one of the open containers.
variable {document : Bytes} {watched : Watched} {operation : Operation} {edge : Nat}
  {scopes : List Nat} {enclosing : List Extent}

-- From the end of the current element on, each container ends where what is left of it
-- and of those inside it is used up.
def Covers (edge : Nat) : List Nat → List Extent → Prop
  | [], [] => True
  | left :: outer, extent :: others =>
    extent.start + extent.size = edge + left ∧ Covers (edge + left) outer others
  | _, _ => False

structure Balanced (document : Bytes) (watched : Watched) : Prop where
  standing : Cursor.Standing document watched.cursor
  covers : Covers (watched.cursor.position + watched.cursor.unread) watched.cursor.scopes
    watched.log.enclosing
  started : ∀ extent ∈ watched.log.enclosing, extent.start ≤ watched.cursor.position
  ends : ∀ header, watched.cursor.current = some header →
    watched.cursor.position + watched.cursor.unread = watched.log.payload + header.size
  begun : watched.cursor.current.isSome = true → watched.log.payload ≤ watched.cursor.position
  -- Only skipping and reading touch the payload of the current element.
  untouched : ∀ header, watched.cursor.current = some header → watched.cursor.consumed = false →
    watched.log.skipped = false → watched.cursor.unread = header.size

def failsForGood (answer : Except ReadError Answer) : Bool :=
  match answer with
  | .ok _ => false
  | .error error => error.fatal

-- Steps that do not fail for good, nor read what has been skipped.
def permits (watched : Watched) (operation : Operation) : Bool :=
  !failsForGood (operation.outcome watched.cursor).1 &&
    !(operation.takesPayload && watched.cursor.current.isSome && watched.log.skipped)

def orderly (watched : Watched) : List Operation → Bool
  | [] => true
  | operation :: rest => watched.permits operation && (watched.step operation).orderly rest

namespace Covers

theorem widen {count : Nat} (covers : Covers edge (Cursor.widen count scopes) enclosing) :
    Covers (edge + count) scopes enclosing := by
  cases scopes with
  | nil => cases enclosing with
    | nil => trivial
    | cons extent others => exact covers
  | cons left outer => cases enclosing with
    | nil => exact covers
    | cons extent others =>
      simp only [Cursor.widen, Covers] at covers ⊢
      have sum : edge + (left + count) = edge + count + left := by omega
      rw [sum] at covers
      exact covers

theorem length (covers : Covers edge scopes enclosing) : enclosing.length = scopes.length := by
  induction scopes generalizing edge enclosing with
  | nil => cases enclosing with
    | nil => rfl
    | cons extent others => cases covers
  | cons left outer ih => cases enclosing with
    | nil => cases covers
    | cons extent others => rw [List.length_cons, List.length_cons, ih covers.2]

theorem ends (covers : Covers edge scopes enclosing) {level : Nat} {extent : Extent}
    (stands : enclosing[level]? = some extent) :
    extent.start + extent.size = edge + (scopes.take (level + 1)).sum := by
  induction scopes generalizing edge enclosing level with
  | nil => cases enclosing with
    | nil => cases stands
    | cons innermost others => cases covers
  | cons left outer ih => cases enclosing with
    | nil => cases covers
    | cons innermost others =>
      rw [List.take_succ_cons, List.sum_cons]
      cases level with
      | zero =>
        cases stands
        rw [covers.1, List.take_zero, List.sum_nil, Nat.add_zero]
      | succ level =>
        rw [ih covers.2 stands, Nat.add_assoc]

theorem edge_le (covers : Covers edge scopes enclosing) {extent : Extent}
    (stands : extent ∈ enclosing) : edge ≤ extent.start + extent.size := by
  obtain ⟨level, found⟩ := List.mem_iff_getElem?.mp stands
  rw [covers.ends found]
  exact Nat.le_add_right _ _

theorem tail {left : Nat} (covers : Covers edge (left :: scopes) enclosing) :
    Covers (edge + left) scopes enclosing.tail := by
  cases enclosing with
  | nil => cases covers
  | cons extent others => exact covers.2

end Covers

namespace Balanced

theorem between {cursor : Cursor} {log : Log} (standing : Cursor.Standing document cursor)
    (nowhere : cursor.current = none)
    (covers : Covers (cursor.position + cursor.unread) cursor.scopes log.enclosing)
    (started : ∀ extent ∈ log.enclosing, extent.start ≤ cursor.position) :
    Balanced document ⟨cursor, log⟩ where
  standing := standing
  covers := covers
  started := started
  ends := by
    intro header current
    rw [nowhere] at current
    cases current
  begun := by
    intro current
    rw [nowhere] at current
    cases current
  untouched := by
    intro header current
    rw [nowhere] at current
    cases current

theorem noted {log : Log} (balanced : Balanced document watched)
    (skipped : log.skipped = watched.log.skipped) (payload : log.payload = watched.log.payload)
    (enclosing : log.enclosing = watched.log.enclosing) :
    Balanced document ⟨watched.cursor, log⟩ where
  standing := balanced.standing
  covers := enclosing ▸ balanced.covers
  started := enclosing ▸ balanced.started
  ends := payload ▸ balanced.ends
  begun := payload ▸ balanced.begun
  untouched := skipped ▸ balanced.untouched

theorem later (balanced : Balanced document watched) (count : Nat) :
    ∀ extent ∈ watched.log.enclosing, extent.start ≤ watched.cursor.position + count := by
  intro extent stands
  exact Nat.le_trans (balanced.started extent stands) (Nat.le_add_right _ _)

theorem onto {id size : Vint} {rest : Bytes} (balanced : Balanced document watched)
    (room : watched.cursor.scopes = Cursor.widen (id.length + size.length + size.value) scopes)
    {after : Cursor} (moved : after = watched.cursor.onto id size scopes rest watched.cursor.position)
    (standing : Cursor.Standing document after) :
    Balanced document ⟨after, { watched.log with
      payload := after.position, skipped := false, read := false }⟩ := by
  have covers := balanced.covers
  have position : after.position =
      watched.cursor.position + watched.cursor.unread + id.length + size.length := by
    rw [moved]
    rfl
  have edge : after.position + after.unread = watched.cursor.position + watched.cursor.unread +
      (id.length + size.length + size.value) := by
    rw [position, moved]
    simp only [Cursor.onto]
    omega
  refine ⟨standing, ?_, ?_, ?_, fun _ => Nat.le_refl _, ?_⟩
  · rw [room] at covers
    rw [edge, moved]
    exact covers.widen
  · intro extent stands
    have before := balanced.started extent stands
    dsimp only
    omega
  · intro header current
    rw [moved] at current ⊢
    cases current
    rfl
  · intro header current _ _
    rw [moved] at current ⊢
    cases current
    rfl

theorem entered {header : Header} (balanced : Balanced document watched)
    (current : watched.cursor.current = some header) {after : Cursor}
    (entered : after = { watched.cursor with
      scopes := watched.cursor.unread :: watched.cursor.scopes
      unread := 0
      current := none })
    (standing : Cursor.Standing document after) :
    Balanced document ⟨after, { watched.log with
      enclosing := ⟨watched.log.payload, header.size⟩ :: watched.log.enclosing }⟩ := by
  subst entered
  refine .between standing rfl ⟨(balanced.ends header current).symm, balanced.covers⟩ ?_
  intro extent stands
  rcases List.mem_cons.mp stands with rfl | outside
  · exact balanced.begun (by rw [current]; rfl)
  · exact balanced.started extent outside

theorem left {count : Nat} {outer : List Nat} (balanced : Balanced document watched)
    (inside : watched.cursor.scopes = count :: outer) {after : Cursor} (nowhere : after.current = none)
    (position : after.position = watched.cursor.position + watched.cursor.unread + count)
    (emptied : after.unread = 0) (opened : after.scopes = outer)
    (standing : Cursor.Standing document after) :
    Balanced document ⟨after, { watched.log with enclosing := watched.log.enclosing.tail }⟩ := by
  have covers := balanced.covers
  rw [inside] at covers
  refine .between standing nowhere ?_ ?_
  · rw [position, emptied, opened]
    exact covers.tail
  · intro extent stands
    have before := balanced.started extent (List.mem_of_mem_tail stands)
    rw [position]
    omega

theorem took {header : Header} (balanced : Balanced document watched)
    (current : watched.cursor.current = some header) (fresh : watched.cursor.consumed = false)
    (unskipped : watched.log.skipped = false) {bytes : Bytes} (enough : header.size ≤ bytes.length)
    {after : Cursor} (taken : after = watched.cursor.took header bytes watched.cursor.position)
    (standing : Cursor.Standing document after) : Balanced document ⟨after, watched.log⟩ := by
  have untouched := balanced.untouched header current fresh unskipped
  have position : after.position = watched.cursor.position + header.size := by
    have length := List.length_take_of_le enough
    rw [taken]
    change watched.cursor.position + (bytes.take header.size).length = _
    rw [length]
  have edge : after.position + after.unread = watched.cursor.position + watched.cursor.unread := by
    rw [position, untouched, taken]
    rfl
  have same : after.current = watched.cursor.current := by
    rw [taken]
    rfl
  refine ⟨standing, ?_, ?_, ?_, ?_, ?_⟩
  · rw [edge, taken]
    exact balanced.covers
  · intro extent stands
    dsimp only
    rw [position]
    exact balanced.later _ extent stands
  · intro header current
    dsimp only at current ⊢
    rw [edge]
    exact balanced.ends header (same ▸ current)
  · intro current
    have begun := balanced.begun (same ▸ current)
    dsimp only
    omega
  · intro header _ fresh
    rw [taken] at fresh
    cases fresh

end Balanced

theorem start_balanced (document : Bytes) (limits : Limits) :
    Balanced document (start document limits) := by
  refine .between (Cursor.start_standing document limits) rfl trivial ?_
  intro extent stands
  cases stands

theorem step_balanced (balanced : Balanced document watched)
    (permitted : watched.permits operation = true) :
    Balanced document (watched.step operation) := by
  have stepped := Cursor.outcome_stepped operation balanced.standing.held
  have standing := stepped.standing balanced.standing
  obtain ⟨noFailure, noReading⟩ := Bool.and_eq_true_iff.mp permitted
  unfold step
  generalize operation.outcome watched.cursor = outcome at *
  obtain ⟨answer, after⟩ := outcome
  dsimp only at stepped standing noFailure ⊢
  cases stepped with
  | moved enough moved =>
    cases moved with
    | ended last => exact .between standing rfl balanced.covers (balanced.later _)
    | header admits ahead room => exact balanced.onto room rfl standing
  | skipped enough =>
    refine ⟨standing, balanced.covers, balanced.later _, balanced.ends, ?_, ?_⟩
    · intro current
      exact Nat.le_trans (balanced.begun current) (Nat.le_add_right _ _)
    · intro header current fresh unskipped
      cases unskipped
  | @entered header current fresh =>
    have balanced := balanced.entered current rfl standing
    simp only [Log.note, current, Option.elim_some]
    exact balanced
  | left inside enough =>
    exact balanced.left inside rfl (Nat.add_assoc _ _ _).symm rfl rfl standing
  | @took _ type header _ reads plain current fresh short =>
    have takes : operation.takesPayload = true := Operation.takesPayload_iff.mpr ⟨type, reads, plain⟩
    have unskipped : watched.log.skipped = false := by
      rw [takes, current] at noReading
      simpa using noReading
    have enough : header.size ≤ (document.drop watched.cursor.position).length := by
      by_contra less
      obtain ⟨error, rfl, fatal⟩ := short (Nat.lt_of_not_ge less)
      rw [failsForGood, fatal] at noFailure
      cases noFailure
    rw [Log.note_of_reads _ reads]
    exact (balanced.took current fresh unskipped enough rfl standing).noted rfl rfl rfl
  | seen => exact balanced.noted rfl rfl rfl
  | notEntered => exact balanced.noted rfl rfl rfl
  | notRead reads refused =>
    rw [Log.note_of_reads _ reads]
    exact balanced.noted rfl rfl rfl
  | outside outside enough => exact .between standing rfl balanced.covers (balanced.later _)
  | stranded fatal noRead noEntry short =>
    rw [failsForGood, fatal] at noFailure
    cases noFailure
  | lost fatal moves enough onward =>
    rw [failsForGood, fatal] at noFailure
    cases noFailure

theorem run_balanced {operations : List Operation} (balanced : Balanced document watched)
    (kept : watched.orderly operations = true) : Balanced document (watched.run operations) := by
  induction operations generalizing watched with
  | nil => exact balanced
  | cons operation rest ih =>
    obtain ⟨permitted, kept⟩ := Bool.and_eq_true_iff.mp kept
    exact ih (step_balanced balanced permitted) kept

-- In an orderly run every open container ends where the entries up to its own are used up.
-- So whatever header is found next lies within all open containers with its payload, and
-- leaving a container leads right to its end.
theorem extents_accounted (document : Bytes) (limits : Limits) (operations : List Operation)
    (kept : (start document limits).orderly operations = true) :
    let watched := (start document limits).run operations
    watched.log.enclosing.length = watched.cursor.depth ∧
    (∀ level extent, watched.log.enclosing[level]? = some extent →
      extent.start + extent.size = watched.cursor.position + watched.cursor.unread +
        (watched.cursor.scopes.take (level + 1)).sum) ∧
    (∀ header after, watched.cursor.advance = .ok (some header) after →
      ∀ extent ∈ watched.log.enclosing,
        extent.start + (header.idLength + header.sizeLength) ≤ after.position ∧
          after.position + header.size ≤ extent.start + extent.size) ∧
    (∀ after, watched.cursor.leave = .ok () after →
      ∃ extent outer, watched.log.enclosing = extent :: outer ∧
        after.position = extent.start + extent.size) := by
  have balanced := run_balanced (start_balanced document limits) kept
  generalize (start document limits).run operations = watched at balanced
  have held := balanced.standing.held
  refine ⟨balanced.covers.length, fun level extent => balanced.covers.ends, ?_, ?_⟩
  · intro header after advanced extent stands
    obtain ⟨_, moved⟩ := Cursor.advance_ok held advanced
    cases moved with
    | @header id size rest scopes admits ahead room =>
      have before := balanced.started extent stands
      have covers := balanced.covers
      rw [room] at covers
      have within := covers.widen.edge_le stands
      simp only [Header.ofVints]
      have position : (watched.cursor.onto id size scopes rest watched.cursor.position).position =
        watched.cursor.position + watched.cursor.unread + id.length + size.length := rfl
      omega
  · intro after left
    obtain ⟨count, outer, inside, _, rfl⟩ := Cursor.leave_ok held left
    have covers := balanced.covers
    rw [inside] at covers
    generalize watched.log.enclosing = enclosing at covers
    cases enclosing with
    | nil => cases covers
    | cons extent others =>
      refine ⟨extent, others, rfl, ?_⟩
      rw [covers.1, Nat.add_assoc]
      rfl

theorem nested_extent_accounted :
    let document : Bytes := [0x81, 0x83, 0x82, 0x81, 0xAA]
    let operations : List Operation := [.advance, .enter, .advance, .readUInt]
    let watched := (start document default).run operations
    (start document default).orderly operations = true ∧
      watched.log.enclosing[0]? = some ⟨2, 3⟩ ∧
      2 + 3 = watched.cursor.position + watched.cursor.unread +
        (watched.cursor.scopes.take 1).sum :=
  ⟨by decide, by decide, (extents_accounted _ _ _ (by decide)).2.1 0 ⟨2, 3⟩ (by decide)⟩

end Ebml.Watched
