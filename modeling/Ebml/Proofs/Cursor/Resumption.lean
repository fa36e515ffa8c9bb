import Ebml.Proofs.Cursor.Balance

namespace Ebml

-- Failures of moving on that find fault with a header, not with where the source ends.
def ReadError.refusesHeader : ReadError → Bool
  | .vint .invalidLength => true
  | .idTooLong _ _ => true
  | .sizeTooLong _ _ => true
  | .unknownSize _ => true
  | .overflowsParent _ _ _ => true
  | _ => false

namespace Cursor

variable {cursor after : Cursor} {limits : Limits} {scopes : List Nat} {bytes rest : Bytes}
  {taken count : Nat} {id size : Vint} {error : ReadError}

-- What is wrong with a header from the end of its identifier on, and how many of the bytes
-- there have been taken when that is found.
inductive RefusesSize (limits : Limits) (scopes : List Nat) (id : Vint) :
    Bytes → ReadError → Nat → Prop
  | idTooLong {bytes : Bytes} (long : limits.maxIdLength < id.length) :
      RefusesSize limits scopes id bytes (.idTooLong id.length limits.maxIdLength) 0
  | unmarked {rest : Bytes} (idShort : id.length ≤ limits.maxIdLength) :
      RefusesSize limits scopes id (0 :: rest) (.vint .invalidLength) 1
  | tooLong {size : Vint} {rest : Bytes} (idShort : id.length ≤ limits.maxIdLength)
      (valid : size.Valid) (long : limits.maxSizeLength < size.length) :
      RefusesSize limits scopes id (size.encode ++ rest)
        (.sizeTooLong size.length limits.maxSizeLength) size.length
  | unknown {size : Vint} {rest : Bytes} (idShort : id.length ≤ limits.maxIdLength)
      (valid : size.Valid) (sizeShort : size.length ≤ limits.maxSizeLength)
      (unknown : size.value + 1 = 2 ^ (7 * size.length)) :
      RefusesSize limits scopes id (size.encode ++ rest) (.unknownSize id.value) size.length
  | overflows {size : Vint} {rest : Bytes} {left : Nat} {outer : List Nat}
      (admits : limits.Admits id size) (inside : scopes = left :: outer)
      (exceeds : left < id.length + size.length + size.value) :
      RefusesSize limits scopes id (size.encode ++ rest)
        (.overflowsParent id.value size.value (left - (id.length + size.length))) size.length

inductive Refuses (limits : Limits) (scopes : List Nat) : Bytes → ReadError → Nat → Prop
  | unmarked {rest : Bytes} : Refuses limits scopes (0 :: rest) (.vint .invalidLength) 1
  | afterId {id : Vint} {rest : Bytes} {error : ReadError} {count : Nat} (valid : id.Valid)
      (refuses : RefusesSize limits scopes id rest error count) :
      Refuses limits scopes (id.encode ++ rest) error (id.length + count)

theorem RefusesSize.count_le (refuses : RefusesSize limits scopes id bytes error count) :
    count ≤ bytes.length := by
  cases refuses with
  | idTooLong long => exact Nat.zero_le _
  | unmarked idShort => exact Nat.succ_le_succ (Nat.zero_le _)
  | _ =>
    rw [List.length_append, Vint.encode_length]
    exact Nat.le_add_right _ _

theorem Refuses.count_bounds (refuses : Refuses limits scopes bytes error count) :
    0 < count ∧ count ≤ bytes.length := by
  cases refuses with
  | unmarked => exact ⟨Nat.one_pos, Nat.succ_le_succ (Nat.zero_le _)⟩
  | afterId valid refuses =>
    have positive := valid.positive
    have within := refuses.count_le
    rw [List.length_append, Vint.encode_length]
    omega

def onBy (cursor : Cursor) (bytes : Bytes) (taken count : Nat) : Cursor :=
  { cursor with source := .holding (bytes.drop count) (taken + count) }

theorem onBy_zero (held : cursor.source = .holding bytes taken) :
    cursor.onBy bytes taken 0 = cursor := by
  rw [onBy, List.drop_zero, Nat.add_zero, with_source_held held]

theorem onBy_encode (cursor : Cursor) (vint : Vint) (rest : Bytes) (taken : Nat) :
    cursor.onBy (vint.encode ++ rest) taken vint.length =
      { cursor with source := .holding rest (taken + vint.length) } := by
  have dropped : (vint.encode ++ rest).drop vint.length = rest := by
    rw [← Vint.encode_length, List.drop_left]
  rw [onBy, dropped]

theorem onBy_encode_onBy (cursor : Cursor) (vint : Vint) (rest : Bytes) (taken count : Nat) :
    ({ cursor with source := .holding rest (taken + vint.length) } : Cursor).onBy rest
        (taken + vint.length) count =
      cursor.onBy (vint.encode ++ rest) taken (vint.length + count) := by
  have dropped : (vint.encode ++ rest).drop (vint.length + count) = rest.drop count := by
    rw [← Vint.encode_length, List.drop_length_add_append]
  rw [onBy, onBy, dropped, Nat.add_assoc]

theorem readVint?_refused (held : cursor.source = .holding bytes taken)
    (failed : readVint? cursor = .error error after) (refuses : error.refusesHeader = true) :
    ∃ rest, bytes = 0 :: rest ∧ error = .vint .invalidLength ∧
      after = cursor.onBy bytes taken 1 := by
  by_cases more : bytes = []
  · subst more
    rw [readVint?_nil held] at failed
    cases failed
  · rw [readVint?_held held more] at failed
    split at failed
    · cases failed
    · rename_i reason decoded
      cases failed
      cases reason with
      | unexpectedEnd needed => cases refuses
      | invalidLength =>
        have zero := Vint.decode_invalidLength_iff.mp decoded
        obtain ⟨rest, rfl⟩ := List.head?_eq_some_iff.mp zero
        exact ⟨rest, rfl, rfl, rfl⟩

theorem charge_refused {name : ElementId} {headerLength size : Nat}
    (failed : charge name headerLength size cursor = .error error after) :
    ∃ left outer, cursor.scopes = left :: outer ∧ left < headerLength + size ∧
      error = .overflowsParent name size (left - headerLength) ∧ after = cursor := by
  unfold charge at failed
  split at failed
  · cases failed
  · rename_i left outer inside
    dsimp only at failed
    split at failed
    · rename_i exceeds
      cases failed
      exact ⟨left, outer, inside, by omega, rfl, rfl⟩
    · cases failed

theorem refuseIf_error {condition : Prop} [Decidable condition] {reason : ReadError}
    (failed : refuseIf condition reason cursor = .error error after) :
    condition ∧ error = reason ∧ after = cursor := by
  unfold refuseIf at failed
  split at failed
  · rename_i refused
    cases failed
    exact ⟨refused, rfl, rfl⟩
  · cases failed

theorem readHeader_refused (idValid : id.Valid) (held : cursor.source = .holding bytes taken)
    (failed : readHeader id cursor = .error error after) (refuses : error.refusesHeader = true) :
    ∃ count, RefusesSize cursor.limits cursor.scopes id bytes error count ∧
      after = cursor.onBy bytes taken count := by
  rcases bind_eq_error.mp failed with failed | ⟨_, _, got, failed⟩
  · cases failed
  cases got
  rcases bind_eq_error.mp failed with failed | ⟨_, _, passed, failed⟩
  · obtain ⟨long, rfl, rfl⟩ := refuseIf_error failed
    exact ⟨0, .idTooLong long, (onBy_zero held).symm⟩
  obtain ⟨short, same⟩ := refuseIf_ok passed
  subst same
  have idShort := Nat.not_lt.mp short
  rcases bind_eq_error.mp failed with failed | ⟨size?, _, read, failed⟩
  · obtain ⟨rest, rfl, rfl, rfl⟩ := readVint?_refused held failed refuses
    exact ⟨1, .unmarked idShort, rfl⟩
  cases size? with
  | none =>
    cases failed
    cases refuses
  | some size =>
    obtain ⟨valid, rest, rfl, between⟩ := readVint?_some held read
    rw [← onBy_encode] at between
    subst between
    refine ⟨size.length, ?_⟩
    rcases bind_eq_error.mp failed with failed | ⟨_, _, passed, failed⟩
    · obtain ⟨long, rfl, rfl⟩ := refuseIf_error failed
      exact ⟨.tooLong idShort valid long, rfl⟩
    obtain ⟨short, same⟩ := refuseIf_ok passed
    subst same
    have sizeShort := Nat.not_lt.mp short
    rcases bind_eq_error.mp failed with failed | ⟨_, _, passed, failed⟩
    · obtain ⟨unknown, rfl, rfl⟩ := refuseIf_error failed
      rw [Vint.isUnknownSize_iff] at unknown
      exact ⟨.unknown idShort valid sizeShort unknown, rfl⟩
    obtain ⟨known, same⟩ := refuseIf_ok passed
    subst same
    rw [Vint.isUnknownSize_iff] at known
    rcases bind_eq_error.mp failed with failed | ⟨_, _, _, failed⟩
    · obtain ⟨left, outer, inside, exceeds, rfl, rfl⟩ := charge_refused failed
      exact ⟨.overflows ⟨idValid, valid, idShort, sizeShort, known⟩ inside exceeds, rfl⟩
    · cases failed

theorem skip_refused (held : cursor.source = .holding bytes taken)
    (failed : skip cursor = .error error after) : error.refusesHeader = false := by
  obtain ⟨_, short, _⟩ := skip_error held failed
  rw [skip_short held short] at failed
  cases failed
  rfl

theorem endOfSource_refused (failed : endOfSource cursor = .error error after) :
    error.refusesHeader = false := by
  unfold endOfSource at failed
  split at failed
  · cases failed
  · cases failed
    rfl

theorem advance_refused (held : cursor.source = .holding bytes taken)
    (failed : advance cursor = .error error after) (refuses : error.refusesHeader = true) :
    cursor.unread ≤ bytes.length ∧
      ∃ count, Refuses cursor.limits cursor.scopes (bytes.drop cursor.unread) error count ∧
        after = (cursor.past bytes taken).onBy (bytes.drop cursor.unread)
          (taken + cursor.unread) count := by
  rcases advance_failed held failed with failed | ⟨enough, header⟩
  · rw [skip_refused held failed] at refuses
    cases refuses
  refine ⟨enough, ?_⟩
  rcases header with failed | ⟨between, _, failed⟩ | ⟨id, between, idRead, failed⟩
  · obtain ⟨rest, ahead, rfl, rfl⟩ := readVint?_refused rfl failed refuses
    rw [ahead]
    exact ⟨1, .unmarked, rfl⟩
  · rw [endOfSource_refused failed] at refuses
    cases refuses
  · obtain ⟨valid, rest, ahead, rfl⟩ := readVint?_some rfl idRead
    obtain ⟨count, refused, rfl⟩ := readHeader_refused valid rfl failed refuses
    rw [ahead]
    exact ⟨id.length + count, .afterId valid refused, onBy_encode_onBy _ _ _ _ _⟩

theorem Standing.refused {document : Bytes} (standing : Standing document cursor)
    (failed : advance cursor = .error error after) (refuses : error.refusesHeader = true) :
    ∃ count, Refuses cursor.limits cursor.scopes
        (document.drop (cursor.position + cursor.unread)) error count ∧ 0 < count ∧
      after.position = cursor.position + cursor.unread + count ∧ after.scopes = cursor.scopes ∧
      after.unread = 0 ∧ Standing document after := by
  obtain ⟨enough, count, refused, rfl⟩ := advance_refused standing.held failed refuses
  have inside := standing.inside
  rw [List.drop_drop] at refused
  have bounds := refused.count_bounds
  rw [List.length_drop] at enough bounds
  refine ⟨count, refused, bounds.1, rfl, rfl, rfl, ?_, ?_⟩
  · rw [onBy, List.drop_drop, List.drop_drop, ← Nat.add_assoc]
    rfl
  · change cursor.position + cursor.unread + count ≤ document.length
    omega

end Cursor

namespace Watched

-- What the entries say is left of the containers leads so many bytes past their ends.
def LeadsPast (count : Nat) (cursor : Cursor) (enclosing : List Extent) : Prop :=
  ∀ level extent, enclosing[level]? = some extent →
    cursor.position + cursor.unread + (cursor.scopes.take (level + 1)).sum =
      extent.start + extent.size + count

variable {document : Bytes} {watched : Watched} {cursor after : Cursor} {count : Nat}
  {extent : Extent} {others : List Extent}

theorem Balanced.leadsPast (balanced : Balanced document watched)
    (scopes : after.scopes = watched.cursor.scopes)
    (further : after.position + after.unread =
      watched.cursor.position + watched.cursor.unread + count) :
    LeadsPast count after watched.log.enclosing := by
  intro level extent stands
  have ends := balanced.covers.ends stands
  rw [scopes, further]
  omega

theorem LeadsPast.left {left : Nat} {outer : List Nat}
    (leads : LeadsPast count cursor (extent :: others)) (inside : cursor.scopes = left :: outer)
    (position : after.position = cursor.position + (cursor.unread + left))
    (emptied : after.unread = 0) (opened : after.scopes = outer) :
    after.position = extent.start + extent.size + count ∧ LeadsPast count after others := by
  unfold LeadsPast at leads
  rw [inside] at leads
  constructor
  · have innermost := leads 0 extent rfl
    simp only [List.take_succ_cons, List.take_zero, List.sum_cons, List.sum_nil] at innermost
    omega
  · intro level outside stands
    have ends := leads (level + 1) outside stands
    rw [List.take_succ_cons, List.sum_cons] at ends
    rw [position, emptied, opened]
    omega

theorem LeadsPast.leave {left : Nat} {outer : List Nat}
    (leads : LeadsPast count cursor (extent :: others)) (standing : Cursor.Standing document cursor)
    (inside : cursor.scopes = left :: outer)
    (enough : cursor.position + cursor.unread ≤ document.length) :
    if extent.start + extent.size + count ≤ document.length then
      ∃ last, cursor.leave = .ok () last ∧
        last.position = extent.start + extent.size + count ∧ LeadsPast count last others
    else
      ∃ last, cursor.leave =
          .error (.truncated 0 (extent.start + extent.size + count - document.length)) last ∧
        last.position = document.length := by
  have innermost := leads 0 extent rfl
  rw [inside, List.take_succ_cons, List.take_zero, List.sum_singleton] at innermost
  have ahead : (document.drop cursor.position).length = document.length - cursor.position :=
    List.length_drop
  split
  · rename_i within
    have leaves := Cursor.leave_enough standing.held inside (by omega)
    exact ⟨_, leaves, leads.left inside rfl rfl rfl⟩
  · rename_i beyond
    have fails := Cursor.leave_short standing.held inside (by omega) (by omega)
    have missing : cursor.unread + left - (document.drop cursor.position).length =
        extent.start + extent.size + count - document.length := by omega
    rw [missing] at fails
    refine ⟨_, fails, ?_⟩
    change cursor.position + (document.drop cursor.position).length = document.length
    omega

-- A header found at fault is taken off the source but off no container: what its container
-- is said to have left is too much by just the bytes taken. Leaving then goes so far past the
-- end of the container, and of those around it in turn, or fails where the document ends.
theorem refused_header_unaccounted (document : Bytes) (limits : Limits)
    (operations : List Operation)
    (kept : (start document limits).orderly operations = true) :
    let watched := (start document limits).run operations
    let ahead := watched.cursor.position + watched.cursor.unread
    ∀ error after, watched.cursor.advance = .error error after → error.refusesHeader = true →
      ∃ count, Cursor.Refuses watched.cursor.limits watched.cursor.scopes (document.drop ahead)
          error count ∧
        0 < count ∧ after.position = ahead + count ∧ after.scopes = watched.cursor.scopes ∧
        LeadsPast count after watched.log.enclosing ∧
        ∀ extent others, watched.log.enclosing = extent :: others →
          if extent.start + extent.size + count ≤ document.length then
            ∃ last, after.leave = .ok () last ∧
              last.position = extent.start + extent.size + count ∧ LeadsPast count last others
          else
            ∃ last, after.leave =
                .error (.truncated 0 (extent.start + extent.size + count - document.length)) last ∧
              last.position = document.length := by
  have balanced := run_balanced (start_balanced document limits) kept
  generalize (start document limits).run operations = watched at balanced
  dsimp only
  intro error after failed refuses
  obtain ⟨count, refused, some, position, scopes, emptied, standing⟩ :=
    balanced.standing.refused failed refuses
  have leads : LeadsPast count after watched.log.enclosing :=
    balanced.leadsPast scopes (by omega)
  refine ⟨count, refused, some, position, scopes, leads, ?_⟩
  intro extent others stands
  rw [stands] at leads
  cases inside : after.scopes with
  | nil =>
    have same := balanced.covers.length
    rw [← scopes, inside, stands] at same
    cases same
  | cons left outer =>
    apply leads.leave standing inside
    rw [emptied]
    exact standing.inside

theorem unknown_size_unaccounted :
    let document : Bytes := [0x81, 0x83, 0x82, 0xFF, 0xAA, 0x84, 0x81, 0x05]
    let watched := (start document default).run [.advance, .enter]
    (start document default).orderly [.advance, .enter] = true ∧
      ∃ after, watched.cursor.advance = .error (.unknownSize 2) after ∧
        ∃ count, 0 < count ∧ after.position = 2 + count ∧
          LeadsPast count after watched.log.enclosing := by
  refine ⟨by decide, _, rfl, ?_⟩
  obtain ⟨count, _, some, position, _, leads, _⟩ := refused_header_unaccounted
    [0x81, 0x83, 0x82, 0xFF, 0xAA, 0x84, 0x81, 0x05] default [.advance, .enter] (by decide)
    (.unknownSize 2) _ rfl rfl
  exact ⟨count, some, position, leads⟩

-- The container is all there with a sibling right after it, and the header at fault within
-- it. Yet its entry still counts the bytes of that header, and leaving it ends in the sibling.
theorem unknown_size_not_left_behind :
    let document : Bytes := [0x81, 0x83, 0x82, 0xFF, 0xAA, 0x84, 0x81, 0x05]
    let watched := (start document default).run [.advance, .enter]
    (start document default).orderly [.advance, .enter] = true ∧
      watched.log.enclosing = [⟨2, 3⟩] ∧ 2 + 3 ≤ document.length ∧
      ∃ after, watched.cursor.advance = .error (.unknownSize 2) after ∧
        after.position ≤ 2 + 3 ∧ after.scopes ≠ [2 + 3 - after.position] ∧
        ∃ last, after.leave = .ok () last ∧ last.position ≠ 2 + 3 :=
  ⟨by decide, by decide, by decide, _, rfl, by decide, by decide, _, rfl, by decide⟩

end Watched

end Ebml
