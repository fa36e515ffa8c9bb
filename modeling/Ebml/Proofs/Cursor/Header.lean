import Ebml.Proofs.Cursor.Steps

namespace Ebml

namespace Header

def ofVints (id size : Vint) (depth : Nat) : Header :=
  ⟨id.value, size.value, id.length, size.length, depth⟩

def span (header : Header) : Nat := header.idLength + header.sizeLength + header.size

end Header

namespace Cursor

-- Moving on succeeds exactly where the bytes ahead start with a header within the limits,
-- for an element that the innermost container has room for.
variable {cursor after : Cursor} {bytes rest : Bytes} {taken : Nat} {id size : Vint}
  {scopes : List Nat}

def widen (count : Nat) : List Nat → List Nat
  | [] => []
  | left :: outer => (left + count) :: outer

theorem widen_length (count : Nat) (scopes : List Nat) :
    (widen count scopes).length = scopes.length := by
  cases scopes <;> rfl

theorem depth_widened {count : Nat} (room : cursor.scopes = widen count scopes) :
    cursor.depth = scopes.length := by
  rw [depth, room, widen_length]

theorem widen_zero (scopes : List Nat) : widen 0 scopes = scopes := by
  cases scopes <;> rfl

theorem widen_widen (count more : Nat) (scopes : List Nat) :
    widen count (widen more scopes) = widen (count + more) scopes := by
  cases scopes with
  | nil => rfl
  | cons left outer =>
    simp only [widen]
    congr 1
    omega

theorem widened_nil {count : Nat} (room : [] = widen count scopes) : scopes = [] := by
  cases scopes with
  | nil => rfl
  | cons left outer => cases room

theorem widened_cons {count left : Nat} {outer : List Nat} (room : left :: outer = widen count scopes) :
    count ≤ left ∧ scopes = (left - count) :: outer := by
  cases scopes with
  | nil => cases room
  | cons spare others =>
    cases room
    exact ⟨Nat.le_add_left _ _, by rw [Nat.add_sub_cancel]⟩

theorem charge_widen (name : ElementId) {headerLength length : Nat}
    (room : cursor.scopes = widen (headerLength + length) scopes) :
    charge name headerLength length cursor = .ok () { cursor with scopes := scopes } := by
  unfold charge
  rw [room]
  cases scopes with
  | nil =>
    simp only [widen] at room ⊢
    rw [← room]
  | cons left outer =>
    have fits : ¬(left + (headerLength + length) - headerLength < length ∨
        left + (headerLength + length) < headerLength) := by omega
    simp only [widen, if_neg fits, Nat.add_sub_cancel]

theorem charge_ok {name : ElementId} {headerLength length : Nat} {value : Unit}
    (charged : charge name headerLength length cursor = .ok value after) :
    ∃ scopes, cursor.scopes = widen (headerLength + length) scopes ∧
      after = { cursor with scopes := scopes } := by
  unfold charge at charged
  split at charged
  · rename_i outside
    cases charged
    exact ⟨[], outside, by rw [← outside]⟩
  · rename_i left outer inside
    dsimp only at charged
    split at charged
    · cases charged
    · rename_i fits
      cases charged
      refine ⟨_ :: outer, ?_, rfl⟩
      rw [inside, widen]
      congr 1
      omega

theorem readHeader_encode (admits : cursor.limits.Admits id size)
    (held : cursor.source = .holding (size.encode ++ rest) taken)
    (room : cursor.scopes = widen (id.length + size.length + size.value) scopes) :
    readHeader id cursor = .ok (.ofVints id size cursor.depth) { cursor with
      source := .holding rest (taken + size.length)
      scopes := scopes } := by
  have known : ¬Vint.isUnknownSize size.value size.length = true := by
    rw [Vint.isUnknownSize_iff]
    exact admits.known
  have stillRoom : ({ cursor with source := .holding rest (taken + size.length) } : Cursor).scopes =
      widen (id.length + size.length + size.value) scopes := room
  have charged := charge_widen id.value stillRoom
  unfold readHeader
  rw [bind_of_ok (show (get : Reading Cursor) cursor = .ok cursor cursor from rfl),
    bind_of_ok (refuseIf_of_not (Nat.not_lt.mpr admits.idShort) cursor),
    bind_of_ok (readVint?_encode admits.sizeValid held)]
  dsimp only
  rw [bind_of_ok (refuseIf_of_not (Nat.not_lt.mpr admits.sizeShort) _),
    bind_of_ok (refuseIf_of_not known _), bind_of_ok charged]
  rfl

theorem readHeader_ok {header : Header} (idValid : id.Valid)
    (held : cursor.source = .holding bytes taken) (read : readHeader id cursor = .ok header after) :
    ∃ size rest scopes, cursor.limits.Admits id size ∧ bytes = size.encode ++ rest ∧
      cursor.scopes = widen (id.length + size.length + size.value) scopes ∧
      header = .ofVints id size cursor.depth ∧
      after = { cursor with
        source := .holding rest (taken + size.length)
        scopes := scopes } := by
  obtain ⟨_, _, got, read⟩ := bind_eq_ok.mp read
  cases got
  obtain ⟨_, _, idPassed, read⟩ := bind_eq_ok.mp read
  obtain ⟨idShort, rfl⟩ := refuseIf_ok idPassed
  obtain ⟨size?, between, sized, read⟩ := bind_eq_ok.mp read
  cases size? with
  | none => cases read
  | some size =>
    obtain ⟨sizeValid, rest, split, rfl⟩ := readVint?_some held sized
    obtain ⟨_, _, sizePassed, read⟩ := bind_eq_ok.mp read
    obtain ⟨sizeShort, rfl⟩ := refuseIf_ok sizePassed
    obtain ⟨_, _, knownPassed, read⟩ := bind_eq_ok.mp read
    obtain ⟨known, rfl⟩ := refuseIf_ok knownPassed
    obtain ⟨_, _, charged, read⟩ := bind_eq_ok.mp read
    obtain ⟨scopes, room, rfl⟩ := charge_ok charged
    cases read
    rw [Vint.isUnknownSize_iff] at known
    exact ⟨size, rest, scopes, ⟨idValid, sizeValid, Nat.not_lt.mp idShort,
      Nat.not_lt.mp sizeShort, known⟩, split, room, rfl, rfl⟩

def past (cursor : Cursor) (bytes : Bytes) (taken : Nat) : Cursor :=
  { cursor with
    source := .holding (bytes.drop cursor.unread) (taken + cursor.unread)
    current := none
    unread := 0 }

def onto (cursor : Cursor) (id size : Vint) (scopes : List Nat) (rest : Bytes) (taken : Nat) :
    Cursor :=
  { cursor with
    source := .holding rest (taken + cursor.unread + id.length + size.length)
    scopes := scopes
    current := some (.ofVints id size cursor.depth)
    unread := size.value
    consumed := false }

def Ended (scopes : List Nat) (rest : Bytes) : Prop :=
  scopes.head? = some 0 ∨ scopes = [] ∧ rest = []

theorem widen_head_pos {count : Nat} (positive : 0 < count) (scopes : List Nat) :
    (widen count scopes).head? ≠ some 0 := by
  cases scopes with
  | nil => simp [widen]
  | cons left outer =>
    simp only [widen, List.head?_cons, ne_eq, Option.some.injEq]
    omega

theorem advance_past (held : cursor.source = .holding bytes taken)
    (enough : cursor.unread ≤ bytes.length) (inside : cursor.scopes.head? ≠ some 0) :
    advance cursor = (readVint? >>= fun id? =>
      match id? with
      | none => endOfSource
      | some id => do
        let header ← readHeader id
        moveTo header
        return some header) (cursor.past bytes taken) := by
  have inside : (cursor.past bytes taken).scopes.head? ≠ some 0 := inside
  unfold advance
  rw [bind_of_ok (skip_enough held enough),
    bind_of_ok (show forget _ = .ok () (cursor.past bytes taken) from rfl),
    bind_of_ok (show (get : Reading Cursor) _ = .ok _ (cursor.past bytes taken) from rfl)]
  exact congrFun (if_neg inside) _

theorem advance_header (admits : cursor.limits.Admits id size)
    (held : cursor.source = .holding bytes taken) (enough : cursor.unread ≤ bytes.length)
    (ahead : bytes.drop cursor.unread = id.encode ++ (size.encode ++ rest))
    (room : cursor.scopes = widen (id.length + size.length + size.value) scopes) :
    advance cursor = .ok (some (.ofVints id size cursor.depth))
      (cursor.onto id size scopes rest taken) := by
  have positive := admits.idValid.positive
  have inside : cursor.scopes.head? ≠ some 0 := by
    have some : 0 < id.length + size.length + size.value := by omega
    rw [room]
    exact widen_head_pos some scopes
  have atId : (cursor.past bytes taken).source =
      .holding (id.encode ++ (size.encode ++ rest)) (taken + cursor.unread) :=
    congrArg (Source.holding · _) ahead
  have idRead := readVint?_encode admits.idValid atId
  have read : readHeader id { cursor.past bytes taken with
      source := .holding (size.encode ++ rest) (taken + cursor.unread + id.length) } =
      .ok (.ofVints id size cursor.depth) { cursor.past bytes taken with
        source := .holding rest (taken + cursor.unread + id.length + size.length)
        scopes := scopes } := readHeader_encode admits rfl room
  rw [advance_past held enough inside, bind_of_ok idRead]
  dsimp only
  rw [bind_of_ok read]
  rfl

theorem advance_none (held : cursor.source = .holding bytes taken)
    (enough : cursor.unread ≤ bytes.length)
    (ended : Ended cursor.scopes (bytes.drop cursor.unread)) :
    advance cursor = .ok none (cursor.past bytes taken) := by
  rcases ended with full | ⟨outside, finished⟩
  · unfold advance
    rw [bind_of_ok (skip_enough held enough),
      bind_of_ok (show forget _ = .ok () (cursor.past bytes taken) from rfl),
      bind_of_ok (show (get : Reading Cursor) _ = .ok _ (cursor.past bytes taken) from rfl),
      if_pos (show (cursor.past bytes taken).scopes.head? = some 0 from full)]
    rfl
  · have inside : cursor.scopes.head? ≠ some 0 := by simp [outside]
    have atEnd : (cursor.past bytes taken).source = .holding [] (taken + cursor.unread) :=
      congrArg (Source.holding · _) finished
    rw [advance_past held enough inside, bind_of_ok (readVint?_nil atEnd)]
    simp only [endOfSource, past, outside]

theorem endOfSource_ok {header? : Option Header}
    (ended : endOfSource cursor = .ok header? after) :
    cursor.scopes = [] ∧ header? = none ∧ after = cursor := by
  unfold endOfSource at ended
  split at ended
  · rename_i outside
    cases ended
    exact ⟨outside, rfl, rfl⟩
  · cases ended

-- Where moving on may lead, by the bytes after the current element.
inductive Moved (cursor : Cursor) (bytes : Bytes) (taken : Nat) : Option Header → Cursor → Prop
  | ended (last : Ended cursor.scopes (bytes.drop cursor.unread)) :
      Moved cursor bytes taken none (cursor.past bytes taken)
  | header {id size : Vint} {rest : Bytes} {scopes : List Nat}
      (admits : cursor.limits.Admits id size)
      (ahead : bytes.drop cursor.unread = id.encode ++ (size.encode ++ rest))
      (room : cursor.scopes = widen (id.length + size.length + size.value) scopes) :
      Moved cursor bytes taken (some (.ofVints id size cursor.depth))
        (cursor.onto id size scopes rest taken)

theorem advance_ok {header? : Option Header} (held : cursor.source = .holding bytes taken)
    (advanced : advance cursor = .ok header? after) :
    cursor.unread ≤ bytes.length ∧ Moved cursor bytes taken header? after := by
  obtain ⟨_, _, skipped, advanced⟩ := bind_eq_ok.mp advanced
  obtain ⟨enough, rfl⟩ := skip_ok held skipped
  refine ⟨enough, ?_⟩
  obtain ⟨_, _, forgotten, advanced⟩ := bind_eq_ok.mp advanced
  cases forgotten
  obtain ⟨_, _, got, advanced⟩ := bind_eq_ok.mp advanced
  cases got
  by_cases full : cursor.scopes.head? = some 0
  · rw [if_pos full] at advanced
    cases advanced
    exact .ended (.inl full)
  · rw [if_neg full] at advanced
    obtain ⟨id?, between, idRead, advanced⟩ := bind_eq_ok.mp advanced
    cases id? with
    | none =>
      obtain ⟨finished, rfl⟩ := readVint?_none rfl idRead
      obtain ⟨outside, rfl, rfl⟩ := endOfSource_ok advanced
      exact .ended (.inr ⟨outside, finished⟩)
    | some id =>
      obtain ⟨idValid, _, split, rfl⟩ := readVint?_some rfl idRead
      obtain ⟨header, _, read, advanced⟩ := bind_eq_ok.mp advanced
      obtain ⟨size, rest, scopes, admits, rfl, room, rfl, rfl⟩ := readHeader_ok idValid rfl read
      cases advanced
      exact .header admits split room

theorem advance_eq_ok_iff {header? : Option Header} (held : cursor.source = .holding bytes taken) :
    advance cursor = .ok header? after ↔
      cursor.unread ≤ bytes.length ∧ Moved cursor bytes taken header? after := by
  constructor
  · exact advance_ok held
  · rintro ⟨enough, moved⟩
    cases moved with
    | ended last => exact advance_none held enough last
    | header admits ahead room => exact advance_header admits held enough ahead room

theorem enter_fresh {header : Header} (current : cursor.current = some header)
    (fresh : cursor.consumed = false) :
    enter cursor = .ok () { cursor with
      scopes := cursor.unread :: cursor.scopes
      unread := 0
      current := none } := by
  unfold enter
  rw [current]
  dsimp only
  rw [if_neg (by rw [fresh]; exact Bool.false_ne_true)]

theorem leave_past {left : Nat} {outer : List Nat} (held : cursor.source = .holding bytes taken)
    (inside : cursor.scopes = left :: outer) (enough : cursor.unread ≤ bytes.length) :
    leave cursor = skipBytes left 0 { cursor.past bytes taken with scopes := outer } := by
  have closed : close (cursor.past bytes taken) =
      .ok left { cursor.past bytes taken with scopes := outer } := by
    simp only [close, past, inside]
  unfold leave
  rw [bind_of_ok (skip_enough held enough),
    bind_of_ok (show forget _ = .ok () (cursor.past bytes taken) from rfl), bind_of_ok closed]

theorem leave_enough {left : Nat} {outer : List Nat} (held : cursor.source = .holding bytes taken)
    (inside : cursor.scopes = left :: outer) (enough : cursor.unread + left ≤ bytes.length) :
    leave cursor = .ok () { cursor with
      source := .holding (bytes.drop (cursor.unread + left)) (taken + (cursor.unread + left))
      scopes := outer
      current := none
      unread := 0 } := by
  have more : left ≤ (bytes.drop cursor.unread).length := by
    rw [List.length_drop]
    omega
  rw [leave_past held inside (by omega), skipBytes_enough rfl more, List.drop_drop, Nat.add_assoc]
  rfl

theorem leave_short {left : Nat} {outer : List Nat} (held : cursor.source = .holding bytes taken)
    (inside : cursor.scopes = left :: outer) (enough : cursor.unread ≤ bytes.length)
    (short : bytes.length < cursor.unread + left) :
    leave cursor = .error (.truncated 0 (cursor.unread + left - bytes.length)) { cursor with
      source := .holding [] (taken + bytes.length)
      scopes := outer
      current := none
      unread := 0 } := by
  have less : (bytes.drop cursor.unread).length < left := by
    rw [List.length_drop]
    omega
  have missing : left - (bytes.length - cursor.unread) = cursor.unread + left - bytes.length := by
    omega
  have total : taken + cursor.unread + (bytes.length - cursor.unread) = taken + bytes.length := by
    omega
  rw [leave_past held inside enough, skipBytes_short rfl less, List.length_drop, missing, total]
  rfl

theorem leave_ok {value : Unit} (held : cursor.source = .holding bytes taken)
    (left : leave cursor = .ok value after) :
    ∃ count outer, cursor.scopes = count :: outer ∧ cursor.unread + count ≤ bytes.length ∧
      after = { cursor with
        source := .holding (bytes.drop (cursor.unread + count)) (taken + (cursor.unread + count))
        scopes := outer
        current := none
        unread := 0 } := by
  obtain ⟨_, _, skipped, left⟩ := bind_eq_ok.mp left
  obtain ⟨enough, rfl⟩ := skip_ok held skipped
  obtain ⟨_, _, forgotten, left⟩ := bind_eq_ok.mp left
  cases forgotten
  obtain ⟨count, between, closed, left⟩ := bind_eq_ok.mp left
  unfold close at closed
  split at closed
  · cases closed
  · rename_i outer inside
    cases closed
    obtain ⟨more, rfl⟩ := skipBytes_ok rfl left
    rw [List.length_drop] at more
    refine ⟨count, outer, inside, by omega, ?_⟩
    rw [List.drop_drop, Nat.add_assoc]

end Cursor

end Ebml
