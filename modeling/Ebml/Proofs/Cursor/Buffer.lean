import Ebml.Proofs.Cursor.Fitting
import Ebml.Proofs.Vint.Word

namespace Ebml

namespace Delivery

def putBack : Bytes → List Delivery → List Delivery
  | [], others => others
  | next :: left, others => piece next left :: others

theorem putBack_size (left : Bytes) (others : List Delivery) :
    totalSize (putBack left others) = left.length + totalSize others := by
  cases left with
  | nil => exact (Nat.zero_add _).symm
  | cons next left => rfl

theorem putBack_length (left : Bytes) (others : List Delivery) :
    (putBack left others).length ≤ others.length + 1 := by
  cases left with
  | nil => exact Nat.le_succ _
  | cons next left => exact Nat.le_refl _

theorem collect_piece {wanted : Nat} (some : 0 < wanted) (first : UInt8) (more : Bytes)
    (others : List Delivery) :
    let given := (first :: more).take wanted
    let rest := collect (wanted - given.length) (putBack ((first :: more).drop wanted) others)
    collect wanted (piece first more :: others) = (given ++ rest.1, rest.2) := by
  obtain ⟨wanted, rfl⟩ := Nat.exists_eq_succ_of_ne_zero (Nat.ne_of_gt some)
  dsimp only
  rw [collect, if_neg (Nat.succ_ne_zero wanted), Nat.succ_eq_add_one, Nat.add_sub_cancel,
    List.take_succ_cons, List.drop_succ_cons, List.length_cons, Nat.add_sub_add_right]
  cases cut : more.drop wanted with
  | nil =>
    have all : more.take wanted = more := List.take_of_length_le (List.drop_eq_nil_iff.mp cut)
    rw [all, Nat.add_sub_add_right]
    rfl
  | cons next left =>
    have full : (more.take wanted).length = wanted := by
      refine List.length_take_of_le (Nat.le_of_not_lt ?_)
      intro short
      rw [List.drop_eq_nil_of_le (Nat.le_of_lt short)] at cut
      cases cut
    rw [full, Nat.sub_self]
    simp [putBack, collect]

end Delivery

namespace Source

-- Variable-length integers as they come in, call by call, and collected in a buffer until they are
-- there. A call comes back with no more than there is room for; no bytes are the end of the source.
inductive Reply where
  | bytes (given : Bytes)
  | interrupted
  | failed (reason : String)
deriving DecidableEq, Repr

def call (room : Nat) (source : Source) : Reply × Source :=
  match source.deliveries with
  | [] => (source.broken?.elim (.bytes []) .failed, source)
  | .interrupted :: others => (.interrupted, { source with deliveries := others })
  | .failed reason :: others => (.failed reason, { source with deliveries := others })
  | .piece first more :: others =>
    (.bytes ((first :: more).take room), { source with
      deliveries := Delivery.putBack ((first :: more).drop room) others
      taken := source.taken + ((first :: more).take room).length })

def resume (room : Nat) : Reply × Source → Bytes × Option String × Source
  | (.bytes [], after) => ([], none, after)
  | (.bytes given, after) =>
    (given ++ (after.take (room - given.length)).1, (after.take (room - given.length)).2)
  | (.interrupted, after) => after.take room
  | (.failed reason, after) => ([], some reason, after)

def ahead (source : Source) : Nat := source.pending + source.deliveries.length

variable {source after : Source} {room : Nat} {given : Bytes} {reason : String}

theorem holding_ready (bytes : Bytes) (taken : Nat) :
    Delivery.ready (holding bytes taken).deliveries = bytes := by
  cases bytes with
  | nil => rfl
  | cons first more => exact List.append_nil _

theorem call_bytes (called : source.call room = (.bytes given, after)) :
    given.length ≤ room ∧ (given ≠ [] → after.ahead < source.ahead) := by
  obtain ⟨deliveries, broken?, taken⟩ := source
  rcases deliveries with _ | ⟨_ | _ | _, others⟩
  · cases broken? with
    | none =>
      cases called
      exact ⟨Nat.zero_le room, fun more => absurd rfl more⟩
    | some reason => cases called
  · rename_i first more
    cases called
    refine ⟨List.length_take_le _ _, ?_⟩
    intro some
    have positive := List.length_pos_iff.mpr some
    have count := Delivery.putBack_length ((first :: more).drop room) others
    simp only [ahead, pending, Delivery.putBack_size, Delivery.totalSize, Delivery.size,
      List.length_cons, List.length_drop]
    simp only [List.length_take, List.length_cons] at positive
    omega
  · cases called
  · cases called

theorem call_interrupted (called : source.call room = (.interrupted, after)) :
    after.ahead < source.ahead := by
  obtain ⟨deliveries, broken?, taken⟩ := source
  rcases deliveries with _ | ⟨_ | _ | _, others⟩
  · cases broken? <;> cases called
  · cases called
  · cases called
    simp [ahead, pending, Delivery.totalSize, Delivery.size]
  · cases called

theorem resume_bytes (more : given ≠ []) : resume room (.bytes given, after) =
    (given ++ (after.take (room - given.length)).1, (after.take (room - given.length)).2) := by
  cases given with
  | nil => contradiction
  | cons first others => rfl

theorem take_eq_resume (some : 0 < room) : source.take room = resume room (source.call room) := by
  obtain ⟨deliveries, broken?, taken⟩ := source
  rcases deliveries with _ | ⟨_ | _ | _, others⟩
  · cases broken? <;> simp [take, call, resume, Delivery.collect, some]
  · rename_i first more
    have collected := Delivery.collect_piece some first more others
    have within : ((first :: more).take room).length ≤ room := List.length_take_le _ _
    have given : (first :: more).take room ≠ [] := by simp [Nat.ne_of_gt some]
    dsimp only at collected
    rw [call, resume_bytes given]
    simp only [take, collected]
    generalize (first :: more).take room = given at within ⊢
    generalize Delivery.collect _ _ = rest
    have missing : given.length + rest.1.length < room ↔ rest.1.length < room - given.length := by
      omega
    simp only [List.length_append, missing, Nat.add_assoc]
  · simp [take, call, resume, Delivery.collect, Nat.ne_of_gt some]
  · simp [take, call, resume, Delivery.collect, Nat.ne_of_gt some]

end Source

structure Buffer where
  held : Bytes
  fits : held.length ≤ 8

namespace Buffer

def start (leading : UInt8) : Buffer := ⟨[leading], Nat.le_of_ble_eq_true rfl⟩

def put (buffer : Buffer) (given : Bytes) (room : buffer.held.length + given.length ≤ 8) : Buffer :=
  ⟨buffer.held ++ given, by rwa [List.length_append]⟩

def fill (length : Nat) (short : length ≤ 8) (buffer : Buffer) (source : Source) :
    Except String Buffer × Source :=
  if missing : buffer.held.length < length then
    match called : source.call (length - buffer.held.length) with
    | (.bytes [], after) => (.ok buffer, after)
    | (.bytes (first :: more), after) =>
      have within := (Source.call_bytes called).1
      fill length short (buffer.put (first :: more) (by omega)) after
    | (.interrupted, after) => fill length short buffer after
    | (.failed reason, after) => (.error reason, after)
  else (.ok buffer, source)
termination_by source.ahead
decreasing_by
  · exact (Source.call_bytes called).2 (List.cons_ne_nil first more)
  · exact Source.call_interrupted called

def first? (source : Source) : Except String (Option UInt8) × Source :=
  match called : source.call 1 with
  | (.bytes given, after) => (.ok given.head?, after)
  | (.interrupted, after) =>
    have := Source.call_interrupted called
    first? after
  | (.failed reason, after) => (.error reason, after)
termination_by source.ahead

-- The first byte says how many are to follow, and what the buffer holds then is decoded once more
-- from the beginning.
def vint? (source : Source) : Except ReadError (Option Vint) × Source :=
  match first? source with
  | (.error reason, after) => (.error (.io reason), after)
  | (.ok none, after) => (.ok none, after)
  | (.ok (some leading), after) =>
    match known : Vint.lengthOf leading with
    | .error error => (.error (.vint error), after)
    | .ok length =>
      match fill length (Vint.lengthOf_eq_ok_iff.mp known).short (start leading) after with
      | (.error reason, last) => (.error (.io reason), last)
      | (.ok buffer, last) =>
        match Vint.decode buffer.held with
        | .ok (vint, _) => (.ok (some vint), last)
        | .error error => (.error (.vint error), last)

variable {source : Source}

theorem fill_eq (length : Nat) (short : length ≤ 8) (buffer : Buffer) (source : Source) :
    let taken := source.take (length - buffer.held.length)
    (fill length short buffer source).1.map held =
        taken.2.1.elim (.ok (buffer.held ++ taken.1)) .error ∧
      (fill length short buffer source).2 = taken.2.2 := by
  dsimp only
  fun_induction fill length short buffer source with
  | case1 buffer source missing after called =>
    rw [Source.take_eq_resume (by omega), called, Source.resume, List.append_nil]
    exact ⟨rfl, rfl⟩
  | case2 buffer source missing first more after called within ih =>
    have joined : (buffer.put (first :: more) (by omega)).held = buffer.held ++ (first :: more) := rfl
    rw [Source.take_eq_resume (by omega), called, Source.resume_bytes (List.cons_ne_nil first more)]
    rw [joined, List.length_append, Nat.sub_add_eq, List.append_assoc] at ih
    exact ih
  | case3 buffer source missing after called ih =>
    rw [Source.take_eq_resume (by omega), called]
    exact ih
  | case4 buffer source missing reason after called =>
    rw [Source.take_eq_resume (by omega), called]
    exact ⟨rfl, rfl⟩
  | case5 buffer source full =>
    rw [Nat.sub_eq_zero_of_le (Nat.le_of_not_lt full), Source.take_zero, List.append_nil]
    exact ⟨rfl, rfl⟩

theorem fill_failed {length : Nat} {short : length ≤ 8} (buffer : Buffer) {reason : String}
    (failed : (source.take (length - buffer.held.length)).2.1 = some reason) :
    fill length short buffer source =
      (.error reason, (source.take (length - buffer.held.length)).2.2) := by
  obtain ⟨filled, last⟩ := fill_eq length short buffer source
  rw [failed] at filled
  generalize fill length short buffer source = outcome at filled last ⊢
  obtain ⟨_ | buffer, after⟩ := outcome
  · cases filled
    rw [← last]
  · cases filled

theorem fill_whole {length : Nat} (short : length ≤ 8) (buffer : Buffer)
    (whole : (source.take (length - buffer.held.length)).2.1 = none) :
    ∃ full : Buffer, fill length short buffer source =
        (.ok full, (source.take (length - buffer.held.length)).2.2) ∧
      full.held = buffer.held ++ (source.take (length - buffer.held.length)).1 := by
  obtain ⟨filled, last⟩ := fill_eq length short buffer source
  rw [whole] at filled
  generalize fill length short buffer source = outcome at filled last ⊢
  obtain ⟨_ | full, after⟩ := outcome
  · cases filled
  · exact ⟨full, by rw [← last], Except.ok.inj filled⟩

theorem first?_eq (source : Source) : first? source =
    ((source.take 1).2.1.elim (.ok (source.take 1).1.head?) .error, (source.take 1).2.2) := by
  fun_induction first? source with
  | case1 source given after called =>
    rw [Source.take_eq_resume Nat.one_pos, called]
    cases given with
    | nil => rfl
    | cons first more =>
      have single := (Source.call_bytes called).1
      have none : 1 - (first :: more).length = 0 := by
        rw [List.length_cons]
        omega
      rw [Source.resume_bytes (List.cons_ne_nil first more), none, Source.take_zero]
      rfl
  | case2 source after called fewer ih =>
    rw [Source.take_eq_resume Nat.one_pos, called]
    exact ih
  | case3 source reason after called =>
    rw [Source.take_eq_resume Nat.one_pos, called]
    rfl

end Buffer

namespace Cursor

variable {α : Type} {cursor : Cursor} {bytes : Bytes}

def ended (cursor : Cursor) : Except ReadError α × Source → Ending α
  | (.ok value, source) => .ok value (cursor.withSource source)
  | (.error error, source) => .error error (cursor.withSource source)

theorem takeBytes_whole {cursor : Cursor} {wanted : Nat}
    (whole : (cursor.source.take wanted).2.1 = none) :
    takeBytes wanted cursor =
      .ok (cursor.source.take wanted).1 (cursor.withSource (cursor.source.take wanted).2.2) := by
  rw [takeBytes_eq, whole]

theorem takeBytes_failed {cursor : Cursor} {wanted : Nat} {reason : String}
    (failed : (cursor.source.take wanted).2.1 = some reason) :
    takeBytes wanted cursor =
      .error (.io reason) (cursor.withSource (cursor.source.take wanted).2.2) := by
  rw [takeBytes_eq, failed]

theorem readVint?_eq (cursor : Cursor) :
    readVint? cursor = cursor.ended (Buffer.vint? cursor.source) := by
  unfold readVint? Buffer.vint?
  rw [Buffer.first?_eq]
  cases first : (cursor.source.take 1).2.1 with
  | some reason =>
    rw [bind_of_error (takeBytes_failed first)]
    rfl
  | none =>
    rw [bind_of_ok (takeBytes_whole first)]
    cases (cursor.source.take 1).1 with
    | nil => rfl
    | cons leading more =>
      simp only [Option.elim, List.head?_cons]
      split
      · rename_i error known
        simp only [known]
        rfl
      · rename_i length known
        simp only [known]
        generalize (cursor.source.take 1).2.2 = after
        cases others : (after.take (length - 1)).2.1 with
        | some reason =>
          have failed : takeBytes (length - 1) (cursor.withSource after) = _ :=
            takeBytes_failed others
          rw [bind_of_error failed, Buffer.fill_failed (.start leading) others]
          rfl
        | none =>
          have whole : takeBytes (length - 1) (cursor.withSource after) =
              .ok (after.take (length - 1)).1 (cursor.withSource (after.take (length - 1)).2.2) :=
            takeBytes_whole others
          obtain ⟨buffer, filled, held⟩ :=
            Buffer.fill_whole (Vint.lengthOf_eq_ok_iff.mp known).short (.start leading) others
          replace held : buffer.held = leading :: (after.take (length - 1)).1 := held
          rw [bind_of_ok whole, filled]
          dsimp only
          rw [held]
          cases Vint.decode (leading :: (after.take (length - 1)).1) <;> rfl

structure ReadOff (cursor : Cursor) (bytes : Bytes) (count : Nat) (after : Cursor) : Prop where
  source : after = cursor.withSource after.source
  taken : after.position = cursor.position + count
  left : after.source.Delivers (bytes.drop count)

theorem readOff_of_alike {count : Nat} {source : Source}
    (same : Source.sameBytes.alike (.holding (bytes.drop count) (cursor.position + count)) source) :
    ReadOff cursor bytes count (cursor.withSource source) := by
  have position := Source.sameBytes.position same
  obtain ⟨others, held, delivers⟩ := same
  have ready := congrArg (fun source => Delivery.ready source.deliveries) held
  simp only [Source.holding_ready] at ready
  rw [← ready] at delivers
  exact ⟨rfl, position.symm, delivers⟩

theorem wasted_eq (bytes : Bytes) :
    wasted bytes = if bytes.head? = some 0 then 1 else bytes.length := by
  cases bytes with
  | nil => rfl
  | cons leading tail =>
    simp only [wasted, Vint.leadingZeros_eq_eight_iff, List.head?_cons, Option.some_inj,
      List.length_cons]

theorem readVint?_at_end (delivers : cursor.source.Delivers []) :
    ∃ after, readVint? cursor = .ok none after ∧ ReadOff cursor [] 0 after := by
  obtain ⟨source, same, alike⟩ := delivered_of_whole (inStep_parts _).readVint? delivers
  rw [readVint?_nil (whole_source cursor [])] at same alike
  exact ⟨_, same, readOff_of_alike alike⟩

theorem readVint?_decoded (delivers : cursor.source.Delivers bytes) {vint : Vint} {rest : Bytes}
    (decoded : Vint.decode bytes = .ok (vint, rest)) :
    rest = bytes.drop vint.length ∧ ∃ after, readVint? cursor = .ok (some vint) after ∧
      ReadOff cursor bytes vint.length after := by
  obtain ⟨_, split⟩ := Vint.decode_sound decoded
  have left : rest = bytes.drop vint.length := by
    rw [split, List.drop_left' (Vint.encode_length vint)]
  have more : bytes ≠ [] := by
    rintro rfl
    cases decoded
  obtain ⟨source, same, alike⟩ := delivered_of_whole (inStep_parts _).readVint? delivers
  rw [readVint?_held (whole_source cursor bytes) more, decoded, left] at same alike
  exact ⟨left, _, same, readOff_of_alike alike⟩

theorem readVint?_undecoded (delivers : cursor.source.Delivers bytes) (more : bytes ≠ [])
    {error : VintError} (refused : Vint.decode bytes = .error error) :
    ∃ after, readVint? cursor = .error (.vint error) after ∧
      ReadOff cursor bytes (wasted bytes) after := by
  obtain ⟨source, same, alike⟩ := delivered_of_whole (inStep_parts _).readVint? delivers
  rw [readVint?_held (whole_source cursor bytes) more, refused] at same alike
  exact ⟨_, same, readOff_of_alike alike⟩

theorem readVint?_none_iff (delivers : cursor.source.Delivers bytes) :
    (∃ after, readVint? cursor = .ok none after) ↔ bytes = [] := by
  constructor
  · rintro ⟨after, ended⟩
    by_contra more
    cases decoded : Vint.decode bytes with
    | ok decoding =>
      obtain ⟨_, _, read, _⟩ := readVint?_decoded delivers decoded
      cases ended.symm.trans read
    | error error =>
      obtain ⟨_, refused, _⟩ := readVint?_undecoded delivers more decoded
      cases ended.symm.trans refused
  · rintro rfl
    obtain ⟨after, ended, _⟩ := readVint?_at_end delivers
    exact ⟨after, ended⟩

-- Read as a buffer of eight bytes is filled, an integer is what the bytes are decoded to where they
-- are all there, whatever pieces they come in.
theorem incremental_reading_decodes (delivers : cursor.source.Delivers bytes) :
    readVint? cursor = cursor.ended (Buffer.vint? cursor.source) ∧
    ((∃ after, readVint? cursor = .ok none after) ↔ bytes = []) ∧
    (bytes = [] → ∃ after, readVint? cursor = .ok none after ∧ ReadOff cursor bytes 0 after) ∧
    (∀ vint rest, Vint.decode bytes = .ok (vint, rest) → rest = bytes.drop vint.length ∧
      ∃ after, readVint? cursor = .ok (some vint) after ∧
        ReadOff cursor bytes vint.length after) ∧
    ∀ error, bytes ≠ [] → Vint.decode bytes = .error error →
      ∃ after, readVint? cursor = .error (.vint error) after ∧
        ReadOff cursor bytes (if bytes.head? = some 0 then 1 else bytes.length) after := by
  refine ⟨readVint?_eq cursor, readVint?_none_iff delivers, ?_, ?_, ?_⟩
  · rintro rfl
    exact readVint?_at_end delivers
  · intro vint rest decoded
    exact readVint?_decoded delivers decoded
  · intro error more refused
    rw [← wasted_eq]
    exact readVint?_undecoded delivers more refused

theorem integer_in_pieces_read :
    let bytes : Bytes := [0x10, 0x20, 0x30, 0x40, 0x99]
    let source : Source :=
      ⟨[.interrupted, .piece 0x10 [], .piece 0x20 [0x30], .interrupted, .piece 0x40 [0x99]], none, 0⟩
    let short : Source := ⟨[.piece 0x10 [], .interrupted, .piece 0x20 [0x30]], none, 0⟩
    source.Delivers bytes ∧ short.Delivers (bytes.take 3) ∧
      (∃ after, readVint? (ofSource source default) = .ok (some ⟨0x203040, 4⟩) after ∧
        ReadOff (ofSource source default) bytes 4 after) ∧
      ∃ after, readVint? (ofSource short default) = .error (.vint (.unexpectedEnd 1)) after ∧
        ReadOff (ofSource short default) (bytes.take 3) 3 after := by
  intro bytes source short
  have delivers : source.Delivers bytes := ⟨by decide, by decide, rfl⟩
  have cutOff : short.Delivers (bytes.take 3) := ⟨by decide, by decide, rfl⟩
  have decoded : Vint.decode bytes = .ok (⟨0x203040, 4⟩, [0x99]) := by decide +kernel
  have refused : Vint.decode (bytes.take 3) = .error (.unexpectedEnd 1) := by decide +kernel
  obtain ⟨_, _, _, reads, _⟩ :=
    @incremental_reading_decodes (ofSource source default) bytes delivers
  obtain ⟨_, _, _, _, refuses⟩ :=
    @incremental_reading_decodes (ofSource short default) (bytes.take 3) cutOff
  exact ⟨delivers, cutOff, (reads _ _ decoded).2, refuses _ (List.cons_ne_nil _ _) refused⟩

end Cursor

end Ebml
