import Ebml.Proofs.Cursor.Misuse

namespace Ebml

def Source.Dry (source : Source) : Prop := source.take 1 = ([], none, source)

theorem Delivery.collect_nothing {wanted : Nat} {deliveries rest : List Delivery}
    (positive : wanted ≠ 0) (nothing : collect wanted deliveries = ([], none, rest)) :
    rest = [] := by
  fun_induction collect wanted deliveries with
  | case1 =>
    cases nothing
    rfl
  | case2 => contradiction
  | case3 wanted others _ ih => exact ih positive nothing
  | case4 => cases nothing
  | case5 => cases nothing
  | case6 => cases nothing

theorem Source.dry_of_take {source rest : Source} (nothing : source.take 1 = ([], none, rest)) :
    rest.Dry := by
  unfold take at nothing
  generalize collected : Delivery.collect 1 source.deliveries = taken at nothing
  obtain ⟨bytes, failure?, left⟩ := taken
  simp only [Prod.mk.injEq, Option.or_eq_none_iff] at nothing
  obtain ⟨rfl, ⟨rfl, sound⟩, rfl⟩ := nothing
  have sound : source.broken? = none := sound
  have empty := Delivery.collect_nothing Nat.one_ne_zero collected
  simp only [Dry, take, empty, sound]
  rfl

def Operation.answerAtEnd : Operation → Except ReadError Answer
  | .advance => .ok (.header none)
  | .current => .ok (.header none)
  | .skip => .ok .done
  | .leave => .error .notInContainer
  | _ => .error .noElement

namespace Cursor

-- Where a container or the source has come to its end, nothing is left but to leave.
variable {cursor after : Cursor} {operation : Operation}

structure AtEnd (cursor : Cursor) : Prop where
  nowhere : cursor.current = none
  read : cursor.unread = 0
  last : cursor.scopes.head? = some 0 ∨ cursor.scopes = [] ∧ cursor.source.Dry

theorem readVint?_nothing (read : readVint? cursor = .ok none after) :
    after.source.Dry ∧ after = cursor.withSource after.source := by
  obtain ⟨first, between, taken, read⟩ := bind_eq_ok.mp read
  cases first with
  | nil =>
    cases read
    rw [takeBytes_eq] at taken
    split at taken
    · rename_i sound
      generalize first : cursor.source.take 1 = took at taken sound
      obtain ⟨bytes, failure?, rest⟩ := took
      cases taken
      cases sound
      exact ⟨Source.dry_of_take first, rfl⟩
    · cases taken
  | cons leading more =>
    cases lengthOf : Vint.lengthOf leading with
    | error error =>
      simp only [lengthOf] at read
      cases read
    | ok length =>
      simp only [lengthOf] at read
      obtain ⟨tail, _, _, read⟩ := bind_eq_ok.mp read
      cases decoded : Vint.decode (leading :: tail) <;> simp only [decoded] at read <;> cases read

theorem readVint?_dry (dry : cursor.source.Dry) : readVint? cursor = .ok none cursor := by
  have taken : takeBytes 1 cursor = .ok [] cursor := by
    rw [takeBytes_eq, dry]
    rfl
  exact bind_of_ok taken

theorem skipBytes_zero (id : ElementId) (cursor : Cursor) : skipBytes 0 id cursor = .ok () cursor := by
  have taken : takeBytes 0 cursor = .ok [] cursor := by
    rw [takeBytes_eq, Source.take_zero]
    rfl
  unfold skipBytes
  rw [bind_of_ok taken]
  exact refuseIf_of_not (Nat.lt_irrefl 0) cursor

theorem skip_read (read : cursor.unread = 0) : skip cursor = .ok () cursor := by
  have same : { cursor with unread := 0 } = cursor := by rw [← read]
  have parts : skip cursor =
      skipBytes cursor.unread (cursor.current.elim 0 (·.id)) { cursor with unread := 0 } := rfl
  rw [parts, same, read, skipBytes_zero]

theorem forget_nowhere (nowhere : cursor.current = none) : forget cursor = .ok () cursor := by
  have same : { cursor with current := none } = cursor := by rw [← nowhere]
  exact congrArg (EStateM.Result.ok ()) same

theorem atEnd_of_advance (ended : advance cursor = .ok none after) : after.AtEnd := by
  rw [advance_eq] at ended
  obtain ⟨_, skipped, skips, ended⟩ := bind_eq_ok.mp ended
  have read : skipped.unread = 0 := by rw [(skip_taken skips).1]
  obtain ⟨_, _, forgotten, ended⟩ := bind_eq_ok.mp ended
  cases forgotten
  obtain ⟨_, _, looked, ended⟩ := bind_eq_ok.mp ended
  cases looked
  split at ended
  · rename_i full
    cases ended
    exact ⟨rfl, read, .inl full⟩
  · obtain ⟨id?, between, idRead, ended⟩ := bind_eq_ok.mp ended
    cases id? with
    | none =>
      obtain ⟨dry, same⟩ := readVint?_nothing idRead
      obtain ⟨outside, _, rfl⟩ := endOfSource_ok ended
      refine ⟨?_, ?_, .inr ⟨outside, dry⟩⟩
      · rw [same]
        rfl
      · rw [same]
        exact read
    | some id =>
      obtain ⟨_, _, _, ended⟩ := bind_eq_ok.mp ended
      obtain ⟨_, _, _, ended⟩ := bind_eq_ok.mp ended
      cases ended

namespace AtEnd

theorem advance (atEnd : cursor.AtEnd) : Cursor.advance cursor = .ok none cursor := by
  rw [advance_eq, bind_of_ok (skip_read atEnd.read), bind_of_ok (forget_nowhere atEnd.nowhere),
    bind_of_ok (show innermost cursor = .ok cursor.scopes.head? cursor from rfl)]
  rcases atEnd.last with full | ⟨outside, dry⟩
  · rw [if_pos full]
    rfl
  · have open? : cursor.scopes.head? ≠ some 0 := by simp [outside]
    rw [if_neg open?, bind_of_ok (readVint?_dry dry)]
    simp only [endOfSource, outside]

theorem leave (atEnd : cursor.AtEnd) :
    Cursor.leave cursor =
      match cursor.scopes with
      | [] => .error .notInContainer cursor
      | _ :: outer => .ok () { cursor with scopes := outer } := by
  unfold Cursor.leave
  rw [bind_of_ok (skip_read atEnd.read), bind_of_ok (forget_nowhere atEnd.nowhere)]
  cases scopes : cursor.scopes with
  | nil =>
    refine bind_of_error ?_
    simp only [close, scopes]
  | cons left outer =>
    have closed : close cursor = .ok left { cursor with scopes := outer } := by
      simp only [close, scopes]
    have nothing : left = 0 := by simpa [scopes] using atEnd.last
    rw [bind_of_ok closed, nothing, skipBytes_zero]

theorem outcome (atEnd : cursor.AtEnd) (stays : operation = .leave → cursor.depth = 0) :
    operation.outcome cursor = (operation.answerAtEnd, cursor) := by
  cases operation with
  | advance => exact outcome_of_ok rfl atEnd.advance
  | current =>
    have seen : Operation.current.outcome cursor = (.ok (.header cursor.current), cursor) := rfl
    rw [seen, atEnd.nowhere]
    rfl
  | enter =>
    refine outcome_of_error rfl ?_
    simp only [enter, atEnd.nowhere]
  | leave =>
    have outside : cursor.scopes = [] := List.length_eq_zero_iff.mp (stays rfl)
    have refused := atEnd.leave
    rw [outside] at refused
    exact outcome_of_error leave_performs refused
  | skip =>
    have performs : Operation.skip.perform = (fun _ => .done) <$> skip := rfl
    exact outcome_of_ok performs (skip_read atEnd.read)
  | _ => exact outcome_of_error (Operation.perform_of_reads rfl) (readValue_none atEnd.nowhere)

theorem run (atEnd : cursor.AtEnd) (operations : List Operation)
    (stays : .leave ∈ operations → cursor.depth = 0) :
    Cursor.run operations cursor =
      (operations.map fun operation => ⟨operation.answerAtEnd, none, cursor.depth, cursor.position⟩,
        cursor) := by
  induction operations with
  | nil => rfl
  | cons operation others ih =>
    have first := atEnd.outcome fun leaves => stays (leaves ▸ List.mem_cons_self)
    have later := ih fun leaves => stays (List.mem_cons_of_mem _ leaves)
    simp only [Cursor.run, first, later, atEnd.nowhere, List.map_cons]

end AtEnd

-- Once there is no further element, none comes by any operation that does not leave a container:
-- each of them gives the same answer every time and takes nothing from the source. To leave is
-- of use inside of a container only.
theorem exhaustion_lasts (cursor after : Cursor) (ended : advance cursor = .ok none after) :
    (∀ operations : List Operation, (.leave ∈ operations → after.depth = 0) →
      run operations after =
        (operations.map fun operation => ⟨operation.answerAtEnd, none, after.depth, after.position⟩,
          after)) ∧
      ∀ left outer, after.scopes = left :: outer →
        left = 0 ∧ Operation.leave.outcome after = (.ok .done, { after with scopes := outer }) := by
  have atEnd := atEnd_of_advance ended
  refine ⟨atEnd.run, ?_⟩
  intro left outer inside
  have leaves := atEnd.leave
  rw [inside] at leaves
  have nothing : left = 0 := by simpa [inside] using atEnd.last
  exact ⟨nothing, outcome_of_ok leave_performs leaves⟩

theorem nested_exhaustion_lasts :
    let source : Source := ⟨[.piece 0x81 [0x82], .interrupted, .piece 0x82 [0x80], .interrupted],
      none, 0⟩
    let inner : Cursor := ⟨⟨[.interrupted], none, 4⟩, default, [0], none, 0, false⟩
    let outer : Cursor := ⟨⟨[], none, 4⟩, default, [], none, 0, false⟩
    let reads : List Operation := [.advance, .enter, .readUInt, .readValue .container, .advance]
    advance (run [.advance, .enter, .advance] (ofSource source default)).2 = .ok none inner ∧
      run reads inner = (reads.map fun operation => ⟨operation.answerAtEnd, none, 1, 4⟩, inner) ∧
      Operation.leave.outcome inner = (.ok .done, { inner with scopes := [] }) ∧
      advance { inner with scopes := [] } = .ok none outer ∧
      run (.leave :: reads) outer =
        ((Operation.leave :: reads).map fun operation => ⟨operation.answerAtEnd, none, 0, 4⟩,
          outer) := by
  intro source inner outer reads
  have ended : advance (run [.advance, .enter, .advance] (ofSource source default)).2 =
      .ok none inner := by rfl
  have finished : advance { inner with scopes := [] } = .ok none outer := by rfl
  obtain ⟨within, leaves⟩ := exhaustion_lasts _ inner ended
  obtain ⟨outside, _⟩ := exhaustion_lasts _ outer finished
  exact ⟨ended, within reads (by decide), (leaves 0 [] rfl).2, finished,
    outside (.leave :: reads) fun _ => rfl⟩

end Cursor

end Ebml
