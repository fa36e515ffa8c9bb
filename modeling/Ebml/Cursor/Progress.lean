import Ebml.Cursor

namespace Ebml.Cursor

-- No step gives bytes back to the source, and a header takes two of them or more. Of all
-- steps only entering and leaving a container change the depth.
theorem bind_eq_ok {α β : Type} {step : Reading α} {next : α → Reading β} {before after : Cursor}
    {result : β} :
    (step >>= next) before = .ok result after ↔
      ∃ value between, step before = .ok value between ∧ next value between = .ok result after := by
  change EStateM.bind step next before = _ ↔ _
  unfold EStateM.bind
  constructor
  · intro done
    split at done
    · exact ⟨_, _, ‹_›, done⟩
    · cases done
  · rintro ⟨value, between, stepped, rest⟩
    rw [stepped]
    exact rest

def Takes {α : Type} (count : α → Nat) (step : Reading α) : Prop :=
  ∀ before value after, step before = .ok value after →
    after.source.pending + count value ≤ before.source.pending ∧ after.depth = before.depth

namespace Takes

variable {α β : Type}

theorem bind {count : α → Nat} {total : β → Nat} {step : Reading α} {next : α → Reading β}
    (one : Takes count step)
    (two : ∀ value, Takes (fun result => total result - count value) (next value)) :
    Takes total (step >>= next) := by
  intro before result after done
  obtain ⟨value, between, stepped, rest⟩ := bind_eq_ok.mp done
  have here := one before value between stepped
  have there := two value between result after rest
  dsimp only at there
  omega

theorem pure {count : α → Nat} {value : α} (none : count value = 0) :
    Takes count (pure value) := by
  intro before result after done
  cases done
  exact ⟨by omega, rfl⟩

theorem throw {count : α → Nat} {error : ReadError} : Takes count (throw error) := by
  intro before result after done
  cases done

theorem get {count : Cursor → Nat} (none : ∀ cursor, count cursor = 0) :
    Takes count (get : Reading Cursor) := by
  intro before result after done
  cases done
  exact ⟨by rw [none]; omega, rfl⟩

end Takes

theorem refuseIf_takes (condition : Prop) [Decidable condition] (error : ReadError) :
    Takes (fun _ => 0) (refuseIf condition error) := by
  unfold refuseIf
  split
  · exact Takes.throw
  · exact Takes.pure rfl

theorem takeBytes_takes (wanted : Nat) : Takes List.length (takeBytes wanted) := by
  intro before value after done
  have pending := before.source.take_pending wanted
  unfold takeBytes at done
  split at done
  · rename_i taken
    cases done
    rw [taken] at pending
    exact ⟨by simp only at pending ⊢; omega, rfl⟩
  · cases done

theorem skipBytes_takes (count : Nat) (id : ElementId) :
    Takes (fun _ => 0) (skipBytes count id) := by
  unfold skipBytes
  refine Takes.bind (takeBytes_takes count) fun skipped => ?_
  simpa using refuseIf_takes _ _

theorem readVint?_takes : Takes (fun vint? => if vint?.isSome then 1 else 0) readVint? := by
  unfold readVint?
  refine Takes.bind (takeBytes_takes 1) fun first => ?_
  rcases first with _ | ⟨leading, more⟩
  · exact Takes.pure rfl
  · dsimp only
    split
    · exact Takes.throw
    · refine Takes.bind (takeBytes_takes _) fun tail => ?_
      split
      · exact Takes.pure (by simp only [Option.isSome_some, if_true, List.length_cons]; omega)
      · exact Takes.throw

theorem skip_takes : Takes (fun _ => 0) skip := by
  intro before value after done
  exact skipBytes_takes _ _ { before with unread := 0 } value after done

theorem forget_takes : Takes (fun _ => 0) forget := by
  intro before value after done
  cases done
  exact ⟨Nat.le_refl _, rfl⟩

theorem charge_takes (id : ElementId) (headerLength size : Nat) :
    Takes (fun _ => 0) (charge id headerLength size) := by
  intro before value after done
  unfold charge at done
  split at done
  · cases done
    exact ⟨Nat.le_refl _, rfl⟩
  · rename_i left outer scopes
    dsimp only at done
    split at done
    · cases done
    · cases done
      exact ⟨Nat.le_refl _, by simp [depth, scopes]⟩

theorem readHeader_takes (id : Vint) : Takes (fun _ => 1) (readHeader id) := by
  unfold readHeader
  refine Takes.bind (@Takes.get (fun _ => 0) fun _ => rfl) fun cursor => ?_
  refine Takes.bind (refuseIf_takes _ _) fun _ => ?_
  refine Takes.bind readVint?_takes fun size? => ?_
  cases size? with
  | none => exact Takes.throw
  | some size =>
    refine Takes.bind (refuseIf_takes _ _) fun _ => ?_
    refine Takes.bind (refuseIf_takes _ _) fun _ => ?_
    exact Takes.bind (charge_takes _ _ _) fun _ => Takes.pure rfl

theorem endOfSource_takes :
    Takes (fun header? => if header?.isSome then 2 else 0) endOfSource := by
  intro before value after done
  unfold endOfSource at done
  split at done <;> cases done
  exact ⟨Nat.le_refl _, rfl⟩

theorem moveTo_takes (header : Header) : Takes (fun _ => 0) (moveTo header) := by
  intro before value after done
  cases done
  exact ⟨Nat.le_refl _, rfl⟩

theorem advance_takes :
    Takes (fun header? => if header?.isSome then 2 else 0) advance := by
  unfold advance
  refine Takes.bind skip_takes fun _ => ?_
  refine Takes.bind forget_takes fun _ => ?_
  refine Takes.bind (@Takes.get (fun _ => 0) fun _ => rfl) fun cursor => ?_
  split
  · exact Takes.pure rfl
  · refine Takes.bind readVint?_takes fun id? => ?_
    cases id? with
    | none => simpa using endOfSource_takes
    | some id =>
      refine Takes.bind (readHeader_takes id) fun header => ?_
      exact Takes.bind (moveTo_takes header) fun _ => Takes.pure rfl

theorem startPayload_takes : Takes (fun _ => 0) startPayload := by
  intro before value after done
  unfold startPayload at done
  split at done
  · cases done
  · split at done <;> cases done
    exact ⟨Nat.le_refl _, rfl⟩

theorem takePayload_takes : Takes (fun _ => 0) takePayload := by
  unfold takePayload
  refine Takes.bind startPayload_takes fun header => ?_
  refine Takes.bind (takeBytes_takes _) fun payload => ?_
  simpa using Takes.bind (refuseIf_takes _ _) fun _ => Takes.pure rfl

theorem readPayload_takes {α : Type} (type : ElementType) (decode : Bytes → Nat → Decoded α) :
    Takes (fun _ => 0) (readPayload type decode) := by
  refine Takes.bind takePayload_takes fun (header, payload) => ?_
  dsimp only
  split
  · exact Takes.pure rfl
  · exact Takes.throw

theorem readString_takes : Takes (fun _ => 0) readString := by
  refine Takes.bind takePayload_takes fun (header, payload) => ?_
  dsimp only
  split
  · exact Takes.pure rfl
  · exact Takes.throw

theorem refuseContainer_takes {α : Type} : Takes (fun _ => 0) (refuseContainer (α := α)) := by
  intro before value after done
  unfold refuseContainer at done
  split at done <;> cases done

theorem readValue_takes (type : ElementType) : Takes (fun _ => 0) (readValue type) := by
  cases type
  case string => exact Takes.bind readString_takes fun _ => Takes.pure rfl
  case container => exact refuseContainer_takes
  all_goals exact Takes.bind (readPayload_takes _ _) fun _ => Takes.pure rfl

theorem enter_deepens {before after : Cursor} {value : Unit}
    (entered : enter before = .ok value after) :
    after.source.pending = before.source.pending ∧ after.depth = before.depth + 1 := by
  unfold enter at entered
  split at entered
  · cases entered
  · split at entered <;> cases entered
    exact ⟨rfl, rfl⟩

theorem leave_rises {before after : Cursor} {value : Unit}
    (left : leave before = .ok value after) :
    after.source.pending ≤ before.source.pending ∧ after.depth + 1 = before.depth := by
  obtain ⟨_, skipped, skips, rest⟩ := bind_eq_ok.mp left
  obtain ⟨_, forgotten, forgets, rest⟩ := bind_eq_ok.mp rest
  obtain ⟨count, closed, closes, rest⟩ := bind_eq_ok.mp rest
  have first := skip_takes before _ skipped skips
  have second := forget_takes skipped _ forgotten forgets
  have fourth := skipBytes_takes count 0 closed value after rest
  have third : closed.source.pending = forgotten.source.pending ∧
      closed.depth + 1 = forgotten.depth := by
    unfold close at closes
    split at closes
    · cases closes
    · rename_i scopes
      cases closes
      exact ⟨rfl, by simp [depth, scopes]⟩
  dsimp only at first second fourth
  omega

end Ebml.Cursor
