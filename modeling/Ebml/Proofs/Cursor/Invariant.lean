import Ebml.Proofs.Cursor.Delivery

namespace Ebml

-- A source that has so far given the beginning of a document and delivers what is left of it.
structure Source.Midway (document : Bytes) (source : Source) : Prop where
  within : source.taken ≤ document.length
  rest : source.Delivers (document.drop source.taken)

theorem Source.Midway.take {document : Bytes} {source : Source} (midway : source.Midway document)
    (wanted : Nat) : (source.take wanted).2.2.Midway document := by
  obtain ⟨within, ready, unfailing, sound⟩ := midway
  obtain ⟨rest, taken, after, still⟩ := take_ready (.inr ⟨unfailing, sound⟩)
  rw [taken]
  constructor
  · change source.taken + _ ≤ _
    rw [ready, List.length_take, List.length_drop]
    omega
  · refine ⟨?_, still unfailing, sound⟩
    change Delivery.ready rest = document.drop (source.taken + _)
    rw [after, ready, List.drop_drop, List.length_take, List.drop_eq_drop_min, List.length_drop]
    congr 1
    omega

namespace Cursor

-- What holds of a cursor at first and is kept by every part of the operations holds always.
variable {α β : Type} {inv : Cursor → Prop} {cursor : Cursor} {document : Bytes}

def Lasts (inv : Cursor → Prop) (step : Reading α) : Prop :=
  ∀ before, inv before → inv (Ending.last (step before))

theorem Lasts.bind {step : Reading α} {next : α → Reading β} (one : Lasts inv step)
    (two : ∀ value, Returns step value → Lasts inv (next value)) : Lasts inv (step >>= next) := by
  intro before holds
  have first := one before holds
  cases stepped : step before with
  | ok value between =>
    rw [stepped] at first
    rw [bind_of_ok stepped]
    exact two value ⟨before, between, stepped⟩ between first
  | error error between =>
    rw [stepped] at first
    rw [bind_of_error stepped]
    exact first

theorem readHeader_lasts (parts : Compositional (Lasts inv)) (id : Vint) :
    Lasts inv (readHeader id) :=
  parts.readHeader (fun _ holds => holds) id

theorem run_lasts (parts : Compositional (Lasts inv)) (operations : List Operation)
    (holds : inv cursor) : inv (run operations cursor).2 := by
  induction operations generalizing cursor with
  | nil => exact holds
  | cons operation others ih =>
    have kept : inv (operation.outcome cursor).2 := by
      rw [outcome_last]
      exact parts.perform (readHeader_lasts parts) operation cursor holds
    exact ih kept

theorem midway_of_blind {step : Reading α} (blind : Blind step) :
    Lasts (fun cursor => cursor.source.Midway document) step := by
  intro before midway
  rw [(blind.keeps before).1]
  exact midway

theorem midway_parts : Compositional (Lasts fun cursor => cursor.source.Midway document) := by
  refine .of_blind midway_of_blind .bind ?_
  intro wanted before midway
  rw [takeBytes_source]
  exact midway.take wanted

theorem advance_midway : Lasts (fun cursor => cursor.source.Midway document) advance :=
  midway_parts.advance (readHeader_lasts midway_parts)

theorem run_midway (operations : List Operation) (midway : cursor.source.Midway document) :
    (run operations cursor).2.source.Midway document :=
  run_lasts midway_parts operations midway

-- Sizes come from numbers of 56 bits at most, and what is left of them only gets less.
structure Bounded (cursor : Cursor) : Prop where
  unread : cursor.unread < 2 ^ 56
  scopes : ∀ left ∈ cursor.scopes, left < 2 ^ 56

theorem enter_bounded : Lasts Bounded enter := by
  intro before bounded
  unfold enter
  split
  · exact bounded
  · split
    · exact bounded
    · exact ⟨Nat.two_pow_pos 56, List.forall_mem_cons.mpr ⟨bounded.unread, bounded.scopes⟩⟩

theorem close_bounded : Lasts Bounded close := by
  intro before bounded
  unfold close
  split
  · exact bounded
  · rename_i left outer inside
    refine ⟨bounded.unread, fun more present => bounded.scopes more ?_⟩
    rw [inside]
    exact List.mem_cons_of_mem _ present

theorem startPayload_bounded : Lasts Bounded startPayload := by
  intro before bounded
  unfold startPayload
  split
  · exact bounded
  · split
    · exact bounded
    · exact ⟨Nat.two_pow_pos 56, bounded.scopes⟩

theorem charge_bounded (id : ElementId) (headerLength size : Nat) :
    Lasts Bounded (charge id headerLength size) := by
  intro before bounded
  unfold charge
  split
  · exact bounded
  · rename_i left outer inside
    dsimp only
    split
    · exact bounded
    · have all := bounded.scopes
      rw [inside] at all
      obtain ⟨first, others⟩ := List.forall_mem_cons.mp all
      have less : left - (headerLength + size) < 2 ^ 56 := by omega
      exact ⟨bounded.unread, List.forall_mem_cons.mpr ⟨less, others⟩⟩

theorem bounded_parts : Compositional (Lasts Bounded) where
  pure _ := fun _ bounded => bounded
  throw _ := fun _ bounded => bounded
  bind := .bind
  takeBytes wanted := by
    intro before bounded
    rw [takeBytes_eq]
    split <;> exact ⟨bounded.unread, bounded.scopes⟩
  startSkip := fun _ bounded => ⟨Nat.two_pow_pos 56, bounded.scopes⟩
  forget := fun _ bounded => ⟨bounded.unread, bounded.scopes⟩
  innermost := fun _ bounded => bounded
  endOfSource := by
    intro before bounded
    unfold endOfSource
    split <;> exact bounded
  moveTo small := fun _ bounded => ⟨small, bounded.scopes⟩
  current := fun _ bounded => bounded
  enter := enter_bounded
  close := close_bounded
  charge := charge_bounded
  startPayload := startPayload_bounded
  refuseContainer := by
    intro before bounded
    unfold refuseContainer
    split <;> exact bounded

theorem run_bounded (operations : List Operation) (bounded : cursor.Bounded) :
    (run operations cursor).2.Bounded :=
  run_lasts bounded_parts operations bounded

end Cursor

end Ebml
