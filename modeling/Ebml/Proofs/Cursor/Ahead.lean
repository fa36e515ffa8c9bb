import Ebml.Proofs.Cursor.Delivery
import Ebml.Proofs.Cursor.Header

namespace Ebml.Cursor

-- What a step does where the bytes that come next are known, whatever delivers them and whatever
-- comes after them.
variable {α : Type} {cursor : Cursor} {known : Bytes} {id size : Vint}

-- The bytes that a cursor meets past what is unread of the current element.
def Meets (cursor : Cursor) (ahead : Bytes) : Prop :=
  ∃ skipped : Bytes, skipped.length = cursor.unread ∧ cursor.source.Begins (skipped ++ ahead)

def atHand (cursor : Cursor) (known : Bytes) : Cursor :=
  cursor.withSource (.holding (known ++ [0]) cursor.position)

theorem ahead_of_held {step : Reading α} (inStep : ∀ matching, InStep matching step)
    (begins : cursor.source.Begins known) {ending : Ending α}
    (held : step (cursor.atHand known) = ending)
    (within : ending.last.position ≤ cursor.position + known.length) :
    ∃ source, step cursor = ending.withSource source := by
  subst held
  have same : (Source.sameUpTo (cursor.position + known.length) [0] (by decide)).alike
      (cursor.atHand known).source cursor.source :=
    ⟨known, rfl, rfl, begins⟩
  rcases (inStep _).agrees _ cursor.source same with passed | ⟨source, other, _⟩
  · exact absurd within (Nat.not_le.mpr passed)
  · exact ⟨source, other⟩

theorem atHand_source (cursor : Cursor) (known : Bytes) :
    (cursor.atHand known).source = .holding (known ++ [0]) cursor.position := rfl

theorem atHand_drop {skipped : Bytes} (unread : skipped.length = cursor.unread) (ahead : Bytes) :
    (skipped ++ ahead ++ [0]).drop (cursor.atHand (skipped ++ ahead)).unread = ahead ++ [0] := by
  rw [List.append_assoc]
  exact List.drop_left' unread

theorem atHand_enough {skipped : Bytes} (unread : skipped.length = cursor.unread)
    (ahead : Bytes) :
    (cursor.atHand (skipped ++ ahead)).unread ≤ (skipped ++ ahead ++ [0]).length := by
  change cursor.unread ≤ _
  rw [List.append_assoc, List.length_append, unread]
  exact Nat.le_add_right _ _

theorem widen_of_fits {count : Nat} (fits : ∀ left ∈ cursor.scopes.head?, count ≤ left) :
    ∃ scopes, cursor.scopes = widen count scopes := by
  cases inside : cursor.scopes with
  | nil => exact ⟨[], rfl⟩
  | cons left outer =>
    have enough := fits left (by rw [inside]; rfl)
    exact ⟨(left - count) :: outer, by rw [widen, Nat.sub_add_cancel enough]⟩

theorem advance_ahead (admits : cursor.limits.Admits id size)
    (ahead : cursor.Meets (id.encode ++ size.encode))
    (fits : ∀ left ∈ cursor.scopes.head?, id.length + size.length + size.value ≤ left) :
    ∃ after, advance cursor = .ok (some (.ofVints id size cursor.depth)) after := by
  obtain ⟨skipped, unread, begins⟩ := ahead
  obtain ⟨scopes, room⟩ := widen_of_fits fits
  have dropped := atHand_drop unread (id.encode ++ size.encode)
  rw [List.append_assoc id.encode] at dropped
  have admits : (cursor.atHand (skipped ++ (id.encode ++ size.encode))).limits.Admits id size :=
    admits
  have held := advance_header admits (atHand_source cursor _) (atHand_enough unread _) dropped room
  obtain ⟨source, advanced⟩ := ahead_of_held advance_inStep begins held (by
    change cursor.position + cursor.unread + id.length + size.length ≤ _
    simp only [List.length_append, Vint.encode_length]
    omega)
  exact ⟨_, advanced⟩

theorem advance_idTooLong_held {bytes rest : Bytes} {taken : Nat} (valid : id.Valid)
    (long : cursor.limits.maxIdLength < id.length) (held : cursor.source = .holding bytes taken)
    (enough : cursor.unread ≤ bytes.length)
    (ahead : bytes.drop cursor.unread = id.encode ++ rest) (inside : cursor.scopes.head? ≠ some 0) :
    advance cursor = .error (.idTooLong id.length cursor.limits.maxIdLength)
      { cursor.past bytes taken with
        source := .holding rest (taken + cursor.unread + id.length) } := by
  have atId : (cursor.past bytes taken).source =
      .holding (id.encode ++ rest) (taken + cursor.unread) :=
    congrArg (Source.holding · _) ahead
  rw [advance_past held enough inside, bind_of_ok (readVint?_encode valid atId)]
  refine bind_of_error ?_
  unfold readHeader
  rw [bind_of_ok (show (get : Reading Cursor) _ = .ok _ _ from rfl)]
  exact bind_of_error (refuseIf_of _ long _)

theorem advance_idTooLong (valid : id.Valid) (long : cursor.limits.maxIdLength < id.length)
    (ahead : cursor.Meets id.encode) (inside : cursor.scopes.head? ≠ some 0) :
    ∃ after, advance cursor =
      .error (.idTooLong id.length cursor.limits.maxIdLength) after := by
  obtain ⟨skipped, unread, begins⟩ := ahead
  have long : (cursor.atHand (skipped ++ id.encode)).limits.maxIdLength < id.length := long
  have held := advance_idTooLong_held valid long (atHand_source cursor _) (atHand_enough unread _)
    (atHand_drop unread _) inside
  obtain ⟨source, advanced⟩ := ahead_of_held advance_inStep begins held (by
    change cursor.position + cursor.unread + id.length ≤ _
    rw [List.length_append, Vint.encode_length]
    omega)
  exact ⟨_, advanced⟩

end Ebml.Cursor
