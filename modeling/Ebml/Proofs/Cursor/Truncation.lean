import Ebml.Proofs.Cursor.Header

namespace Ebml

def ReadError.endsEarly : ReadError → Bool
  | .truncated _ _ => true
  | .vint (.unexpectedEnd _) => true
  | _ => false

theorem part_append_cases {part first second : Bytes} (cut : part <+: first ++ second) :
    part <+: first ∧ part.length < first.length ∨
      ∃ later, part = first ++ later ∧ later <+: second := by
  rcases Nat.lt_or_ge part.length first.length with short | long
  · exact .inl ⟨List.prefix_of_prefix_length_le cut (List.prefix_append _ _) (Nat.le_of_lt short),
      short⟩
  · obtain ⟨later, rfl⟩ := List.prefix_of_prefix_length_le (List.prefix_append _ _) cut long
    exact .inr ⟨later, rfl, (List.prefix_append_right_inj first).mp cut⟩

namespace Cursor

-- A cursor that meets the end of its source in the middle of a header says so, and has then
-- taken all that there was.
variable {cursor after : Cursor} {bytes : Bytes} {taken : Nat} {id size : Vint}
  {scopes : List Nat}

theorem readVint?_part {vint : Vint} (valid : vint.Valid)
    (held : cursor.source = .holding bytes taken) (part : bytes <+: vint.encode)
    (more : bytes ≠ []) (short : bytes.length < vint.length) :
    readVint? cursor = .error (.vint (.unexpectedEnd (vint.length - bytes.length)))
      { cursor with source := .holding [] (taken + bytes.length) } := by
  obtain ⟨leading, tail, rfl⟩ := List.exists_cons_of_ne_nil more
  obtain ⟨marked, incomplete⟩ := Vint.decode_part valid part short
  have all : wasted (leading :: tail) = (leading :: tail).length := if_neg marked
  rw [readVint?_held held more, incomplete, all, List.drop_length]
  rfl

theorem readHeader_part (admits : cursor.limits.Admits id size)
    (held : cursor.source = .holding bytes taken) (part : bytes <+: size.encode)
    (short : bytes.length < size.length) :
    ∃ missing, readHeader id cursor = .error (.vint (.unexpectedEnd missing))
      { cursor with source := .holding [] (taken + bytes.length) } := by
  unfold readHeader
  rw [bind_of_ok (show (get : Reading Cursor) cursor = .ok cursor cursor from rfl),
    bind_of_ok (refuseIf_of_not (Nat.not_lt.mpr admits.idShort) cursor)]
  by_cases more : bytes = []
  · subst more
    refine ⟨1, ?_⟩
    rw [bind_of_ok (readVint?_nil held), List.length_nil, Nat.add_zero, with_source_held held]
    rfl
  · exact ⟨_, bind_of_error (readVint?_part admits.sizeValid held part more short)⟩

def Exhausts {α : Type} (step : Reading α) (cursor : Cursor) (taken : Nat) : Prop :=
  ∃ error after, step cursor = .error error after ∧ error.endsEarly = true ∧
    after.source = .holding [] taken

theorem advance_nothing {missing : Nat} {outer : List Nat}
    (held : cursor.source = .holding bytes taken) (enough : cursor.unread ≤ bytes.length)
    (inside : cursor.scopes.head? ≠ some 0) (opened : cursor.scopes = missing :: outer)
    (finished : bytes.drop cursor.unread = []) :
    Exhausts advance cursor (taken + cursor.unread) := by
  have atEnd : (cursor.past bytes taken).source = .holding [] (taken + cursor.unread) :=
    congrArg (Source.holding · _) finished
  have ended : endOfSource (cursor.past bytes taken) =
      .error (.truncated 0 missing) (cursor.past bytes taken) := by
    simp only [endOfSource, past, opened]
  refine ⟨.truncated 0 missing, _, ?_, rfl, atEnd⟩
  rw [advance_past held enough inside, bind_of_ok (readVint?_nil atEnd)]
  exact ended

theorem advance_id_part (admits : cursor.limits.Admits id size)
    (held : cursor.source = .holding bytes taken) (enough : cursor.unread ≤ bytes.length)
    (inside : cursor.scopes.head? ≠ some 0) (part : bytes.drop cursor.unread <+: id.encode)
    (more : bytes.drop cursor.unread ≠ [])
    (short : (bytes.drop cursor.unread).length < id.encode.length) :
    Exhausts advance cursor (taken + cursor.unread + (bytes.drop cursor.unread).length) := by
  have atId : (cursor.past bytes taken).source =
      .holding (bytes.drop cursor.unread) (taken + cursor.unread) := rfl
  rw [Vint.encode_length] at short
  have failed := readVint?_part admits.idValid atId part more short
  exact ⟨.vint (.unexpectedEnd _), _,
    (advance_past held enough inside).trans (bind_of_error failed), rfl, rfl⟩

theorem advance_size_part {later : Bytes} (admits : cursor.limits.Admits id size)
    (held : cursor.source = .holding bytes taken) (enough : cursor.unread ≤ bytes.length)
    (inside : cursor.scopes.head? ≠ some 0) (ahead : bytes.drop cursor.unread = id.encode ++ later)
    (part : later <+: size.encode) (short : later.length < size.encode.length) :
    Exhausts advance cursor (taken + cursor.unread + (bytes.drop cursor.unread).length) := by
  have atId : (cursor.past bytes taken).source =
      .holding (id.encode ++ later) (taken + cursor.unread) := congrArg (Source.holding · _) ahead
  have atSize : ({ cursor.past bytes taken with
      source := .holding later (taken + cursor.unread + id.length) } : Cursor).limits.Admits
        id size := admits
  rw [Vint.encode_length] at short
  obtain ⟨missing, failed⟩ := readHeader_part atSize rfl part short
  have moved := (advance_past held enough inside).trans
    ((bind_of_ok (readVint?_encode admits.idValid atId)).trans (bind_of_error failed))
  refine ⟨.vint (.unexpectedEnd missing), _, moved, rfl, ?_⟩
  rw [ahead, List.length_append, Vint.encode_length, ← Nat.add_assoc]

theorem advance_part (admits : cursor.limits.Admits id size)
    (held : cursor.source = .holding bytes taken) (enough : cursor.unread ≤ bytes.length)
    (part : bytes.drop cursor.unread <+: id.encode ++ size.encode)
    (short : (bytes.drop cursor.unread).length < (id.encode ++ size.encode).length)
    (room : cursor.scopes = widen (id.length + size.length + size.value) scopes) :
    cursor.scopes = [] ∧ bytes.drop cursor.unread = [] ∨
      Exhausts advance cursor (taken + bytes.length) := by
  have positive := admits.idValid.positive
  have inside : cursor.scopes.head? ≠ some 0 := by
    have some : 0 < id.length + size.length + size.value := by omega
    rw [room]
    exact widen_head_pos some scopes
  have total : taken + bytes.length =
      taken + cursor.unread + (bytes.drop cursor.unread).length := by
    rw [List.length_drop]
    omega
  rw [total]
  rcases part_append_cases part with ⟨part, inId⟩ | ⟨later, ahead, part⟩
  · by_cases finished : bytes.drop cursor.unread = []
    · cases opened : cursor.scopes with
      | nil => exact .inl ⟨rfl, finished⟩
      | cons missing outer =>
        rw [finished]
        exact .inr (advance_nothing held enough inside opened finished)
    · exact .inr (advance_id_part admits held enough inside part finished inId)
  · rw [ahead, List.length_append, List.length_append, Nat.add_lt_add_iff_left] at short
    exact .inr (advance_size_part admits held enough inside ahead part short)

end Cursor

end Ebml
