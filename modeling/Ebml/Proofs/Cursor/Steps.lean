import Ebml.Cursor.Progress
import Ebml.Proofs.Source
import Ebml.Proofs.Vint

namespace Ebml

structure Limits.Admits (limits : Limits) (id size : Vint) : Prop where
  idValid : id.Valid
  sizeValid : size.Valid
  idShort : id.length ≤ limits.maxIdLength
  sizeShort : size.length ≤ limits.maxSizeLength
  known : size.value + 1 ≠ 2 ^ (7 * size.length)

namespace Cursor

-- What each step does over a source that has all its bytes at hand: first where its
-- answer is known beforehand, then what an answer says about the bytes.
variable {α β : Type} {cursor before between after : Cursor} {bytes rest : Bytes} {taken : Nat}

theorem bind_of_ok {step : Reading α} {next : α → Reading β} {value : α}
    (stepped : step before = .ok value between) : (step >>= next) before = next value between := by
  change EStateM.bind step next before = _
  rw [EStateM.bind, stepped]

theorem bind_of_error {step : Reading α} {next : α → Reading β} {error : ReadError}
    (failed : step before = .error error after) : (step >>= next) before = .error error after := by
  change EStateM.bind step next before = _
  rw [EStateM.bind, failed]

theorem refuseIf_of_not {condition : Prop} [Decidable condition] {error : ReadError}
    (allowed : ¬condition) (cursor : Cursor) : refuseIf condition error cursor = .ok () cursor := by
  rw [refuseIf, if_neg allowed]
  rfl

theorem refuseIf_of {condition : Prop} [Decidable condition] (error : ReadError)
    (refused : condition) (cursor : Cursor) :
    refuseIf condition error cursor = .error error cursor := by
  rw [refuseIf, if_pos refused]
  rfl

theorem refuseIf_ok {condition : Prop} [Decidable condition] {error : ReadError} {value : Unit}
    (passed : refuseIf condition error before = .ok value after) : ¬condition ∧ after = before := by
  unfold refuseIf at passed
  split at passed
  · cases passed
  · rename_i allowed
    cases passed
    exact ⟨allowed, rfl⟩

theorem takeBytes_held (held : cursor.source = .holding bytes taken) (wanted : Nat) :
    takeBytes wanted cursor = .ok (bytes.take wanted) { cursor with
      source := .holding (bytes.drop wanted) (taken + (bytes.take wanted).length) } := by
  unfold takeBytes
  rw [held, Source.take_holding]

theorem skipBytes_enough (held : cursor.source = .holding bytes taken) {count : Nat}
    (enough : count ≤ bytes.length) (id : ElementId) :
    skipBytes count id cursor = .ok () { cursor with
      source := .holding (bytes.drop count) (taken + count) } := by
  have length : (bytes.take count).length = count := List.length_take_of_le enough
  unfold skipBytes
  rw [bind_of_ok (takeBytes_held held count), refuseIf_of_not (by omega), length]

theorem skipBytes_short (held : cursor.source = .holding bytes taken) {count : Nat}
    (short : bytes.length < count) (id : ElementId) :
    skipBytes count id cursor = .error (.truncated id (count - bytes.length)) { cursor with
      source := .holding [] (taken + bytes.length) } := by
  have all : bytes.take count = bytes := List.take_of_length_le (Nat.le_of_lt short)
  have none : bytes.drop count = [] := List.drop_eq_nil_of_le (Nat.le_of_lt short)
  unfold skipBytes
  rw [bind_of_ok (takeBytes_held held count), all, none, refuseIf_of _ short]

theorem skipBytes_ok (held : cursor.source = .holding bytes taken) {count : Nat} {id : ElementId}
    {value : Unit} (skipped : skipBytes count id cursor = .ok value after) :
    count ≤ bytes.length ∧ after = { cursor with
      source := .holding (bytes.drop count) (taken + count) } := by
  rcases Nat.lt_or_ge bytes.length count with short | enough
  · rw [skipBytes_short held short] at skipped
    cases skipped
  · rw [skipBytes_enough held enough] at skipped
    cases skipped
    exact ⟨enough, rfl⟩

theorem skip_enough (held : cursor.source = .holding bytes taken)
    (enough : cursor.unread ≤ bytes.length) :
    skip cursor = .ok () { cursor with
      unread := 0
      source := .holding (bytes.drop cursor.unread) (taken + cursor.unread) } := by
  have stays : ({ cursor with unread := 0 } : Cursor).source = .holding bytes taken := held
  exact skipBytes_enough stays enough _

theorem skip_short (held : cursor.source = .holding bytes taken)
    (short : bytes.length < cursor.unread) :
    skip cursor =
      .error (.truncated (cursor.current.elim 0 (·.id)) (cursor.unread - bytes.length)) { cursor with
        unread := 0
        source := .holding [] (taken + bytes.length) } := by
  have stays : ({ cursor with unread := 0 } : Cursor).source = .holding bytes taken := held
  exact skipBytes_short stays short _

theorem skip_ok (held : cursor.source = .holding bytes taken) {value : Unit}
    (skipped : skip cursor = .ok value after) :
    cursor.unread ≤ bytes.length ∧ after = { cursor with
      unread := 0
      source := .holding (bytes.drop cursor.unread) (taken + cursor.unread) } := by
  have stays : ({ cursor with unread := 0 } : Cursor).source = .holding bytes taken := held
  exact skipBytes_ok stays skipped

theorem with_source_held (held : cursor.source = .holding bytes taken) :
    { cursor with source := .holding bytes taken } = cursor := by
  rw [← held]

theorem readVint?_nil (held : cursor.source = .holding [] taken) :
    readVint? cursor = .ok none cursor := by
  have unchanged := with_source_held held
  unfold readVint?
  rw [bind_of_ok (takeBytes_held held 1)]
  simp only [List.drop_nil, List.take_nil, List.length_nil, Nat.add_zero, unchanged]
  rfl

def wasted : Bytes → Nat
  | [] => 0
  | leading :: tail => if Vint.leadingZeros leading = 8 then 1 else tail.length + 1

theorem readVint?_cons {leading : UInt8} {tail : Bytes}
    (held : cursor.source = .holding (leading :: tail) taken) {zeros : Nat} (few : zeros < 8)
    (counted : Vint.leadingZeros leading = zeros) :
    readVint? cursor =
      match Vint.decode (leading :: tail.take zeros) with
      | .ok (vint, _) => .ok (some vint) { cursor with
          source := .holding (tail.drop zeros) (taken + 1 + (tail.take zeros).length) }
      | .error error => .error (.vint error) { cursor with
          source := .holding (tail.drop zeros) (taken + 1 + (tail.take zeros).length) } := by
  have first : takeBytes 1 cursor = .ok [leading] { cursor with
      source := .holding tail (taken + 1) } := takeBytes_held held 1
  have lengthOf : Vint.lengthOf leading = .ok (zeros + 1) := by
    rw [Vint.lengthOf, counted, if_neg (Nat.ne_of_lt few)]
  have others : takeBytes zeros { cursor with source := .holding tail (taken + 1) } =
      .ok (tail.take zeros) { cursor with
        source := .holding (tail.drop zeros) (taken + 1 + (tail.take zeros).length) } :=
    takeBytes_held rfl zeros
  unfold readVint?
  rw [bind_of_ok first]
  simp only [lengthOf, Nat.add_sub_cancel]
  rw [bind_of_ok others]
  cases Vint.decode (leading :: tail.take zeros) <;> rfl

theorem readVint?_held (held : cursor.source = .holding bytes taken) (more : bytes ≠ []) :
    readVint? cursor =
      match Vint.decode bytes with
      | .ok (vint, rest) =>
        .ok (some vint) { cursor with source := .holding rest (taken + vint.length) }
      | .error error =>
        .error (.vint error) { cursor with
          source := .holding (bytes.drop (wasted bytes)) (taken + wasted bytes) } := by
  cases bytes with
  | nil => contradiction
  | cons leading tail =>
    have bound := Vint.leadingZeros_le leading
    generalize counted : Vint.leadingZeros leading = zeros at bound
    rcases Nat.lt_or_eq_of_le bound with few | rfl
    · rw [readVint?_cons held few counted]
      rcases Nat.lt_or_ge tail.length zeros with short | enough
      · have all : tail.take zeros = tail := List.take_of_length_le (Nat.le_of_lt short)
        have failed : Vint.decode (leading :: tail) =
            .error (.unexpectedEnd (zeros - tail.length)) := by
          simp [Vint.decode, counted, Nat.ne_of_lt few, short]
        have none : tail.drop zeros = [] := List.drop_eq_nil_of_le (Nat.le_of_lt short)
        have sum : taken + 1 + tail.length = taken + (tail.length + 1) := by omega
        rw [all, none, failed, sum]
        simp [wasted, counted, Nat.ne_of_lt few]
      · have length : (tail.take zeros).length = zeros := List.length_take_of_le enough
        have sum : taken + 1 + zeros = taken + (zeros + 1) := by omega
        rw [Vint.decode_cons few counted enough,
          Vint.decode_cons few counted (Nat.le_of_eq length.symm), length, sum,
          List.take_take, Nat.min_self]
    · have first : takeBytes 1 cursor = .ok [leading] { cursor with
          source := .holding tail (taken + 1) } := takeBytes_held held 1
      have failed : Vint.decode (leading :: tail) = .error .invalidLength := by
        simp [Vint.decode, counted]
      unfold readVint?
      rw [bind_of_ok first, failed]
      simp only [Vint.lengthOf, counted, wasted]
      rfl

theorem readVint?_encode {vint : Vint} (valid : vint.Valid)
    (held : cursor.source = .holding (vint.encode ++ rest) taken) :
    readVint? cursor =
      .ok (some vint) { cursor with source := .holding rest (taken + vint.length) } := by
  have more : vint.encode ++ rest ≠ [] := by
    intro empty
    have length := congrArg List.length empty
    have positive := valid.positive
    rw [List.length_append, Vint.encode_length, List.length_nil] at length
    omega
  rw [readVint?_held held more, Vint.decode_encode valid]

theorem readVint?_some (held : cursor.source = .holding bytes taken) {vint : Vint}
    (read : readVint? cursor = .ok (some vint) after) :
    vint.Valid ∧ ∃ rest, bytes = vint.encode ++ rest ∧
      after = { cursor with source := .holding rest (taken + vint.length) } := by
  by_cases more : bytes = []
  · subst more
    rw [readVint?_nil held] at read
    cases read
  · rw [readVint?_held held more] at read
    split at read
    · rename_i decoded
      cases read
      obtain ⟨valid, split⟩ := Vint.decode_sound decoded
      exact ⟨valid, _, split, rfl⟩
    · cases read

theorem readVint?_none (held : cursor.source = .holding bytes taken)
    (read : readVint? cursor = .ok none after) : bytes = [] ∧ after = cursor := by
  by_cases more : bytes = []
  · subst more
    rw [readVint?_nil held] at read
    cases read
    exact ⟨rfl, rfl⟩
  · rw [readVint?_held held more] at read
    split at read <;> cases read

end Cursor

end Ebml
