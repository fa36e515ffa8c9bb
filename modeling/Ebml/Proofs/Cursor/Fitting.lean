import Ebml.Proofs.Cursor.Ahead
import Ebml.Proofs.Cursor.Invariant
import Ebml.Proofs.Cursor.Limits

namespace Ebml

namespace Header

def idVint (header : Header) : Vint := ⟨header.id, header.idLength⟩

def sizeVint (header : Header) : Vint := ⟨header.size, header.sizeLength⟩

-- An element that the bytes ahead start with, and that the innermost container has room for if
-- there is one.
structure Fits (limits : Limits) (room? : Option Nat) (ahead : Bytes) (header : Header) : Prop where
  notFull : room? ≠ some 0
  starts : header.idVint.encode ++ header.sizeVint.encode <+: ahead
  admits : limits.Admits header.idVint header.sizeVint
  within : ∀ room ∈ room?, header.span ≤ room

end Header

namespace Cursor

-- To move on is to find just the headers that fit, whatever has been done to the cursor before.
variable {α : Type} {cursor after : Cursor} {bytes document : Bytes} {taken : Nat}
  {header : Header}

theorem ended_iff {scopes : List Nat} {rest : Bytes} :
    Ended scopes rest ↔ scopes.head? = some 0 ∨ scopes.head? = none ∧ rest = [] := by
  rw [Ended, List.head?_eq_none_iff]

theorem moved_none_iff :
    (∃ after, Moved cursor bytes taken none after) ↔
      Ended cursor.scopes (bytes.drop cursor.unread) := by
  constructor
  · rintro ⟨_, ⟨last⟩⟩
    exact last
  · exact fun last => ⟨_, .ended last⟩

theorem moved_header_iff :
    (∃ after, Moved cursor bytes taken (some header) after) ↔
      header.Fits cursor.limits cursor.scopes.head? (bytes.drop cursor.unread) ∧
        header.depth = cursor.depth := by
  constructor
  · rintro ⟨_, moved⟩
    cases moved with
    | @header id size rest scopes admits ahead room =>
      have someId := admits.idValid.positive
      have positive : 0 < id.length + size.length + size.value := by omega
      refine ⟨⟨?_, ?_, admits, ?_⟩, rfl⟩
      · rw [room]
        exact widen_head_pos positive scopes
      · exact ⟨rest, by rw [ahead, List.append_assoc]; rfl⟩
      · intro left first
        obtain ⟨outer, inside⟩ := List.head?_eq_some_iff.mp first
        exact (widened_cons (inside ▸ room)).1
  · rintro ⟨⟨_, ⟨rest, ahead⟩, admits, within⟩, deep⟩
    obtain ⟨scopes, room⟩ := widen_of_fits within
    rw [List.append_assoc] at ahead
    have same : header = .ofVints header.idVint header.sizeVint cursor.depth := by
      rw [← deep]
      rfl
    rw [same]
    exact ⟨_, .header admits ahead.symm room⟩

-- The charge as a machine makes it, with 64 bits for each of the numbers. Only the first of the
-- two subtractions stops at zero.
def chargeWord (left headerLength size : UInt64) : Option UInt64 :=
  let available := if headerLength ≤ left then left - headerLength else 0
  if available < size ∨ left < headerLength then none else some (left - (headerLength + size))

theorem chargeWord_toNat {left headerLength size : UInt64}
    (total : headerLength.toNat + size.toNat < 2 ^ 64) :
    (chargeWord left headerLength size).map (·.toNat) =
      if headerLength.toNat + size.toNat ≤ left.toNat then
        some (left.toNat - (headerLength.toNat + size.toNat))
      else none := by
  have sum : (headerLength + size).toNat = headerLength.toNat + size.toNat := by
    rw [UInt64.toNat_add]
    exact Nat.mod_eq_of_lt total
  unfold chargeWord
  by_cases covered : headerLength ≤ left
  · have available : (left - headerLength).toNat = left.toNat - headerLength.toNat :=
      UInt64.toNat_sub_of_le _ _ covered
    rw [UInt64.le_iff_toNat_le] at covered
    simp only [UInt64.le_iff_toNat_le, UInt64.lt_iff_toNat_lt, if_pos covered, available]
    by_cases fits : headerLength.toNat + size.toNat ≤ left.toNat
    · have charged : (left - (headerLength + size)).toNat =
          left.toNat - (headerLength.toNat + size.toNat) := by
        rw [UInt64.toNat_sub_of_le _ _ (by rwa [UInt64.le_iff_toNat_le, sum]), sum]
      rw [if_neg (by omega), if_pos fits, Option.map_some, charged]
    · rw [if_pos (by omega), if_neg fits, Option.map_none]
  · rw [UInt64.le_iff_toNat_le, Nat.not_le] at covered
    rw [if_pos (.inr (UInt64.lt_iff_toNat_lt.mpr covered)), if_neg (by omega), Option.map_none]

theorem chargeWord_eq {left headerLength size : Nat} (small : left < 2 ^ 64)
    (total : headerLength + size < 2 ^ 64) :
    (chargeWord (.ofNat left) (.ofNat headerLength) (.ofNat size)).map (·.toNat) =
      if headerLength + size ≤ left then some (left - (headerLength + size)) else none := by
  have leftWord := UInt64.toNat_ofNat_of_lt' small
  have headerWord : (UInt64.ofNat headerLength).toNat = headerLength :=
    UInt64.toNat_ofNat_of_lt' (Nat.lt_of_le_of_lt (Nat.le_add_right _ size) total)
  have sizeWord : (UInt64.ofNat size).toNat = size :=
    UInt64.toNat_ofNat_of_lt' (Nat.lt_of_le_of_lt (Nat.le_add_left _ headerLength) total)
  rw [chargeWord_toNat (by rw [headerWord, sizeWord]; exact total), leftWord, headerWord, sizeWord]

-- What moving on to a header has done to a cursor over a document: so many bytes are taken, and
-- so much room is left in the innermost container.
structure MovedOnto (document : Bytes) (cursor : Cursor) (header : Header) (after : Cursor) :
    Prop where
  current : after.current = some header
  unread : after.unread = header.size
  fresh : after.consumed = false
  position : after.position =
    cursor.position + cursor.unread + (header.idLength + header.sizeLength)
  ahead : after.source.Delivers (document.drop after.position)
  inside : ∀ left outer, cursor.scopes = left :: outer →
    header.span ≤ left ∧ after.scopes = (left - header.span) :: outer
  outside : cursor.scopes = [] → after.scopes = []

def whole (cursor : Cursor) (bytes : Bytes) : Cursor :=
  cursor.withSource (.holding bytes cursor.position)

theorem whole_source (cursor : Cursor) (bytes : Bytes) :
    (cursor.whole bytes).source = .holding bytes cursor.position := rfl

theorem delivered_of_whole {step : Reading α} (inStep : InStep Source.sameBytes step)
    (delivers : cursor.source.Delivers bytes) :
    ∃ source, step cursor = Ending.withSource (step (cursor.whole bytes)) source ∧
      Source.sameBytes.alike (Ending.last (step (cursor.whole bytes))).source source := by
  have same : Source.sameBytes.alike (cursor.whole bytes).source cursor.source :=
    ⟨bytes, rfl, delivers⟩
  rcases inStep.agrees _ cursor.source same with gone | agrees
  · exact gone.elim
  · exact agrees

theorem Ending.of_withSource_ok {ending : Ending α} {source : Source} {value : α}
    (same : ending.withSource source = .ok value after) :
    ∃ last, ending = .ok value last ∧ after = last.withSource source := by
  cases ending <;> cases same
  exact ⟨_, rfl, rfl⟩

theorem Ending.of_withSource_error {ending : Ending α} {source : Source} {error : ReadError}
    (same : ending.withSource source = .error error after) :
    ∃ last, ending = .error error last ∧ after = last.withSource source := by
  cases ending <;> cases same
  exact ⟨_, rfl, rfl⟩

theorem advance_moved_iff {header? : Option Header} (delivers : cursor.source.Delivers bytes)
    (enough : cursor.unread ≤ bytes.length) :
    (∃ after, advance cursor = .ok header? after) ↔
      ∃ after, Moved (cursor.whole bytes) bytes cursor.position header? after := by
  obtain ⟨source, same, _⟩ := delivered_of_whole (advance_inStep _) delivers
  rw [same]
  constructor
  · rintro ⟨after, found⟩
    obtain ⟨last, held, _⟩ := Ending.of_withSource_ok found
    exact ⟨last, (advance_ok rfl held).2⟩
  · rintro ⟨after, moved⟩
    rw [(advance_eq_ok_iff (whole_source cursor bytes)).mpr ⟨enough, moved⟩]
    exact ⟨_, rfl⟩

theorem advance_movedOnto (midway : cursor.source.Midway document)
    (advanced : advance cursor = .ok (some header) after) :
    MovedOnto document cursor header after := by
  have ahead := advance_midway cursor midway
  rw [advanced] at ahead
  obtain ⟨source, same, alike⟩ := delivered_of_whole (advance_inStep _) midway.rest
  obtain ⟨last, held, rfl⟩ := Ending.of_withSource_ok (same.symm.trans advanced)
  rw [held] at alike
  have position := Source.sameBytes.position alike
  cases (advance_ok rfl held).2 with
  | @header id size rest scopes admits begins room =>
    refine ⟨rfl, rfl, rfl, ?_, ahead.rest, ?_, ?_⟩
    · exact position.symm.trans (Nat.add_assoc _ _ _)
    · intro left outer inside
      exact widened_cons (inside ▸ room)
    · intro outside
      exact widened_nil (outside ▸ room)

theorem advance_error_forgets {error : ReadError} (delivers : cursor.source.Delivers bytes)
    (enough : cursor.unread ≤ bytes.length) (failed : advance cursor = .error error after) :
    after.current = none := by
  obtain ⟨source, same, _⟩ := delivered_of_whole (advance_inStep _) delivers
  obtain ⟨last, held, rfl⟩ := Ending.of_withSource_error (same.symm.trans failed)
  rcases (advance_error rfl held).2 with ⟨short, _⟩ | ⟨_, onward⟩
  · exact absurd enough (Nat.not_le.mpr short)
  · exact onward.current

theorem ofSource_midway (limits : Limits) {source : Source} (fresh : source.taken = 0)
    (delivers : source.Delivers document) : (ofSource source limits).source.Midway document := by
  constructor
  · rw [show (ofSource source limits).source = source from rfl, fresh]
    exact Nat.zero_le _
  · rw [show (ofSource source limits).source = source from rfl, fresh]
    exact delivers

theorem ofSource_bounded (source : Source) (limits : Limits) : (ofSource source limits).Bounded :=
  ⟨Nat.two_pow_pos 56, nofun⟩

-- Wherever a cursor has come to, as long as the payload under it is complete, it moves on to the
-- header that the bytes after that payload start with if the limits and the innermost container
-- admit it, and to none else. There is none where they have come to their end, and all other
-- bytes are refused. What is left in the container comes out the same in words of 64 bits.
theorem advance_finds_what_fits (document : Bytes) (source : Source) (limits : Limits)
    (fresh : source.taken = 0) (delivers : source.Delivers document) (earlier : List Operation)
    (cursor : Cursor) (reached : (run earlier (ofSource source limits)).2 = cursor)
    (complete : cursor.position + cursor.unread ≤ document.length) (ahead : Bytes)
    (follows : document.drop (cursor.position + cursor.unread) = ahead) :
    ((∃ after, advance cursor = .ok none after) ↔
      cursor.scopes.head? = some 0 ∨ cursor.scopes.head? = none ∧ ahead = []) ∧
    (∀ header, (∃ after, advance cursor = .ok (some header) after) ↔
      header.Fits limits cursor.scopes.head? ahead ∧ header.depth = cursor.depth) ∧
    (∀ header after, advance cursor = .ok (some header) after →
      MovedOnto document cursor header after) ∧
    (¬(cursor.scopes.head? = some 0 ∨ cursor.scopes.head? = none ∧ ahead = []) →
      (∀ header : Header, ¬header.Fits limits cursor.scopes.head? ahead) →
        ∃ error after, advance cursor = .error error after ∧ after.current = none) ∧
    ∀ left ∈ cursor.scopes.head?, left < 2 ^ 64 ∧ ∀ id size : Vint, id.Valid → size.Valid →
      (chargeWord (.ofNat left) (.ofNat (id.length + size.length)) (.ofNat size.value)).map
          (·.toNat) =
        if id.length + size.length + size.value ≤ left then
          some (left - (id.length + size.length + size.value))
        else none := by
  have midway := run_midway earlier (ofSource_midway limits fresh delivers)
  have bounded := run_bounded earlier (ofSource_bounded source limits)
  have same := (run_keeps earlier (ofSource_heeds source limits)).2.same
  rw [reached] at midway bounded same
  have delivers := midway.rest
  have enough : cursor.unread ≤ (document.drop cursor.source.taken).length := by
    rw [List.length_drop]
    exact Nat.le_sub_of_add_le' complete
  have rest : (document.drop cursor.source.taken).drop cursor.unread = ahead := by
    rw [List.drop_drop]
    exact follows
  have ended : (∃ after, advance cursor = .ok none after) ↔
      cursor.scopes.head? = some 0 ∨ cursor.scopes.head? = none ∧ ahead = [] := by
    rw [advance_moved_iff delivers enough, moved_none_iff, ended_iff, ← rest]
    rfl
  have found : ∀ header, (∃ after, advance cursor = .ok (some header) after) ↔
      header.Fits limits cursor.scopes.head? ahead ∧ header.depth = cursor.depth := by
    intro header
    rw [advance_moved_iff delivers enough, moved_header_iff, ← rest, ← same]
    rfl
  refine ⟨ended, found, fun _ _ => advance_movedOnto midway, ?_, ?_⟩
  · intro further none
    cases advanced : advance cursor with
    | error error after => exact ⟨error, after, rfl, advance_error_forgets delivers enough advanced⟩
    | ok header? after =>
      cases header? with
      | none => exact absurd (ended.mp ⟨after, advanced⟩) further
      | some header => exact absurd ((found header).mp ⟨after, advanced⟩).1 (none header)
  · intro left innermost
    obtain ⟨outer, inside⟩ := List.head?_eq_some_iff.mp innermost
    have room := bounded.scopes left (by rw [inside]; exact List.mem_cons_self)
    have small : left < 2 ^ 64 := by omega
    refine ⟨small, fun id size idValid sizeValid => chargeWord_eq small ?_⟩
    have idShort := idValid.short
    have sizeShort := sizeValid.short
    have sizeSmall := sizeValid.value_lt
    omega

theorem last_child_found :
    let document : Bytes := [0x81, 0x87, 0x82, 0x81, 0xAA, 0x40, 0x02, 0x40, 0x00]
    let source : Source := ⟨[.piece 0x81 [0x87, 0x82], .interrupted, .piece 0x81 [0xAA, 0x40],
      .interrupted, .piece 0x02 [0x40], .piece 0x00 []], none, 0⟩
    let cursor := (run [.advance, .enter, .advance] (ofSource source default)).2
    let header : Header := ⟨2, 0, 2, 2, 1⟩
    source.taken = 0 ∧ source.Delivers document ∧
      cursor.position + cursor.unread ≤ document.length ∧ cursor.scopes = [4] ∧
      ∃ after, advance cursor = .ok (some header) after ∧
        MovedOnto document cursor header after ∧ after.scopes = [0] := by
  intro document source cursor header
  have delivers : source.Delivers document := ⟨by decide, by decide, rfl⟩
  have complete : cursor.position + cursor.unread ≤ document.length := by decide +kernel
  have inside : cursor.scopes = [4] := by decide +kernel
  have follows : document.drop (cursor.position + cursor.unread) = [0x40, 0x02, 0x40, 0x00] := by
    decide +kernel
  obtain ⟨_, found, moved, _, _⟩ := advance_finds_what_fits document source default rfl delivers
    [.advance, .enter, .advance] cursor rfl complete _ follows
  have fits : header.Fits default cursor.scopes.head? [0x40, 0x02, 0x40, 0x00] := by
    rw [inside]
    refine ⟨by decide, ⟨[], by decide +kernel⟩, ?_, by decide⟩
    exact ⟨⟨by decide, by decide, by decide⟩, ⟨by decide, by decide, by decide⟩, by decide,
      by decide, by decide⟩
  have deep : header.depth = cursor.depth := by rw [depth, inside]; rfl
  obtain ⟨after, advanced⟩ := (found header).mpr ⟨fits, deep⟩
  have onto := moved header after advanced
  exact ⟨rfl, delivers, complete, inside, after, advanced, onto, (onto.inside 4 [] inside).2⟩

end Cursor

end Ebml
