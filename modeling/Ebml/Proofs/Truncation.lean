import Ebml.Builtin
import Ebml.Proofs.Cursor.Truncation
import Ebml.Proofs.Walk

namespace Ebml

namespace Forest

-- Where a document may be cut between its outermost elements. No encoding of an element starts
-- that of another, so that a cut between them is one in the bytes alone.
variable {schema : Schema} {limits : Limits} {forest : Forest}

def elements : Forest → List Bytes
  | .empty => []
  | .unknown id size body rest => (id.encode ++ (size.encode ++ body)) :: rest.elements
  | .value id size payload _ rest => (id.encode ++ (size.encode ++ payload)) :: rest.elements
  | .container id size children rest =>
    (id.encode ++ (size.encode ++ children.encode)) :: rest.elements

def EndsAt (forest : Forest) (count : Nat) : Prop :=
  ∃ initial, initial <+: forest.elements ∧ initial.flatten.length = count

theorem elements_flatten (forest : Forest) : forest.elements.flatten = forest.encode := by
  induction forest with
  | empty => rfl
  | _ => simp_all [elements, encode]

def Whole (element : Bytes) : Prop :=
  ∃ id size body, id.Valid ∧ size.Valid ∧ size.value = body.length ∧
    element = Vint.encode id ++ (Vint.encode size ++ body)

theorem elements_whole (wellFormed : forest.WellFormed schema limits) :
    ∀ element ∈ forest.elements, Whole element := by
  induction wellFormed with
  | empty => nofun
  | unknown admits length _ _ ih =>
    exact List.forall_mem_cons.mpr ⟨⟨_, _, _, admits.idValid, admits.sizeValid, length, rfl⟩, ih⟩
  | value admits length _ _ _ ih =>
    exact List.forall_mem_cons.mpr ⟨⟨_, _, _, admits.idValid, admits.sizeValid, length, rfl⟩, ih⟩
  | container admits length _ _ _ _ _ ih =>
    exact List.forall_mem_cons.mpr ⟨⟨_, _, _, admits.idValid, admits.sizeValid, length, rfl⟩, ih⟩

theorem Whole.ne_nil {element : Bytes} (whole : Whole element) : element ≠ [] := by
  obtain ⟨id, size, body, idValid, _, _, rfl⟩ := whole
  intro none
  have length := congrArg List.length none
  have positive := idValid.positive
  rw [List.length_append, Vint.encode_length, List.length_nil] at length
  omega

theorem Whole.unique {one other rest rest' : Bytes} (whole : Whole one) (whole' : Whole other)
    (same : one ++ rest = other ++ rest') : one = other := by
  obtain ⟨id, size, body, idValid, sizeValid, length, rfl⟩ := whole
  obtain ⟨id', size', body', idValid', sizeValid', length', rfl⟩ := whole'
  simp only [List.append_assoc] at same
  obtain ⟨rfl, afterId⟩ := Vint.encode_append_inj idValid idValid' same
  obtain ⟨rfl, afterSize⟩ := Vint.encode_append_inj sizeValid sizeValid' afterId
  rw [(List.append_inj afterSize (length.symm.trans length')).1]

theorem prefix_of_flatten {initial all : List Bytes} (whole : ∀ element ∈ initial, Whole element)
    (whole' : ∀ element ∈ all, Whole element) (part : initial.flatten <+: all.flatten) :
    initial <+: all := by
  induction initial generalizing all with
  | nil => exact List.nil_prefix
  | cons first others ih =>
    rw [List.forall_mem_cons] at whole
    obtain ⟨missing, same⟩ := part
    rw [List.flatten_cons, List.append_assoc] at same
    cases all with
    | nil => exact absurd (List.append_eq_nil_iff.mp same).1 whole.1.ne_nil
    | cons first' others' =>
      rw [List.forall_mem_cons] at whole'
      rw [List.flatten_cons] at same
      obtain rfl := whole.1.unique whole'.1 same
      rw [List.prefix_cons_inj]
      exact ih whole.2 whole'.2 ⟨missing, List.append_cancel_left same⟩

theorem initial_of_cons {element : Bytes} {others initial : List Bytes} (build : Forest → Forest)
    (builds : ∀ first : Forest, first.WellFormed schema limits →
      (build first).WellFormed schema limits ∧ (build first).encode = element ++ first.encode)
    (shorter : ∀ initial, initial <+: others →
      ∃ first : Forest, first.WellFormed schema limits ∧ first.encode = initial.flatten)
    (part : initial <+: element :: others) :
    ∃ first : Forest, first.WellFormed schema limits ∧ first.encode = initial.flatten := by
  rcases List.prefix_cons_iff.mp part with rfl | ⟨tail, rfl, inside⟩
  · exact ⟨.empty, .empty, rfl⟩
  · obtain ⟨first, wellFormed, encoded⟩ := shorter tail inside
    obtain ⟨built, encodes⟩ := builds first wellFormed
    exact ⟨build first, built, by rw [encodes, encoded, List.flatten_cons]⟩

theorem initial_wellFormed (wellFormed : forest.WellFormed schema limits) {initial : List Bytes}
    (part : initial <+: forest.elements) :
    ∃ first : Forest, first.WellFormed schema limits ∧ first.encode = initial.flatten := by
  induction wellFormed generalizing initial with
  | empty => exact ⟨.empty, .empty, by rw [List.prefix_nil.mp part]; rfl⟩
  | @unknown id size body _ admits length undefined _ ih =>
    refine initial_of_cons (.unknown id size body) ?_ (fun _ => ih) part
    exact fun _ wellFormed => ⟨.unknown admits length undefined wellFormed, by simp [encode]⟩
  | @value id size payload read _ _ admits length defined spells _ ih =>
    refine initial_of_cons (.value id size payload read) ?_ (fun _ => ih) part
    exact fun _ wellFormed => ⟨.value admits length defined spells wellFormed, by simp [encode]⟩
  | @container id size children _ _ admits length defined nests inside _ _ ih =>
    refine initial_of_cons (.container id size children) ?_ (fun _ => ih) part
    exact fun _ wellFormed =>
      ⟨.container admits length defined nests inside wellFormed, by simp [encode]⟩

end Forest

namespace Walk

variable {schema : Schema} {limits : Limits} {scopes : List Nat} {bytes rest : Bytes}
  {events : List Event} {cursor after : Cursor} {taken : Nat}

structure CutShort (walk : Walk) (events : List Event) (taken : Nat) : Prop where
  events : walk.events <+: events
  source : walk.cursor.source = .holding [] taken
  failure : ∀ error ∈ walk.failure?, error.endsEarly = true

theorem CutShort.failed {error : ReadError} (early : error.endsEarly = true)
    (exhausted : after.source = .holding [] taken) :
    CutShort ⟨[], some error, after⟩ events taken where
  events := List.nil_prefix
  source := exhausted
  failure := by
    rintro _ ⟨⟩
    exact early

theorem CutShort.cons {walk : Walk} (cut : CutShort walk events taken) (event : Event) :
    CutShort { walk with events := event :: walk.events } (event :: events) taken where
  events := (List.prefix_cons_inj event).mpr cut.events
  source := cut.source
  failure := cut.failure

theorem ofCursor_of_advance_error {error : ReadError}
    (failed : Cursor.advance cursor = .error error after) :
    ofCursor schema cursor = ⟨[], some error, after⟩ := by
  rw [ofCursor_eq, failed]

theorem ofCursor_of_visit_error {header : Header} {error : ReadError} {last : Cursor}
    (moved : Cursor.advance cursor = .ok (some header) after)
    (failed : visit schema header after = .error error last) :
    ofCursor schema cursor = ⟨[], some error, last⟩ := by
  rw [ofCursor_eq, moved]
  simp only [failed]

theorem ofCursor_short (held : cursor.source = .holding bytes taken)
    (short : bytes.length < cursor.unread) :
    CutShort (ofCursor schema cursor) events (taken + bytes.length) := by
  have failed : Cursor.advance cursor = .error _ _ :=
    Cursor.bind_of_error (Cursor.skip_short held short)
  rw [ofCursor_of_advance_error failed]
  exact .failed rfl rfl

theorem visit_value_short (header : Header) (cursor : Cursor) {definition : Definition}
    (defined : schema.definition? header.id = some definition)
    (plain : definition.type ≠ .container) (held : cursor.source = .holding bytes taken)
    (current : cursor.current = some header) (fresh : cursor.consumed = false)
    (short : bytes.length < header.size) :
    visit schema header cursor = .error (.truncated header.id (header.size - bytes.length))
      (cursor.took header bytes taken) := by
  have noContainer : ¬definition.isContainer = true := by
    simpa [Definition.isContainer] using plain
  simp only [visit, defined]
  rw [if_neg noContainer]
  exact Cursor.bind_of_error (Cursor.readValue_short plain held current fresh short)

theorem ofCursor_of_header_part {id size : Vint} {tail : Bytes}
    (admits : cursor.limits.Admits id size) (held : cursor.source = .holding bytes taken)
    (enough : cursor.unread ≤ bytes.length)
    (room : cursor.scopes = Cursor.widen (id.length + size.length + size.value) scopes)
    (part : bytes.drop cursor.unread <+: id.encode ++ (size.encode ++ tail))
    (beyond : ∀ later, bytes.drop cursor.unread = id.encode ++ (size.encode ++ later) →
      later <+: tail → CutShort (ofCursor schema cursor) events (taken + bytes.length)) :
    CutShort (ofCursor schema cursor) events (taken + bytes.length) := by
  rw [← List.append_assoc] at part
  rcases part_append_cases part with ⟨part, short⟩ | ⟨later, ahead, part⟩
  · rcases Cursor.advance_part admits held enough part short room with
      ⟨outside, finished⟩ | ⟨error, after, failed, early, exhausted⟩
    · obtain ⟨last, walked, source⟩ := ofCursor_of_reads .done rfl outside held enough finished
      rw [walked]
      exact ⟨List.nil_prefix, source, nofun⟩
    · rw [ofCursor_of_advance_error failed]
      exact .failed early exhausted
  · exact beyond later (by rw [ahead, List.append_assoc]) part

theorem CutShort.header {id size : Vint} {content : Content} {next : Cursor} {later : Bytes}
    (admits : cursor.limits.Admits id size) (held : cursor.source = .holding bytes taken)
    (enough : cursor.unread ≤ bytes.length)
    (room : cursor.scopes = Cursor.widen (id.length + size.length + size.value) scopes)
    (ahead : bytes.drop cursor.unread = id.encode ++ (size.encode ++ later))
    (visited : visit schema (.ofVints id size cursor.depth)
      (cursor.onto id size scopes later taken) =
        .ok (.told schema id.value cursor.depth content) next)
    (cut : CutShort (ofCursor schema next) events
      (taken + cursor.unread + id.length + size.length + later.length)) :
    CutShort (ofCursor schema cursor) (.told schema id.value scopes.length content :: events)
      (taken + bytes.length) := by
  rw [ofCursor_of_header admits held enough ahead room visited rfl, ← length_ahead enough ahead]
  exact cut.cons _

theorem ofCursor_of_part (reads : Reads schema limits scopes rest events)
    (configured : cursor.limits = limits) (inside : cursor.scopes = scopes)
    (held : cursor.source = .holding bytes taken) (enough : cursor.unread ≤ bytes.length)
    (part : bytes.drop cursor.unread <+: rest) :
    CutShort (ofCursor schema cursor) events (taken + bytes.length) := by
  induction reads generalizing cursor bytes taken with
  | done =>
    obtain ⟨last, walked, source⟩ := ofCursor_of_reads .done configured inside held enough
      (List.prefix_nil.mp part)
    rw [walked]
    exact ⟨List.prefix_rfl, source, nofun⟩
  | @close outer rest events following ih =>
    have cut := @ih _ { cursor.past bytes taken with scopes := outer } _ configured rfl rfl
      (Nat.zero_le _) part
    rw [List.length_drop, Nat.add_assoc, Nat.add_sub_cancel' enough] at cut
    rw [ofCursor_of_full inside held enough]
    exact cut
  | @unknown id size scopes body rest events admits length undefined following ih =>
    subst configured
    refine ofCursor_of_header_part admits held enough inside part fun later ahead part => ?_
    have visited := visit_unknown (.ofVints id size cursor.depth)
      (cursor.onto id size scopes later taken) undefined
    refine .header admits held enough inside ahead visited ?_
    rcases part_append_cases part with ⟨_, short⟩ | ⟨beyond, rfl, remaining⟩
    · rw [← length] at short
      exact ofCursor_short rfl short
    · refine @ih _ (cursor.onto id size scopes (body ++ beyond) taken) _ rfl rfl rfl ?_ ?_
      · rw [List.length_append, ← length]
        exact Nat.le_add_right _ _
      · exact (List.drop_left' length.symm).symm ▸ remaining
  | @value id size scopes payload rest events definition read admits length defined spells
      following ih =>
    subst configured
    refine ofCursor_of_header_part admits held enough inside part fun later ahead part => ?_
    rcases part_append_cases part with ⟨_, short⟩ | ⟨beyond, rfl, remaining⟩
    · have moved := Cursor.advance_header admits held enough ahead inside
      rw [← length] at short
      have failed := visit_value_short (.ofVints id size cursor.depth)
        (cursor.onto id size scopes later taken) defined spells.plain rfl rfl rfl short
      rw [ofCursor_of_visit_error moved failed]
      refine .failed rfl ?_
      simp only [Cursor.took, Header.ofVints]
      rw [List.drop_eq_nil_of_le (Nat.le_of_lt short), List.take_of_length_le (Nat.le_of_lt short),
        length_ahead enough ahead]
    · have visited := visit_value_spelled cursor scopes beyond taken length defined spells
      refine .header admits held enough inside ahead visited ?_
      have passed : (payload ++ beyond).drop size.value = beyond := List.drop_left' length.symm
      have cut := @ih _ ((cursor.onto id size scopes (payload ++ beyond) taken).took
        (.ofVints id size cursor.depth) (payload ++ beyond)
        (taken + cursor.unread + id.length + size.length)) _ rfl rfl rfl (Nat.zero_le _)
        (passed.symm ▸ remaining)
      rw [Nat.add_assoc _ (List.length _), ← List.length_append, List.take_append_drop] at cut
      exact cut
  | @enter id size scopes rest events definition admits defined nests following ih =>
    subst configured
    refine ofCursor_of_header_part admits held enough inside part fun later ahead part => ?_
    have visited := visit_container (.ofVints id size cursor.depth)
      (cursor.onto id size scopes later taken) defined nests rfl rfl
    refine .header admits held enough inside ahead visited ?_
    exact ih rfl rfl rfl (Nat.zero_le _) part

theorem ofBytes_of_wellFormed {forest : Forest} (wellFormed : forest.WellFormed schema limits) :
    (ofCursor schema (.ofSource (.ofBytes forest.encode) limits)).failure? = none := by
  have held : (Cursor.ofSource (.ofBytes forest.encode) limits).source = .holding forest.encode 0 :=
    Source.ofBytes_eq forest.encode
  have reads := Reads.forest wellFormed .done
  rw [List.append_nil] at reads
  obtain ⟨last, walked, _⟩ := ofCursor_of_reads reads rfl rfl held (Nat.zero_le _) rfl
  rw [walked]

theorem wellFormed_of_ofBytes
    (complete : (ofCursor schema (.ofSource (.ofBytes bytes) limits)).failure? = none) :
    ∃ forest : Forest, forest.WellFormed schema limits ∧ forest.encode = bytes := by
  obtain ⟨_, reads⟩ := reads_of_ofCursor (Source.ofBytes_eq bytes) complete
  exact reads.layers.outermost

theorem complete_iff_endsAt {forest : Forest} (wellFormed : forest.WellFormed schema limits)
    {count : Nat} (within : count ≤ forest.encode.length) :
    (ofCursor schema (.ofSource (.ofBytes (forest.encode.take count)) limits)).failure? = none ↔
      forest.EndsAt count := by
  constructor
  · intro complete
    obtain ⟨first, wellFormed', encoded⟩ := wellFormed_of_ofBytes complete
    have part : first.elements.flatten <+: forest.elements.flatten := by
      rw [Forest.elements_flatten, Forest.elements_flatten, encoded]
      exact List.take_prefix _ _
    refine ⟨first.elements, Forest.prefix_of_flatten (Forest.elements_whole wellFormed')
      (Forest.elements_whole wellFormed) part, ?_⟩
    rw [Forest.elements_flatten, encoded, List.length_take_of_le within]
  · rintro ⟨initial, part, rfl⟩
    obtain ⟨first, wellFormed', encoded⟩ := Forest.initial_wellFormed wellFormed part
    obtain ⟨missing, joined⟩ := part
    rw [← Forest.elements_flatten, ← joined, List.flatten_append, List.take_left, ← encoded]
    exact ofBytes_of_wellFormed wellFormed'

-- Whatever is missing at the end of a document, the walk tells what there is of it and takes
-- all the bytes. It fails for want of more bytes, unless what is missing are whole elements.
theorem truncation_noticed (schema : Schema) (limits : Limits) {bytes : Bytes}
    (complete : (ofCursor schema (.ofSource (.ofBytes bytes) limits)).failure? = none) :
    ∃ forest : Forest, forest.WellFormed schema limits ∧ forest.encode = bytes ∧
      ∀ count ≤ bytes.length,
        let walk := ofCursor schema (.ofSource (.ofBytes (bytes.take count)) limits)
        CutShort walk (ofCursor schema (.ofSource (.ofBytes bytes) limits)).events count ∧
          (walk.failure? = none ↔ forest.EndsAt count) := by
  obtain ⟨forest, wellFormed, rfl⟩ := wellFormed_of_ofBytes complete
  refine ⟨forest, wellFormed, rfl, ?_⟩
  intro count within
  refine ⟨?_, complete_iff_endsAt wellFormed within⟩
  have held : (Cursor.ofSource (.ofBytes (forest.encode.take count)) limits).source =
      .holding (forest.encode.take count) 0 := Source.ofBytes_eq _
  have reads : Reads schema limits [] forest.encode
      (ofCursor schema (.ofSource (.ofBytes forest.encode) limits)).events :=
    (reads_of_ofCursor (Source.ofBytes_eq forest.encode) complete).2
  have cut := ofCursor_of_part reads rfl rfl held (Nat.zero_le _) (List.take_prefix _ _)
  rw [List.length_take_of_le within, Nat.zero_add] at cut
  exact cut

def versioned : Bytes :=
  [0x1a, 0x45, 0xdf, 0xa3, 0x84, 0x42, 0x86, 0x81, 0x01, 0x81, 0x81, 0x00]

theorem truncation_noticed_between_children :
    ∃ forest : Forest, forest.WellFormed Builtin.schema default ∧ forest.encode = versioned ∧
      ¬forest.EndsAt 5 ∧ forest.EndsAt 9 ∧
      CutShort (ofCursor Builtin.schema (.ofSource (.ofBytes (versioned.take 5)) default))
        (ofCursor Builtin.schema (.ofSource (.ofBytes versioned) default)).events 5 := by
  have complete : (ofCursor Builtin.schema (.ofSource (.ofBytes versioned) default)).failure? =
      none := by decide +kernel
  have failed : (ofCursor Builtin.schema
      (.ofSource (.ofBytes (versioned.take 5)) default)).failure? ≠ none := by decide +kernel
  have ended : (ofCursor Builtin.schema
      (.ofSource (.ofBytes (versioned.take 9)) default)).failure? = none := by decide +kernel
  obtain ⟨forest, wellFormed, encoded, cut⟩ := truncation_noticed Builtin.schema default complete
  obtain ⟨early, endsEarly⟩ := cut 5 (by decide)
  obtain ⟨_, endsWhole⟩ := cut 9 (by decide)
  exact ⟨forest, wellFormed, encoded, fun ends => failed (endsEarly.mpr ends),
    endsWhole.mp ended, early⟩

end Walk

end Ebml
