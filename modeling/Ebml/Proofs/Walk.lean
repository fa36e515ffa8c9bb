import Ebml.Proofs.Cursor.Value
import Ebml.Proofs.Reads

namespace Ebml.Walk

-- Every step of a walk does what the relation on the bytes ahead says, and the walk ends
-- without a failure only where the bytes do.
variable {schema : Schema} {limits : Limits} {scopes : List Nat} {bytes rest : Bytes}
  {events : List Event} {cursor after : Cursor} {taken : Nat}

theorem ofCursor_eq (schema : Schema) (cursor : Cursor) :
    ofCursor schema cursor =
      match Cursor.advance cursor with
      | .error error after => ⟨[], some error, after⟩
      | .ok none after =>
        if cursor.depth = 0 then ⟨[], none, after⟩
        else match Cursor.leave after with
          | .error error last => ⟨[], some error, last⟩
          | .ok () next => ofCursor schema next
      | .ok (some header) after =>
        match visit schema header after with
        | .error error last => ⟨[], some error, last⟩
        | .ok event next =>
          { ofCursor schema next with events := event :: (ofCursor schema next).events } := by
  rw [ofCursor]
  split
  · rename_i advanced
    simp only [advanced]
  · rename_i advanced
    simp only [advanced]
    by_cases outside : cursor.depth = 0
    · rw [if_pos outside, if_pos outside]
    · rw [if_neg outside, if_neg outside]
      split <;> rename_i left <;> simp only [left]
  · rename_i advanced
    simp only [advanced]
    split <;> rename_i visited <;> simp only [visited]

theorem visit_unknown (header : Header) (cursor : Cursor)
    (undefined : schema.definition? header.id = none) :
    visit schema header cursor =
      .ok (.told schema header.id header.depth .unknown) cursor := by
  simp only [visit, undefined, Event.told, Option.map_none]
  rfl

theorem visit_container (header : Header) (cursor : Cursor) {definition : Definition}
    (defined : schema.definition? header.id = some definition)
    (nests : definition.type = .container) (current : cursor.current = some header)
    (fresh : cursor.consumed = false) :
    visit schema header cursor = .ok (.told schema header.id header.depth .container) { cursor with
      scopes := cursor.unread :: cursor.scopes
      unread := 0
      current := none } := by
  have container : definition.isContainer = true := by
    rw [Definition.isContainer, nests]
    rfl
  simp only [visit, defined]
  rw [if_pos container, Cursor.bind_of_ok (Cursor.enter_fresh current fresh)]
  simp only [Event.told, defined, Option.map_some]
  rfl

theorem visit_value_iff (header : Header) (cursor : Cursor) {definition : Definition}
    {event : Event}
    (defined : schema.definition? header.id = some definition)
    (plain : definition.type ≠ .container) (held : cursor.source = .holding bytes taken)
    (current : cursor.current = some header) (fresh : cursor.consumed = false) :
    visit schema header cursor = .ok event after ↔
      ∃ read, header.size ≤ bytes.length ∧
        Spells definition.type (bytes.take header.size) read ∧
        event = .told schema header.id header.depth (.value read) ∧
        after = cursor.took header bytes taken := by
  have noContainer : ¬definition.isContainer = true := by
    simpa [Definition.isContainer] using plain
  have told : ∀ read, Event.told schema header.id header.depth (.value read) =
      ⟨header.id, some definition.name, header.depth, .value read,
        definition.range?.map (·.admitsValue read)⟩ := by
    intro read
    simp only [Event.told, defined, Option.map_some, Option.bind_some]
  simp only [visit, defined]
  rw [if_neg noContainer, Cursor.bind_eq_ok]
  constructor
  · rintro ⟨read, between, done, answered⟩
    obtain ⟨enough, spells, rfl⟩ := (Cursor.readValue_eq_ok_iff held current fresh).mp done
    cases answered
    exact ⟨read, enough, spells, (told read).symm, rfl⟩
  · rintro ⟨read, enough, spells, rfl, rfl⟩
    refine ⟨read, _, (Cursor.readValue_eq_ok_iff held current fresh).mpr ⟨enough, spells, rfl⟩, ?_⟩
    rw [told]
    rfl

theorem visit_value_spelled (cursor : Cursor) (scopes : List Nat) (rest : Bytes) (taken : Nat)
    {id size : Vint} {payload : Bytes} {definition : Definition} {read : Value}
    (length : size.value = payload.length)
    (defined : schema.definition? id.value = some definition)
    (spells : Spells definition.type payload read) :
    visit schema (.ofVints id size cursor.depth)
      (cursor.onto id size scopes (payload ++ rest) taken) =
      .ok (.told schema id.value cursor.depth (.value read))
        ((cursor.onto id size scopes (payload ++ rest) taken).took (.ofVints id size cursor.depth)
          (payload ++ rest) (taken + cursor.unread + id.length + size.length)) := by
  refine (visit_value_iff _ _ defined spells.plain rfl rfl rfl).mpr ⟨read, ?_, ?_, rfl, rfl⟩
  · rw [List.length_append, Header.ofVints, length]
    exact Nat.le_add_right _ _
  · rwa [Header.ofVints, List.take_left' length.symm]

theorem ofCursor_of_leave {next : Cursor} (ended : Cursor.advance cursor = .ok none after)
    (inner : cursor.depth ≠ 0) (left : Cursor.leave after = .ok () next) :
    ofCursor schema cursor = ofCursor schema next := by
  rw [ofCursor_eq, ended]
  simp only [if_neg inner, left]

theorem ofCursor_of_full {outer : List Nat} (full : cursor.scopes = 0 :: outer)
    (held : cursor.source = .holding bytes taken) (enough : cursor.unread ≤ bytes.length) :
    ofCursor schema cursor = ofCursor schema { cursor.past bytes taken with scopes := outer } := by
  have ended := Cursor.advance_none held enough (.inl (by rw [full]; rfl))
  have inner : cursor.depth ≠ 0 := by
    rw [Cursor.depth, full]
    exact Nat.succ_ne_zero _
  have opened : (cursor.past bytes taken).scopes = 0 :: outer := full
  exact ofCursor_of_leave ended inner (Cursor.leave_enough rfl opened (Nat.zero_le _))

theorem ofCursor_of_visit {header : Header} {event : Event} {next : Cursor}
    (moved : Cursor.advance cursor = .ok (some header) after)
    (visited : visit schema header after = .ok event next) {failure? : Option ReadError}
    {last : Cursor} (walked : ofCursor schema next = ⟨events, failure?, last⟩) :
    ofCursor schema cursor = ⟨event :: events, failure?, last⟩ := by
  rw [ofCursor_eq, moved]
  simp only [visited, walked]

theorem ofCursor_of_header {id size : Vint} {content : Content} {next last : Cursor}
    {failure? : Option ReadError} (admits : cursor.limits.Admits id size)
    (held : cursor.source = .holding bytes taken) (enough : cursor.unread ≤ bytes.length)
    (ahead : bytes.drop cursor.unread = id.encode ++ (size.encode ++ rest))
    (room : cursor.scopes = Cursor.widen (id.length + size.length + size.value) scopes)
    (visited : visit schema (.ofVints id size cursor.depth) (cursor.onto id size scopes rest taken) =
      .ok (.told schema id.value cursor.depth content) next)
    (walked : ofCursor schema next = ⟨events, failure?, last⟩) :
    ofCursor schema cursor =
      ⟨.told schema id.value scopes.length content :: events, failure?, last⟩ := by
  have moved := Cursor.advance_header admits held enough ahead room
  rw [← Cursor.depth_widened room]
  exact ofCursor_of_visit moved visited walked

theorem length_ahead {id size : Vint} {count : Nat} (enough : count ≤ bytes.length)
    (ahead : bytes.drop count = id.encode ++ (size.encode ++ rest)) :
    taken + count + id.length + size.length + rest.length = taken + bytes.length := by
  have length := congrArg List.length ahead
  rw [List.length_drop, List.length_append, List.length_append, Vint.encode_length,
    Vint.encode_length] at length
  omega

theorem ofCursor_of_reads (reads : Reads schema limits scopes rest events)
    (configured : cursor.limits = limits) (inside : cursor.scopes = scopes)
    (held : cursor.source = .holding bytes taken) (enough : cursor.unread ≤ bytes.length)
    (ahead : bytes.drop cursor.unread = rest) :
    ∃ last, ofCursor schema cursor = ⟨events, none, last⟩ ∧
      last.source = .holding [] (taken + bytes.length) := by
  induction reads generalizing cursor bytes taken with
  | done =>
    have ended := Cursor.advance_none held enough (.inr ⟨inside, ahead⟩)
    have outside : cursor.depth = 0 := by
      rw [Cursor.depth, inside]
      rfl
    have all : cursor.unread = bytes.length :=
      Nat.le_antisymm enough (List.drop_eq_nil_iff.mp ahead)
    refine ⟨cursor.past bytes taken, ?_, ?_⟩
    · rw [ofCursor_eq, ended]
      simp only [if_pos outside]
    · rw [Cursor.past, ahead, all]
  | @close outer rest events following ih =>
    obtain ⟨last, walked, source⟩ := @ih _ { cursor.past bytes taken with scopes := outer } _
      configured rfl rfl (Nat.zero_le _) ahead
    refine ⟨last, (ofCursor_of_full inside held enough).trans walked, ?_⟩
    rw [source, List.length_drop]
    congr 1
    omega
  | @unknown id size scopes body rest events admits length undefined following ih =>
    subst configured
    have visited := visit_unknown (.ofVints id size cursor.depth)
      (cursor.onto id size scopes (body ++ rest) taken) undefined
    obtain ⟨last, walked, source⟩ := @ih _ (cursor.onto id size scopes (body ++ rest) taken) _
      rfl rfl rfl (by rw [List.length_append, ← length]; exact Nat.le_add_right _ _)
      (List.drop_left' length.symm)
    refine ⟨last, ofCursor_of_header admits held enough ahead inside visited walked, ?_⟩
    rw [source, length_ahead enough ahead]
  | @value id size scopes payload rest events definition read admits length defined spells
      following ih =>
    subst configured
    have visited := visit_value_spelled cursor scopes rest taken length defined spells
    have passed : (payload ++ rest).drop size.value = rest := List.drop_left' length.symm
    obtain ⟨last, walked, source⟩ := @ih _
      ((cursor.onto id size scopes (payload ++ rest) taken).took
        (.ofVints id size cursor.depth) (payload ++ rest)
        (taken + cursor.unread + id.length + size.length)) _ rfl rfl rfl (Nat.zero_le _) passed
    refine ⟨last, ofCursor_of_header admits held enough ahead inside visited walked, ?_⟩
    rw [source, ← length_ahead enough ahead, Header.ofVints, passed, List.take_left' length.symm,
      List.length_append, Nat.add_assoc _ _ rest.length]
  | @enter id size scopes rest events definition admits defined nests following ih =>
    subst configured
    have visited := visit_container (.ofVints id size cursor.depth)
      (cursor.onto id size scopes rest taken) defined nests rfl rfl
    obtain ⟨last, walked, source⟩ := @ih _
      { cursor.onto id size scopes rest taken with
        scopes := size.value :: scopes
        unread := 0
        current := none } _ rfl rfl rfl (Nat.zero_le _) rfl
    refine ⟨last, ofCursor_of_header admits held enough ahead inside visited walked, ?_⟩
    rw [source, length_ahead enough ahead]

theorem reads_of_ofCursor (held : cursor.source = .holding bytes taken)
    (succeeded : (ofCursor schema cursor).failure? = none) :
    cursor.unread ≤ bytes.length ∧
      Reads schema cursor.limits cursor.scopes (bytes.drop cursor.unread)
        (ofCursor schema cursor).events := by
  induction cursor using ofCursor.induct schema generalizing bytes taken with
  | case1 cursor error after failed =>
    rw [ofCursor_eq, failed] at succeeded
    cases succeeded
  | case2 cursor after ended outside =>
    obtain ⟨enough, moved⟩ := Cursor.advance_ok held ended
    refine ⟨enough, ?_⟩
    rw [ofCursor_eq, ended]
    simp only [if_pos outside]
    have none : cursor.scopes = [] := List.length_eq_zero_iff.mp outside
    cases moved with
    | ended last =>
      rcases last with full | ⟨_, finished⟩
      · rw [none] at full
        cases full
      · rw [none, finished]
        exact .done
  | case3 cursor after ended inner error last failed =>
    rw [ofCursor_eq, ended] at succeeded
    simp only [if_neg inner, failed] at succeeded
    cases succeeded
  | case4 cursor after ended inner next left _ ih =>
    obtain ⟨enough, moved⟩ := Cursor.advance_ok held ended
    refine ⟨enough, ?_⟩
    rw [ofCursor_of_leave ended inner left] at succeeded ⊢
    cases moved with
    | ended last =>
      obtain ⟨count, outer, inside, _, rfl⟩ := Cursor.leave_ok rfl left
      rcases last with full | ⟨outside, _⟩
      · have opened : cursor.scopes = count :: outer := inside
        rw [opened, List.head?_cons, Option.some.injEq] at full
        subst full
        rw [opened]
        exact .close (ih rfl succeeded).2
      · rw [Cursor.depth, outside] at inner
        contradiction
  | case5 cursor header after moved error last failed =>
    rw [ofCursor_eq, moved] at succeeded
    simp only [failed] at succeeded
    cases succeeded
  | case6 cursor header after advanced event next visited _ ih =>
    obtain ⟨enough, moved⟩ := Cursor.advance_ok held advanced
    refine ⟨enough, ?_⟩
    rw [ofCursor_of_visit advanced visited rfl] at succeeded ⊢
    cases moved with
    | @header id size rest scopes admits ahead room =>
      have deep := Cursor.depth_widened room
      rw [ahead, room]
      cases found : schema.definition? id.value with
      | none =>
        rw [visit_unknown _ _ found] at visited
        cases visited
        obtain ⟨complete, reads⟩ := ih rfl succeeded
        exact .unknown_ahead deep admits complete found reads
      | some definition =>
        by_cases nests : definition.type = .container
        · rw [visit_container _ _ found nests rfl rfl] at visited
          cases visited
          obtain ⟨_, reads⟩ := ih rfl succeeded
          exact .enter_ahead deep admits found nests reads
        · obtain ⟨read, complete, spells, rfl, rfl⟩ :=
            (visit_value_iff _ _ found nests rfl rfl rfl).mp visited
          obtain ⟨_, reads⟩ := ih rfl succeeded
          exact .value_ahead deep admits complete found spells reads

end Ebml.Walk
