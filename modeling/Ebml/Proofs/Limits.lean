import Ebml.Proofs.Cursor.Ahead
import Ebml.Proofs.Cursor.Limits
import Ebml.Proofs.Edtd.DefaultText
import Ebml.Proofs.Edtd.HeaderEntries

namespace Ebml

-- Limits are stated in the language, as defaults that a header block sets, and bound every cursor
-- that is made with them.
open Edtd

-- An element in force that shares its name with no other one among those declared.
structure Head.Sole (heads : List Head) (head : Head) : Prop where
  inForce : heads.reverse.find? (·.id == head.id) = some head
  alone : ∀ other ∈ heads, other.name = head.name → other = head

namespace Head.Sole

variable {heads added : List Head} {head : Head}

theorem mem (sole : head.Sole heads) : head ∈ heads :=
  List.mem_reverse.mp (List.mem_of_find?_eq_some sole.inForce)

theorem lastNamed (sole : head.Sole heads) :
    heads.reverse.find? (·.name == head.name) = some head := by
  cases found : heads.reverse.find? (·.name == head.name) with
  | none =>
    rw [List.find?_eq_none] at found
    exact absurd (beq_self_eq_true head.name) (found head (List.mem_reverse.mpr sole.mem))
  | some other =>
    have member := List.mem_reverse.mp (List.mem_of_find?_eq_some found)
    have named := List.find?_some found
    rw [sole.alone other member (beq_iff_eq.mp named)]

theorem append (sole : head.Sole heads) (unnamed : ∀ other ∈ added, other.name ≠ head.name)
    (unnumbered : ∀ other ∈ added, other.id ≠ head.id) : head.Sole (heads ++ added) := by
  constructor
  · have absent : added.reverse.find? (·.id == head.id) = none := by
      simpa using unnumbered
    rw [List.reverse_append, List.find?_append, absent, Option.none_or, sole.inForce]
  · intro other member named
    rcases List.mem_append.mp member with old | new
    · exact sole.alone other old named
    · exact absurd named (unnamed other new)

end Head.Sole

namespace Schema

variable {schema : Schema} {head : Head}

theorem named_of_sole (sole : head.Sole schema.heads) :
    ∃ definition, schema.definition? head.id = some definition ∧
      schema.named head.name = .unique definition := by
  have inForce := sole.inForce
  rw [definition?_head] at inForce
  obtain ⟨definition, defined, same⟩ := Option.map_eq_some_iff.mp inForce
  have id : definition.id = head.id := congrArg Head.id same
  refine ⟨definition, defined, named_eq_unique ?_ (congrArg Head.name same) ?_⟩
  · rw [mem_definitions_iff, id, defined]
  · intro other member named
    have found := mem_definitions_iff.mp member
    have alone := sole.alone other.head (List.mem_map_of_mem (definition?_mem found).1) named
    rw [show other.id = head.id from congrArg Head.id alone, defined] at found
    exact (Option.some.inj found).symm

theorem stated_of_sole (sole : head.Sole schema.heads) (otherwise : Nat) :
    Limits.stated schema head.name otherwise =
      .ok (((schema.definition? head.id).bind Definition.defaultUInt?).getD otherwise) := by
  obtain ⟨definition, defined, named⟩ := named_of_sole sole
  rw [Limits.stated, named, defined]
  rfl

end Schema

namespace Limits

variable {schema : Schema} {name : String} {otherwise value : Nat} {fault : AmbiguousName}

-- The limit by the first definition of a name in a listing.
def found (listed : List Definition) (name : String) (otherwise : Nat) : Nat :=
  ((listed.find? (·.name == name)).bind Definition.defaultUInt?).getD otherwise

theorem stated_of_perm (stated : Limits.stated schema name otherwise = .ok value)
    {listed : List Definition} (reordered : listed.Perm schema.definitions) :
    found listed name otherwise = value := by
  have perm := reordered.filter (·.name == name)
  unfold Limits.stated Schema.named at stated
  unfold found
  rw [← List.head?_filter]
  cases filtered : schema.definitions.filter (·.name == name) with
  | nil =>
    rw [filtered] at stated perm
    rw [perm.eq_nil]
    cases stated
    rfl
  | cons definition others =>
    rw [filtered] at stated perm
    cases others with
    | nil =>
      rw [perm.eq_singleton]
      cases stated
      rfl
    | cons => cases stated

theorem stated_ambiguous (stated : Limits.stated schema name otherwise = .error fault) :
    fault = ⟨name, (schema.definitions.filter (·.name == name)).length⟩ ∧ 2 ≤ fault.count := by
  unfold Limits.stated Schema.named at stated
  cases filtered : schema.definitions.filter (·.name == name) with
  | nil => rw [filtered] at stated; cases stated
  | cons definition others =>
    rw [filtered] at stated
    cases others with
    | nil => cases stated
    | cons second others =>
      cases stated
      exact ⟨rfl, Nat.le_add_left 2 others.length⟩

-- A search in no fixed order comes upon the same limit in every order where the name is stated.
-- Of an ambiguous name it comes upon each of the definitions in some order.
theorem stated_in_any_order (schema : Schema) (name : String) (otherwise : Nat) :
    (∀ value, Limits.stated schema name otherwise = .ok value →
      ∀ listed : List Definition, listed.Perm schema.definitions →
        found listed name otherwise = value) ∧
    ∀ fault, Limits.stated schema name otherwise = .error fault →
      2 ≤ fault.count ∧ ∀ definition ∈ schema.definitions, definition.name = name →
        ∃ listed : List Definition, listed.Perm schema.definitions ∧
          found listed name otherwise = definition.defaultUInt?.getD otherwise := by
  refine ⟨fun _ stated _ reordered => stated_of_perm stated reordered, ?_⟩
  intro fault stated
  refine ⟨(stated_ambiguous stated).2, ?_⟩
  intro definition defined named
  refine ⟨definition :: schema.definitions.erase definition,
    (List.perm_cons_erase defined).symm, ?_⟩
  rw [found, List.find?_cons, named, beq_self_eq_true]
  rfl

end Limits

theorem Definition.overrideDefault_defaultUInt? (name : String) (bytes : Bytes)
    (definition : Definition) :
    (definition.overrideDefault name bytes).defaultUInt? =
      if definition.name = name then Payload.whole Payload.uint bytes
      else definition.defaultUInt? := by
  rw [defaultUInt?, overrideDefault_eq]
  dsimp only
  split <;> rfl

namespace Edtd.HeaderEntry

def number? (name : String) (entries : List HeaderEntry) : Option Nat :=
  (last? name entries).bind fun value => Literal.uint64? value.text.toList

theorem number?_append_singleton (name : String) (earlier : List HeaderEntry)
    (entry : HeaderEntry) :
    number? name (earlier ++ [entry]) =
      if entry.name.text = name then Literal.uint64? entry.value.text.toList
      else number? name earlier := by
  unfold number? last?
  rw [List.reverse_append, List.reverse_singleton, List.singleton_append, List.find?_cons]
  by_cases same : entry.name.text = name
  · rw [if_pos same, same, beq_self_eq_true]
    rfl
  · rw [if_neg same, beq_false_of_ne same]

end Edtd.HeaderEntry

namespace Schema

variable {schema extended : Schema} {head : Head} {entries : List HeaderEntry} {value : Nat}

theorem defaultBytes_number {lexeme : Lexeme} {bytes : Bytes}
    (encoded : defaultBytes .uint lexeme = .ok bytes)
    (read : Literal.uint64? lexeme.text.toList = some value) :
    Payload.whole Payload.uint bytes = some value := by
  simp only [defaultBytes, readLiteral, read] at encoded
  cases encoded
  have small := (Option.filter_eq_some_iff.mp read).2
  exact DefaultText.whole_toBigEndian (of_decide_eq_true small)

theorem setAll_defaultUInt? (sole : head.Sole schema.heads) (numeric : head.type = .uint)
    (set : schema.setAll entries = .ok extended)
    (last : HeaderEntry.number? head.name entries = some value) :
    (extended.definition? head.id).bind Definition.defaultUInt? = some value := by
  induction entries using List.reverseRecOn generalizing extended with
  | nil => cases last
  | append_singleton earlier entry ih =>
    rw [setAll_append] at set
    obtain ⟨between, before, set⟩ := bind_eq_ok.mp set
    rw [setAll_cons] at set
    obtain ⟨_, set, done⟩ := bind_eq_ok.mp set
    cases done
    obtain ⟨definition, bytes, named, encoded, rfl⟩ := set_eq_ok_iff.mp set
    rw [← setAll_heads before] at sole
    have inForce := sole.inForce
    rw [definition?_head] at inForce
    obtain ⟨current, defined, same⟩ := Option.map_eq_some_iff.mp inForce
    have currentName : current.name = head.name := congrArg Head.name same
    rw [HeaderEntry.number?_append_singleton] at last
    rw [definition?_overrideDefault, defined, Option.map_some, Option.bind_some,
      Definition.overrideDefault_defaultUInt?, currentName]
    by_cases here : entry.name.text = head.name
    · have found := sole.lastNamed
      rw [lastNamed?_head, ← here, named, Option.map_some] at found
      have typed : definition.type = .uint :=
        (congrArg Head.type (Option.some.inj found)).trans numeric
      rw [typed] at encoded
      rw [if_pos here] at last
      rw [if_pos here.symm]
      exact defaultBytes_number encoded last
    · rw [if_neg here] at last
      have kept := ih before last
      rw [defined, Option.bind_some] at kept
      rw [if_neg (Ne.symm here), kept]

end Schema

namespace Edtd

def HeaderEntry.number (name : Name) (value : Nat) : HeaderEntry where
  name := name
  value := .word value.repr
  spelled := by
    obtain ⟨more, ascii⟩ := natural?_digits (Literal.natural?_repr value)
    exact isWord_of_isAlphanum more ascii
  valued := nofun

end Edtd

namespace Limits

def entries (limits : Limits) : List HeaderEntry :=
  [.number ⟨"EBMLMaxIDLength", by decide⟩ limits.maxIdLength,
    .number ⟨"EBMLMaxSizeLength", by decide⟩ limits.maxSizeLength]

def print (limits : Limits) : String :=
  "declare header \x7b EBMLMaxIDLength := " ++ limits.maxIdLength.repr ++
    "; EBMLMaxSizeLength := " ++ limits.maxSizeLength.repr ++ "; \x7d"

def laidOut (limits : Limits) : List (Lexeme × List Char) :=
  [(.word "declare", [' ']), (.word "header", [' ']), (.symbol .openBrace, [' ']),
    (.word "EBMLMaxIDLength", [' ']), (.symbol .assign, [' ']),
    (.word limits.maxIdLength.repr, []), (.symbol .semicolon, [' ']),
    (.word "EBMLMaxSizeLength", [' ']), (.symbol .assign, [' ']),
    (.word limits.maxSizeLength.repr, []), (.symbol .semicolon, [' ']), (.symbol .closeBrace, [])]

theorem lex_print (limits : Limits) :
    lex limits.print.toList = (headerBlock "declare" limits.entries, .endOfInput) := by
  have laid : limits.print.toList = layOut limits.laidOut := by
    unfold print laidOut layOut
    simp [Lexeme.text_word, Lexeme.text_symbol, Symbol.text, -String.reduceAppend]
  have words : isWord "declare".toList = true ∧ isWord "header".toList = true ∧
      isWord "EBMLMaxIDLength".toList = true ∧ isWord "EBMLMaxSizeLength".toList = true := by decide
  obtain ⟨declare, header, idName, sizeName⟩ := words
  have number (n : Nat) : isWord n.repr.toList = true :=
    (HeaderEntry.number ⟨"EBMLMaxIDLength", by decide⟩ n).spelled
  have items : headerBlock "declare" limits.entries = limits.laidOut.map (·.1) := rfl
  rw [laid, items]
  refine lex_layOut ?_ (by simp [laidOut, isBlank]) (by simp [laidOut])
  simp only [laidOut, List.forall_mem_cons]
  exact ⟨declare, header, trivial, idName, trivial, number _, trivial, sizeName, trivial, number _,
    trivial, trivial, List.forall_mem_nil _⟩

end Limits

-- Entries that are accepted after some declarations, and that leave both limits set.
structure Edtd.SetsLimits (heads : List Head) (entries : List HeaderEntry) (limits : Limits) :
    Prop where
  fits : ∀ entry ∈ entries, entry.Fits heads
  idLength : HeaderEntry.number? "EBMLMaxIDLength" entries = some limits.maxIdLength
  sizeLength : HeaderEntry.number? "EBMLMaxSizeLength" entries = some limits.maxSizeLength

namespace Schema

variable {source : String} {schema extended : Schema} {limits : Limits}
  {entries : List HeaderEntry}

def maxIdHead : Head := ⟨"EBMLMaxIDLength", 0x2f2, .uint⟩

def maxSizeHead : Head := ⟨"EBMLMaxSizeLength", 0x2f3, .uint⟩

theorem builtin_sole :
    maxIdHead.Sole Builtin.schema.heads ∧ maxSizeHead.Sole Builtin.schema.heads := by
  have only (head : Head) (all : Builtin.schema.heads.all
      (fun other => other.name != head.name || other == head) = true) :
      ∀ other ∈ Builtin.schema.heads, other.name = head.name → other = head := by
    intro other member named
    have here := List.all_eq_true.mp all other member
    simpa [named] using here
  exact ⟨⟨by decide +kernel, only _ (by decide +kernel)⟩,
    ⟨by decide +kernel, only _ (by decide +kernel)⟩⟩

theorem ofSchema_setAll (idSole : maxIdHead.Sole schema.heads)
    (sizeSole : maxSizeHead.Sole schema.heads) (sets : SetsLimits schema.heads entries limits) :
    ∃ extended, schema.setAll entries = .ok extended ∧ Limits.ofSchema extended = .ok limits := by
  obtain ⟨extended, set⟩ := setAll_of_fits sets.fits
  refine ⟨extended, set, ?_⟩
  have idLength := setAll_defaultUInt? idSole rfl set sets.idLength
  have sizeLength := setAll_defaultUInt? sizeSole rfl set sets.sizeLength
  rw [← setAll_heads set] at idSole sizeSole
  have idStated := stated_of_sole idSole (default : Limits).maxIdLength
  have sizeStated := stated_of_sole sizeSole (default : Limits).maxSizeLength
  rw [idLength] at idStated
  rw [sizeLength] at sizeStated
  unfold Limits.ofSchema
  rw [show "EBMLMaxIDLength" = maxIdHead.name from rfl, idStated,
    show "EBMLMaxSizeLength" = maxSizeHead.name from rfl, sizeStated]
  rfl

theorem number_fits {heads : List Head} {head : Head} (sole : head.Sole heads)
    (numeric : head.type = .uint) {name : Name} (named : name.text = head.name) {value : Nat}
    (small : value < 0x10000000000000000) : (HeaderEntry.number name value).Fits heads := by
  refine ⟨head, Bytes.toBigEndian 8 value, ?_, ?_⟩
  · exact named ▸ sole.lastNamed
  · have read : readLiteral .uint Literal.uint64? value.repr = .ok value := by
      rw [readLiteral, Literal.uint64?_repr small]
    change defaultBytes head.type (.word value.repr) = _
    rw [numeric, defaultBytes, Lexeme.text_word, read]
    rfl

theorem setsLimits_entries {heads : List Head} (idSole : maxIdHead.Sole heads)
    (sizeSole : maxSizeHead.Sole heads) (idSmall : limits.maxIdLength < 0x10000000000000000)
    (sizeSmall : limits.maxSizeLength < 0x10000000000000000) :
    SetsLimits heads limits.entries limits := by
  constructor
  · simp only [Limits.entries, List.forall_mem_cons]
    exact ⟨number_fits idSole rfl rfl idSmall, number_fits sizeSole rfl rfl sizeSmall,
      List.forall_mem_nil _⟩
  · exact Literal.uint64?_repr idSmall
  · exact Literal.uint64?_repr sizeSmall

-- Whatever two numbers a header block sets the limits to at the end of a source, they are what
-- its schema states, and what bounds every header that a cursor with these limits shows. It
-- refuses a longer identifier as soon as it has read it.
theorem header_limits_reach_cursor (compiled : ofText source = .ok schema)
    (unnamed : ∀ head ∈ Builtin.schema.headsRead source,
      head.name ≠ "EBMLMaxIDLength" ∧ head.name ≠ "EBMLMaxSizeLength")
    (unnumbered : ∀ head ∈ Builtin.schema.headsRead source, head.id ≠ 0x2f2 ∧ head.id ≠ 0x2f3)
    (limits : Limits) (idSmall : limits.maxIdLength < 2 ^ 64)
    (sizeSmall : limits.maxSizeLength < 2 ^ 64) :
    (∃ extended, ofText (source ++ "\n" ++ limits.print) = .ok extended ∧
      Limits.ofSchema extended = .ok limits) ∧
    (∀ {opening text : String} {entries : List HeaderEntry},
      opening = "declare" ∨ opening = "define" →
      SetsLimits (Builtin.schema.heads ++ Builtin.schema.headsRead source) entries limits →
      lex text.toList = ((lex source.toList).1 ++ headerBlock opening entries, .endOfInput) →
      ∃ extended, ofText text = .ok extended ∧ Limits.ofSchema extended = .ok limits) ∧
    ∀ (input : Source) (operations : List Operation),
      let seen := Cursor.run operations (.ofSource input limits)
      (∀ observation ∈ seen.1, observation.Within limits) ∧
      ∀ id : Vint, id.Valid → limits.maxIdLength < id.length → seen.2.Meets id.encode →
        seen.2.scopes.head? ≠ some 0 →
        ∃ after, seen.2.advance = .error (.idTooLong id.length limits.maxIdLength) after := by
  have idSole : maxIdHead.Sole schema.heads := by
    rw [ofText_heads compiled]
    exact builtin_sole.1.append (fun head member => (unnamed head member).1)
      fun head member => (unnumbered head member).1
  have sizeSole : maxSizeHead.Sole schema.heads := by
    rw [ofText_heads compiled]
    exact builtin_sole.2.append (fun head member => (unnamed head member).2)
      fun head member => (unnumbered head member).2
  refine ⟨?_, ?_, ?_⟩
  · have complete := (extend_eq_ok_iff.mp compiled).1
    have lines : (source ++ "\n" ++ limits.print).toList =
        source.toList ++ '\n' :: limits.print.toList := by simp
    have lexed := lex_line complete limits.print.toList
    rw [← lines, limits.lex_print] at lexed
    rw [ofText_headerBlock compiled (.inl rfl) lexed]
    exact ofSchema_setAll idSole sizeSole (setsLimits_entries idSole sizeSole idSmall sizeSmall)
  · intro opening text entries opens sets lexed
    rw [← ofText_heads compiled] at sets
    rw [ofText_headerBlock compiled opens lexed]
    exact ofSchema_setAll idSole sizeSole sets
  · intro input operations seen
    obtain ⟨within, heeds⟩ := Cursor.run_keeps operations (Cursor.ofSource_heeds input limits)
    refine ⟨within, ?_⟩
    intro id valid long ahead inside
    rw [← heeds.same] at long ⊢
    exact Cursor.advance_idTooLong valid long ahead inside

def nested : String :=
  "define elements \x7b A := 4081 container \x7b B := 82 uint; \x7d \x7d"

theorem nested_with_limits :
    ∃ schema, ofText nested = .ok schema ∧
      Builtin.schema.headsRead nested = [⟨"A", 0x81, .container⟩, ⟨"B", 2, .uint⟩] ∧
      (∃ extended, ofText (nested ++ "\n" ++ (⟨2, 1⟩ : Limits).print) = .ok extended ∧
        Limits.ofSchema extended = .ok ⟨2, 1⟩) ∧
      ∃ after, (Cursor.ofSource (.ofBytes [0x1A, 0x45, 0xDF, 0xA3, 0x80]) ⟨2, 1⟩).advance =
        .error (.idTooLong 4 2) after := by
  have compiles : (ofText nested).toOption.isSome = true := by decide +kernel
  have heads : Builtin.schema.headsRead nested =
      [⟨"A", 0x81, .container⟩, ⟨"B", 2, .uint⟩] := by decide +kernel
  obtain ⟨schema, read⟩ := Option.isSome_iff_exists.mp compiles
  have compiled := toOption_eq_some.mp read
  obtain ⟨stated, _, bounded⟩ := header_limits_reach_cursor compiled (by simp [heads])
    (by simp [heads]) ⟨2, 1⟩ (by decide) (by decide)
  refine ⟨schema, compiled, heads, stated, ?_⟩
  have ahead : (Cursor.ofSource (.ofBytes [0x1A, 0x45, 0xDF, 0xA3, 0x80]) ⟨2, 1⟩).Meets
      (Vint.encode ⟨0xA45DFA3, 4⟩) := ⟨[], rfl, [0x80], by decide⟩
  exact (bounded _ []).2 ⟨0xA45DFA3, 4⟩ ⟨by decide, by decide, by decide⟩ (by decide) ahead
    (by decide)

end Schema

end Ebml
