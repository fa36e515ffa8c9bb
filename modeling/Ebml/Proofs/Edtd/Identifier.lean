import Ebml.Proofs.Cursor.Ahead
import Ebml.Proofs.Edtd.HeaderBlock
import Ebml.Proofs.Edtd.Representation

namespace Ebml

namespace Edtd

variable {literal : String}

namespace State

variable {state next : State} {lexeme : Lexeme} {schema : Schema} {nesting : Nesting}
  {name : String} {lexemes : List Lexeme}

theorem feed_literal (schema : Schema) (nesting : Nesting) (name literal : String) :
    (among schema nesting (.id name)).feed (.word literal) =
      (fun id => among schema nesting (.type name id)) <$> elementId literal := by
  simp only [feed, among, feedDeclaration]
  cases elementId literal <;> rfl

def literalRead? (state : State) (lexeme : Lexeme) : Option String :=
  match state.place, lexeme with
  | .declarations _ (.id _), .word literal => some literal
  | _, _ => none

theorem ofType_id {id : ElementId} {type : String} {definition : Definition}
    (typed : ofType schema id name type = .ok definition) : definition.id = id := by
  rcases ofType_cases typed with ⟨primitive, rfl⟩ | ⟨key, template, member, rfl⟩ <;> rfl

def awaited? (state : State) : Option ElementId :=
  match state.place with
  | .declarations nesting (.type _ id) => if nesting.kind = .element then some id else none
  | _ => none

theorem literalRead?_elsewhere
    (elsewhere : ∀ nesting name, state.place ≠ .declarations nesting (.id name)) :
    state.literalRead? lexeme = none := by
  unfold literalRead?
  split
  · rename_i nesting name literal place
    exact absurd place (elsewhere nesting name)
  · rfl

theorem awaited?_untyped (untyped : state.Untyped) : state.awaited? = none := by
  unfold awaited?
  split
  · rename_i nesting name id place
    exact absurd place (untyped nesting name id)
  · rfl

theorem declare_untyped (schema : Schema) (nesting : Nesting) (definition : Definition) :
    (declare schema nesting definition).Untyped := by
  obtain ⟨kind, _ | ⟨around, outer⟩⟩ := nesting <;> nofun

theorem endList_untyped (schema : Schema) (nesting : Nesting) :
    (endList schema nesting).Untyped := by
  obtain ⟨kind, _ | ⟨around, outer⟩⟩ := nesting
  · nofun
  · exact declare_untyped _ _ _

theorem headed_awaited? {place : DeclarationPlace} {there : DeclarationPlace}
    (early : place.Early) (elsewhere : ∀ name, place ≠ .id name)
    (fed : feedDeclaration schema nesting place lexeme =
      .ok ⟨schema, .declarations nesting there⟩) :
    awaited? ⟨schema, .declarations nesting there⟩ = none := by
  cases place with
  | entry =>
    simp only [feedDeclaration] at fed
    split at fed
    · rw [← Except.ok.inj fed]
      exact awaited?_untyped (endList_untyped _ _)
    · cases fed
      rfl
    · cases fed
      rfl
    · cases fed
  | marker =>
    simp only [feedDeclaration] at fed
    split at fed <;> cases fed
    rfl
  | markerEnd =>
    simp only [feedDeclaration] at fed
    split at fed <;> cases fed
    rfl
  | assign name =>
    obtain ⟨kind, enclosing⟩ := nesting
    simp only [feedDeclaration] at fed
    split at fed
    · cases kind <;> cases fed <;> rfl
    · cases fed
  | id name => exact absurd rfl (elsewhere name)
  | _ => exact early.elim

theorem awaited?_elsewhere (sound : state.Sound)
    (elsewhere : ∀ nesting name, state.place ≠ .declarations nesting (.id name))
    (fed : state.feed lexeme = .ok next) : next.awaited? = none := by
  have outcome := feed_fed sound fed
  cases outcome with
  | outside before after =>
    refine awaited?_untyped fun nesting name id typed => ?_
    cases typed
    exact after
  | overridden named encoded => rfl
  | begun before => rfl
  | headed early undrafted sound =>
    exact headed_awaited? early (fun name same => elsewhere _ name (by rw [same])) fed
  | typed numbered known => rfl
  | revised draft draft' revised sound =>
    refine awaited?_untyped fun nesting name id typed => ?_
    cases typed
    cases draft'
  | declared draft => exact awaited?_untyped (declare_untyped _ _ _)
  | opened draft nests => rfl
  | closed => exact awaited?_untyped (endList_untyped _ _)

theorem fed_literal (sound : state.Sound) (fed : state.feed lexeme = .ok next) :
    state.awaited?.toList.map some ++ (state.literalRead? lexeme).toList.map elementId? =
      (state.headRead? lexeme).toList.map (fun head => some head.id) ++
        next.awaited?.toList.map some := by
  by_cases elsewhere : ∀ nesting name, state.place ≠ .declarations nesting (.id name)
  · rw [literalRead?_elsewhere elsewhere, awaited?_elsewhere sound elsewhere fed]
    rcases (feed_fed sound fed).untyped with untyped |
      ⟨schema, ⟨kind, enclosing⟩, name, id, type, definition, rfl, rfl, rfl, known⟩
    · rw [awaited?_untyped untyped, headRead?_untyped untyped]
      rfl
    · cases kind
      · have same := ofType_id known
        simp [awaited?, headRead?, known, Except.toOption, Definition.head, same]
      · rfl
  · obtain ⟨schema, place⟩ := state
    simp only [not_forall, not_not] at elsewhere
    obtain ⟨⟨kind, enclosing⟩, name, place⟩ := elsewhere
    subst place
    obtain rfl : kind = .element := sound
    cases lexeme with
    | word literal =>
      have read := feed_literal schema ⟨.element, enclosing⟩ name literal
      rw [among, fed] at read
      obtain ⟨id, number, rfl⟩ := map_eq_ok.mp read.symm
      have value := elementId?_eq_some_iff.mpr (elementId_eq_ok_iff.mp number)
      simp [awaited?, literalRead?, headRead?, among, value]
    | _ => cases fed

theorem feedAll_literals (holds : numbering.Holds state) (fed : state.feedAll lexemes = .ok next) :
    state.awaited?.toList.map some ++ (noted literalRead? state lexemes).map elementId? =
      (noted headRead? state lexemes).map (fun head => some head.id) ++
        next.awaited?.toList.map some := by
  induction lexemes generalizing state with
  | nil =>
    cases fed
    simp [noted]
  | cons lexeme others ih =>
    rw [feedAll_cons] at fed
    obtain ⟨between, fed, later⟩ := bind_eq_ok.mp fed
    have step := fed_literal holds.sound fed
    have held := Invariant.fed_holds holds (fun _ _ => trivial) (feed_fed holds.sound fed)
    have rest := ih held later
    rw [noted_cons fed, noted_cons fed, List.map_append, List.map_append, ← List.append_assoc, step,
      List.append_assoc, rest, List.append_assoc]

end State

def declaration (name : Name) (literal : String) (type : ElementType) : String :=
  "define elements \x7b " ++ name.text ++ " := " ++ literal ++ " " ++ type.name ++ "; \x7d"

def laidOutDeclaration (name : Name) (literal : String) (type : ElementType) :
    List (Lexeme × List Char) :=
  [(.word "define", [' ']), (.word "elements", [' ']), (.symbol .openBrace, [' ']),
    (.word name.text, [' ']), (.symbol .assign, [' ']), (.word literal, [' ']),
    (.word type.name, []), (.symbol .semicolon, [' ']), (.symbol .closeBrace, [])]

theorem lex_declaration (name : Name) (word : isWord literal.toList = true) (type : ElementType) :
    lex (declaration name literal type).toList =
      ((laidOutDeclaration name literal type).map (·.1), .endOfInput) := by
  have laid : (declaration name literal type).toList =
      layOut (laidOutDeclaration name literal type) := by
    unfold declaration laidOutDeclaration layOut
    simp [Lexeme.text_word, Lexeme.text_symbol, Symbol.text, -String.reduceAppend]
  have words : isWord "define".toList = true ∧ isWord "elements".toList = true := by decide
  have typeWord : isWord type.name.toList = true := by cases type <;> decide
  rw [laid]
  refine lex_layOut ?_ (by simp [laidOutDeclaration, isBlank]) (by simp [laidOutDeclaration])
  simp only [laidOutDeclaration, List.forall_mem_cons]
  exact ⟨words.1, words.2, trivial, name.spelled, trivial, word, typeWord, trivial, trivial,
    List.forall_mem_nil _⟩

end Edtd

namespace Schema

open Edtd

variable {source literal : String} {schema : Schema} {definition : Definition} {head : Head}
  {index : Nat}

theorem extend_declaration (schema : Schema) (name : Name) (word : isWord literal.toList = true)
    (type : ElementType) :
    schema.extend (declaration name literal type) =
      (fun id => schema.declare (.new id type name.text)) <$> elementId literal := by
  have begun : State.Leads ⟨schema, .block⟩ [.word "define", .word "elements", .symbol .openBrace,
      .word name.text, .symbol .assign] (State.among schema ⟨.element, []⟩ (.id name.text)) :=
    .cons rfl (.cons rfl (.cons rfl (.cons rfl (.cons rfl .nil))))
  rw [begun.extend (lex_declaration name word type)]
  change (State.feedAll _ [.word literal, .word type.name, .symbol .semicolon,
    .symbol .closeBrace]).bind _ = _
  rw [State.feedAll_cons, State.feed_literal]
  cases elementId literal with
  | error fault => rfl
  | ok id =>
    have typed : (State.among schema ⟨.element, []⟩ (.type name.text id)).feed (.word type.name) =
        .ok (State.among schema ⟨.element, []⟩ (.tail (.new id type name.text))) := by
      simp only [State.feed, State.among, State.feedDeclaration, State.ofType,
        ElementType.ofName?_name]
      rfl
    have ended : State.Leads (State.among schema ⟨.element, []⟩ (.type name.text id))
        [.word type.name, .symbol .semicolon, .symbol .closeBrace]
        ⟨schema.declare (.new id type name.text), .block⟩ :=
      .cons typed (.cons rfl (.cons rfl .nil))
    change (State.feedAll _ _).bind _ = _
    rw [ended]
    rfl

def literalsRead (schema : Schema) (source : String) : List String :=
  State.noted State.literalRead? ⟨schema, .block⟩ (lex source.toList).1

theorem ofText_literals (compiled : ofText source = .ok schema) :
    (Builtin.schema.literalsRead source).map elementId? =
      (Builtin.schema.headsRead source).map fun head => some head.id := by
  have holds : numbering.Holds State.start := .outside nofun trivial
  have read := State.feedAll_literals holds (extend_eq_ok_iff.mp compiled).2
  rw [literalsRead, headsRead]
  simpa [State.awaited?, State.start] using read

theorem definition?_of_last (declared : schema.declarations[index]? = some definition)
    (last : ∀ other ∈ schema.declarations.drop (index + 1), other.id ≠ definition.id) :
    schema.definition? definition.id = some definition := by
  obtain ⟨inside, here⟩ := List.getElem?_eq_some_iff.mp declared
  have split : schema.declarations = schema.declarations.take index ++
      definition :: schema.declarations.drop (index + 1) := by
    rw [← here, List.getElem_cons_drop, List.take_append_drop]
  have absent : (schema.declarations.drop (index + 1)).reverse.find? (·.id == definition.id) =
      none := by
    simpa using last
  rw [definition?, split, List.reverse_append, List.reverse_cons, List.append_assoc,
    List.find?_append, absent]
  simp

theorem declaration_of_head (compiled : ofText source = .ok schema)
    (declared : (Builtin.schema.headsRead source)[index]? = some head) :
    ∃ definition,
      schema.declarations[Builtin.schema.declarations.length + index]? = some definition ∧
      definition.head = head ∧
      ((∀ later ∈ (Builtin.schema.headsRead source).drop (index + 1), later.id ≠ head.id) →
        schema.definition? head.id = some definition) := by
  have heads := ofText_heads compiled
  have builtins : Builtin.schema.heads.length = Builtin.schema.declarations.length :=
    List.length_map _
  have here : schema.heads[Builtin.schema.declarations.length + index]? = some head := by
    rw [heads, ← builtins, List.getElem?_append_right (Nat.le_add_right _ _),
      Nat.add_sub_cancel_left, declared]
  rw [Schema.heads, List.getElem?_map] at here
  obtain ⟨definition, found, rfl⟩ := Option.map_eq_some_iff.mp here
  refine ⟨definition, found, rfl, ?_⟩
  intro last
  refine definition?_of_last found ?_
  have rest : (schema.declarations.drop (Builtin.schema.declarations.length + index + 1)).map
      Definition.head = (Builtin.schema.headsRead source).drop (index + 1) := by
    rw [List.map_drop, ← Schema.heads, heads, ← builtins, Nat.add_assoc, List.drop_append]
    simp
  intro other member
  exact last other.head (rest ▸ List.mem_map_of_mem member)

-- What is accepted as the identifier of an element is what a cursor can find as one: a literal
-- spells a variable-length integer, which leads to the declared element wherever it stands ahead.
theorem literal_identifies_declaration (compiled : ofText source = .ok schema) :
    (∀ (name : Name) (literal : String) (type : ElementType), isWord literal.toList = true →
      ((∃ extended, ofText (source ++ "\n" ++ declaration name literal type) = .ok extended) ↔
        ∃ vint, SpellsId literal vint)) ∧
    (∀ {before after : List Lexeme} {stop : Stop} {text : String} {known : Schema}
        {nesting : Nesting} {name literal : String},
      lex text.toList = (before ++ .word literal :: after, stop) →
      State.start.feedAll before = .ok (State.among known nesting (.id name)) →
      ((¬∃ vint, SpellsId literal vint) → ofText text = .error (.invalidId literal)) ∧
      ∀ vint, SpellsId literal vint → State.start.feedAll (before ++ [.word literal]) =
        .ok (State.among known nesting (.type name vint.value))) ∧
    (Builtin.schema.literalsRead source).length = (Builtin.schema.headsRead source).length ∧
    ∀ (index : Nat) (literal : String) (head : Head),
      (Builtin.schema.literalsRead source)[index]? = some literal →
      (Builtin.schema.headsRead source)[index]? = some head →
      ∃ vint, SpellsId literal vint ∧ ∃ definition,
        schema.declarations[Builtin.schema.declarations.length + index]? = some definition ∧
        definition.head = head ∧
        ∀ (cursor : Cursor) (size : Vint), vint.length ≤ cursor.limits.maxIdLength →
          size.Valid → size.length ≤ cursor.limits.maxSizeLength →
          Vint.isUnknownSize size.value size.length = false →
          cursor.Meets (vint.encode ++ size.encode) →
          (∀ left ∈ cursor.scopes.head?, vint.length + size.length + size.value ≤ left) →
          ∃ header after, cursor.advance = .ok (some header) after ∧
            header.id = definition.id ∧ header.idLength = vint.encode.length ∧
            ((∀ later ∈ (Builtin.schema.headsRead source).drop (index + 1),
              later.id ≠ header.id) → schema.definition? header.id = some definition) := by
  refine ⟨?_, ?_, ?_, ?_⟩
  · intro name literal type word
    rw [ofText_eq, extend_line compiled, extend_declaration schema name word]
    constructor
    · rintro ⟨extended, declared⟩
      obtain ⟨id, read, _⟩ := map_eq_ok.mp declared
      obtain ⟨vint, spells, _⟩ := elementId_eq_ok_iff.mp read
      exact ⟨vint, spells⟩
    · rintro ⟨vint, spells⟩
      exact ⟨_, map_eq_ok.mpr ⟨_, elementId_eq_ok_iff.mpr ⟨vint, spells, rfl⟩, rfl⟩⟩
  · intro before after stop text known nesting name literal lexed fed
    constructor
    · intro unspelled
      rw [ofText_lexed lexed, State.feedAll_append, fed]
      change ((State.feedAll _ (.word literal :: after)).bind _) = _
      rw [State.feedAll_cons, State.feed_literal, elementId_invalid unspelled]
      rfl
    · intro vint spells
      rw [State.feedAll_append, fed]
      change State.feedAll _ [.word literal] = _
      rw [State.feedAll_cons, State.feed_literal, elementId_eq_ok_iff.mpr ⟨vint, spells, rfl⟩]
      rfl
  · simpa using congrArg List.length (ofText_literals compiled)
  · intro index literal head read declared
    have same := congrArg (·[index]?) (ofText_literals compiled)
    simp only [List.getElem?_map, read, declared, Option.map_some, Option.some.injEq] at same
    obtain ⟨vint, spells, value⟩ := elementId?_eq_some_iff.mp same
    obtain ⟨definition, found, rfl, inForce⟩ := declaration_of_head compiled declared
    refine ⟨vint, spells, definition, found, rfl, ?_⟩
    intro cursor size idShort sizeValid sizeShort known ahead fits
    have admits : cursor.limits.Admits vint size :=
      ⟨spells.valid, sizeValid, idShort, sizeShort, by
        simpa [← Vint.isUnknownSize_iff] using known⟩
    obtain ⟨after, advanced⟩ := Cursor.advance_ahead admits ahead fits
    refine ⟨_, after, advanced, value, (Vint.encode_length vint).symm, ?_⟩
    rw [show (Header.ofVints vint size cursor.depth).id = definition.head.id from value]
    exact inForce

def mixedCase : String := "define elements \x7b A := 40Fe uint; \x7d"

def oddDigits : String := "define elements \x7b A := 40Fe container \x7b B := 8 uint; \x7d \x7d"

theorem mixedCase_found :
    ofText oddDigits = .error (.invalidId "8") ∧
    ∃ schema definition, ofText mixedCase = .ok schema ∧
      schema.declarations[Builtin.schema.declarations.length]? = some definition ∧
      definition.head = ⟨"A", 0xfe, .uint⟩ ∧
      (∃ header after, (Cursor.ofSource (.ofBytes [0x40, 0xFE, 0x81]) default).advance =
          .ok (some header) after ∧
        header.id = definition.id ∧ header.idLength = 2 ∧
        schema.definition? header.id = some definition) ∧
      ¬∃ extended, ofText (mixedCase ++ "\n" ++ declaration ⟨"B", by decide⟩ "8" .uint) =
        .ok extended := by
  have compiles : (ofText mixedCase).toOption.isSome = true := by decide +kernel
  have literals : Builtin.schema.literalsRead mixedCase = ["40Fe"] := by decide +kernel
  have heads : Builtin.schema.headsRead mixedCase = [⟨"A", 0xfe, .uint⟩] := by decide +kernel
  obtain ⟨schema, read⟩ := Option.isSome_iff_exists.mp compiles
  have compiled := toOption_eq_some.mp read
  obtain ⟨accepted, anywhere, _, found⟩ := literal_identifies_declaration compiled
  obtain ⟨vint, spells, definition, declared, headed, finds⟩ :=
    found 0 "40Fe" ⟨"A", 0xfe, .uint⟩ (by rw [literals]; rfl) (by rw [heads]; rfl)
  have bytes : vint.encode = [0x40, 0xFE] := by
    have read := Bytes.ofHex?_eq_some_iff.mpr spells.digits
    rw [show Bytes.ofHex? "40Fe".toList = some [0x40, 0xFE] by decide] at read
    exact (Option.some.inj read).symm
  have length : vint.length = 2 := by rw [← Vint.encode_length, bytes]; rfl
  have ahead : (Cursor.ofSource (.ofBytes [0x40, 0xFE, 0x81]) default).Meets
      (vint.encode ++ Vint.encode ⟨1, 1⟩) := by
    rw [bytes]
    exact ⟨[], rfl, [], by decide⟩
  obtain ⟨header, after, advanced, id, idLength, last⟩ := finds _ ⟨1, 1⟩ (by rw [length]; decide)
    ⟨by decide, by decide, by decide⟩ (by decide) (by decide) ahead nofun
  rw [bytes] at idLength
  have unspelled : ¬∃ vint, SpellsId "8" vint := by
    rintro ⟨vint, spells⟩
    have read := Bytes.ofHex?_eq_some_iff.mpr spells.digits
    cases read
  have lexed : (lex oddDigits.toList).2 = .endOfInput ∧ (lex oddDigits.toList).1 =
      ([.word "define", .word "elements", .symbol .openBrace, .word "A", .symbol .assign,
        .word "40Fe", .word "container", .symbol .openBrace, .word "B", .symbol .assign] ++
        .word "8" :: [.word "uint", .symbol .semicolon, .symbol .closeBrace, .symbol .closeBrace] :
        List Lexeme) := by decide +kernel
  have refused := (anywhere (Prod.ext lexed.2 lexed.1) rfl).1 unspelled
  refine ⟨refused, schema, definition, compiled, declared, headed, ⟨header, after, advanced, id,
    idLength, last (by simp [heads])⟩, ?_⟩
  rw [accepted ⟨"B", by decide⟩ "8" .uint (by decide)]
  exact unspelled

end Schema

end Ebml
