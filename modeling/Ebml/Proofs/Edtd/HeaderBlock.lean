import Ebml.Proofs.Edtd.Continuation
import Ebml.Proofs.Edtd.Heads
import Ebml.Proofs.Edtd.RoundTrip

namespace Ebml

namespace Edtd

theorem State.Leads.extend {schema : Schema} {first rest : List Lexeme} {between : State}
    {source : String} (leads : Leads ⟨schema, .block⟩ first between)
    (lexed : lex source.toList = (first ++ rest, .endOfInput)) :
    schema.extend source = (between.feedAll rest).bind (·.finish .endOfInput) := by
  unfold Schema.extend
  rw [lexed]
  dsimp only
  rw [leads.feedAll_append]
  rfl

structure HeaderEntry where
  name : Name
  value : Lexeme
  spelled : value.Spellable
  valued : ∀ mark, value ≠ .symbol mark

namespace HeaderEntry

def laidOut (entry : HeaderEntry) : List (Lexeme × List Char) :=
  [(.word "declare", [' ']), (.word "header", [' ']), (.symbol .openBrace, [' ']),
    (.word entry.name.text, [' ']), (.symbol .assign, [' ']), (entry.value, []),
    (.symbol .semicolon, [' ']), (.symbol .closeBrace, [])]

def print (entry : HeaderEntry) : String :=
  "declare header \x7b " ++ entry.name.text ++ " := " ++ entry.value.text ++ "; \x7d"

def laidOutDeclaration (entry : HeaderEntry) (type : ElementType) : List (Lexeme × List Char) :=
  [(.word "define", [' ']), (.word "elements", [' ']), (.symbol .openBrace, [' ']),
    (.word "Element", [' ']), (.symbol .assign, [' ']), (.word "81", [' ']),
    (.word type.name, [' ']), (.symbol .openBracket, [' ']), (.word "def", []),
    (.symbol .colon, [' ']), (entry.value, []), (.symbol .semicolon, [' ']),
    (.symbol .closeBracket, [' ']), (.symbol .closeBrace, [])]

def printDeclaration (entry : HeaderEntry) (type : ElementType) : String :=
  "define elements \x7b Element := 81 " ++ type.name ++ " [ def: " ++ entry.value.text ++ "; ] \x7d"

variable (entry : HeaderEntry)

theorem lex_print : lex entry.print.toList = (entry.laidOut.map (·.1), .endOfInput) := by
  have laid : entry.print.toList = layOut entry.laidOut := by
    unfold print laidOut layOut
    simp [Lexeme.text_word, Lexeme.text_symbol, Symbol.text, -String.reduceAppend]
  have words : isWord "declare".toList = true ∧ isWord "header".toList = true := by decide
  rw [laid]
  refine lex_layOut ?_ (by simp [laidOut, isBlank]) (by simp [laidOut])
  simp only [laidOut, List.forall_mem_cons]
  exact ⟨words.1, words.2, trivial, entry.name.spelled, trivial, entry.spelled, trivial, trivial,
    List.forall_mem_nil _⟩

theorem lex_printDeclaration (type : ElementType) :
    lex (entry.printDeclaration type).toList =
      ((entry.laidOutDeclaration type).map (·.1), .endOfInput) := by
  have laid : (entry.printDeclaration type).toList = layOut (entry.laidOutDeclaration type) := by
    unfold printDeclaration laidOutDeclaration layOut
    simp [Lexeme.text_word, Lexeme.text_symbol, Symbol.text, -String.reduceAppend]
  have words : isWord "define".toList = true ∧ isWord "elements".toList = true ∧
      isWord "Element".toList = true ∧ isWord "81".toList = true ∧ isWord "def".toList = true := by
    decide
  obtain ⟨define, elements, element, number, parameter⟩ := words
  have typeWord : isWord type.name.toList = true := by cases type <;> decide
  rw [laid]
  refine lex_layOut ?_ (by simp [laidOutDeclaration, isBlank]) (by simp [laidOutDeclaration])
  simp only [laidOutDeclaration, List.forall_mem_cons]
  exact ⟨define, elements, trivial, element, trivial, number, typeWord, trivial, parameter,
    trivial, entry.spelled, trivial, trivial, trivial, List.forall_mem_nil _⟩

theorem leads_finish (schema : Schema) :
    State.Leads ⟨schema, .header .entry⟩ [.word entry.name.text, .symbol .assign, entry.value]
      ⟨schema, .header (.finish entry.name.text entry.value)⟩ := by
  have valued : State.feed ⟨schema, .header (.value entry.name.text)⟩ entry.value =
      .ok ⟨schema, .header (.finish entry.name.text entry.value)⟩ := by
    simp only [State.feed, State.feedHeader]
    split
    · rename_i mark same
      exact absurd same (entry.valued mark)
    · rfl
  exact .cons rfl (.cons rfl (.cons valued .nil))

theorem extend_print (schema : Schema) :
    schema.extend entry.print =
      match schema.lastNamed? entry.name.text with
      | none => .error (.unknownElement entry.name.text)
      | some definition =>
        (defaultBytes definition.type entry.value).map
          (schema.overrideDefault entry.name.text) := by
  have begun : State.Leads ⟨schema, .block⟩ ([.word "declare", .word "header", .symbol .openBrace] ++
      [.word entry.name.text, .symbol .assign, entry.value])
        ⟨schema, .header (.finish entry.name.text entry.value)⟩ :=
    .append (.cons rfl (.cons rfl (.cons rfl .nil))) (entry.leads_finish schema)
  rw [begun.extend entry.lex_print]
  change ((State.feed _ (.symbol .semicolon)).bind
    (State.feedAll · [.symbol .closeBrace])).bind _ = _
  simp only [State.feed, State.feedHeader, if_true]
  cases schema.lastNamed? entry.name.text with
  | none => rfl
  | some definition =>
    dsimp only
    cases defaultBytes definition.type entry.value <;> rfl

theorem ofText_printDeclaration (type : ElementType) :
    Schema.ofText (entry.printDeclaration type) =
      (defaultBytes type entry.value).map fun bytes =>
        Builtin.schema.declare { Definition.new 1 type "Element" with default? := some bytes } := by
  have identified : (State.among Builtin.schema ⟨.element, []⟩ (.id "Element")).feed (.word "81") =
      .ok (State.among Builtin.schema ⟨.element, []⟩ (.type "Element" 1)) := by
    have read : elementId "81" = .ok 1 := by decide +kernel
    simp only [State.feed, State.among, State.feedDeclaration, read]
    rfl
  have typed : (State.among Builtin.schema ⟨.element, []⟩ (.type "Element" 1)).feed
      (.word type.name) =
        .ok (State.among Builtin.schema ⟨.element, []⟩ (.tail (.new 1 type "Element"))) := by
    simp only [State.feed, State.among, State.feedDeclaration, State.ofType,
      ElementType.ofName?_name]
    rfl
  have begun : State.Leads ⟨Builtin.schema, .block⟩ [.word "define", .word "elements",
      .symbol .openBrace, .word "Element", .symbol .assign, .word "81", .word type.name,
      .symbol .openBracket, .word "def", .symbol .colon]
        (State.among Builtin.schema ⟨.element, []⟩ (.value (.new 1 type "Element") "def")) :=
    .cons rfl (.cons rfl (.cons rfl (.cons rfl (.cons rfl (.cons identified (.cons typed
      (.cons rfl (.cons rfl (.cons rfl .nil)))))))))
  rw [Schema.ofText_eq, begun.extend (entry.lex_printDeclaration type)]
  change ((State.feed _ entry.value).bind (State.feedAll · [.symbol .semicolon,
    .symbol .closeBracket, .symbol .closeBrace])).bind _ = _
  simp only [State.feed, State.among, State.feedDeclaration, State.feedValue]
  have sameType : (Definition.new 1 type "Element").type = type := rfl
  rw [sameType]
  cases encoded : defaultBytes type entry.value with
  | error fault => rfl
  | ok bytes =>
    cases type with
    | container => cases encoded
    | _ => rfl

end HeaderEntry

theorem textDefault_ne_unknownElement (type : ElementType) (value : Lexeme) (name : String) :
    textDefault type value ≠ .error (.unknownElement name) := by
  unfold textDefault
  split
  · split <;> simp
  · split
    · split <;> simp
    · simp
  · simp

theorem defaultBytes_ne_unknownElement (type : ElementType) (value : Lexeme) (name : String) :
    defaultBytes type value ≠ .error (.unknownElement name) := by
  have literal {α : Type} (read? : List Char → Option α) (store : α → Bytes) :
      store <$> readLiteral type read? value.text ≠ .error (.unknownElement name) := by
    unfold readLiteral
    split <;> simp
  cases type with
  | int => exact literal _ _
  | uint => exact literal _ _
  | float => exact literal _ _
  | string => exact textDefault_ne_unknownElement _ _ _
  | binary => exact textDefault_ne_unknownElement _ _ _
  | date => simp [defaultBytes]
  | container => simp [defaultBytes]

end Edtd

namespace Schema

-- What stands for an identifier, or lies below it at the end of a way down.
def at? (schema : Schema) (id : ElementId) (way : List Nat) : Option Definition :=
  (schema.definition? id).bind (·.at? way)

-- One schema is another in all but the defaults of one name.
structure SetsDefault (schema : Schema) (name : String) (bytes : Bytes) (extended : Schema) :
    Prop where
  aliases : extended.aliases = schema.aliases
  properties : ∀ id way, (extended.at? id way).map (·.toProperties) =
    (schema.at? id way).map (·.toProperties.withDefault name bytes)
  widths : ∀ id way, (extended.at? id way).map (·.width?) = (schema.at? id way).map (·.width?)

theorem at?_overrideDefault (schema : Schema) (name : String) (bytes : Bytes) (id : ElementId)
    (way : List Nat) :
    (schema.overrideDefault name bytes).at? id way =
      (schema.at? id way).map (Definition.overrideDefault name bytes) := by
  unfold at?
  rw [definition?_overrideDefault]
  cases schema.definition? id with
  | none => rfl
  | some definition => exact Definition.overrideDefault_at? name bytes definition way

theorem overrideDefault_setsDefault (schema : Schema) (name : String) (bytes : Bytes) :
    schema.SetsDefault name bytes (schema.overrideDefault name bytes) where
  aliases := rfl
  properties id way := by
    rw [at?_overrideDefault, Option.map_map]
    congr 1
    funext definition
    exact Definition.overrideDefault_toProperties name bytes definition
  widths id way := by
    rw [at?_overrideDefault, Option.map_map]
    congr 1
    funext definition
    exact Definition.overrideDefault_width? name bytes definition

theorem lastNamed?_head (schema : Schema) (name : String) :
    schema.heads.reverse.find? (·.name == name) =
      (schema.lastNamed? name).map Definition.head := by
  rw [heads, ← List.map_reverse, List.find?_map]
  rfl

theorem lastNamed?_eq_none_iff {schema : Schema} {name : String} :
    schema.lastNamed? name = none ↔ ∀ head ∈ schema.heads, head.name ≠ name := by
  have found := schema.lastNamed?_head name
  rw [← Option.map_eq_none_iff, ← found]
  simp

theorem definition?_declare {schema : Schema} {root : Definition} (childless : root.children = [])
    (identified : root.id ≠ 0) : (schema.declare root).definition? root.id = some root := by
  have declared : (schema.declare root).declarations = schema.declarations ++ [root] := by
    have kept : [root].filter (·.id != 0) = [root] := by simp [identified]
    rw [declarations, ← nodes, nodes_declare, List.filter_append, Definition.preorder_eq, childless,
      List.flatMap_nil, kept, nodes, declarations]
  rw [definition?_eq, declared, inForce_append_singleton, override, Function.update_self]

theorem extend_unknownElement_iff (schema : Schema) (entry : Edtd.HeaderEntry) (name : String) :
    schema.extend entry.print = .error (.unknownElement name) ↔
      name = entry.name.text ∧ ∀ head ∈ schema.heads, head.name ≠ entry.name.text := by
  rw [entry.extend_print, ← lastNamed?_eq_none_iff]
  cases schema.lastNamed? entry.name.text with
  | none =>
    constructor
    · rintro ⟨⟩
      exact ⟨rfl, rfl⟩
    · rintro ⟨rfl, _⟩
      rfl
  | some definition =>
    have known := Edtd.defaultBytes_ne_unknownElement definition.type entry.value name
    refine ⟨?_, nofun⟩
    dsimp only
    cases encoded : Edtd.defaultBytes definition.type entry.value with
    | error fault =>
      rintro ⟨⟩
      exact absurd encoded known
    | ok bytes => nofun

theorem extend_as_declared {schema : Schema} {entry : Edtd.HeaderEntry} {definition : Definition}
    (named : schema.lastNamed? entry.name.text = some definition) :
    match ofText (entry.printDeclaration definition.type) with
    | .error fault => schema.extend entry.print = .error fault
    | .ok single => ∃ bytes extended, (single.definition? 1).bind (·.default?) = some bytes ∧
        schema.extend entry.print = .ok extended ∧
        schema.SetsDefault entry.name.text bytes extended := by
  rw [entry.ofText_printDeclaration, entry.extend_print, named]
  dsimp only
  cases Edtd.defaultBytes definition.type entry.value with
  | error fault => rfl
  | ok bytes =>
    have found := @definition?_declare Builtin.schema
      { Definition.new 1 definition.type "Element" with default? := some bytes }
      (Definition.new_children 1 definition.type "Element") Nat.one_ne_zero
    refine ⟨bytes, _, ?_, rfl, overrideDefault_setsDefault schema entry.name.text bytes⟩
    exact congrArg (Option.bind · (·.default?)) found

-- An entry of a header block fails for a name that nothing has been declared by. For any other
-- name, its value is what the same value is in a declaration of the type that the last element
-- of the name has, or is refused as there; it becomes the default wherever the name occurs below
-- an identifier, and nothing else changes.
theorem header_entry_sets_default_of_name {source : String} {schema : Schema}
    (compiled : ofText source = .ok schema) (entry : Edtd.HeaderEntry) :
    (∀ name, ofText (source ++ "\n" ++ entry.print) = .error (.unknownElement name) ↔
      name = entry.name.text ∧ ∀ head ∈ Builtin.schema.heads ++ Builtin.schema.headsRead source,
        head.name ≠ entry.name.text) ∧
    ∀ head, (Builtin.schema.heads ++ Builtin.schema.headsRead source).reverse.find?
        (·.name == entry.name.text) = some head →
      match ofText (entry.printDeclaration head.type) with
      | .error fault => ofText (source ++ "\n" ++ entry.print) = .error fault
      | .ok single => ∃ bytes extended,
        (single.definition? 1).bind (·.default?) = some bytes ∧
        ofText (source ++ "\n" ++ entry.print) = .ok extended ∧
        schema.SetsDefault entry.name.text bytes extended := by
  rw [ofText_eq (source ++ "\n" ++ entry.print), extend_line compiled, ← ofText_heads compiled,
    lastNamed?_head]
  refine ⟨schema.extend_unknownElement_iff entry, ?_⟩
  intro head last
  obtain ⟨definition, named, rfl⟩ := Option.map_eq_some_iff.mp last
  exact extend_as_declared named

def numbered : String :=
  "define types \x7b T := container \x7b N := uint; \x7d \x7d " ++
    "define elements \x7b B := 82 container \x7b N := 84 uint; D := 85 T; \x7d \x7d"

def numberedFive : Edtd.HeaderEntry where
  name := ⟨"N", by decide⟩
  value := .word "5"
  spelled := by unfold Edtd.Lexeme.Spellable; decide
  valued := nofun

theorem header_entry_sets_copied_and_lent :
    ∃ schema, ofText numbered = .ok schema ∧ ∃ extended,
      ofText (numbered ++ "\n" ++ numberedFive.print) = .ok extended ∧
      ((schema.at? 2 [1, 0]).map (·.default?) = some none) ∧
      ((extended.at? 2 [1, 0]).map (·.default?) = some (some [0, 0, 0, 0, 0, 0, 0, 5])) := by
  have lastNamed : (Builtin.schema.heads ++ Builtin.schema.headsRead numbered).reverse.find?
      (·.name == "N") = some ⟨"N", 4, .uint⟩ := by decide +kernel
  have compiles : (ofText numbered).toOption.bind (fun schema =>
      (schema.at? 2 [1, 0]).map fun node => (node.name, node.default?)) = some ("N", none) := by
    decide +kernel
  have stored : (ofText (numberedFive.printDeclaration .uint)).toOption.bind (fun single =>
      (single.definition? 1).bind (·.default?)) = some [0, 0, 0, 0, 0, 0, 0, 5] := by
    decide +kernel
  cases compiled : ofText numbered with
  | error fault => simp [compiled, Except.toOption] at compiles
  | ok schema =>
    have overridden := (header_entry_sets_default_of_name compiled numberedFive).2 _ lastNamed
    simp only [compiled, Except.toOption, Option.bind_some, Option.map_eq_some_iff,
      Prod.mk.injEq] at compiles
    obtain ⟨node, lent, named, unset⟩ := compiles
    cases single : ofText (numberedFive.printDeclaration .uint) with
    | error fault => simp [single, Except.toOption] at stored
    | ok declared =>
      simp only [single] at overridden
      obtain ⟨bytes, extended, encoded, appended, sets⟩ := overridden
      simp only [single, Except.toOption, Option.bind_some, encoded, Option.some.injEq] at stored
      refine ⟨schema, rfl, extended, appended, by rw [lent, Option.map_some, unset], ?_⟩
      have set := congrArg (Option.map Properties.default?) (sets.properties 2 [1, 0])
      have sameName : node.name = numberedFive.name.text := named
      rw [Option.map_map, lent, Option.map_some, Option.map_some, Properties.withDefault,
        if_pos sameName, stored] at set
      exact set

end Schema

end Ebml
