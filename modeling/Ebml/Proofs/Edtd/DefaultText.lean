import Ebml.Proofs.Edtd.Single
import Ebml.Proofs.Payload

namespace Ebml.Literal

theorem digitsValue_eq (digits : List Char) :
    digitsValue digits = Nat.ofDigitChars 10 digits 0 := by
  simp only [digitsValue, Nat.ofDigitChars, digitValue, Nat.mul_comm]

theorem natural?_repr (n : Nat) : natural? n.repr.toList = some n := by
  have more : (Nat.toDigits 10 n).isEmpty = false := List.isEmpty_eq_false_iff.mpr Nat.toDigits_ne_nil
  have digits : (Nat.toDigits 10 n).all Char.isDigit = true :=
    List.all_eq_true.mpr fun c member =>
      Nat.isDigit_of_mem_toDigits (by decide) (by decide) member
  rw [Nat.toList_repr, natural?, more, digits, digitsValue_eq,
    Nat.ofDigitChars_ten_toDigits]
  rfl

theorem uint64?_repr {n : Nat} (small : n < 0x10000000000000000) :
    uint64? n.repr.toList = some n := by
  rw [uint64?, natural?_repr, Option.filter_some, if_pos (decide_eq_true small)]

theorem int64?_repr {value : Int} (least : -0x8000000000000000 ≤ value)
    (greatest : value < 0x8000000000000000) : int64? value.repr.toList = some value := by
  cases value with
  | ofNat n =>
    have unsigned : ∀ digits, n.repr.toList ≠ '-' :: digits := by
      intro digits signed
      have first : '-' ∈ Nat.toDigits 10 n := by
        rw [← Nat.toList_repr, signed]
        exact List.mem_cons_self
      exact absurd (Nat.isDigit_of_mem_toDigits (by decide) (by decide) first) (by decide)
    change int64? n.repr.toList = _
    unfold int64?
    split
    · rename_i digits signed
      exact absurd signed (unsigned digits)
    · rw [natural?_repr, Option.filter_some, if_pos (decide_eq_true (Int.ofNat_lt.mp greatest))]
      rfl
  | negSucc n =>
    have spelled : (Int.negSucc n).repr.toList = '-' :: (n + 1).repr.toList := by
      change ("-" ++ (n + 1).repr).toList = _
      simp
    rw [spelled, int64?, natural?_repr, Option.filter_some, if_pos (decide_eq_true (by omega))]
    rfl

end Ebml.Literal

namespace Ebml.Edtd

variable {type : ElementType}

structure HexDigits where
  bytes : Bytes
  digits : List Char
  spells : digits.map Char.toLower = Bytes.toHex bytes

-- Defaults as they are written for the values that they are to have: numbers in decimal, bytes
-- in hex or as escapes, and characters as they are but for quotes and backslashes.
inductive DefaultText : ElementType → Type
  | int (value : Int) (least : -0x8000000000000000 ≤ value)
      (greatest : value < 0x8000000000000000) : DefaultText .int
  | uint (value : Nat) (greatest : value < 0x10000000000000000) : DefaultText .uint
  | hex {type : ElementType} (textual : type = .string ∨ type = .binary) (spelled : HexDigits) :
      DefaultText type
  | escaped {type : ElementType} (textual : type = .string ∨ type = .binary)
      (spelled : HexDigits) : DefaultText type
  | characters {type : ElementType} (textual : type = .string ∨ type = .binary)
      (text : String) : DefaultText type

def quote (body : List Char) : String := "\"" ++ String.ofList body ++ "\""

def escapePairs : List Char → List Char
  | high :: low :: rest => '\\' :: 'x' :: high :: low :: escapePairs rest
  | [_] => []
  | [] => []

def escapeChar (c : Char) : List Char := if c = '"' ∨ c = '\\' then ['\\', c] else [c]

namespace HexDigits

theorem reads (spelled : HexDigits) : Bytes.ofHex? spelled.digits = some spelled.bytes :=
  Bytes.ofHex?_eq_some_iff.mpr spelled.spells

end HexDigits

namespace Piece

theorem pieces_of_pairs {digits : List Char} {bytes : Bytes}
    (reads : Bytes.ofHex? digits = some bytes) :
    ∃ pieces : List Piece, pieces.flatMap text = escapePairs digits ∧
      pieces.flatMap Piece.bytes = bytes := by
  induction digits using Bytes.ofHex?.induct generalizing bytes with
  | case1 =>
    cases reads
    exact ⟨[], rfl, rfl⟩
  | case2 digit => cases reads
  | case3 high low rest ih =>
    obtain ⟨byte, pair, after⟩ := Option.bind_eq_some_iff.mp reads
    obtain ⟨others, readsRest, joined⟩ := Option.bind_eq_some_iff.mp after
    cases joined
    obtain ⟨pieces, written, meant⟩ := ih readsRest
    refine ⟨.byte high low byte pair :: pieces, ?_, ?_⟩
    · rw [List.flatMap_cons, written]
      rfl
    · rw [List.flatMap_cons, meant]
      rfl

def ofChar (c : Char) : Piece :=
  if quote : c = '"' then .escape '"' '"' rfl
  else if escape : c = '\\' then .escape '\\' '\\' rfl
  else .plain c quote escape

theorem ofChar_text (c : Char) : (ofChar c).text = escapeChar c := by
  unfold ofChar escapeChar
  split
  · rename_i quote
    rw [if_pos (.inl quote), quote]
    rfl
  · rename_i noQuote
    split
    · rename_i escape
      rw [if_pos (.inr escape), escape]
      rfl
    · rename_i noEscape
      rw [if_neg (not_or.mpr ⟨noQuote, noEscape⟩)]
      rfl

theorem ofChar_bytes (c : Char) : (ofChar c).bytes = String.utf8EncodeChar c := by
  unfold ofChar
  split
  · rename_i quote
    rw [quote]
    rfl
  · split
    · rename_i escape
      rw [escape]
      rfl
    · rfl

end Piece

namespace DefaultLiteral

theorem plain (literal : DefaultLiteral type) : type ≠ .container := by
  rintro rfl
  cases literal with
  | quoted textual pieces => simp at textual
  | hex textual digits value spells => simp at textual

theorem lexeme_apart (literal : DefaultLiteral type) (mark : Symbol) :
    literal.lexeme ≠ .symbol mark := by
  cases literal <;> simp [lexeme]

def declared (literal : DefaultLiteral type) (name : Name) (id : IdLiteral) : Single :=
  ⟨name, id, type, literal.plain⟩

def entry (literal : DefaultLiteral type) (name : Name) : HeaderEntry :=
  ⟨name, literal.lexeme, literal.spellable, literal.lexeme_apart⟩

theorem apply_default (literal : DefaultLiteral type) (id : ElementId) (name : String) :
    (Setting.default literal.lexeme).apply (.new id type name) =
      .ok { Definition.new id type name with default? := some literal.bytes } := by
  have typed : (Definition.new id type name).type = type := rfl
  rw [Setting.apply, typed, literal.defaultBytes_eq]
  rfl

theorem extend_declared (literal : DefaultLiteral type) (name : Name) (id : IdLiteral)
    (schema : Schema) :
    schema.extend ((literal.declared name id).print "def" literal.lexeme.text) =
      .ok (schema.declare
        { Definition.new id.vint.value type name.text with default? := some literal.bytes }) := by
  have spelled : literal.lexeme.text.toList =
      (Setting.default literal.lexeme).value.flatMap (·.text.toList) := by
    rw [Setting.value, List.flatMap_singleton]
  have spellable : ∀ lexeme ∈ (Setting.default literal.lexeme).value, lexeme.Spellable := by
    rw [Setting.value, List.forall_mem_singleton]
    exact literal.spellable
  have word : isWord (Setting.default literal.lexeme).name.toList = true := by
    rw [Setting.name]
    decide
  exact (literal.declared name id).extend_print word spelled spellable (List.isChain_singleton _)
    (literal.apply_default id.vint.value name.text) schema

theorem extend_entry (literal : DefaultLiteral type) {name : Name} {schema : Schema}
    {named : Definition} (last : schema.lastNamed? name.text = some named)
    (typed : named.type = type) :
    schema.extend (literal.entry name).print =
      .ok (schema.overrideDefault name.text literal.bytes) := by
  have sameName : (literal.entry name).name.text = name.text := rfl
  have sameValue : (literal.entry name).value = literal.lexeme := rfl
  rw [(literal.entry name).extend_print, sameName, last, sameValue]
  dsimp only
  rw [typed, literal.defaultBytes_eq]
  rfl

end DefaultLiteral

namespace DefaultText

def text : DefaultText type → String
  | int value _ _ => toString value
  | uint value _ => toString value
  | hex _ spelled => "0x" ++ String.ofList spelled.digits
  | escaped _ spelled => quote (escapePairs spelled.digits)
  | characters _ text => quote (text.toList.flatMap escapeChar)

def bytes : DefaultText type → Bytes
  | int value _ _ => signedBytes value
  | uint value _ => Bytes.toBigEndian 8 value
  | hex _ spelled => spelled.bytes
  | escaped _ spelled => spelled.bytes
  | characters _ text => Bytes.ofText text

-- A default is read as the value that it was written for. Texts lose the NULs at their end.
def ReadsBack (definition : Definition) : DefaultText type → Prop
  | int value _ _ => definition.defaultInt? = some value
  | uint value _ => definition.defaultUInt? = some value
  | hex _ spelled => definition.default? = some spelled.bytes
  | escaped _ spelled => definition.default? = some spelled.bytes
  | characters _ text => definition.default? = some (Bytes.ofText text) ∧
      definition.defaultString? = some (Payload.withoutNuls text)

theorem literal (written : DefaultText type) :
    ∃ literal : DefaultLiteral type,
      literal.lexeme.text = written.text ∧ literal.bytes = written.bytes := by
  cases written with
  | int value least greatest =>
    refine ⟨.int ⟨value.repr.toList, value, Literal.int64?_repr least greatest⟩, ?_, rfl⟩
    exact String.ofList_toList
  | uint value greatest =>
    refine ⟨.uint ⟨value.repr.toList, value, Literal.uint64?_repr greatest⟩, ?_, rfl⟩
    exact String.ofList_toList
  | hex textual spelled =>
    refine ⟨.hex textual spelled.digits spelled.bytes spelled.reads, ?_, rfl⟩
    rw [← String.toList_inj]
    simp [DefaultLiteral.lexeme, Lexeme.text_word, text]
  | escaped textual spelled =>
    obtain ⟨pieces, written, meant⟩ := Piece.pieces_of_pairs spelled.reads
    refine ⟨.quoted textual pieces, ?_, meant⟩
    rw [DefaultLiteral.lexeme, written]
    rfl
  | characters textual text =>
    refine ⟨.quoted textual (text.toList.map .ofChar), ?_, ?_⟩
    · simp only [DefaultLiteral.lexeme, List.flatMap_map, Piece.ofChar_text]
      rfl
    · simp only [DefaultLiteral.bytes, List.flatMap_map, Piece.ofChar_bytes]
      rfl

theorem plain (written : DefaultText type) : type ≠ .container := by
  obtain ⟨literal, _⟩ := written.literal
  exact literal.plain

theorem whole_signedBytes {value : Int} (least : -0x8000000000000000 ≤ value)
    (greatest : value < 0x8000000000000000) :
    Payload.whole Payload.int (signedBytes value) = some value := by
  have length : (signedBytes value).length = 8 := Bytes.toBigEndian_length 8 _
  have stored : (Bytes.ofBigEndian (signedBytes value) : Int) = value % (256 ^ 8 : Nat) := by
    have power : Nat.pow 256 8 = 0x10000000000000000 := by decide
    rw [signedBytes, Bytes.ofBigEndian_toBigEndian, power]
    omega
  rw [Payload.whole_int, if_pos (Nat.le_of_eq length), length, stored, Int.emod_bmod,
    Int.bmod_eq_of_le (by omega) (by omega)]

theorem whole_toBigEndian {value : Nat} (greatest : value < 0x10000000000000000) :
    Payload.whole Payload.uint (Bytes.toBigEndian 8 value) = some value := by
  have length : (Bytes.toBigEndian 8 value).length = 8 := Bytes.toBigEndian_length 8 _
  rw [Payload.whole_uint, if_pos (Nat.le_of_eq length), Bytes.ofBigEndian_toBigEndian,
    Nat.mod_eq_of_lt greatest]

theorem readsBack_of_default (written : DefaultText type) {definition : Definition}
    (stored : definition.default? = some written.bytes) : written.ReadsBack definition := by
  cases written with
  | int value least greatest =>
    rw [ReadsBack, Definition.defaultInt?, stored]
    exact whole_signedBytes least greatest
  | uint value greatest =>
    rw [ReadsBack, Definition.defaultUInt?, stored]
    exact whole_toBigEndian greatest
  | hex textual spelled => exact stored
  | escaped textual spelled => exact stored
  | characters textual text =>
    refine ⟨stored, ?_⟩
    rw [Definition.defaultString?, stored]
    exact Payload.text?_ofText text

def printDeclaration (written : DefaultText type) (name : Name) (id : IdLiteral) : String :=
  (⟨name, id, type, written.plain⟩ : Single).print "def" written.text

def printEntry (written : DefaultText type) (name : Name) : String :=
  "declare header \x7b " ++ name.text ++ " := " ++ written.text ++ "; \x7d"

theorem extend_declaration (written : DefaultText type) (name : Name) (id : IdLiteral)
    (schema : Schema) :
    schema.extend (written.printDeclaration name id) =
      .ok (schema.declare
        { Definition.new id.vint.value type name.text with default? := some written.bytes }) := by
  obtain ⟨literal, spelled, meant⟩ := written.literal
  have printed : written.printDeclaration name id =
      (literal.declared name id).print "def" literal.lexeme.text := by
    rw [printDeclaration, DefaultLiteral.declared, spelled]
  rw [printed, literal.extend_declared, meant]

theorem extend_entry (written : DefaultText type) {name : Name} {schema : Schema}
    {named : Definition} (last : schema.lastNamed? name.text = some named)
    (typed : named.type = type) :
    schema.extend (written.printEntry name) =
      .ok (schema.overrideDefault name.text written.bytes) := by
  obtain ⟨literal, spelled, meant⟩ := written.literal
  have printed : written.printEntry name = (literal.entry name).print := by
    unfold HeaderEntry.print DefaultLiteral.entry printEntry
    dsimp only
    rw [spelled]
  rw [printed, literal.extend_entry last typed, meant]

end DefaultText

end Ebml.Edtd

namespace Ebml.Schema

variable {source : String} {schema : Schema} {type : ElementType}

theorem lastNamed?_overrideDefault (schema : Schema) (name : String) (bytes : Bytes) :
    (schema.overrideDefault name bytes).lastNamed? name =
      (schema.lastNamed? name).map (Definition.overrideDefault name bytes) := by
  have named (definition : Definition) :
      (definition.overrideDefault name bytes).name = definition.name := by
    rw [Definition.overrideDefault_eq]
  simp only [lastNamed?, declarations_overrideDefault, ← List.map_reverse, List.find?_map,
    Function.comp_def, named]

-- The value of a default that is written, in a declaration or in a header block, is what is read
-- from the definitions that have the default.
theorem default_text_read_back (compiled : ofText source = .ok schema) (name : Edtd.Name)
    (written : Edtd.DefaultText type) :
    (∀ id : Edtd.IdLiteral, ∃ extended definition,
      ofText (source ++ "\n" ++ written.printDeclaration name id) = .ok extended ∧
      extended.definition? id.vint.value = some definition ∧ definition.name = name.text ∧
      definition.type = type ∧ written.ReadsBack definition) ∧
    ∀ named, schema.lastNamed? name.text = some named → named.type = type → ∃ extended,
      ofText (source ++ "\n" ++ written.printEntry name) = .ok extended ∧
      (∃ after, extended.lastNamed? name.text = some after ∧ after.id = named.id ∧
        written.ReadsBack after) ∧
      ∀ id way definition, schema.at? id way = some definition → definition.name = name.text →
        ∃ after, extended.at? id way = some after ∧ written.ReadsBack after := by
  constructor
  · intro id
    have declared := written.extend_declaration name id schema
    rw [← extend_line compiled, ← ofText_eq] at declared
    have defined := @definition?_declare schema
      { Definition.new id.vint.value type name.text with default? := some written.bytes }
      (Definition.new_children id.vint.value type name.text) id.nonzero
    exact ⟨_, _, declared, defined, rfl, rfl, written.readsBack_of_default rfl⟩
  · intro named last typed
    have stored : ∀ definition : Definition, definition.name = name.text →
        written.ReadsBack (definition.overrideDefault name.text written.bytes) := by
      intro definition same
      refine written.readsBack_of_default ?_
      rw [Definition.overrideDefault_eq]
      exact if_pos same
    refine ⟨schema.overrideDefault name.text written.bytes, ?_, ?_, ?_⟩
    · rw [ofText_eq, extend_line compiled]
      exact written.extend_entry last typed
    · refine ⟨_, by rw [lastNamed?_overrideDefault, last]; rfl, ?_, stored named ?_⟩
      · rw [Definition.overrideDefault_eq]
      · exact (lastNamed?_mem last).2
    · intro id way definition found same
      exact ⟨_, by rw [at?_overrideDefault, found]; rfl, stored definition same⟩

def troublesome : Edtd.DefaultText .string := .characters (.inl rfl) "\"//\\é\x00"

theorem troublesome_read_back :
    (∃ extended definition,
      ofText "\ndefine elements \x7b DocType := 81 string [ def:\"\\\"//\\\\é\x00\"; ] \x7d" =
        .ok extended ∧
      extended.definition? 1 = some definition ∧ definition.defaultString? = some "\"//\\é") ∧
    ∃ extended after,
      ofText "\ndeclare header \x7b DocType := \"\\\"//\\\\é\x00\"; \x7d" = .ok extended ∧
      extended.lastNamed? "DocType" = some after ∧
      after.default? = some [34, 47, 47, 92, 195, 169, 0] := by
  have known : (Builtin.schema.lastNamed? "DocType").map (·.type) = some .string := by
    decide +kernel
  obtain ⟨named, last, typed⟩ := Option.map_eq_some_iff.mp known
  have declaration : "" ++ "\n" ++ troublesome.printDeclaration ⟨"DocType", by decide⟩ .first =
      "\ndefine elements \x7b DocType := 81 string [ def:\"\\\"//\\\\é\x00\"; ] \x7d" := by
    decide +kernel
  have entry : "" ++ "\n" ++ troublesome.printEntry ⟨"DocType", by decide⟩ =
      "\ndeclare header \x7b DocType := \"\\\"//\\\\é\x00\"; \x7d" := by decide +kernel
  obtain ⟨declared, overridden⟩ :=
    default_text_read_back ofText_empty ⟨"DocType", by decide⟩ troublesome
  obtain ⟨extended, definition, printed, defined, _, _, _, read⟩ := declared .first
  obtain ⟨changed, appended, ⟨after, lastAfter, _, bytes, _⟩, _⟩ := overridden named last typed
  rw [declaration] at printed
  rw [entry] at appended
  refine ⟨⟨extended, definition, printed, defined, ?_⟩, changed, after, appended, lastAfter, ?_⟩
  · rw [read]
    decide +kernel
  · rw [bytes]
    decide +kernel

end Ebml.Schema
