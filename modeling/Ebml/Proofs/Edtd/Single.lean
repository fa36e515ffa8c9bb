import Ebml.Proofs.Edtd.HeaderBlock
import Ebml.Proofs.Edtd.Setting

namespace Ebml.Edtd

def IdLiteral.first : IdLiteral where
  digits := ['8', '1']
  vint := ⟨1, 1⟩
  valid := ⟨by decide, by decide, by decide⟩
  nonzero := by decide
  spells := by decide

-- A block of one element with one parameter, spelled without blanks where none are needed.
structure Single where
  name : Name
  id : IdLiteral
  type : ElementType
  plain : type ≠ .container

namespace Single

variable (single : Single)

def print (parameter value : String) : String :=
  "define elements \x7b " ++ single.name.text ++ " := " ++ String.ofList single.id.digits ++ " " ++
    single.type.name ++ " [ " ++ parameter ++ ":" ++ value ++ "; ] \x7d"

def opening (parameter : String) : List (Lexeme × List Char) :=
  [(.word "define", [' ']), (.word "elements", [' ']), (.symbol .openBrace, [' ']),
    (.word single.name.text, [' ']), (.symbol .assign, [' ']),
    (.word (String.ofList single.id.digits), [' ']), (.word single.type.name, [' ']),
    (.symbol .openBracket, [' ']), (.word parameter, []), (.symbol .colon, [])]

def closing : List (Lexeme × List Char) :=
  [(.symbol .semicolon, [' ']), (.symbol .closeBracket, [' ']), (.symbol .closeBrace, [])]

def glued (lexemes : List Lexeme) : List (Lexeme × List Char) := lexemes.map (·, [])

theorem layOut_glued (lexemes : List Lexeme) :
    layOut (glued lexemes) = lexemes.flatMap (·.text.toList) := by
  simp [layOut, glued, List.flatMap_map]

theorem layOut_append (first rest : List (Lexeme × List Char)) :
    layOut (first ++ rest) = layOut first ++ layOut rest :=
  List.flatMap_append

theorem layOut_print {parameter value : String} {lexemes : List Lexeme}
    (spelled : value.toList = lexemes.flatMap (·.text.toList)) :
    (single.print parameter value).toList =
      layOut (single.opening parameter ++ (glued lexemes ++ closing)) := by
  rw [layOut_append, layOut_append, layOut_glued, ← spelled]
  unfold print opening closing layOut
  simp [Lexeme.text_word, Lexeme.text_symbol, Symbol.text, -String.reduceAppend]

theorem glued_apart {lexemes : List Lexeme} (apart : lexemes.IsChain Lexeme.Apart)
    (parameter : String) :
    (single.opening parameter ++ (glued lexemes ++ closing)).IsChain
      fun one next => one.2 = [] → one.1.Apart next.1 := by
  have inside : (glued lexemes).IsChain fun one next => one.2 = [] → one.1.Apart next.1 := by
    rw [glued, List.isChain_map]
    exact apart.imp fun _ _ apart _ => apart
  have value : (glued lexemes ++ closing).IsChain
      fun one next => one.2 = [] → one.1.Apart next.1 := by
    refine List.isChain_append.mpr ⟨inside, by simp [closing], ?_⟩
    rintro one _ next ⟨⟩ _
    exact one.1.apart_symbol _
  refine List.isChain_append.mpr ⟨by simp [opening], value, ?_⟩
  rintro one ⟨⟩ next _ _
  exact Lexeme.symbol_apart _ next.1

theorem lex_print {setting : Setting} {value : String} (word : isWord setting.name.toList = true)
    (spelled : value.toList = setting.value.flatMap (·.text.toList))
    (spellable : ∀ lexeme ∈ setting.value, lexeme.Spellable)
    (apart : setting.value.IsChain Lexeme.Apart) :
    lex (single.print setting.name value).toList =
      ([.word "define", .word "elements", .symbol .openBrace] ++
        (element single.name.text (String.ofList single.id.digits) single.type.name
          (some [setting]) ++ [.symbol .closeBrace]), .endOfInput) := by
  have order : (single.opening setting.name ++ (glued setting.value ++ closing)).map (·.1) =
      [.word "define", .word "elements", .symbol .openBrace] ++
        (element single.name.text (String.ofList single.id.digits) single.type.name
          (some [setting]) ++ [.symbol .closeBrace]) := by
    have glue : (glued setting.value).map (·.1) = setting.value := by
      simp [glued, Function.comp_def]
    simp [glue, opening, closing, element, tail, Grammar.bracketed, Setting.lexemes,
      Parameters.parameter]
  have words : isWord "define".toList = true ∧ isWord "elements".toList = true := by decide
  have typeWord : isWord single.type.name.toList = true := by cases single.type <;> decide
  rw [single.layOut_print spelled, lex_layOut, order]
  · simp only [opening, closing, List.forall_mem_append, List.forall_mem_cons]
    refine ⟨⟨words.1, words.2, trivial, single.name.spelled, trivial, single.id.spellable, typeWord,
      trivial, word, trivial, List.forall_mem_nil _⟩, ?_, trivial, trivial, trivial,
      List.forall_mem_nil _⟩
    simpa [glued] using spellable
  · have opened : ∀ item ∈ single.opening setting.name, ∀ c ∈ item.2, isBlank c = true := by
      simp [opening, isBlank]
    have inside : ∀ item ∈ glued setting.value, ∀ c ∈ item.2, isBlank c = true := by simp [glued]
    have closed : ∀ item ∈ closing, ∀ c ∈ item.2, isBlank c = true := by simp [closing, isBlank]
    simp only [List.forall_mem_append]
    exact ⟨opened, inside, closed⟩
  · exact single.glued_apart apart setting.name

theorem extend_print {setting : Setting} {value : String} {definition : Definition}
    (word : isWord setting.name.toList = true)
    (spelled : value.toList = setting.value.flatMap (·.text.toList))
    (spellable : ∀ lexeme ∈ setting.value, lexeme.Spellable)
    (apart : setting.value.IsChain Lexeme.Apart)
    (applied : setting.apply (.new single.id.vint.value single.type single.name.text) =
      .ok definition) (schema : Schema) :
    schema.extend (single.print setting.name value) = .ok (schema.declare definition) := by
  have opened : State.Leads ⟨schema, .block⟩ [.word "define", .word "elements", .symbol .openBrace]
      (State.among schema ⟨.element, []⟩ .entry) := .cons rfl (.cons rfl (.cons rfl .nil))
  have known : ∀ id, State.ofType schema id single.name.text single.type.name =
      .ok (.new id single.type single.name.text) :=
    fun id => State.ofType_word id single.name.text (ElementType.ofName?_name single.type)
  have applied' : applyAll (.new single.id.vint.value single.type single.name.text) [setting] =
      .ok definition := by
    rw [applyAll_cons, applied]
    rfl
  have declared : State.Leads (State.among schema ⟨.element, []⟩ .entry)
      (element single.name.text (String.ofList single.id.digits) single.type.name (some [setting]))
      (State.declare schema ⟨.element, []⟩ definition) := by
    unfold State.Leads
    rw [State.feedAll_element rfl known (fun _ => beq_false_of_ne single.plain),
      single.id.elementId_eq]
    change (State.declare schema ⟨.element, []⟩ ·) <$> applyAll _ [setting] = _
    rw [applied']
    rfl
  have ended : State.Leads (State.declare schema ⟨.element, []⟩ definition) [.symbol .closeBrace]
      ⟨schema.declare definition, .block⟩ := .cons rfl .nil
  rw [(opened.append (declared.append ended)).extend
    (by rw [single.lex_print word spelled spellable apart, List.append_nil])]
  rfl

theorem definition?_declared {setting : Setting} {definition : Definition}
    (applied : setting.apply (.new single.id.vint.value single.type single.name.text) =
      .ok definition) (schema : Schema) :
    (schema.declare definition).definition? single.id.vint.value = some definition := by
  have revised := Setting.revised applied
  have childless : definition.children = [] := by
    rw [revised.children, Definition.new_children]
  have numbered : definition.id = single.id.vint.value := revised.id
  rw [← numbered]
  refine Schema.definition?_declare childless ?_
  rw [numbered]
  exact single.id.nonzero

end Single

end Ebml.Edtd

namespace Ebml.Schema

theorem ofText_empty : ofText "" = .ok Builtin.schema := by
  rw [ofText, Edtd.lex_eq]
  rfl

end Ebml.Schema
