import Ebml.Edtd.Compilation

namespace Ebml.Edtd

-- Another reader of schema sources, by descent: it asks for a token only where it needs one, and
-- has a loop or a recursion for every kind of list in the language.
structure Lexer where
  text : List Char
  -- How many tokens have been asked for.
  asked : Nat

-- A reading may fail. A loop is a recursion here, and each is told how many calls deep it may still
-- go: where it needs more of them, it has no outcome.
abbrev Descent := ExceptT Fault (StateT Lexer Option)

namespace Descent

def next : Descent (Option Lexeme) := fun lexer =>
  match Token.next lexer.text with
  | (.lexeme found, rest) => some (.ok (some found), ⟨rest, lexer.asked + 1⟩)
  | (.stop .endOfInput, rest) => some (.ok none, ⟨rest, lexer.asked + 1⟩)
  | (.stop (.invalid error), rest) => some (.error (.lexical error), ⟨rest, lexer.asked + 1⟩)

def meaning {α : Type} (read : Except Fault α) : Descent α := fun lexer => some (read, lexer)

def unfinished {α : Type} : Descent α := fun _ => none

def refuse {α : Type} (fault : Fault) : Descent α := meaning (.error fault)

def expect (wanted : Lexeme) (refusal : Option Lexeme → Fault) : Descent Unit := do
  let found? ← next
  if found? = some wanted then return () else refuse (refusal found?)

def expectSymbol (mark : Symbol) : Descent Unit :=
  expect (.symbol mark) (.unexpected (.symbol mark))

def expectWord : Descent String := do
  match ← next with
  | some (.word text) => return text
  | found? => refuse (.unexpected .word found?)

def rangeTerm : Option Lexeme → Descent RangeTerm
  | some (.word text) => return .span text
  | some (.symbol mark) => do
    match Relation.ofSymbol? mark with
    | some relation =>
      let number ← expectWord
      return .related relation number
    | none => refuse (.unexpected .rangeTerm (some (.symbol mark)))
  | found? => refuse (.unexpected .rangeTerm found?)

def rangeTerms : Nat → List RangeTerm → Descent (List RangeTerm)
  | 0, _ => unfinished
  | calls + 1, terms => do
    match ← next with
    | some (.symbol .semicolon) => return terms
    | some (.symbol .comma) =>
      let found? ← next
      let term ← rangeTerm found?
      rangeTerms calls (terms ++ [term])
    | found? => refuse (.unexpected .rangeSeparator found?)

def ignored : Nat → Option Lexeme → Descent Unit
  | 0, _ => unfinished
  | calls + 1, found? =>
    match found? with
    | some (.symbol .semicolon) => return ()
    | some (.symbol .closeBracket) =>
      refuse (.unexpected (.symbol .semicolon) (some (.symbol .closeBracket)))
    | none => refuse (.unexpected (.symbol .semicolon) none)
    | some _ => do
      let found? ← next
      ignored calls found?

def parameter (calls : Nat) (definition : Definition) (name : String) (value : Lexeme) :
    Descent Definition := do
  match name with
  | "card" =>
    let cardinality ← meaning (cardinality value)
    expectSymbol .semicolon
    return { definition with cardinality := cardinality }
  | "def" =>
    let bytes ← meaning (defaultBytes definition.type value)
    expectSymbol .semicolon
    return { definition with default? := some bytes }
  | "size" =>
    let size ← meaning (payloadSize value)
    expectSymbol .semicolon
    return { definition with size := size }
  | "range" =>
    let first ← rangeTerm (some value)
    let terms ← rangeTerms calls [first]
    let range ← meaning (rangeOf definition.type terms)
    return { definition with range? := some range }
  | _ =>
    ignored calls (some value)
    return definition

def parameters : Nat → Definition → Descent Definition
  | 0, _ => unfinished
  | calls + 1, definition => do
    match ← next with
    | some (.symbol .closeBracket) => return definition
    | some (.word name) =>
      expectSymbol .colon
      match ← next with
      | some value =>
        let changed ← parameter calls definition name value
        parameters calls changed
      | none => refuse (.unexpected .parameterValue none)
    | found? => refuse (.unexpected .parameterName found?)

def heading (schema : Schema) (kind : DeclarationKind) (name : String) : Descent Definition := do
  expectSymbol .assign
  match kind with
  | .element =>
    let literal ← expectWord
    let id ← meaning (elementId literal)
    let type ← expectWord
    meaning (State.ofType schema id name type)
  | .alias =>
    let type ← expectWord
    meaning (State.ofType schema 0 name type)

def marker : Descent Unit := do
  expect (.word "children") (.unexpected .childrenMarker)
  expectSymbol .semicolon

mutual
def declaration (schema : Schema) (kind : DeclarationKind) : Nat → String → Descent Definition
  | 0, _ => unfinished
  | calls + 1, name => do
    let definition ← heading schema kind name
    match ← next with
    | some (.symbol .semicolon) => return definition
    | some (.symbol .openBracket) =>
      let definition ← parameters calls definition
      if definition.isContainer then
        expect (.symbol .openBrace) (.missingChildren definition.name)
        let children ← items schema kind calls []
        return { definition with children? := some children }
      else return definition
    | some (.symbol .openBrace) =>
      if definition.isContainer then
        let children ← items schema kind calls []
        return { definition with children? := some children }
      else refuse (.unexpectedChildren definition.name)
    | found? => refuse ((DeclarationPlace.tail definition).refusal found?)

-- The next declaration of a list, past the markers in front of it, or none where the list ends.
def item (schema : Schema) (kind : DeclarationKind) : Nat → Descent (Option Definition)
  | 0 => unfinished
  | calls + 1 => do
    match ← next with
    | some (.symbol .closeBrace) => return none
    | some (.symbol .percent) =>
      marker
      item schema kind calls
    | some (.word name) =>
      let definition ← declaration schema kind calls name
      return some definition
    | found? => refuse (.unexpected .elementName found?)

def items (schema : Schema) (kind : DeclarationKind) :
    Nat → List Definition → Descent (List Definition)
  | 0, _ => unfinished
  | calls + 1, earlier => do
    match ← item schema kind calls with
    | none => return earlier
    | some definition => items schema kind calls (earlier ++ [definition])
end

def declarations (kind : DeclarationKind) : Nat → Schema → Descent Schema
  | 0, _ => unfinished
  | calls + 1, schema => do
    match ← item schema kind calls with
    | none => return schema
    | some definition =>
      match kind with
      | .element => declarations kind calls (schema.declare definition)
      | .alias => declarations kind calls (schema.addAlias definition)

def headerEntry (schema : Schema) (name : String) (value : Lexeme) : Descent Schema := do
  expectSymbol .semicolon
  match schema.lastNamed? name with
  | none => refuse (.unknownElement name)
  | some definition =>
    let bytes ← meaning (defaultBytes definition.type value)
    return schema.overrideDefault name bytes

def headerEntries : Nat → Schema → Descent Schema
  | 0, _ => unfinished
  | calls + 1, schema => do
    match ← next with
    | some (.symbol .closeBrace) => return schema
    | some (.word name) =>
      expectSymbol .assign
      match ← next with
      | some (.symbol mark) => refuse (.unexpected .headerValue (some (.symbol mark)))
      | some value =>
        let changed ← headerEntry schema name value
        headerEntries calls changed
      | none => refuse (.unexpected .headerValue none)
    | found? => refuse (.unexpected .elementName found?)

def block (calls : Nat) (schema : Schema) : Descent Schema := do
  match ← next with
  | some (.word "elements") =>
    expectSymbol .openBrace
    declarations .element calls schema
  | some (.word "header") =>
    expectSymbol .openBrace
    headerEntries calls schema
  | some (.word "types") =>
    expectSymbol .openBrace
    declarations .alias calls schema
  | found? => refuse (.unexpected .blockKind found?)

def blocks : Nat → Schema → Descent Schema
  | 0, _ => unfinished
  | calls + 1, schema => do
    match ← next with
    | none => return schema
    | some lexeme =>
      if lexeme = .word "declare" ∨ lexeme = .word "define" then
        let schema ← block calls schema
        blocks calls schema
      else refuse (.unexpected .blockStart (some lexeme))

section Binding
variable {α β : Type}

theorem bind_of_ok {one : Descent α} {two : α → Descent β} {lexer next : Lexer} {value : α}
    (read : one lexer = some (.ok value, next)) : (one >>= two) lexer = two value next := by
  change (one lexer).bind _ = _
  rw [read]
  rfl

theorem bind_of_error {one : Descent α} {two : α → Descent β} {lexer next : Lexer}
    {fault : Fault} (read : one lexer = some (.error fault, next)) :
    (one >>= two) lexer = some (.error fault, next) := by
  change (one lexer).bind _ = _
  rw [read]
  rfl

-- What a reading comes to with the calls it has, it comes to with more of them.
def Within (fewer more : Descent α) : Prop :=
  ∀ lexer outcome, fewer lexer = some outcome → more lexer = some outcome

namespace Within

theorem refl (read : Descent α) : Within read read := fun _ _ ended => ended

theorem unfinished (more : Descent α) : Within unfinished more := by
  intro lexer outcome ended
  cases ended

theorem bind {one one' : Descent α} {two two' : α → Descent β} (first : Within one one')
    (second : ∀ value, Within (two value) (two' value)) : Within (one >>= two) (one' >>= two') := by
  intro lexer outcome ended
  cases reads : one lexer with
  | none =>
    change (one lexer).bind _ = _ at ended
    rw [reads] at ended
    cases ended
  | some found =>
    obtain ⟨result, next⟩ := found
    have reads' := first _ _ reads
    cases result with
    | error fault => exact (bind_of_error reads').trans ((bind_of_error reads).symm.trans ended)
    | ok value =>
      exact (bind_of_ok reads').trans (second value _ _ ((bind_of_ok reads).symm.trans ended))

theorem of_le {read : Nat → Descent α} {calls more : Nat}
    (grows : ∀ calls, Within (read calls) (read (calls + 1))) (enough : calls ≤ more) :
    Within (read calls) (read more) := by
  induction enough with
  | refl => exact .refl _
  | step _ ih =>
    intro lexer outcome ended
    exact grows _ _ _ (ih _ _ ended)

end Within

end Binding

theorem rangeTerms_within (calls : Nat) (terms : List RangeTerm) :
    Within (rangeTerms calls terms) (rangeTerms (calls + 1) terms) := by
  induction calls generalizing terms with
  | zero => exact .unfinished _
  | succ calls ih =>
    refine .bind (.refl next) fun found? => ?_
    split
    · exact .refl _
    · refine .bind (.refl next) fun found? => ?_
      refine .bind (.refl (rangeTerm found?)) fun term => ?_
      exact ih (terms ++ [term])
    · exact .refl _

theorem ignored_within (calls : Nat) (found? : Option Lexeme) :
    Within (ignored calls found?) (ignored (calls + 1) found?) := by
  induction calls generalizing found? with
  | zero => exact .unfinished _
  | succ calls ih =>
    unfold ignored
    split
    · exact .refl _
    · exact .refl _
    · exact .refl _
    · exact .bind (.refl next) ih

theorem parameter_within (calls : Nat) (definition : Definition) (name : String) (value : Lexeme) :
    Within (parameter calls definition name value)
      (parameter (calls + 1) definition name value) := by
  unfold parameter
  split
  · exact .refl _
  · exact .refl _
  · exact .refl _
  · refine .bind (.refl (rangeTerm (some value))) fun first => ?_
    exact .bind (rangeTerms_within calls [first]) fun terms => .refl _
  · exact .bind (ignored_within calls (some value)) fun _ => .refl _

theorem parameters_within (calls : Nat) (definition : Definition) :
    Within (parameters calls definition) (parameters (calls + 1) definition) := by
  induction calls generalizing definition with
  | zero => exact .unfinished _
  | succ calls ih =>
    refine .bind (.refl next) fun found? => ?_
    split
    · exact .refl _
    · rename_i name
      refine .bind (.refl (expectSymbol .colon)) fun _ => ?_
      refine .bind (.refl next) fun value? => ?_
      split
      · rename_i value
        exact .bind (parameter_within calls definition name value) ih
      · exact .refl _
    · exact .refl _

theorem nested_within (schema : Schema) (kind : DeclarationKind) (calls : Nat) :
    (∀ name, Within (declaration schema kind calls name)
        (declaration schema kind (calls + 1) name)) ∧
      Within (item schema kind calls) (item schema kind (calls + 1)) ∧
      ∀ earlier, Within (items schema kind calls earlier)
        (items schema kind (calls + 1) earlier) := by
  induction calls with
  | zero => exact ⟨fun _ => .unfinished _, .unfinished _, fun _ => .unfinished _⟩
  | succ calls ih =>
    obtain ⟨declares, lists, collects⟩ := ih
    refine ⟨fun name => ?_, ?_, fun earlier => ?_⟩
    · refine .bind (.refl (heading schema kind name)) fun definition => ?_
      refine .bind (.refl next) fun found? => ?_
      split
      · exact .refl _
      · refine .bind (parameters_within calls definition) fun changed => ?_
        split
        · refine .bind (.refl (expect _ _)) fun _ => ?_
          exact .bind (collects []) fun children => .refl _
        · exact .refl _
      · split
        · exact .bind (collects []) fun children => .refl _
        · exact .refl _
      · exact .refl _
    · refine .bind (.refl next) fun found? => ?_
      split
      · exact .refl _
      · exact .bind (.refl marker) fun _ => lists
      · rename_i name
        exact .bind (declares name) fun definition => .refl _
      · exact .refl _
    · refine .bind lists fun item? => ?_
      cases item? with
      | none => exact .refl _
      | some definition => exact collects (earlier ++ [definition])

theorem declarations_within (kind : DeclarationKind) (calls : Nat) (schema : Schema) :
    Within (declarations kind calls schema) (declarations kind (calls + 1) schema) := by
  induction calls generalizing schema with
  | zero => exact .unfinished _
  | succ calls ih =>
    refine .bind (nested_within schema kind calls).2.1 fun item? => ?_
    cases item? with
    | none => exact .refl _
    | some definition =>
      cases kind
      · exact ih (schema.declare definition)
      · exact ih (schema.addAlias definition)

theorem headerEntries_within (calls : Nat) (schema : Schema) :
    Within (headerEntries calls schema) (headerEntries (calls + 1) schema) := by
  induction calls generalizing schema with
  | zero => exact .unfinished _
  | succ calls ih =>
    refine .bind (.refl next) fun found? => ?_
    split
    · exact .refl _
    · rename_i name
      refine .bind (.refl (expectSymbol .assign)) fun _ => ?_
      refine .bind (.refl next) fun value? => ?_
      split
      · exact .refl _
      · rename_i value _
        exact .bind (.refl (headerEntry schema name value)) ih
      · exact .refl _
    · exact .refl _

theorem block_within (calls : Nat) (schema : Schema) :
    Within (block calls schema) (block (calls + 1) schema) := by
  refine .bind (.refl next) fun found? => ?_
  split
  · refine .bind (.refl (expectSymbol .openBrace)) fun _ => ?_
    exact declarations_within .element calls schema
  · refine .bind (.refl (expectSymbol .openBrace)) fun _ => ?_
    exact headerEntries_within calls schema
  · refine .bind (.refl (expectSymbol .openBrace)) fun _ => ?_
    exact declarations_within .alias calls schema
  · exact .refl _

theorem blocks_within (calls : Nat) (schema : Schema) :
    Within (blocks calls schema) (blocks (calls + 1) schema) := by
  induction calls generalizing schema with
  | zero => exact .unfinished _
  | succ calls ih =>
    refine .bind (.refl next) fun found? => ?_
    split
    · exact .refl _
    · split
      · exact .bind (block_within calls schema) ih
      · exact .refl _

end Descent

end Ebml.Edtd
