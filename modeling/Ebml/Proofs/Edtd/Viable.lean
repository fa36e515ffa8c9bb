import Ebml.Proofs.Edtd.Grammar
import Ebml.Proofs.Edtd.Invariant

namespace Ebml

def Schema.types (schema : Schema) : Edtd.Grammar.Context :=
  schema.aliases.map fun (key, template) => (key, template.type)

namespace Edtd.Grammar

-- What a reader has read where it stands is a sentence so far, followed by the beginnings of
-- the phrases that are still open, the outermost first. Of a range, the terms that have a
-- comma after them.
inductive Leading : List Lexeme → Prop
  | none : Leading []
  | comma (listed : Terms terms) : Leading (terms ++ [.symbol .comma])

inductive Listing : DeclarationPlace → Definition → List Lexeme → Prop
  | parameter (listed : Repeated Parameter parameters) :
      Listing (.parameter definition) definition parameters
  | colon (listed : Repeated Parameter parameters) :
      Listing (.colon definition name) definition (parameters ++ [.word name])
  | value (listed : Repeated Parameter parameters) :
      Listing (.value definition name) definition (parameters ++ [.word name, .symbol .colon])
  | parameterEnd (listed : Repeated Parameter parameters) (argument : Argument name tokens) :
      Listing (.parameterEnd definition) definition
        (parameters ++ .word name :: .symbol .colon :: tokens)
  | term (listed : Repeated Parameter parameters) (leading : Leading tokens) :
      Listing (.term definition terms) definition
        (parameters ++ .word "range" :: .symbol .colon :: tokens)
  | termNumber (listed : Repeated Parameter parameters) (leading : Leading tokens)
      (relates : mark ∈ [Symbol.less, .atMost, .greater, .atLeast]) :
      Listing (.termNumber definition terms relation) definition
        (parameters ++ .word "range" :: .symbol .colon :: (tokens ++ [.symbol mark]))
  | termEnd (listed : Repeated Parameter parameters) (ranged : Terms tokens) :
      Listing (.termEnd definition terms) definition
        (parameters ++ .word "range" :: .symbol .colon :: tokens)
  | ignored (listed : Repeated Parameter parameters)
      (unnamed : name ∉ ["card", "def", "size", "range"])
      (inside : ∀ token ∈ tokens, token ≠ .symbol .semicolon ∧ token ≠ .symbol .closeBracket) :
      Listing (.ignored definition) definition
        (parameters ++ .word name :: .symbol .colon :: tokens)

inductive ItemBegun (known : Context) (kind : DeclarationKind) :
    DeclarationPlace → List Lexeme → Prop
  | entry : ItemBegun known kind .entry []
  | marker : ItemBegun known kind .marker [.symbol .percent]
  | markerEnd : ItemBegun known kind .markerEnd [.symbol .percent, .word "children"]
  | assign : ItemBegun known kind (.assign name) [.word name]
  | id (elements : kind = .element) : ItemBegun known kind (.id name) [.word name, .symbol .assign]
  | type (identified : Identifier kind identifier) :
      ItemBegun known kind (.type name number) (.word name :: .symbol .assign :: identifier)
  | tail (headed : Heading known kind definition.name definition.type heading) :
      ItemBegun known kind (.tail definition) heading
  | listing (headed : Heading known kind definition.name definition.type heading)
      (listing : Listing place definition tokens) :
      ItemBegun known kind place (heading ++ .symbol .openBracket :: tokens)
  | children (headed : Heading known kind definition.name definition.type heading)
      (container : definition.type = .container) (listed : Repeated Parameter parameters) :
      ItemBegun known kind (.children definition) (heading ++ bracketed parameters)

-- A sentence up to the items that stand before a place, in a block or in the innermost of the
-- containers that are open.
inductive Reached (start : Context) :
    Context → DeclarationKind → List Definition → List Lexeme → Prop
  | elements (sentence : Sentence start earlier known) (opens : opening ∈ ["declare", "define"])
      (repeated : Repeated (Item known .element) items) :
      Reached start known .element []
        (earlier ++ .word opening :: .word "elements" :: .symbol .openBrace :: items)
  | types (sentence : Sentence start earlier between) (opens : opening ∈ ["declare", "define"])
      (templates : Templates between items known) :
      Reached start known .alias []
        (earlier ++ .word opening :: .word "types" :: .symbol .openBrace :: items)
  | nested (outside : Reached start known kind outer before)
      (headed : Heading known kind container.name container.type heading)
      (nests : container.type = .container) (optional : Options options)
      (repeated : Repeated (Item known kind) items) :
      Reached start known kind (container :: outer)
        (before ++ (heading ++ (options ++ .symbol .openBrace :: items)))

def containers (nesting : Nesting) : List Definition := nesting.enclosing.map (·.container)

inductive EntryBegun : HeaderPlace → List Lexeme → Prop
  | entry : EntryBegun .entry []
  | assign : EntryBegun (.assign name) [.word name]
  | value : EntryBegun (.value name) [.word name, .symbol .assign]
  | finish (name : String) (valued : ∀ mark, value ≠ .symbol mark) :
      EntryBegun (.finish name value) [.word name, .symbol .assign, value]

def blockWord : BlockKind → String
  | .elements => "elements"
  | .header => "header"
  | .types => "types"

-- A sentence up to the place that a reader has reached.
inductive Viable (start : Context) : State → List Lexeme → Prop
  | block (sentence : Sentence start earlier schema.types) : Viable start ⟨schema, .block⟩ earlier
  | blockKind (sentence : Sentence start earlier schema.types)
      (opens : opening ∈ ["declare", "define"]) :
      Viable start ⟨schema, .blockKind⟩ (earlier ++ [.word opening])
  | blockStart (kind : BlockKind) (sentence : Sentence start earlier schema.types)
      (opens : opening ∈ ["declare", "define"]) :
      Viable start ⟨schema, .blockStart kind⟩
        (earlier ++ [.word opening, .word (blockWord kind)])
  | header (sentence : Sentence start earlier schema.types)
      (opens : opening ∈ ["declare", "define"]) (repeated : Repeated Entry entries)
      (begun : EntryBegun place last) :
      Viable start ⟨schema, .header place⟩
        (earlier ++ .word opening :: .word "header" :: .symbol .openBrace :: (entries ++ last))
  | declarations (reached : Reached start schema.types nesting.kind (containers nesting) before)
      (begun : ItemBegun schema.types nesting.kind place last) :
      Viable start ⟨schema, .declarations nesting place⟩ (before ++ last)

variable {schema : Schema} {nesting : Nesting} {definition : Definition} {start known : Context}
  {kind : DeclarationKind} {tokens : List Lexeme}

theorem lookup_types (schema : Schema) (key : String) :
    schema.types.lookup key = (schema.aliases.lookup key).map (·.type) := by
  unfold Schema.types
  induction schema.aliases with
  | nil => rfl
  | cons entry others ih =>
    obtain ⟨first, template⟩ := entry
    by_cases same : key = first
    · simp [same]
    · simpa [List.lookup_cons, beq_false_of_ne same] using ih

theorem ofType_known {id : ElementId} {name type : String}
    (typed : State.ofType schema id name type = .ok definition) :
    schema.types.type? type = some definition.type := by
  rw [Context.type?, lookup_types]
  unfold State.ofType at typed
  split at typed
  · rename_i primitive known
    cases typed
    rw [known]
    rfl
  · rename_i unknown
    split at typed
    · rename_i template known
      cases typed
      rw [Schema.alias?] at known
      simp [unknown, known]
    · cases typed

theorem Leading.terms {leading term : List Lexeme} (terms : Leading leading) (last : Term term) :
    Terms (leading ++ term) := by
  cases terms with
  | none => exact .one last
  | comma listed =>
    have longer := listed.more last
    simpa using longer

theorem Reached.item {enclosing : List Definition} {before last : List Lexeme}
    (reached : Reached start known kind enclosing before) (item : Item known kind last)
    (listed : kind = .element ∨ enclosing ≠ []) :
    Reached start known kind enclosing (before ++ last) := by
  cases reached with
  | elements sentence opens repeated =>
    have longer := Reached.elements sentence opens (repeated.more item)
    simpa using longer
  | types sentence opens templates => simp at listed
  | nested outside headed nests optional repeated =>
    have longer := Reached.nested outside headed nests optional (repeated.more item)
    simpa using longer

theorem declare_viable {before heading tail : List Lexeme}
    (reached : Reached start schema.types nesting.kind (containers nesting) before)
    (headed : Heading schema.types nesting.kind definition.name definition.type heading)
    (tailed : Tail schema.types nesting.kind definition.type tail) :
    Viable start (State.declare schema nesting definition) (before ++ (heading ++ tail)) := by
  obtain ⟨kind, _ | ⟨around, outer⟩⟩ := nesting
  · cases reached with
    | elements sentence opens repeated =>
      have longer := (Reached.elements sentence opens repeated).item (.declaration headed tailed)
        (.inl rfl)
      have viable : Viable start (State.declare schema ⟨.element, []⟩ definition) _ :=
        .declarations longer .entry
      simpa using viable
    | types sentence opens templates =>
      have longer := Reached.types sentence opens (templates.declaration headed tailed)
      have viable : Viable start (State.declare schema ⟨.alias, []⟩ definition) _ :=
        .declarations longer .entry
      simpa using viable
  · have longer := reached.item (.declaration headed tailed) (.inr (List.cons_ne_nil _ _))
    have viable : Viable start (State.declare schema ⟨kind, around :: outer⟩ definition) _ :=
      .declarations longer .entry
    simpa using viable

theorem marker_viable
    (reached : Reached start schema.types nesting.kind (containers nesting) tokens) :
    Viable start ⟨schema, .declarations nesting .entry⟩ (tokens ++ marker) := by
  obtain ⟨kind, _ | ⟨around, outer⟩⟩ := nesting
  · cases reached with
    | elements sentence opens repeated =>
      have longer := (Reached.elements sentence opens repeated).item .marker (.inl rfl)
      have viable : Viable start ⟨schema, .declarations ⟨.element, []⟩ .entry⟩ _ :=
        .declarations longer .entry
      simpa using viable
    | types sentence opens templates =>
      have longer := Reached.types sentence opens templates.marker
      have viable : Viable start ⟨schema, .declarations ⟨.alias, []⟩ .entry⟩ _ :=
        .declarations longer .entry
      simpa using viable
  · have longer := reached.item .marker (.inr (List.cons_ne_nil _ _))
    have viable : Viable start ⟨schema, .declarations ⟨kind, around :: outer⟩ .entry⟩ _ :=
      .declarations longer .entry
    simpa using viable

theorem endList_viable
    (reached : Reached start schema.types nesting.kind (containers nesting) tokens) :
    Viable start (State.endList schema nesting) (tokens ++ [.symbol .closeBrace]) := by
  obtain ⟨kind, _ | ⟨around, outer⟩⟩ := nesting
  · cases reached with
    | elements sentence opens repeated =>
      have viable : Viable start ⟨schema, .block⟩ _ :=
        .block (sentence.more (.elements opens repeated))
      simpa [State.endList, braced] using viable
    | types sentence opens templates =>
      have viable : Viable start ⟨schema, .block⟩ _ :=
        .block (sentence.more (.types opens templates))
      simpa [State.endList, braced] using viable
  · cases reached with
    | nested outside headed nests optional repeated =>
      let filled : Definition := { around.container with children? := some around.children }
      have tailed : Tail schema.types kind filled.type _ := nests ▸ Tail.container optional repeated
      have viable : Viable start (State.declare schema ⟨kind, outer⟩ filled) _ :=
        declare_viable outside headed tailed
      simpa [State.endList, braced] using viable

theorem startList_viable {before heading options : List Lexeme}
    (reached : Reached start schema.types nesting.kind (containers nesting) before)
    (headed : Heading schema.types nesting.kind definition.name definition.type heading)
    (nests : definition.type = .container) (optional : Options options) :
    Viable start (State.startList schema nesting definition)
      (before ++ (heading ++ (options ++ [.symbol .openBrace]))) := by
  have inside := Reached.nested reached headed nests optional .none
  have viable : Viable start (State.startList schema nesting definition) _ :=
    .declarations inside .entry
  simpa using viable

end Edtd.Grammar

end Ebml
