import Ebml.Proofs.Edtd.Extension
import Ebml.Proofs.Edtd.Setting
import Ebml.Proofs.Edtd.Untemplated
import Ebml.Proofs.Text.Lowercase

namespace Ebml.Edtd

-- An element of a template is the element with all written out that the template says.
open State

def templatesAfter (read more : List Lexeme) : List String :=
  match start.feedAll read with
  | .ok state => noted templateRead? state more
  | .error _ => []

-- A source is read on to a state, and a name is given to no other template in the meantime.
structure Meanwhile (read more : List Lexeme) (name : String) (state : State) : Prop where
  reached : start.feedAll (read ++ more) = .ok state
  kept : Text.lower name ∉ templatesAfter read more

-- A source up to the end of a template and the settings that have come together for it: either
-- it is of a type of the language, or of a template in the same case, whatever stands between.
inductive Chained (type : ElementType) : List Lexeme → String → List Setting → Prop
  | first {before : List Lexeme} {schema : Schema} {name word : String}
      {settings? : Option (List Setting)}
      (reached : start.feedAll before = .ok (among schema ⟨.alias, []⟩ .entry))
      (unnamed : ElementType.ofName? name = none) (typed : ElementType.ofName? word = some type) :
      Chained type (before ++ template name word settings?) name (settings?.getD [])
  | next {before between : List Lexeme} {schema : Schema} {name earlier reference : String}
      {settings : List Setting} {settings? : Option (List Setting)}
      (chained : Chained type before earlier settings)
      (meanwhile : Meanwhile before between earlier (among schema ⟨.alias, []⟩ .entry))
      (unnamed : ElementType.ofName? name = none)
      (refers : Text.lower reference = Text.lower earlier) :
      Chained type (before ++ between ++ template name reference settings?) name
        (settings ++ settings?.getD [])

variable {type : ElementType} {read between : List Lexeme} {schema : Schema} {nesting : Nesting}
  {name reference word : String} {settings : List Setting} {state : State}

structure Composed (schema : Schema) (type : ElementType) (name : String) (settings : List Setting)
    (lender : Definition) : Prop where
  made : applyAll (.new 0 type name) settings = .ok lender
  found : schema.alias? name = some lender

theorem applyAll_new {lender : Definition} (id : ElementId) (element : String)
    (applied : applyAll (.new 0 type name) settings = .ok lender) (more : List Setting) :
    applyAll (.new id type element) (settings ++ more) = applyAll (lender.lent id element) more := by
  have renamed : (Definition.new 0 type name).lent id element = .new id type element := rfl
  rw [applyAll_append, ← renamed, applyAll_lent, applied]
  rfl

theorem ofType_reference {lender : Definition} (id : ElementId) (element : String)
    (found : schema.alias? name = some lender) (unnamed : ElementType.ofName? name = none)
    (refers : Text.lower reference = Text.lower name) :
    ofType schema id element reference = .ok (lender.lent id element) := by
  have unnamed' := (ElementType.ofName?_of_lower refers).trans unnamed
  have found' : schema.alias? reference = some lender := by
    rw [Schema.alias?, refers]
    exact found
  simp only [ofType, unnamed', found']
  rfl

theorem start_numbering : numbering.Holds start := .outside nofun trivial

theorem Meanwhile.alias {earlier : State} (meanwhile : Meanwhile read between name state)
    (reached : start.feedAll read = .ok earlier)
    (idle : earlier.templates = (earlier.schema.aliases.map (·.1)).reverse) :
    state.schema.alias? name = earlier.schema.alias? name := by
  have further := meanwhile.reached
  have kept := meanwhile.kept
  have holds : numbering.Holds earlier :=
    Invariant.feedAll_holds start_numbering (fun _ _ => trivial) reached
  rw [Leads.feedAll_append reached] at further
  simp only [templatesAfter, reached] at kept
  exact feedAll_alias_unread holds idle further kept

theorem Chained.unnamed (chained : Chained type read name settings) :
    ElementType.ofName? name = none := by
  cases chained with
  | first reached unnamed typed => exact unnamed
  | next chained meanwhile unnamed refers => exact unnamed

theorem Composed.added {lender : Definition}
    (made : applyAll (.new 0 type name) settings = .ok lender) :
    Composed (schema.addAlias lender) type name settings lender := by
  have named : lender.name = name := congrArg Head.name (applyAll_head made)
  refine ⟨made, ?_⟩
  simp [Schema.alias?, Schema.addAlias, named]

theorem Composed.plain {lender : Definition} (plain : type ≠ .container)
    (composed : Composed schema type name settings lender) (id : ElementId) (element : String) :
    (lender.lent id element).isContainer = false := by
  have typed : lender.type = type := congrArg Head.type (applyAll_head composed.made)
  exact beq_false_of_ne (by rwa [Definition.lent, typed])

theorem Chained.composed (plain : type ≠ .container) (chained : Chained type read name settings)
    (reached : start.feedAll read = .ok state) :
    ∃ known lender, state = among known ⟨.alias, []⟩ .entry ∧
      Composed known type name settings lender := by
  induction chained generalizing state with
  | @first before schema name word settings? begun unnamed typed =>
    have known : ofType schema 0 name word = .ok (.new 0 type name) := ofType_word 0 name typed
    rw [Leads.feedAll_append begun, feedAll_template rfl known (beq_false_of_ne plain)] at reached
    obtain ⟨lender, made, declared⟩ := map_eq_ok.mp reached
    exact ⟨_, lender, declared.symm, .added made⟩
  | @next before between schema name earlier reference settings settings? chained meanwhile unnamed
      refers ih =>
    have begun := meanwhile.reached
    rw [State.feedAll_append] at begun
    obtain ⟨middle, read, _⟩ := bind_eq_ok.mp begun
    obtain ⟨known, lender, rfl, composed⟩ := ih read
    have found : schema.alias? earlier = some lender :=
      (meanwhile.alias read (List.append_nil _)).trans composed.found
    have copied : ofType schema 0 name reference = .ok (lender.lent 0 name) :=
      ofType_reference 0 name found chained.unnamed refers
    rw [Leads.feedAll_append meanwhile.reached,
      feedAll_template rfl copied (composed.plain plain 0 name)] at reached
    obtain ⟨lender', made, declared⟩ := map_eq_ok.mp reached
    rw [← applyAll_new 0 name composed.made] at made
    exact ⟨_, lender', declared.symm, .added made⟩

theorem Chained.composed_on (plain : type ≠ .container) (chained : Chained type read name settings)
    (meanwhile : Meanwhile read between name state) :
    ∃ lender, Composed state.schema type name settings lender := by
  have begun := meanwhile.reached
  rw [State.feedAll_append] at begun
  obtain ⟨middle, reached, _⟩ := bind_eq_ok.mp begun
  obtain ⟨known, lender, rfl, composed⟩ := chained.composed plain reached
  exact ⟨lender, composed.made, (meanwhile.alias reached (List.append_nil _)).trans composed.found⟩

theorem feedAll_expansion (plain : type ≠ .container) (chained : Chained type read name settings)
    (meanwhile : Meanwhile read between name (among schema nesting .entry))
    (elements : nesting.kind = .element) (refers : Text.lower reference = Text.lower name)
    (typed : ElementType.ofName? word = some type) (declared number : String)
    (settings? : Option (List Setting)) :
    (among schema nesting .entry).feedAll
        (element declared number word (some (settings ++ settings?.getD []))) =
      (among schema nesting .entry).feedAll (element declared number reference settings?) := by
  obtain ⟨lender, composed⟩ := chained.composed_on plain meanwhile
  have lent : ∀ id, ofType schema id declared reference = .ok (lender.lent id declared) :=
    fun id => ofType_reference id declared composed.found chained.unnamed refers
  have written : ∀ id, ofType schema id declared word = .ok (.new id type declared) :=
    fun id => ofType_word id declared typed
  rw [feedAll_element elements lent (fun id => composed.plain plain id declared),
    feedAll_element elements written (fun _ => beq_false_of_ne plain)]
  simp only [Option.getD_some, applyAll_new _ declared composed.made]

end Ebml.Edtd

namespace Ebml.Schema

open Edtd

variable {type : ElementType} {read between after : List Lexeme} {schema : Schema}
  {enclosing : List OpenContainer} {name reference word : String} {settings : List Setting}

-- An element that is declared of the last template of a chain, in whatever surroundings, can be
-- written with the type that the chain starts from, all settings of the chain in their order,
-- and then its own: the source compiles to the same. Where nothing else has been declared up to
-- the element, and no template is named at all, it compiles to the same elements, whatever
-- templates there were. A template itself is at the end of a source what its settings made it.
theorem alias_equals_expansion (plain : type ≠ .container)
    (chained : Chained type read name settings)
    (meanwhile : Meanwhile read between name (State.among schema ⟨.element, enclosing⟩ .entry))
    (refers : Text.lower reference = Text.lower name)
    (typed : ElementType.ofName? word = some type) (declared number : String)
    (own? : Option (List Setting)) {after : List Lexeme} {stop : Stop} {aliased expanded : String}
    (lexed : lex aliased.toList =
      (read ++ between ++ (element declared number reference own? ++ after), stop))
    (written : lex expanded.toList = (read ++ between ++
      (element declared number word (some (settings ++ own?.getD [])) ++ after), stop)) :
    ofText expanded = ofText aliased ∧
    (∀ {bare : String} {before : List Lexeme} {schema' : Schema},
      State.start.feedAll before = .ok (State.among schema' ⟨.element, enclosing⟩ .entry) →
      schema'.roots = schema.roots →
      lex bare.toList = (before ++
        (element declared number word (some (settings ++ own?.getD [])) ++ after), stop) →
      (∀ word ∈ Builtin.schema.typesRead bare, (ElementType.ofName? word).isSome = true) →
      (fun schema => (schema.roots, schema.definition?)) <$> ofText bare =
        (fun schema => (schema.roots, schema.definition?)) <$> ofText aliased) ∧
    ∀ {type : ElementType} {read rest : List Lexeme} {name : String} {settings : List Setting}
      {compiled : Schema}, type ≠ .container → Chained type read name settings →
      (lex aliased.toList).1 = read ++ rest → Text.lower name ∉ templatesAfter read rest →
      ofText aliased = .ok compiled →
      ∃ lender, applyAll (.new 0 type name) settings = .ok lender ∧
        compiled.alias? name = some lender := by
  have same : ofText expanded = ofText aliased := by
    have expansion := feedAll_expansion plain chained meanwhile rfl refers typed declared number own?
    rw [ofText_lexed lexed, ofText_lexed written, State.Leads.feedAll_append meanwhile.reached,
      State.Leads.feedAll_append meanwhile.reached, State.feedAll_append, expansion,
      ← State.feedAll_append]
  refine ⟨same, ?_, ?_⟩
  · intro bare before schema' begun roots bareLexed primitive
    have alike : Schema.roots <$> ofText bare = Schema.roots <$> ofText aliased := by
      have standing : (State.among schema' ⟨.element, enclosing⟩ .entry).elements =
          (State.among schema ⟨.element, enclosing⟩ .entry).elements := by
        simp only [State.elements, State.among, roots]
      rw [typesRead, bareLexed] at primitive
      change ∀ word ∈ State.noted State.typeRead? State.start _, _ at primitive
      rw [State.noted_append begun, List.forall_mem_append] at primitive
      rw [← same, ofText_lexed bareLexed, ofText_lexed written, State.Leads.feedAll_append begun,
        State.Leads.feedAll_append meanwhile.reached]
      exact State.compiled_elements standing primitive.2 stop
    have views (compiled : Except Fault Schema) :
        (fun schema => (schema.roots, schema.definition?)) <$> compiled =
          (fun roots => (roots, definition? ⟨roots, []⟩)) <$> Schema.roots <$> compiled := by
      cases compiled <;> rfl
    rw [views, views, alike]
  · intro type read rest name settings compiled plain chained split kept compiles
    obtain ⟨_, fed⟩ := extend_eq_ok_iff.mp compiles
    rw [split] at fed
    obtain ⟨lender, composed⟩ := chained.composed_on plain ⟨fed, kept⟩
    exact ⟨lender, composed.made, composed.found⟩

def layered : String :=
  "define types \x7b L := uint [ def: 3; ] D := l [ size: 1; ] \x7d " ++
    "define elements \x7b E := 81 d [ card: *; ] \x7d"

def layeredExpanded : String :=
  "define types \x7b L := uint [ def: 3; ] D := l [ size: 1; ] \x7d " ++
    "define elements \x7b E := 81 Uint [ def: 3; size: 1; card: *; ] \x7d"

def unlayered : String :=
  "define elements \x7b E := 81 Uint [ def: 3; size: 1; card: *; ] \x7d"

theorem layered_expansion :
    ∃ schema, ofText layered = .ok schema ∧ ofText layeredExpanded = .ok schema ∧
      (schema.definition? 1).map (fun node => (node.type, node.default?, node.size)) =
        some (.uint, some [0, 0, 0, 0, 0, 0, 0, 3], 1) ∧
      (∃ bare, ofText unlayered = .ok bare ∧ bare.roots = schema.roots) ∧
      ∃ lender, schema.alias? "L" = some lender ∧
        lender.default? = some [0, 0, 0, 0, 0, 0, 0, 3] := by
  let opening : List Lexeme := [.word "define", .word "types", .symbol .openBrace]
  let templateL := template "L" "uint" (some [.default (.word "3")])
  let templateD := template "D" "l" (some [.size (.word "1")])
  let between : List Lexeme :=
    [.symbol .closeBrace, .word "define", .word "elements", .symbol .openBrace]
  let expansion := element "E" "81" "Uint" (some [.default (.word "3"), .size (.word "1"),
    .cardinality (.symbol .star)])
  have first : Chained .uint (opening ++ templateL) "L" _ :=
    @Chained.first .uint opening Builtin.schema "L" "uint" _ rfl (by decide) (by decide)
  obtain ⟨known, onward⟩ : ∃ known, Meanwhile (opening ++ templateL) [] "L"
      (State.among known ⟨.alias, []⟩ .entry) := ⟨_, rfl, by decide +kernel⟩
  have second : Chained .uint (opening ++ templateL ++ [] ++ templateD) "D" _ :=
    @Chained.next .uint _ _ known _ _ "l" _ _ first onward (by decide) (by decide +kernel)
  obtain ⟨known', further, roots⟩ : ∃ known',
      Meanwhile (opening ++ templateL ++ [] ++ templateD) between "D"
        (State.among known' ⟨.element, []⟩ .entry) ∧ Builtin.schema.roots = known'.roots := by
    refine ⟨_, ⟨rfl, ?_⟩, ?_⟩
    · decide +kernel
    · rfl
  have lexed : lex layered.toList = (opening ++ templateL ++ [] ++ templateD ++ between ++
      (element "E" "81" "d" (some [.cardinality (.symbol .star)]) ++ [.symbol .closeBrace]),
      .endOfInput) := by decide +kernel
  have written : lex layeredExpanded.toList = (opening ++ templateL ++ [] ++ templateD ++ between ++
      (expansion ++ [.symbol .closeBrace]), .endOfInput) := by decide +kernel
  have bareLexed : lex unlayered.toList = ([.word "define", .word "elements", .symbol .openBrace] ++
      (expansion ++ [.symbol .closeBrace]), .endOfInput) := by decide +kernel
  have begun : State.start.feedAll [.word "define", .word "elements", .symbol .openBrace] =
      .ok (State.among Builtin.schema ⟨.element, []⟩ .entry) := rfl
  have compiles : (ofText layered).toOption.map (fun schema =>
      (schema.definition? 1).map (fun node => (node.type, node.default?, node.size))) =
        some (some (.uint, some [0, 0, 0, 0, 0, 0, 0, 3], 1)) := by decide +kernel
  obtain ⟨schema, compiled, defined⟩ := Option.map_eq_some_iff.mp compiles
  have compiled := toOption_eq_some.mp compiled
  obtain ⟨same, bare, templates⟩ := alias_equals_expansion (by decide) second further
    (by decide +kernel : Text.lower "d" = Text.lower "D")
    (by decide : ElementType.ofName? "Uint" = some .uint) "E" "81"
    (some [.cardinality (.symbol .star)]) lexed written
  have alone := bare begun roots bareLexed (by decide +kernel)
  obtain ⟨lender, made, lent⟩ := templates (by decide) first
    (congrArg Prod.fst lexed) (by decide +kernel) compiled
  have three : lender.default? = some [0, 0, 0, 0, 0, 0, 0, 3] := by
    cases made
    rfl
  rw [compiled] at same alone
  obtain ⟨other, unlayered, views⟩ := map_eq_ok.mp alone
  exact ⟨schema, compiled, same, defined, ⟨other, unlayered, congrArg Prod.fst views⟩, lender, lent,
    three⟩

end Ebml.Schema
