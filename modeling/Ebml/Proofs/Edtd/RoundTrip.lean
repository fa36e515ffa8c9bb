import Ebml.Proofs.Edtd.Meaning
import Ebml.Proofs.Schema

namespace Ebml.Edtd

-- Reading printed declarations gives back their definitions: a run over the lexemes of a
-- declaration starts between two declarations and ends there, one definition richer.
variable {schema : Schema} {nesting : Nesting} {definition : Definition} {type : ElementType}

namespace State

def Leads (state : State) (lexemes : List Lexeme) (next : State) : Prop :=
  state.feedAll lexemes = .ok next

namespace Leads

variable {state between next : State} {lexemes more : List Lexeme} {lexeme : Lexeme}

theorem nil : Leads state [] state := rfl

theorem cons (fed : state.feed lexeme = .ok between) (leads : Leads between lexemes next) :
    Leads state (lexeme :: lexemes) next := by
  unfold Leads feedAll at leads ⊢
  rw [List.foldlM_cons, fed]
  exact leads

theorem append (first : Leads state lexemes between) (second : Leads between more next) :
    Leads state (lexemes ++ more) next := by
  unfold Leads at first second ⊢
  rw [feedAll_append, first]
  exact second

theorem feedAll_append (leads : Leads state lexemes between) (rest : List Lexeme) :
    state.feedAll (lexemes ++ rest) = between.feedAll rest := by
  rw [State.feedAll_append, leads]
  rfl

theorem alike {other : State} (leads : Leads other (lexeme :: lexemes) next)
    (same : state.feed lexeme = other.feed lexeme) : Leads state (lexeme :: lexemes) next := by
  unfold Leads feedAll at leads ⊢
  rwa [List.foldlM_cons, same, ← List.foldlM_cons]

end Leads

def among (schema : Schema) (nesting : Nesting) (place : DeclarationPlace) : State :=
  ⟨schema, .declarations nesting place⟩

theorem leads_parameter {name : String} {value : Lexeme} {changed : Definition}
    (fed : feedValue schema nesting definition name value =
      .ok (among schema nesting (.parameterEnd changed))) :
    Leads (among schema nesting (.parameter definition)) (Parameters.parameter name [value])
      (among schema nesting (.parameter changed)) :=
  .cons rfl (.cons rfl (.cons fed (.cons rfl .nil)))

theorem leads_cardinality (cardinality? : Option Cardinality)
    (unset : definition.cardinality = .exactlyOne) :
    Leads (among schema nesting (.parameter definition))
      (cardinality?.elim [] fun written => Parameters.parameter "card" [cardinalityMark written])
      (among schema nesting (.parameter
        { definition with cardinality := cardinality?.getD .exactlyOne })) := by
  cases cardinality? with
  | none =>
    rw [Option.elim_none, Option.getD_none, ← unset]
    cases definition
    exact .nil
  | some written =>
    refine leads_parameter ?_
    simp only [feedValue, cardinality_mark]
    rfl

theorem leads_default (default? : Option (DefaultLiteral type)) (typed : definition.type = type)
    (unset : definition.default? = none) :
    Leads (among schema nesting (.parameter definition))
      (default?.elim [] fun literal => Parameters.parameter "def" [literal.lexeme])
      (among schema nesting (.parameter
        { definition with default? := default?.map (·.bytes) })) := by
  cases default? with
  | none =>
    rw [Option.elim_none, Option.map_none, ← unset]
    cases definition
    exact .nil
  | some literal =>
    refine leads_parameter ?_
    simp only [feedValue, typed, literal.defaultBytes_eq]
    rfl

theorem leads_size (size? : Option (Numeral Literal.uint64?)) (unset : definition.size = 0) :
    Leads (among schema nesting (.parameter definition))
      (size?.elim [] fun size => Parameters.parameter "size" [.word (String.ofList size.text)])
      (among schema nesting (.parameter
        { definition with size := (size?.map (·.value)).getD 0 })) := by
  cases size? with
  | none =>
    rw [Option.elim_none, Option.map_none, Option.getD_none, ← unset]
    cases definition
    exact .nil
  | some size =>
    refine leads_parameter ?_
    simp only [feedValue, payloadSize, Lexeme.text, readLiteral_numeral]
    rfl

theorem leads_term (terms : List RangeTerm) (term : RangeTerm) :
    Leads (among schema nesting (.term definition terms)) term.lexemes
      (among schema nesting (.termEnd definition (terms ++ [term]))) := by
  cases term with
  | related relation number =>
    cases relation <;> exact .cons rfl (.cons rfl .nil)
  | span text => exact .cons rfl .nil

theorem leads_terms (terms others : List RangeTerm) :
    Leads (among schema nesting (.termEnd definition terms))
      (others.flatMap fun term => .symbol .comma :: term.lexemes)
      (among schema nesting (.termEnd definition (terms ++ others))) := by
  induction others generalizing terms with
  | nil =>
    rw [List.append_nil]
    exact .nil
  | cons term others ih =>
    have rest := ih (terms ++ [term])
    rw [List.append_assoc] at rest
    rw [List.flatMap_cons]
    exact .append (.cons rfl (leads_term terms term)) rest

theorem leads_listed (first : RangeTerm) (others : List RangeTerm) :
    Leads (among schema nesting (.value definition "range")) (first.listed others)
      (among schema nesting (.termEnd definition (first :: others))) := by
  have leads : Leads (among schema nesting (.value definition "range")) first.lexemes
      (among schema nesting (.termEnd definition [first])) := by
    have term := @leads_term schema nesting definition [] first
    cases first <;> exact term.alike rfl
  exact .append leads (leads_terms [first] others)

theorem leads_written (literal : RangeLiteral type) :
    Leads (among schema nesting (.value definition "range")) literal.lexemes
      (among schema nesting (.termEnd definition literal.written)) := by
  cases literal with
  | int signed first others =>
    rw [RangeLiteral.lexemes, first.separated_written]
    exact leads_listed _ _
  | uint unsigned first others =>
    rw [RangeLiteral.lexemes, first.separated_written]
    exact leads_listed _ _
  | float first others =>
    rw [RangeLiteral.lexemes, first.separated_written]
    exact leads_listed _ _

theorem leads_range (range? : Option (RangeLiteral type)) (typed : definition.type = type)
    (unset : definition.range? = none) :
    Leads (among schema nesting (.parameter definition))
      (range?.elim [] fun literal => Parameters.parameter "range" literal.lexemes)
      (among schema nesting (.parameter { definition with range? := range?.map (·.range) })) := by
  cases range? with
  | none =>
    rw [Option.elim_none, Option.map_none, ← unset]
    cases definition
    exact .nil
  | some literal =>
    have ended : (among schema nesting (.termEnd definition literal.written)).feed
        (.symbol .semicolon) = .ok (among schema nesting
          (.parameter { definition with range? := some literal.range })) := by
      simp only [feed, among, feedDeclaration, typed, literal.rangeOf_eq]
      rfl
    exact .cons rfl (.cons rfl (.append (leads_written literal) (.cons ended .nil)))

theorem leads_parameters (parameters : Parameters type) (id : ElementId) (name : String) :
    Leads (among schema nesting (.parameter (.new id type name))) parameters.lexemes
      (among schema nesting
        (.parameter (parameters.define id name (Definition.new id type name).children?))) :=
  .append (leads_cardinality parameters.cardinality? rfl)
    (.append (leads_default parameters.default? rfl rfl)
      (.append (leads_size parameters.size? rfl) (leads_range parameters.range? rfl rfl)))

theorem define_unwritten {parameters : Parameters type} (unwritten : parameters.lexemes = [])
    (id : ElementId) (name : String) :
    parameters.define id name (Definition.new id type name).children? = .new id type name := by
  have leads := @leads_parameters Builtin.schema ⟨.element, []⟩ type parameters id name
  rw [unwritten] at leads
  have same := congrArg State.place (Except.ok.inj leads)
  exact (DeclarationPlace.parameter.inj (Place.declarations.inj same).2).symm

theorem leads_head (name : Name) (id : IdLiteral) (type : ElementType)
    (elements : nesting.kind = .element) :
    Leads (among schema nesting .entry) (Declarations.head name id type)
      (among schema nesting (.tail (.new id.vint.value type name.text))) := by
  have assigned : (among schema nesting (.assign name.text)).feed (.symbol .assign) =
      .ok (among schema nesting (.id name.text)) := by
    simp only [feed, among, feedDeclaration, elements]
    rfl
  have identified : (among schema nesting (.id name.text)).feed
      (.word (String.ofList id.digits)) =
        .ok (among schema nesting (.type name.text id.vint.value)) := by
    simp only [feed, among, feedDeclaration, id.elementId_eq]
    rfl
  have typed : (among schema nesting (.type name.text id.vint.value)).feed (.word type.name) =
      .ok (among schema nesting (.tail (.new id.vint.value type name.text))) := by
    simp only [feed, among, feedDeclaration, ofType, ElementType.ofName?_name]
    rfl
  exact .cons rfl (.cons assigned (.cons identified (.cons typed .nil)))

theorem leads_leafEnd (parameters : Parameters type) (plain : type ≠ .container)
    (id : ElementId) (name : String) :
    Leads (among schema nesting (.tail (.new id type name))) (Declarations.leafEnd parameters)
      (declare schema nesting (parameters.define id name none)) := by
  have childless : (Definition.new id type name).children? = none := if_neg plain
  unfold Declarations.leafEnd
  split
  · rename_i unwritten
    rw [← childless, define_unwritten unwritten]
    exact .cons rfl .nil
  · rename_i written
    have noContainer : (parameters.define id name none).isContainer = false :=
      beq_false_of_ne plain
    have closed : (among schema nesting (.parameter (parameters.define id name none))).feed
        (.symbol .closeBracket) = .ok (declare schema nesting (parameters.define id name none)) := by
      simp only [feed, among, feedDeclaration, noContainer]
      rfl
    have leads := @leads_parameters schema nesting type parameters id name
    rw [childless] at leads
    rw [Parameters.bracketed, if_neg written]
    exact .cons rfl (.append leads (.cons closed .nil))

theorem leads_openChildren (parameters : Parameters .container) (id : ElementId) (name : String) :
    Leads (among schema nesting (.tail (.new id .container name)))
      (parameters.bracketed ++ [.symbol .openBrace])
      (startList schema nesting (parameters.define id name (some []))) := by
  unfold Parameters.bracketed
  split
  · rename_i unwritten
    have same : parameters.define id name (some []) = .new id .container name :=
      define_unwritten unwritten id name
    rw [same]
    exact .cons rfl .nil
  · have leads := @leads_parameters schema nesting .container parameters id name
    rw [List.cons_append, List.append_assoc]
    exact .cons rfl (.append leads (.cons rfl (.cons rfl .nil)))

-- Where a list of declarations leaves a reader: the definitions stand after those before
-- them, in the container around or else in the schema.
def declareAll (schema : Schema) (nesting : Nesting) (definitions : List Definition) : State :=
  match nesting.enclosing with
  | around :: outer =>
    let around := { around with children := around.children ++ definitions }
    among schema { nesting with enclosing := around :: outer } .entry
  | [] => among { schema with roots := schema.roots ++ definitions } nesting .entry

theorem declareAll_nil (schema : Schema) (nesting : Nesting) :
    declareAll schema nesting [] = among schema nesting .entry := by
  rcases nesting with ⟨kind, _ | ⟨around, outer⟩⟩ <;> simp [declareAll]

theorem leads_first {lexemes : List Lexeme} {definitions : List Definition}
    (leads : ∀ schema nesting, nesting.kind = .element →
      Leads (among schema nesting .entry) lexemes (declareAll schema nesting definitions))
    (elements : nesting.kind = .element) (first : Definition) :
    Leads (declare schema nesting first) lexemes
      (declareAll schema nesting (first :: definitions)) := by
  rcases nesting with ⟨kind, _ | ⟨around, outer⟩⟩
  · obtain rfl : kind = .element := elements
    have rest := leads (schema.declare first) ⟨.element, []⟩ rfl
    simpa only [declareAll, declare, Schema.declare, among, List.append_assoc,
      List.singleton_append] using rest
  · have rest := leads schema
      ⟨kind, { around with children := around.children ++ [first] } :: outer⟩ elements
    simpa only [declareAll, declare, among, List.append_assoc, List.singleton_append] using rest

theorem leads_declarations (declared : Declarations) (elements : nesting.kind = .element) :
    Leads (among schema nesting .entry) declared.lexemes
      (declareAll schema nesting declared.definitions) := by
  induction declared generalizing schema nesting with
  | none =>
    rw [Declarations.definitions, declareAll_nil]
    exact .nil
  | @leaf name id type plain parameters rest atRest =>
    exact .append (leads_head name id type elements)
      (.append (leads_leafEnd parameters plain id.vint.value name.text)
        (leads_first (fun _ _ => atRest) elements _))
  | container name id parameters children rest atChildren atRest =>
    have opened := @leads_openChildren schema nesting parameters id.vint.value name.text
    have inside := @atChildren schema
      ⟨nesting.kind, ⟨parameters.define id.vint.value name.text (some []), []⟩ ::
        nesting.enclosing⟩ elements
    rw [Declarations.lexemes, List.append_cons parameters.bracketed]
    exact .append (leads_head name id .container elements) (.append opened (.append inside
      (.cons rfl (leads_first (fun _ _ => atRest) elements _))))

theorem leads_block (declared : Declarations) :
    Leads start (.word "define" :: .word "elements" :: .symbol .openBrace ::
      (declared.lexemes ++ [.symbol .closeBrace]))
      ⟨{ Builtin.schema with roots := Builtin.schema.roots ++ declared.definitions }, .block⟩ :=
  .cons rfl (.cons rfl (.cons rfl (.append (leads_declarations declared rfl) (.cons rfl .nil))))

end State

namespace Declarations

theorem definitions_preorder (declared : Declarations) :
    declared.definitions.flatMap Definition.preorder = declared.everyDefinition := by
  induction declared with
  | none => rfl
  | leaf name id plain parameters rest atRest =>
    rw [definitions, everyDefinition, List.flatMap_cons, atRest]
    rfl
  | container name id parameters children rest atChildren atRest =>
    rw [definitions, everyDefinition, List.flatMap_cons, Definition.preorder_eq, atRest,
      ← atChildren]
    rfl

theorem everyDefinition_declares (declared : Declarations) :
    ∀ definition ∈ declared.everyDefinition, definition.id ≠ 0 := by
  induction declared with
  | none => simp [everyDefinition]
  | leaf name id plain parameters rest atRest =>
    simp only [everyDefinition, List.forall_mem_cons]
    exact ⟨id.nonzero, atRest⟩
  | container name id parameters children rest atChildren atRest =>
    simp only [everyDefinition, List.forall_mem_cons, List.forall_mem_append]
    exact ⟨id.nonzero, atChildren, atRest⟩

theorem definition?_declared (declared : Declarations) :
    Schema.definition? { Builtin.schema with
      roots := Builtin.schema.roots ++ declared.definitions } =
        declared.everyDefinition.foldl Schema.override Builtin.schema.definition? := by
  have kept : declared.everyDefinition.filter (·.id != 0) = declared.everyDefinition := by
    rw [List.filter_eq_self]
    intro definition member
    exact bne_iff_ne.mpr (declared.everyDefinition_declares definition member)
  rw [Schema.definition?_eq, Schema.declarations, List.flatMap_append, List.filter_append,
    definitions_preorder, kept, Schema.inForce_append]
  rfl

theorem ofText_print (declared : Declarations) :
    Schema.ofText declared.print =
      .ok { Builtin.schema with roots := Builtin.schema.roots ++ declared.definitions } := by
  have word : isWord "define".toList = true ∧ isWord "elements".toList = true := by decide
  have spellable : ∀ lexeme ∈ .word "define" :: .word "elements" :: .symbol .openBrace ::
      (declared.lexemes ++ [.symbol .closeBrace]), lexeme.Spellable := by
    simp only [List.forall_mem_cons, List.forall_mem_append]
    exact ⟨word.1, word.2, trivial, declared.spellable, trivial, by simp⟩
  have leads := State.leads_block declared
  unfold State.Leads at leads
  unfold Schema.ofText print
  rw [String.toList_ofList, lex_spell spellable]
  dsimp only
  rw [leads]
  rfl

end Declarations

end Ebml.Edtd
