import Ebml.Proofs.Edtd.Grammar
import Ebml.Proofs.Edtd.Heads
import Ebml.Proofs.Edtd.Representation
import Ebml.Proofs.Edtd.RoundTrip

namespace Ebml.Edtd

-- Parameters as they may be written, whether their values can be taken or not, and what a list
-- of them makes of a definition: the same wherever the definition is read.
inductive Setting where
  | cardinality (value : Lexeme)
  | default (value : Lexeme)
  | size (value : Lexeme)
  | range (first : RangeTerm) (others : List RangeTerm)
  -- A parameter of no known name, with anything in it that does not end it.
  | ignored (name : String) (value : List Lexeme)
      (unknown : name ∉ ["card", "def", "size", "range"])
      (inside : ∀ token ∈ value, token ≠ .symbol .semicolon ∧ token ≠ .symbol .closeBracket)

namespace Setting

def name : Setting → String
  | cardinality _ => "card"
  | default _ => "def"
  | size _ => "size"
  | range _ _ => "range"
  | ignored name _ _ _ => name

def value : Setting → List Lexeme
  | cardinality value => [value]
  | default value => [value]
  | size value => [value]
  | range first others => first.listed others
  | ignored _ value _ _ => value

def lexemes (setting : Setting) : List Lexeme := Parameters.parameter setting.name setting.value

def apply (definition : Definition) : Setting → Except Fault Definition
  | cardinality value =>
    (fun cardinality => { definition with cardinality := cardinality }) <$> Edtd.cardinality value
  | default value =>
    (fun bytes => { definition with default? := some bytes }) <$>
      defaultBytes definition.type value
  | size value => (fun size => { definition with size := size }) <$> payloadSize value
  | range first others =>
    (fun range => { definition with range? := some range }) <$>
      rangeOf definition.type (first :: others)
  | ignored _ _ _ _ => .ok definition

end Setting

def applyAll (definition : Definition) (settings : List Setting) : Except Fault Definition :=
  settings.foldlM Setting.apply definition

def tail : Option (List Setting) → List Lexeme
  | none => [.symbol .semicolon]
  | some settings => Grammar.bracketed (settings.flatMap Setting.lexemes)

def element (name number type : String) (settings? : Option (List Setting)) : List Lexeme :=
  .word name :: .symbol .assign :: .word number :: .word type :: tail settings?

def template (name type : String) (settings? : Option (List Setting)) : List Lexeme :=
  .word name :: .symbol .assign :: .word type :: tail settings?

end Ebml.Edtd

namespace Ebml.Definition

def lent (template : Definition) (id : ElementId) (name : String) : Definition :=
  { template with id := id, name := name }

end Ebml.Definition

namespace Ebml.Edtd

variable {schema : Schema} {nesting : Nesting} {definition changed : Definition}
  {type : ElementType} {name word : String}

theorem applyAll_cons (definition : Definition) (setting : Setting) (others : List Setting) :
    applyAll definition (setting :: others) =
      (setting.apply definition).bind (applyAll · others) :=
  List.foldlM_cons

theorem applyAll_append (definition : Definition) (first rest : List Setting) :
    applyAll definition (first ++ rest) = (applyAll definition first).bind (applyAll · rest) :=
  List.foldlM_append

theorem Setting.revised {setting : Setting} (applied : setting.apply definition = .ok changed) :
    Revised definition changed := by
  cases setting with
  | cardinality value =>
    obtain ⟨written, _, rfl⟩ := map_eq_ok.mp applied
    exact .cardinality written
  | default value =>
    obtain ⟨bytes, encoded, rfl⟩ := map_eq_ok.mp applied
    exact .default encoded
  | size value =>
    obtain ⟨size, _, rfl⟩ := map_eq_ok.mp applied
    exact .size size
  | range first others =>
    obtain ⟨range, ranged, rfl⟩ := map_eq_ok.mp applied
    exact .range ranged
  | ignored name value unknown inside =>
    cases applied
    exact .unchanged

theorem Setting.apply_lent (setting : Setting) (definition : Definition) (id : ElementId)
    (name : String) :
    setting.apply (definition.lent id name) = (·.lent id name) <$> setting.apply definition := by
  cases setting with
  | cardinality value => simp [apply, Definition.lent, Functor.map_map]
  | default value => simp [apply, Definition.lent, Functor.map_map]
  | size value => simp [apply, Definition.lent]
  | range first others => simp [apply, Definition.lent]
  | ignored name value unknown inside => rfl

theorem applyAll_lent (settings : List Setting) (definition : Definition) (id : ElementId)
    (name : String) :
    applyAll (definition.lent id name) settings =
      (·.lent id name) <$> applyAll definition settings := by
  induction settings generalizing definition with
  | nil => rfl
  | cons setting others ih =>
    rw [applyAll_cons, applyAll_cons, setting.apply_lent]
    cases setting.apply definition with
    | error fault => rfl
    | ok changed => exact ih changed

theorem applyAll_head {settings : List Setting}
    (applied : applyAll definition settings = .ok changed) :
    changed.head = definition.head := by
  induction settings generalizing definition with
  | nil =>
    cases applied
    rfl
  | cons setting others ih =>
    rw [applyAll_cons] at applied
    obtain ⟨between, first, rest⟩ := bind_eq_ok.mp applied
    rw [ih rest, (Setting.revised first).head]

namespace State

theorem feedAll_single {name : String} {value : Lexeme} {read : Except Fault Definition}
    (fed : feedValue schema nesting definition name value =
      (fun changed => among schema nesting (.parameterEnd changed)) <$> read) :
    (among schema nesting (.parameter definition)).feedAll (Parameters.parameter name [value]) =
      (fun changed => among schema nesting (.parameter changed)) <$> read := by
  have begun : Leads (among schema nesting (.parameter definition)) [.word name, .symbol .colon]
      (among schema nesting (.value definition name)) := .cons rfl (.cons rfl .nil)
  have ended : (among schema nesting (.value definition name)).feedAll
      [value, .symbol .semicolon] =
        (fun changed => among schema nesting (.parameter changed)) <$> read := by
    have valued : (among schema nesting (.value definition name)).feed value =
        feedValue schema nesting definition name value := rfl
    rw [feedAll_cons, valued, fed]
    cases read <;> rfl
  exact (begun.feedAll_append [value, .symbol .semicolon]).trans ended

theorem feedValue_unknown {name : String} (unknown : name ∉ ["card", "def", "size", "range"])
    (lexeme : Lexeme) :
    feedValue schema nesting definition name lexeme =
      feedIgnored schema nesting definition lexeme := by
  simp only [List.mem_cons, List.not_mem_nil, or_false, not_or] at unknown
  obtain ⟨noCard, noDef, noSize, noRange⟩ := unknown
  unfold feedValue
  split
  · exact absurd rfl noCard
  · exact absurd rfl noDef
  · exact absurd rfl noSize
  · exact absurd rfl noRange
  · rfl

theorem leads_ignored {value : List Lexeme}
    (inside : ∀ token ∈ value, token ≠ .symbol .semicolon ∧ token ≠ .symbol .closeBracket) :
    Leads (among schema nesting (.ignored definition)) value
      (among schema nesting (.ignored definition)) := by
  induction value with
  | nil => exact .nil
  | cons token others ih =>
    rw [List.forall_mem_cons] at inside
    obtain ⟨⟨unended, unclosed⟩, inside⟩ := inside
    have stays : (among schema nesting (.ignored definition)).feed token =
        .ok (among schema nesting (.ignored definition)) := by
      simp only [feed, among, feedDeclaration, feedIgnored]
    exact .cons stays (ih inside)

theorem leads_unknown {name : String} {value : List Lexeme}
    (unknown : name ∉ ["card", "def", "size", "range"])
    (inside : ∀ token ∈ value, token ≠ .symbol .semicolon ∧ token ≠ .symbol .closeBracket) :
    Leads (among schema nesting (.value definition name)) (value ++ [.symbol .semicolon])
      (among schema nesting (.parameter definition)) := by
  have alike (token : Lexeme) : (among schema nesting (.value definition name)).feed token =
      (among schema nesting (.ignored definition)).feed token :=
    feedValue_unknown unknown token
  have leads : Leads (among schema nesting (.ignored definition)) (value ++ [.symbol .semicolon])
      (among schema nesting (.parameter definition)) :=
    (leads_ignored inside).append (.cons rfl .nil)
  cases value with
  | nil => exact leads.alike (alike _)
  | cons token others => exact leads.alike (alike token)

theorem feedAll_setting (setting : Setting) :
    (among schema nesting (.parameter definition)).feedAll setting.lexemes =
      (fun changed => among schema nesting (.parameter changed)) <$> setting.apply definition := by
  cases setting with
  | cardinality value =>
    refine feedAll_single ?_
    simp only [Setting.apply, Setting.name, feedValue]
    cases cardinality value <;> rfl
  | default value =>
    refine feedAll_single ?_
    simp only [Setting.apply, Setting.name, feedValue]
    cases defaultBytes definition.type value <;> rfl
  | size value =>
    refine feedAll_single ?_
    simp only [Setting.apply, Setting.name, feedValue]
    cases payloadSize value <;> rfl
  | range first others =>
    have begun : Leads (among schema nesting (.parameter definition))
        (.word "range" :: .symbol .colon :: first.listed others)
        (among schema nesting (.termEnd definition (first :: others))) :=
      .cons rfl (.cons rfl (leads_listed first others))
    refine (begun.feedAll_append [.symbol .semicolon]).trans ?_
    rw [feedAll_cons]
    simp only [feed, among, feedDeclaration, Setting.apply]
    cases rangeOf definition.type (first :: others) <;> rfl
  | ignored name value unknown inside =>
    exact Leads.cons rfl (.cons rfl (leads_unknown unknown inside))

theorem feedAll_settings (settings : List Setting) :
    (among schema nesting (.parameter definition)).feedAll (settings.flatMap Setting.lexemes) =
      (fun changed => among schema nesting (.parameter changed)) <$>
        applyAll definition settings := by
  induction settings generalizing definition with
  | nil => rfl
  | cons setting others ih =>
    rw [List.flatMap_cons, State.feedAll_append, feedAll_setting, applyAll_cons]
    cases setting.apply definition with
    | error fault => rfl
    | ok changed => exact ih

theorem feedAll_tail (plain : definition.isContainer = false) (settings? : Option (List Setting)) :
    (among schema nesting (.tail definition)).feedAll (tail settings?) =
      (declare schema nesting ·) <$> applyAll definition (settings?.getD []) := by
  cases settings? with
  | none => rfl
  | some settings =>
    have opened : Leads (among schema nesting (.tail definition)) [.symbol .openBracket]
        (among schema nesting (.parameter definition)) := .cons rfl .nil
    refine (opened.feedAll_append _).trans ?_
    rw [List.append_eq, State.feedAll_append, feedAll_settings, Option.getD_some]
    cases applied : applyAll definition settings with
    | error fault => rfl
    | ok changed =>
      have closed : changed.isContainer = false := by
        have same : changed.type = definition.type := congrArg Head.type (applyAll_head applied)
        rw [Definition.isContainer, same]
        exact plain
      change (State.feed _ (.symbol .closeBracket)).bind _ = _
      simp only [feed, among, feedDeclaration, closed]
      rfl

theorem ofType_word (id : ElementId) (element : String)
    (typed : ElementType.ofName? word = some type) :
    ofType schema id element word = .ok (.new id type element) := by
  simp only [ofType, typed]

theorem feedAll_template {definition : Definition} (aliases : nesting.kind = .alias)
    (known : ofType schema 0 name word = .ok definition) (plain : definition.isContainer = false)
    (settings? : Option (List Setting)) :
    (among schema nesting .entry).feedAll (template name word settings?) =
      (declare schema nesting ·) <$> applyAll definition (settings?.getD []) := by
  have assigned : (among schema nesting (.assign name)).feed (.symbol .assign) =
      .ok (among schema nesting (.type name 0)) := by
    simp only [feed, among, feedDeclaration, aliases]
    rfl
  have typed : (among schema nesting (.type name 0)).feed (.word word) =
      .ok (among schema nesting (.tail definition)) := by
    simp only [feed, among, feedDeclaration, known]
    rfl
  have begun : Leads (among schema nesting .entry) [.word name, .symbol .assign, .word word]
      (among schema nesting (.tail definition)) :=
    .cons rfl (.cons assigned (.cons typed .nil))
  exact (begun.feedAll_append _).trans (feedAll_tail plain settings?)

theorem feedAll_element {number : String} {definition : ElementId → Definition}
    (elements : nesting.kind = .element)
    (known : ∀ id, ofType schema id name word = .ok (definition id))
    (plain : ∀ id, (definition id).isContainer = false) (settings? : Option (List Setting)) :
    (among schema nesting .entry).feedAll (element name number word settings?) =
      (elementId number).bind fun id =>
        (declare schema nesting ·) <$> applyAll (definition id) (settings?.getD []) := by
  have assigned : (among schema nesting (.assign name)).feed (.symbol .assign) =
      .ok (among schema nesting (.id name)) := by
    simp only [feed, among, feedDeclaration, elements]
    rfl
  have begun : Leads (among schema nesting .entry) [.word name, .symbol .assign]
      (among schema nesting (.id name)) := .cons rfl (.cons assigned .nil)
  refine (begun.feedAll_append _).trans ?_
  rw [feedAll_cons]
  simp only [feed, among, feedDeclaration]
  cases elementId number with
  | error fault => rfl
  | ok id =>
    have typed : (among schema nesting (.type name id)).feed (.word word) =
        .ok (among schema nesting (.tail (definition id))) := by
      simp only [feed, among, feedDeclaration, known]
      rfl
    have named : Leads (among schema nesting (.type name id)) [.word word]
        (among schema nesting (.tail (definition id))) := .cons typed .nil
    exact (named.feedAll_append _).trans (feedAll_tail (plain id) settings?)

end State

namespace Grammar

variable {tokens : List Lexeme}

theorem Term.written (term : Term tokens) : ∃ written : RangeTerm, written.lexemes = tokens := by
  cases term with
  | @span text => exact ⟨.span text, rfl⟩
  | @related mark number relation =>
    simp only [List.mem_cons, List.not_mem_nil, or_false] at relation
    rcases relation with rfl | rfl | rfl | rfl
    · exact ⟨.related .less number, rfl⟩
    · exact ⟨.related .atMost number, rfl⟩
    · exact ⟨.related .greater number, rfl⟩
    · exact ⟨.related .atLeast number, rfl⟩

theorem Terms.listed (terms : Terms tokens) :
    ∃ (first : RangeTerm) (others : List RangeTerm), first.listed others = tokens := by
  induction terms with
  | one single =>
    obtain ⟨first, rfl⟩ := single.written
    exact ⟨first, [], List.append_nil _⟩
  | more terms last ih =>
    obtain ⟨first, others, rfl⟩ := ih
    obtain ⟨term, rfl⟩ := last.written
    refine ⟨first, others ++ [term], ?_⟩
    simp [RangeTerm.listed]

theorem Argument.setting {name : String} (argument : Argument name tokens) :
    ∃ setting : Setting, setting.name = name ∧ setting.value = tokens := by
  cases argument with
  | cardinality mark => exact ⟨.cardinality _, rfl, rfl⟩
  | default valued => exact ⟨.default _, rfl, rfl⟩
  | size => exact ⟨.size _, rfl, rfl⟩
  | range listed =>
    obtain ⟨first, others, rfl⟩ := listed.listed
    exact ⟨.range first others, rfl, rfl⟩
  | unknown unnamed inside => exact ⟨.ignored name tokens unnamed inside, rfl, rfl⟩

theorem parameters_are_settings (repeated : Repeated Parameter tokens) :
    ∃ settings : List Setting, settings.flatMap Setting.lexemes = tokens := by
  induction repeated with
  | none => exact ⟨[], rfl⟩
  | more earlier last ih =>
    obtain ⟨settings, rfl⟩ := ih
    cases last with
    | named argument =>
      obtain ⟨setting, rfl, rfl⟩ := argument.setting
      refine ⟨settings ++ [setting], ?_⟩
      simp [Setting.lexemes, Parameters.parameter]

end Grammar

end Ebml.Edtd
