import Ebml.Proofs.Edtd.Heads

namespace Ebml

-- Defaults are stored in the form of some type. Numbers take eight bytes, texts and byte
-- strings any number of them, and dates and containers have no default.
def ElementType.Stores : ElementType → Bytes → Prop
  | .int, bytes => bytes.length = 8
  | .uint, bytes => bytes.length = 8
  | .float, bytes => bytes.length = 8
  | .string, _ => True
  | .binary, _ => True
  | .date, _ => False
  | .container, _ => False

instance : (type : ElementType) → (bytes : Bytes) → Decidable (type.Stores bytes)
  | .int, bytes => inferInstanceAs (Decidable (bytes.length = 8))
  | .uint, bytes => inferInstanceAs (Decidable (bytes.length = 8))
  | .float, bytes => inferInstanceAs (Decidable (bytes.length = 8))
  | .string, _ => .isTrue trivial
  | .binary, _ => .isTrue trivial
  | .date, _ => .isFalse id
  | .container, _ => .isFalse id

namespace Definition

def OwnDefault (definition : Definition) : Prop :=
  ∀ bytes ∈ definition.default?, definition.type.Stores bytes

instance (definition : Definition) : Decidable definition.OwnDefault :=
  inferInstanceAs (Decidable (∀ bytes ∈ definition.default?, definition.type.Stores bytes))

-- A header block may have set the default for an element of the same name, but another type.
def NamesakeDefault (overrides : Override → Prop) (definition : Definition) : Prop :=
  ∀ bytes ∈ definition.default?, definition.type.Stores bytes ∨
    ∃ override, overrides override ∧ override.head.name = definition.name ∧
      override.head.type ≠ definition.type ∧ override.bytes = bytes

variable {definition : Definition} {overrides : Override → Prop}

theorem OwnDefault.namesake (own : definition.OwnDefault) (overrides : Override → Prop) :
    definition.NamesakeDefault overrides :=
  fun bytes set => .inl (own bytes set)

theorem NamesakeDefault.overridden {override : Override}
    (namesake : definition.NamesakeDefault overrides) (admitted : overrides override)
    (stores : override.head.type.Stores override.bytes) :
    (definition.overrideDefault override.head.name override.bytes).NamesakeDefault overrides := by
  unfold NamesakeDefault
  rw [overrideDefault_toProperties]
  by_cases same : definition.name = override.head.name
  · intro written set
    have written_eq : override.bytes = written := by
      simpa [Properties.withDefault, same] using set
    by_cases alike : override.head.type = definition.type
    · rw [alike, written_eq] at stores
      exact .inl stores
    · exact .inr ⟨override, admitted, same.symm, alike, written_eq⟩
  · intro written set
    have kept : definition.default? = some written := by
      simpa [Properties.withDefault, same] using set
    exact namesake written kept

theorem new_ownDefault (id : ElementId) (type : ElementType) (name : String) :
    ∀ node ∈ (new id type name).preorder, node.OwnDefault := by
  intro node inside
  rw [preorder_eq, new_children, List.flatMap_nil, List.mem_singleton] at inside
  subst inside
  nofun

end Definition

namespace Edtd

variable {type : ElementType} {value : Lexeme} {bytes : Bytes} {definition changed : Definition}

theorem defaultBytes_stores (encoded : defaultBytes type value = .ok bytes) :
    type.Stores bytes := by
  have number {α : Type} (read : Except Fault α) (store : α → Bytes)
      (wide : ∀ number, (store number).length = 8) (stored : store <$> read = .ok bytes) :
      bytes.length = 8 := by
    cases read with
    | error fault => cases stored
    | ok number =>
      cases stored
      exact wide number
  cases type with
  | int => exact number _ _ (fun _ => Bytes.toBigEndian_length 8 _) encoded
  | uint => exact number _ _ (fun _ => Bytes.toBigEndian_length 8 _) encoded
  | float => exact number _ _ (fun _ => Bytes.toBigEndian_length 8 _) encoded
  | string => trivial
  | binary => trivial
  | date => cases encoded
  | container => cases encoded

theorem Revised.ownDefault (revised : Revised definition changed) (own : definition.OwnDefault) :
    changed.OwnDefault := by
  cases revised with
  | default encoded =>
    rintro _ ⟨⟩
    exact defaultBytes_stores encoded
  | _ => exact own

def defaults (overrides : Override → Prop) : Invariant where
  admits := overrides
  schema known :=
    (∀ key template, (key, template) ∈ known.aliases →
      ∀ node ∈ template.preorder, node.OwnDefault) ∧
    ∀ node ∈ known.nodes, node.NamesakeDefault overrides
  draft _ _ definition := ∀ node ∈ definition.preorder, node.OwnDefault
  whole _ _ definition := ∀ node ∈ definition.preorder, node.OwnDefault
  typed := by
    rintro known kind id name type definition ⟨templates, _⟩ _ typed
    rcases ofType_cases typed with ⟨primitive, rfl⟩ | ⟨key, template, member, rfl⟩
    · exact Definition.new_ownDefault id primitive name
    · have lent := templates key template member
      rw [Definition.preorder_eq, List.forall_mem_cons] at lent ⊢
      exact lent
  revised := by
    intro known kind definition changed own revised
    rw [Definition.preorder_eq, List.forall_mem_cons] at own ⊢
    rw [revised.children]
    exact ⟨revised.ownDefault own.1, own.2⟩
  plain := by
    intro known kind definition own
    exact own
  filled := by
    intro known kind container children own _ whole
    rw [Definition.preorder_eq, List.forall_mem_cons] at own ⊢
    refine ⟨own.1, ?_⟩
    intro node member
    obtain ⟨child, listed, inside⟩ := List.mem_flatMap.mp member
    exact whole child listed node inside
  declared := by
    rintro known definition ⟨templates, elements⟩ own
    refine ⟨templates, ?_⟩
    rw [Schema.nodes_declare, List.forall_mem_append]
    exact ⟨elements, fun node inside => (own node inside).namesake _⟩
  aliased := by
    rintro known template ⟨templates, elements⟩ own
    refine ⟨?_, elements⟩
    intro key other member
    rcases List.mem_cons.mp member with same | earlier
    · cases same
      exact own
    · exact templates key other earlier
  overridden := by
    rintro known name definition value bytes ⟨templates, elements⟩ named encoded admitted
    obtain ⟨_, rfl⟩ := Schema.lastNamed?_mem named
    refine ⟨templates, ?_⟩
    rw [Schema.nodes_overrideDefault, List.forall_mem_map]
    intro node member
    exact (elements node member).overridden admitted (defaultBytes_stores encoded)

end Edtd

namespace Schema

theorem builtin_defaults (overrides : Override → Prop) :
    (Edtd.defaults overrides).schema Builtin.schema := by
  have own : ∀ node ∈ Builtin.schema.nodes, node.OwnDefault := by decide
  exact ⟨nofun, fun node member => (own node member).namesake _⟩

-- In every schema that a source compiles to, at any depth of elements and templates, a default
-- has the form of the definition's own type, or a header block of the source has set it under
-- the definition's name for an element of another type. Templates keep their own defaults.
theorem default_stored_unless_set_for_namesake {source : String} {schema : Schema}
    (compiled : ofText source = .ok schema) :
    (∀ node, schema.Reaches node →
      node.NamesakeDefault (· ∈ Builtin.schema.overridesRead source)) ∧
    ∀ name template, schema.alias? name = some template →
      ∀ node ∈ template.preorder, node.OwnDefault := by
  obtain ⟨templates, elements⟩ :=
    Edtd.Invariant.extend_holds (builtin_defaults _) (fun _ member => member) compiled
  have lent : ∀ name template, schema.alias? name = some template →
      ∀ node ∈ template.preorder, node.OwnDefault := by
    intro name template known
    obtain ⟨key, member⟩ := alias?_mem known
    exact templates key template member
  refine ⟨?_, lent⟩
  intro node reached
  cases reached with
  | @element id definition defined inside =>
    have declared := (mem_declarations.mp (definition?_mem defined).1).2
    exact elements node (mem_nodes_of_mem_preorder declared inside)
  | @template name template known inside => exact (lent name template known node inside).namesake _

def namesakes : String :=
  "define elements \x7b A := 81 uint; A := 82 date; A := 83 string; \x7d " ++
    "declare header \x7b A := \"x\"; \x7d"

theorem default_of_text_stored :
    ∃ schema, ofText namesakes = .ok schema ∧ ∃ node, schema.Reaches node ∧
      node.default? = some [120] ∧
      node.NamesakeDefault (· ∈ Builtin.schema.overridesRead namesakes) := by
  have compiles : ((ofText namesakes).toOption.bind (·.definition? 3)).map (·.default?) =
      some (some [120]) := by decide +kernel
  cases compiled : ofText namesakes with
  | error fault => simp [compiled, Except.toOption] at compiles
  | ok schema =>
    simp only [compiled, Except.toOption, Option.bind_some, Option.map_eq_some_iff] at compiles
    obtain ⟨node, defined, set⟩ := compiles
    have reached := Reaches.element defined (Definition.mem_preorder_self node)
    exact ⟨schema, rfl, node, reached, set,
      (default_stored_unless_set_for_namesake compiled).1 node reached⟩

-- The number and the date take the text in its one byte.
theorem default_of_text_stored_as_number_and_date :
    ∃ schema, ofText namesakes = .ok schema ∧ ∃ number date,
      schema.Reaches number ∧ number.type = .uint ∧ number.default? = some [120] ∧
      schema.Reaches date ∧ date.type = .date ∧ date.default? = some [120] ∧
      ¬number.OwnDefault ∧ ¬date.OwnDefault := by
  have compiles : (ofText namesakes).toOption.bind (fun schema => do
      let number ← schema.definition? 1
      let date ← schema.definition? 2
      return ((number.type, number.default?), (date.type, date.default?))) =
        some ((.uint, some [120]), (.date, some [120])) := by decide +kernel
  cases compiled : ofText namesakes with
  | error fault => simp [compiled, Except.toOption] at compiles
  | ok schema =>
    simp only [compiled, Except.toOption, Option.bind_some, Option.bind_eq_bind,
      Option.bind_eq_some_iff, Option.pure_def, Option.some.injEq, Prod.mk.injEq] at compiles
    obtain ⟨number, first, date, second, ⟨uint, numberSet⟩, isDate, dateSet⟩ := compiles
    refine ⟨schema, rfl, number, date, .element first (Definition.mem_preorder_self _), uint,
      numberSet, .element second (Definition.mem_preorder_self _), isDate, dateSet, ?_, ?_⟩
    · intro own
      have eight := own _ numberSet
      rw [uint] at eight
      cases eight
    · intro own
      have none := own _ dateSet
      rwa [isDate] at none

end Schema

end Ebml
