import Ebml.Proofs.Edtd.Heads

namespace Ebml

inductive RangeKind where
  | int
  | uint
  | float
deriving DecidableEq

def Range.kind : Range → RangeKind
  | .int _ => .int
  | .uint _ => .uint
  | .float _ => .float

def ElementType.rangeKind? : ElementType → Option RangeKind
  | .int | .date => some .int
  | .uint | .string | .binary => some .uint
  | .float => some .float
  | .container => none

namespace Definition

-- What the type of a definition prescribes for its other parts.
structure Consistent (definition : Definition) : Prop where
  children : definition.children?.isSome = true ↔ definition.type = .container
  range : ∀ range ∈ definition.range?, definition.type.rangeKind? = some range.kind

theorem new_consistent (id : ElementId) (type : ElementType) (name : String) :
    (new id type name).Consistent := by
  constructor
  · cases type <;> simp [new]
  · simp [new]

theorem Consistent.filled {definition : Definition} (consistent : definition.Consistent)
    (nests : definition.isContainer = true) (children : List Definition) :
    { definition with children? := some children : Definition }.Consistent := by
  have container : definition.type = .container := by simpa [isContainer] using nests
  exact ⟨by simp [container], consistent.range⟩

theorem Consistent.overridden {definition : Definition} (consistent : definition.Consistent)
    (name : String) (bytes : Bytes) :
    (definition.overrideDefault name bytes).Consistent := by
  rw [overrideDefault_eq]
  refine ⟨?_, consistent.range⟩
  simpa using consistent.children

end Definition

namespace Edtd

variable {type : ElementType} {definition changed : Definition} {id : ElementId}

theorem map_eq_ok {α β : Type} {read : Except Fault α} {store : α → β} {result : β} :
    store <$> read = .ok result ↔ ∃ value, read = .ok value ∧ store value = result := by
  cases read <;> simp

theorem rangeOf_kind {terms : List RangeTerm} {range : Range}
    (ranged : rangeOf type terms = .ok range) : type.rangeKind? = some range.kind := by
  cases type with
  | container => cases ranged
  | _ =>
    obtain ⟨intervals, _, stored⟩ := map_eq_ok.mp ranged
    subst stored
    rfl

theorem Revised.consistent (revised : Revised definition changed)
    (consistent : definition.Consistent) : changed.Consistent := by
  constructor
  · rw [revised.children?, revised.type]
    exact consistent.children
  · cases revised with
    | range ranged =>
      intro range written
      cases written
      exact rangeOf_kind ranged
    | _ => exact consistent.range

theorem elementId_lt {literal : String} (read : elementId literal = .ok id) : id < 2 ^ 56 := by
  obtain ⟨vint, ⟨valid, _, _⟩, rfl⟩ := elementId_eq_ok_iff.mp read
  have bits : 7 * vint.length ≤ 56 := Nat.mul_le_mul_left 7 valid.short
  exact Nat.lt_of_lt_of_le valid.fits (Nat.pow_le_pow_right (by decide) bits)

-- The identifiers of whole definitions: those of elements keep within the bits that seven
-- bytes have for them, and what belongs to a template has none. Neither has what an element
-- took over from its template.
def DeclarationKind.Bounds : DeclarationKind → ElementId → Prop
  | .element, id => id < 2 ^ 56
  | .alias, id => id = 0

theorem Numbered.bounds {kind : DeclarationKind} (numbered : Numbered kind id) :
    kind.Bounds id := by
  cases kind
  · obtain ⟨literal, read⟩ := numbered
    exact elementId_lt read
  · exact numbered

theorem DeclarationKind.bounds_zero (kind : DeclarationKind) : kind.Bounds 0 := by
  cases kind <;> simp [Bounds]

def representation : Invariant where
  admits _ := True
  schema known :=
    (∀ key template, (key, template) ∈ known.aliases → key = Text.lower template.name ∧
      ∀ node ∈ template.preorder, node.id = 0 ∧ node.Consistent) ∧
    ∀ node ∈ known.nodes, node.id < 2 ^ 56 ∧ node.Consistent
  draft _ kind definition :=
    Numbered kind definition.id ∧ definition.Consistent ∧
      ∀ node ∈ definition.descendants, node.id = 0 ∧ node.Consistent
  whole _ kind definition :=
    ∀ node ∈ definition.preorder, kind.Bounds node.id ∧ node.Consistent
  typed := by
    intro known kind id name type definition holds numbered typed
    rcases ofType_cases typed with ⟨primitive, fresh⟩ | ⟨key, template, member, copied⟩
    · subst fresh
      refine ⟨numbered, Definition.new_consistent id primitive name, ?_⟩
      simp [Definition.descendants, Definition.new_children]
    · subst copied
      obtain ⟨_, lent⟩ := holds.1 key template member
      rw [Definition.preorder_descendants, List.forall_mem_cons] at lent
      obtain ⟨⟨_, consistent⟩, below⟩ := lent
      exact ⟨numbered, ⟨consistent.children, consistent.range⟩, below⟩
  revised := by
    intro known kind definition changed drafted revised
    obtain ⟨numbered, consistent, below⟩ := drafted
    refine ⟨by rwa [revised.id], revised.consistent consistent, ?_⟩
    rwa [Definition.descendants, revised.children]
  plain := by
    intro known kind definition drafted
    obtain ⟨numbered, consistent, below⟩ := drafted
    rw [Definition.preorder_descendants, List.forall_mem_cons]
    refine ⟨⟨numbered.bounds, consistent⟩, ?_⟩
    intro node inside
    obtain ⟨unnumbered, consistent⟩ := below node inside
    exact ⟨by rw [unnumbered]; exact kind.bounds_zero, consistent⟩
  filled := by
    intro known kind container children drafted nests whole
    obtain ⟨numbered, consistent, _⟩ := drafted
    rw [Definition.preorder_descendants, List.forall_mem_cons]
    refine ⟨⟨numbered.bounds, consistent.filled nests children⟩, ?_⟩
    intro node inside
    obtain ⟨child, listed, within⟩ := List.mem_flatMap.mp inside
    exact whole child listed node within
  declared := by
    intro known definition holds whole
    refine ⟨holds.1, ?_⟩
    rw [Schema.nodes_declare, List.forall_mem_append]
    exact ⟨holds.2, whole⟩
  aliased := by
    intro known template holds whole
    refine ⟨?_, holds.2⟩
    intro key other member
    rcases List.mem_cons.mp member with same | earlier
    · cases same
      exact ⟨rfl, whole⟩
    · exact holds.1 key other earlier
  overridden := by
    intro known name definition value bytes holds _ _ _
    refine ⟨holds.1, ?_⟩
    rw [Schema.nodes_overrideDefault, List.forall_mem_map]
    intro node member
    obtain ⟨bound, consistent⟩ := holds.2 node member
    refine ⟨?_, consistent.overridden name bytes⟩
    rw [Definition.overrideDefault_toProperties]
    exact bound

end Edtd

namespace Schema

theorem builtin_representation : Edtd.representation.schema Builtin.schema := by
  have small : ∀ node ∈ Builtin.schema.nodes, node.id < 2 ^ 56 := by decide
  have parts : ∀ node ∈ Builtin.schema.nodes,
      (node.children?.isSome = true ↔ node.type = .container) ∧
        ∀ range ∈ node.range?, node.type.rangeKind? = some range.kind := by decide
  refine ⟨by simp [Builtin.schema], ?_⟩
  intro node member
  exact ⟨small node member, (parts node member).1, (parts node member).2⟩

-- In a schema that a source compiles to, every element stands under its own identifier,
-- every template under the lower case of its name and without identifiers, and all that can
-- be reached has the children and the range that its type prescribes.
theorem compiled_representation {source : String} {schema : Schema}
    (compiled : ofText source = .ok schema) :
    (∀ id definition, schema.definition? id = some definition →
      definition.id = id ∧ id ≠ 0 ∧ id < 2 ^ 56) ∧
    (∀ key template, (key, template) ∈ schema.aliases →
      key = Text.lower template.name ∧ ∀ node ∈ template.preorder, node.id = 0) ∧
    ∀ node, schema.Reaches node → node.Consistent := by
  obtain ⟨templates, elements⟩ : Edtd.representation.schema schema :=
    Edtd.Invariant.extend_holds builtin_representation (fun _ _ => trivial) compiled
  refine ⟨?_, ?_, ?_⟩
  · intro id definition defined
    obtain ⟨declared, same⟩ := definition?_mem defined
    obtain ⟨numbered, inside⟩ := mem_declarations.mp declared
    subst same
    exact ⟨rfl, numbered, (elements definition inside).1⟩
  · intro key template member
    obtain ⟨lowered, below⟩ := templates key template member
    exact ⟨lowered, fun node inside => (below node inside).1⟩
  · intro node reached
    cases reached with
    | element defined inside =>
      obtain ⟨_, declared⟩ := mem_declarations.mp (definition?_mem defined).1
      exact (elements node (mem_nodes_of_mem_preorder declared inside)).2
    | template known inside =>
      obtain ⟨key, member⟩ := alias?_mem known
      exact ((templates key _ member).2 node inside).2

def lentRange : String :=
  "define types \x7b N := uint [ range: 1..9; ] G := container \x7b C := n; \x7d \x7d " ++
    "define elements \x7b E := 4081 container \x7b D := 82 g; \x7d \x7d"

theorem lent_range_consistent :
    ∃ schema, ofText lentRange = .ok schema ∧ ∃ outer lent template,
      schema.definition? 129 = some outer ∧ outer.id = 129 ∧ 129 < 2 ^ 56 ∧
      ("g", template) ∈ schema.aliases ∧ "g" = Text.lower template.name ∧
      outer.at? [0, 0] = some lent ∧ lent.id = 0 ∧ lent.type = .uint ∧
      lent.range? = some (.uint [⟨.included 1, .included 9⟩]) ∧ lent.Consistent := by
  have compiles : (ofText lentRange).toOption.bind (fun schema => do
      let outer ← schema.definition? 129
      let lent ← outer.at? [0, 0]
      let first ← schema.aliases.head?
      return (first.1, lent.id, lent.type, lent.range?)) =
        some ("g", 0, .uint, some (.uint [⟨.included 1, .included 9⟩])) := by decide +kernel
  obtain ⟨schema, read, views⟩ := Option.bind_eq_some_iff.mp compiles
  simp only [Option.bind_eq_bind, Option.bind_eq_some_iff, Option.pure_def, Option.some.injEq,
    Prod.mk.injEq] at views
  obtain ⟨outer, defined, lent, below, ⟨key, template⟩, first, same, unnumbered, uint, ranged⟩ :=
    views
  subst same
  have compiled := Edtd.toOption_eq_some.mp read
  obtain ⟨elements, templates, consistent⟩ := compiled_representation compiled
  obtain ⟨numbered, _, bound⟩ := elements 129 outer defined
  have member := List.mem_of_mem_head? first
  obtain ⟨lowered, _⟩ := templates "g" template member
  have inside := Definition.mem_preorder_iff_at?.mpr ⟨_, below⟩
  exact ⟨schema, compiled, outer, lent, template, defined, numbered, bound, member, lowered, below,
    unnumbered, uint, ranged, consistent lent (.element defined inside)⟩

end Schema

end Ebml
