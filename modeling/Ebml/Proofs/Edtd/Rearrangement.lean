import Ebml.Proofs.Edtd.Sentence
import Ebml.Proofs.Edtd.Setting

namespace Ebml.Edtd

-- What a list of parameters makes of a definition is decided by the last parameter of each name
-- alone, so that only the order among parameters of one name can matter.
namespace Setting

def cardinality? : Setting → Option Cardinality
  | .cardinality value => (Edtd.cardinality value).toOption
  | _ => none

def default? (type : ElementType) : Setting → Option Bytes
  | .default value => (defaultBytes type value).toOption
  | _ => none

def size? : Setting → Option Nat
  | .size value => (payloadSize value).toOption
  | _ => none

def range? (type : ElementType) : Setting → Option Range
  | .range first others => (rangeOf type (first :: others)).toOption
  | _ => none

end Setting

def lastNamed? (name : String) (settings : List Setting) : Option Setting :=
  (settings.filter (·.name == name)).getLast?

def settled (definition : Definition) (settings : List Setting) : Definition :=
  { definition with
    cardinality :=
      ((lastNamed? "card" settings).bind Setting.cardinality?).getD definition.cardinality
    default? :=
      ((lastNamed? "def" settings).bind (Setting.default? definition.type)).or definition.default?
    size := ((lastNamed? "size" settings).bind Setting.size?).getD definition.size
    range? :=
      ((lastNamed? "range" settings).bind (Setting.range? definition.type)).or definition.range? }

-- A list in another order, but for the order of the parameters of each name among themselves.
def Rearranged (settings other : List Setting) : Prop :=
  ∀ name, settings.filter (·.name == name) = other.filter (·.name == name)

variable {schema : Schema} {nesting : Nesting} {definition changed : Definition} {name : String}
  {setting : Setting} {settings other : List Setting}

theorem Rearranged.perm (rearranged : Rearranged settings other) : settings.Perm other := by
  classical
  rw [List.perm_iff_count]
  intro setting
  have kept (settings : List Setting) :
      (settings.filter (·.name == setting.name)).count setting = settings.count setting :=
    List.count_filter (p := fun other : Setting => other.name == setting.name)
      (beq_self_eq_true _)
  rw [← kept settings, ← kept other, rearranged]

theorem settled_rearranged (rearranged : Rearranged settings other) (definition : Definition) :
    settled definition settings = settled definition other := by
  simp only [settled, lastNamed?, rearranged _]

theorem settled_type (definition : Definition) (settings : List Setting) :
    (settled definition settings).type = definition.type := rfl

theorem settled_nil (definition : Definition) : settled definition [] = definition := by
  cases definition
  rfl

theorem lastNamed?_concat (name : String) (settings : List Setting) (setting : Setting) :
    lastNamed? name (settings ++ [setting]) =
      if setting.name = name then some setting else lastNamed? name settings := by
  unfold lastNamed?
  rw [List.filter_append]
  by_cases named : setting.name = name
  · simp [named]
  · simp [named]

theorem Setting.apply_settled
    (applied : setting.apply (settled definition settings) = .ok changed) :
    changed = settled definition (settings ++ [setting]) := by
  cases setting with
  | cardinality value =>
    obtain ⟨written, read, rfl⟩ := map_eq_ok.mp applied
    simp [settled, lastNamed?_concat, Setting.name, Setting.cardinality?, read, Except.toOption]
  | default value =>
    obtain ⟨bytes, encoded, rfl⟩ := map_eq_ok.mp applied
    have encoded : defaultBytes definition.type value = .ok bytes := encoded
    simp [settled, lastNamed?_concat, Setting.name, Setting.default?, encoded, Except.toOption]
  | size value =>
    obtain ⟨size, read, rfl⟩ := map_eq_ok.mp applied
    simp [settled, lastNamed?_concat, Setting.name, Setting.size?, read, Except.toOption]
  | range first others =>
    obtain ⟨range, ranged, rfl⟩ := map_eq_ok.mp applied
    have ranged : rangeOf definition.type (first :: others) = .ok range := ranged
    simp [settled, lastNamed?_concat, Setting.name, Setting.range?, ranged, Except.toOption]
  | ignored name value unknown inside =>
    cases applied
    simp only [List.mem_cons, List.not_mem_nil, or_false, not_or] at unknown
    obtain ⟨noCard, noDef, noSize, noRange⟩ := unknown
    simp [settled, lastNamed?_concat, Setting.name, noCard, noDef, noSize, noRange]

theorem Setting.apply_alike {like : Definition} (same : like.type = definition.type)
    (applied : ∃ changed, setting.apply definition = .ok changed) :
    ∃ changed, setting.apply like = .ok changed := by
  obtain ⟨changed, applied⟩ := applied
  cases setting with
  | cardinality value =>
    obtain ⟨written, read, _⟩ := map_eq_ok.mp applied
    exact ⟨_, map_eq_ok.mpr ⟨written, read, rfl⟩⟩
  | default value =>
    obtain ⟨bytes, encoded, _⟩ := map_eq_ok.mp applied
    exact ⟨_, map_eq_ok.mpr ⟨bytes, same ▸ encoded, rfl⟩⟩
  | size value =>
    obtain ⟨size, read, _⟩ := map_eq_ok.mp applied
    exact ⟨_, map_eq_ok.mpr ⟨size, read, rfl⟩⟩
  | range first others =>
    obtain ⟨range, ranged, _⟩ := map_eq_ok.mp applied
    exact ⟨_, map_eq_ok.mpr ⟨range, same ▸ ranged, rfl⟩⟩
  | ignored name value unknown inside => exact ⟨like, rfl⟩

theorem applyAll_concat (definition : Definition) (settings : List Setting) (setting : Setting) :
    applyAll definition (settings ++ [setting]) =
      applyAll definition settings >>= fun between => setting.apply between := by
  rw [applyAll_append]
  cases applyAll definition settings with
  | error fault => rfl
  | ok between =>
    change (setting.apply between).bind (applyAll · []) = setting.apply between
    cases setting.apply between <;> rfl

theorem applyAll_eq_ok_iff : applyAll definition settings = .ok changed ↔
    (∀ setting ∈ settings, ∃ alone, setting.apply definition = .ok alone) ∧
      changed = settled definition settings := by
  induction settings using List.reverseRecOn generalizing changed with
  | nil =>
    rw [settled_nil]
    constructor
    · rintro ⟨⟩
      exact ⟨List.forall_mem_nil _, rfl⟩
    · rintro ⟨_, rfl⟩
      rfl
  | append_singleton settings setting ih =>
    rw [applyAll_concat, Edtd.bind_eq_ok]
    simp only [ih, List.forall_mem_append, List.forall_mem_singleton]
    constructor
    · rintro ⟨_, ⟨all, rfl⟩, applied⟩
      have alone := Setting.apply_alike (settled_type definition settings).symm ⟨changed, applied⟩
      exact ⟨⟨all, alone⟩, Setting.apply_settled applied⟩
    · rintro ⟨⟨all, alone⟩, rfl⟩
      obtain ⟨changed, applied⟩ := Setting.apply_alike (settled_type definition settings) alone
      exact ⟨_, ⟨all, rfl⟩, Setting.apply_settled applied ▸ applied⟩

theorem applyAll_rearranged (rearranged : Rearranged settings other)
    (applied : applyAll definition settings = .ok changed) :
    applyAll definition other = .ok changed := by
  rw [applyAll_eq_ok_iff] at applied ⊢
  obtain ⟨all, rfl⟩ := applied
  refine ⟨?_, settled_rearranged rearranged definition⟩
  intro setting present
  exact all setting (rearranged.perm.mem_iff.mpr present)

namespace State

def closed (schema : Schema) (nesting : Nesting) (definition : Definition) : State :=
  if definition.isContainer then among schema nesting (.children definition)
  else declare schema nesting definition

theorem feedAll_bracketed (settings : List Setting) :
    (among schema nesting (.tail definition)).feedAll
        (Grammar.bracketed (settings.flatMap Setting.lexemes)) =
      (closed schema nesting ·) <$> applyAll definition settings := by
  have opened : Leads (among schema nesting (.tail definition)) [.symbol .openBracket]
      (among schema nesting (.parameter definition)) := .cons rfl .nil
  refine (opened.feedAll_append _).trans ?_
  rw [List.append_eq, State.feedAll_append, feedAll_settings]
  cases applyAll definition settings with
  | error fault => rfl
  | ok changed =>
    change (State.feed _ (.symbol .closeBracket)).bind _ = .ok (closed schema nesting changed)
    simp only [feed, among, feedDeclaration, closed]
    split <;> rfl

theorem feedAll_rearranged {state : State} (rearranged : Rearranged settings other)
    (fed : (among schema nesting (.tail definition)).feedAll
      (Grammar.bracketed (settings.flatMap Setting.lexemes)) = .ok state) :
    state = closed schema nesting (settled definition settings) ∧
      (among schema nesting (.tail definition)).feedAll
        (Grammar.bracketed (other.flatMap Setting.lexemes)) = .ok state := by
  rw [feedAll_bracketed] at fed ⊢
  obtain ⟨changed, applied, rfl⟩ := map_eq_ok.mp fed
  refine ⟨?_, map_eq_ok.mpr ⟨changed, applyAll_rearranged rearranged applied, rfl⟩⟩
  rw [(applyAll_eq_ok_iff.mp applied).2]

end State

theorem Grammar.Listing.closes {place : DeclarationPlace} {tokens rest : List Lexeme}
    {final : State} (listing : Listing place definition tokens)
    (fed : (State.among schema nesting place).feedAll rest = .ok final)
    (complete : final.place = .block) :
    ∃ parameters after, tokens ++ rest = parameters ++ .symbol .closeBracket :: after ∧
      Repeated Parameter parameters := by
  induction rest generalizing place definition tokens with
  | nil =>
    cases fed
    cases complete
  | cons lexeme rest ih =>
    obtain ⟨next, stepped, fed⟩ := bind_eq_ok.mp (State.feedAll_cons _ _ _ ▸ fed)
    by_cases closing : lexeme = .symbol .closeBracket ∧ place = .parameter definition
    · obtain ⟨rfl, rfl⟩ := closing
      cases listing with
      | parameter listed => exact ⟨tokens, rest, rfl, listed⟩
    · have unclosed : lexeme = .symbol .closeBracket → place ≠ .parameter definition :=
        fun closes here => closing ⟨closes, here⟩
      obtain ⟨place', changed, rfl, listing', _, _⟩ :=
        feedDeclaration_listing listing unclosed stepped
      obtain ⟨parameters, after, split, listed⟩ := ih listing' fed
      refine ⟨parameters, after, ?_, listed⟩
      rw [← split, List.append_assoc, List.singleton_append]

end Ebml.Edtd

namespace Ebml.Schema

open Edtd

variable {schema : Schema} {nesting : Nesting} {definition : Definition} {before : List Lexeme}

theorem brackets_hold_settings {source : String} {compiled : Schema} {rest : List Lexeme}
    (reached : State.start.feedAll before = .ok (.among schema nesting (.tail definition)))
    (compiles : ofText source = .ok compiled)
    (lexed : (lex source.toList).1 = before ++ .symbol .openBracket :: rest) :
    ∃ (settings : List Setting) (after : List Lexeme),
      rest = settings.flatMap Setting.lexemes ++ .symbol .closeBracket :: after := by
  obtain ⟨_, fed⟩ := extend_eq_ok_iff.mp compiles
  have begun : State.Leads State.start before (.among schema nesting (.tail definition)) := reached
  have inside : (State.among schema nesting (.parameter definition)).feedAll rest =
      .ok ⟨compiled, .block⟩ := by
    rw [lexed] at fed
    exact (begun.feedAll_append _).symm.trans fed
  obtain ⟨parameters, after, split, listed⟩ := (Grammar.Listing.parameter .none).closes inside rfl
  obtain ⟨settings, rfl⟩ := Grammar.parameters_are_settings listed
  exact ⟨settings, after, split⟩

-- The brackets of a declaration, of an element or of a template, hold a list of parameters. The
-- last one of each name settles the definition, and in any other order that keeps those of one
-- name in theirs, the parameters make the same definition, and the source the same schema.
theorem parameters_rearranged
    (reached : State.start.feedAll before = .ok (.among schema nesting (.tail definition))) :
    (∀ (source : String) compiled rest, ofText source = .ok compiled →
      (lex source.toList).1 = before ++ .symbol .openBracket :: rest →
      ∃ (settings : List Setting) (after : List Lexeme),
        rest = settings.flatMap Setting.lexemes ++ .symbol .closeBracket :: after) ∧
    ∀ settings declared,
      State.start.feedAll (before ++ Grammar.bracketed (settings.flatMap Setting.lexemes)) =
        .ok declared →
      declared = .closed schema nesting (settled definition settings) ∧
      ∀ other, Rearranged settings other →
        State.start.feedAll (before ++ Grammar.bracketed (other.flatMap Setting.lexemes)) =
          .ok declared ∧
        ∀ (source permuted : String) after stop,
          lex source.toList =
            (before ++ Grammar.bracketed (settings.flatMap Setting.lexemes) ++ after, stop) →
          lex permuted.toList =
            (before ++ Grammar.bracketed (other.flatMap Setting.lexemes) ++ after, stop) →
          ofText permuted = ofText source := by
  have begun : State.Leads State.start before (.among schema nesting (.tail definition)) := reached
  refine ⟨fun source compiled rest => brackets_hold_settings reached, ?_⟩
  intro settings declared read
  rw [begun.feedAll_append] at read
  refine ⟨(State.feedAll_rearranged (fun _ => rfl) read).1, ?_⟩
  intro other rearranged
  have first : State.Leads State.start _ declared := begun.append read
  have second : State.Leads State.start _ declared :=
    begun.append (State.feedAll_rearranged rearranged read).2
  refine ⟨second, ?_⟩
  intro source permuted after stop lexed lexes
  rw [ofText_lexed lexed, ofText_lexed lexes, first.feedAll_append, second.feedAll_append]

def repeating (parameters : String) : String :=
  "define types \x7b T := uint [ size: 2; def: 7; ] \x7d define elements \x7b E := 81 t [ " ++
    parameters ++ " ] \x7d"

theorem repeated_parameters_rearranged :
    ∃ compiled, ofText (repeating "card: ?; note: a, b; size: 4; card: +;") = .ok compiled ∧
      (compiled.definition? 1).map (·.toProperties) =
        some ⟨1, .uint, "E", some [0, 0, 0, 0, 0, 0, 0, 7], 4, .oneOrMore, none⟩ ∧
      ofText (repeating "size: 4; card: ?; card: +; note: a, b;") = .ok compiled := by
  let before : List Lexeme := [.word "define", .word "types", .symbol .openBrace, .word "T",
    .symbol .assign, .word "uint", .symbol .openBracket, .word "size", .symbol .colon, .word "2",
    .symbol .semicolon, .word "def", .symbol .colon, .word "7", .symbol .semicolon,
    .symbol .closeBracket, .symbol .closeBrace, .word "define", .word "elements",
    .symbol .openBrace, .word "E", .symbol .assign, .word "81", .word "t"]
  have reached : ∃ schema nesting definition, State.start.feedAll before =
      .ok (.among schema nesting (.tail definition)) := ⟨_, _, _, rfl⟩
  obtain ⟨schema, nesting, definition, reached⟩ := reached
  let once : Setting := .cardinality (.symbol .question)
  let often : Setting := .cardinality (.symbol .plus)
  let sized : Setting := .size (.word "4")
  let note : Setting := .ignored "note" [.word "a", .symbol .comma, .word "b"] (by decide)
    (by decide)
  have rearranged : Rearranged [once, note, sized, often] [sized, once, often, note] := by
    intro name
    by_cases card : "card" = name
    · subst card
      rfl
    · by_cases size : "size" = name
      · subst size
        rfl
      · simp [List.filter_cons, once, often, sized, note, Setting.name, card, size]
  have lexed : lex (repeating "card: ?; note: a, b; size: 4; card: +;").toList =
      (before ++ Grammar.bracketed ([once, note, sized, often].flatMap Setting.lexemes) ++
        [.symbol .closeBrace], .endOfInput) := by decide +kernel
  have permuted : lex (repeating "size: 4; card: ?; card: +; note: a, b;").toList =
      (before ++ Grammar.bracketed ([sized, once, often, note].flatMap Setting.lexemes) ++
        [.symbol .closeBrace], .endOfInput) := by decide +kernel
  have compiles : (ofText (repeating "card: ?; note: a, b; size: 4; card: +;")).toOption.bind
      (fun compiled => (compiled.definition? 1).map (·.toProperties)) =
        some ⟨1, .uint, "E", some [0, 0, 0, 0, 0, 0, 0, 7], 4, .oneOrMore, none⟩ := by
    decide +kernel
  obtain ⟨compiled, read, properties⟩ := Option.bind_eq_some_iff.mp compiles
  have compiled' := toOption_eq_some.mp read
  have accepted : ∃ declared, State.start.feedAll
      (before ++ Grammar.bracketed ([once, note, sized, often].flatMap Setting.lexemes)) =
        .ok declared := ⟨_, rfl⟩
  obtain ⟨declared, accepted⟩ := accepted
  obtain ⟨_, settles⟩ := parameters_rearranged reached
  obtain ⟨_, alike⟩ := settles _ _ accepted
  obtain ⟨_, same⟩ := alike _ rearranged
  exact ⟨compiled, compiled', properties, (same _ _ _ _ lexed permuted).trans compiled'⟩

end Ebml.Schema
