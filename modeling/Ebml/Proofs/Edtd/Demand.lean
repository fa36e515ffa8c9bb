import Ebml.Proofs.Edtd.Descent
import Ebml.Proofs.Edtd.Setting

namespace Ebml.Edtd

def onward (fed : Except Fault State) (lexemes : List Lexeme) : Except Fault State :=
  fed.bind (·.feedAll lexemes)

theorem onward_nil (fed : Except Fault State) : onward fed [] = fed := by
  cases fed <;> rfl

theorem onward_cons (state : State) (lexeme : Lexeme) (rest : List Lexeme) :
    onward (.ok state) (lexeme :: rest) = onward (state.feed lexeme) rest :=
  State.feedAll_cons state lexeme rest

theorem onward_append (fed : Except Fault State) (first rest : List Lexeme) :
    onward fed (first ++ rest) = onward (onward fed first) rest := by
  cases fed with
  | error fault => rfl
  | ok state => exact State.feedAll_append state first rest

namespace Descent

-- Reading by descent comes to its end on every source, with what reading lexeme by lexeme makes
-- of it, and asks for no token after the first that is no lexeme.
variable {α β : Type} {schema : Schema} {nesting : Nesting} {definition : Definition}
  {state : State} {fed : Except Fault State} {before between left calls : Nat}

theorem next_lexeme {text : List Char} {found : Lexeme} {rest : List Lexeme} {stop : Stop}
    (lexed : lex text = (found :: rest, stop)) (asked : Nat) :
    ∃ after, lex after = (rest, stop) ∧
      next ⟨text, asked⟩ = some (.ok (some found), ⟨after, asked + 1⟩) := by
  rw [lex_eq] at lexed
  split at lexed
  · rename_i after token
    cases lexed
    exact ⟨after, rfl, by simp only [next, token]⟩
  · cases lexed

def stopped : Stop → Except Fault (Option Lexeme)
  | .endOfInput => .ok none
  | .invalid error => .error (.lexical error)

theorem next_none {text : List Char} {stop : Stop} (lexed : lex text = ([], stop)) (asked : Nat) :
    ∃ after, next ⟨text, asked⟩ = some (stopped stop, ⟨after, asked + 1⟩) := by
  rw [lex_eq] at lexed
  split at lexed
  · cases lexed
  · rename_i after token
    cases lexed
    refine ⟨after, ?_⟩
    cases stop <;> simp only [next, token, stopped]

-- How a reading ends that has so many lexemes ahead: it is done where the other reading has come
-- to as well, with fewer lexemes left than given, or it fails with the same fault.
inductive Outcome (fed : Except Fault State) (after : α → Except Fault State) (left asked : Nat)
    (lexemes : List Lexeme) (stop : Stop) : Except Fault α × Lexer → Prop
  | done {value : α} {taken rest : List Lexeme} {text : List Char} (all : lexemes = taken ++ rest)
      (few : rest.length < left) (lexed : lex text = (rest, stop))
      (reached : onward fed taken = after value) :
      Outcome fed after left asked lexemes stop (.ok value, ⟨text, asked + taken.length⟩)
  | failed {fault : Fault} {lexer : Lexer} (within : lexer.asked ≤ asked + lexemes.length + 1)
      (refused : (onward fed lexemes).bind (·.finish stop) = .error fault) :
      Outcome fed after left asked lexemes stop (.error fault, lexer)

-- Wherever fewer lexemes are ahead than given, a reading ends, and as the other one does.
def Follows (before : Nat) (read : Descent α) (fed : Except Fault State)
    (after : α → Except Fault State) (left : Nat) : Prop :=
  ∀ text asked lexemes stop, lex text = (lexemes, stop) → lexemes.length < before →
    ∃ outcome, read ⟨text, asked⟩ = some outcome ∧
      Outcome fed after left asked lexemes stop outcome

namespace Follows

theorem weaken {read : Descent α} {after : α → Except Fault State} {more : Nat}
    (follows : Follows before read fed after left) (enough : left ≤ more) :
    Follows before read fed after more := by
  intro text asked lexemes stop lexed few
  obtain ⟨outcome, reads, ends⟩ := follows text asked lexemes stop lexed few
  refine ⟨outcome, reads, ?_⟩
  cases ends with
  | done all few lexed reached => exact .done all (Nat.lt_of_lt_of_le few enough) lexed reached
  | failed within refused => exact .failed within refused

theorem of_pos {read : Descent α} {after : α → Except Fault State}
    (follows : 0 < before → Follows before read fed after left) :
    Follows before read fed after left := by
  intro text asked lexemes stop lexed few
  exact follows (Nat.zero_lt_of_lt few) text asked lexemes stop lexed few

theorem of_none {read : Descent α} {after : α → Except Fault State} (none : before ≤ 0) :
    Follows before read fed after left :=
  of_pos fun positive => absurd none (Nat.not_le_of_lt positive)

theorem pure (value : α) {after : α → Except Fault State} (reached : fed = after value)
    (enough : before ≤ left) : Follows before (pure value) fed after left := by
  intro text asked lexemes stop lexed few
  exact ⟨_, rfl, .done (List.nil_append lexemes).symm (Nat.lt_of_lt_of_le few enough) lexed
    ((onward_nil fed).trans reached)⟩

theorem refuse (fault : Fault) (after : α → Except Fault State) :
    Follows before (refuse fault) (.error fault) after left := by
  intro text asked lexemes stop lexed few
  refine ⟨_, rfl, .failed ?_ rfl⟩
  exact Nat.le_succ_of_le (Nat.le_add_right _ _)

theorem meaning (read : Except Fault α) (after : α → Except Fault State) (enough : before ≤ left) :
    Follows before (meaning read) (read.bind after) after left := by
  cases read with
  | ok value => exact .pure value rfl enough
  | error fault => exact .refuse fault after

theorem bind {one : Descent α} {two : α → Descent β} {middle : α → Except Fault State}
    {after : β → Except Fault State} (first : Follows before one fed middle between)
    (second : ∀ value, Follows between (two value) (middle value) after left) :
    Follows before (one >>= two) fed after left := by
  intro text asked lexemes stop lexed few
  obtain ⟨outcome, reads, ends⟩ := first text asked lexemes stop lexed few
  cases ends with
  | failed within refused => exact ⟨_, bind_of_error reads, .failed within refused⟩
  | @done value taken rest text all fewer lexed' reached =>
    subst all
    obtain ⟨outcome, reads', ends⟩ :=
      second value text (asked + taken.length) rest stop lexed' fewer
    refine ⟨outcome, (bind_of_ok reads).trans reads', ?_⟩
    cases ends with
    | @done value' taken' rest' text' all few' ended reached' =>
      subst all
      rw [Nat.add_assoc, ← List.length_append]
      refine .done (List.append_assoc _ _ _).symm few' ended ?_
      rw [onward_append, reached, reached']
    | @failed fault lexer within refused =>
      refine .failed ?_ ?_
      · rw [List.length_append]
        omega
      · rw [onward_append, reached, refused]

theorem ask {read : Option Lexeme → Descent α} {after : α → Except Fault State}
    {fault : Fault} (unfinished : state.finish .endOfInput = .error fault)
    (ended : read none = Descent.refuse fault)
    (each : ∀ fewer < before, ∀ lexeme,
      Follows fewer (read (some lexeme)) (state.feed lexeme) after left) :
    Follows before (next >>= read) (.ok state) after left := by
  intro text asked lexemes stop lexed few
  cases lexemes with
  | cons found rest =>
    obtain ⟨after, ahead, asks⟩ := next_lexeme lexed asked
    obtain ⟨outcome, reads, ends⟩ :=
      each _ few found after (asked + 1) rest stop ahead (Nat.lt_succ_self _)
    refine ⟨outcome, (bind_of_ok asks).trans reads, ?_⟩
    cases ends with
    | @done value taken rest text all fewer ended reached =>
      rw [all, Nat.add_assoc, Nat.add_comm 1, ← List.length_cons (a := found)]
      exact .done rfl fewer ended ((onward_cons state found taken).trans reached)
    | failed within refused =>
      refine .failed ?_ ?_
      · rw [List.length_cons]
        omega
      · rw [onward_cons, refused]
  | nil =>
    obtain ⟨after, asks⟩ := next_none lexed asked
    cases stop with
    | invalid error => exact ⟨_, bind_of_error asks, .failed (Nat.le_refl _) rfl⟩
    | endOfInput =>
      exact ⟨_, (bind_of_ok asks).trans (congrFun ended _), .failed (Nat.le_refl _) unfinished⟩

theorem expect {wanted : Lexeme} {refusal : Option Lexeme → Fault} {reached : Except Fault State}
    (unfinished : state.finish .endOfInput = .error (refusal none))
    (feeds : ∀ lexeme, state.feed lexeme =
      if lexeme = wanted then reached else .error (refusal (some lexeme))) :
    Follows before (expect wanted refusal) (.ok state) (fun _ => reached) (before - 1) := by
  refine ask unfinished rfl ?_
  intro fewer less lexeme
  rw [feeds]
  by_cases same : lexeme = wanted
  · rw [if_pos same, if_pos (congrArg some same)]
    exact .pure () rfl (Nat.le_sub_one_of_lt less)
  · rw [if_neg same, if_neg (fun found => same (Option.some.inj found))]
    exact .refuse _ _

theorem expectSymbol {mark : Symbol} {reached : Except Fault State}
    (unfinished : state.finish .endOfInput = .error (.unexpected (.symbol mark) none))
    (feeds : ∀ lexeme, state.feed lexeme =
      if lexeme = .symbol mark then reached
      else .error (.unexpected (.symbol mark) (some lexeme))) :
    Follows before (expectSymbol mark) (.ok state) (fun _ => reached) (before - 1) :=
  .expect unfinished feeds

theorem expectWord (unfinished : state.finish .endOfInput = .error (.unexpected .word none))
    (noSymbol : ∀ mark, state.feed (.symbol mark) =
      .error (.unexpected .word (some (.symbol mark))))
    (noText : ∀ body, state.feed (.quoted body) =
      .error (.unexpected .word (some (.quoted body)))) :
    Follows before expectWord (.ok state) (fun text => state.feed (.word text)) (before - 1) := by
  refine ask unfinished rfl ?_
  intro fewer less lexeme
  cases lexeme with
  | word text => exact .pure text rfl (Nat.le_sub_one_of_lt less)
  | symbol mark =>
    rw [noSymbol]
    exact .refuse _ _
  | quoted body =>
    rw [noText]
    exact .refuse _ _

end Follows

theorem rangeTerm_follows (terms : List RangeTerm) (lexeme : Lexeme) :
    Follows before (rangeTerm (some lexeme))
      (State.feedTerm schema nesting definition terms lexeme)
      (fun term => .ok (.among schema nesting (.termEnd definition (terms ++ [term])))) before := by
  cases lexeme with
  | word text => exact .pure (RangeTerm.span text) rfl (Nat.le_refl _)
  | quoted body => exact .refuse _ _
  | symbol mark =>
    simp only [rangeTerm, State.feedTerm]
    cases Relation.ofSymbol? mark with
    | none => exact .refuse _ _
    | some relation =>
      have number : Follows before expectWord
          (.ok (.among schema nesting (.termNumber definition terms relation)))
          (fun number => .ok (.among schema nesting
            (.termEnd definition (terms ++ [.related relation number])))) (before - 1) :=
        .expectWord rfl (fun _ => rfl) fun _ => rfl
      exact number.bind fun number => .pure (RangeTerm.related relation number) rfl (Nat.sub_le _ _)

theorem rangeTerms_follows (enough : before ≤ calls) (schema : Schema) (nesting : Nesting)
    (definition : Definition) (terms : List RangeTerm) :
    Follows before (rangeTerms calls terms)
      (.ok (.among schema nesting (.termEnd definition terms)))
      (fun terms => (rangeOf definition.type terms).bind fun range =>
        .ok (.among schema nesting (.parameter { definition with range? := some range })))
      (before - 1) := by
  induction calls generalizing before terms with
  | zero => exact .of_none enough
  | succ calls ih =>
    rw [rangeTerms]
    refine .ask rfl rfl ?_
    intro fewer less lexeme
    cases lexeme with
    | word text => exact .refuse _ _
    | quoted body => exact .refuse _ _
    | symbol mark =>
      cases mark with
      | semicolon => exact .pure terms rfl (Nat.le_sub_one_of_lt less)
      | comma =>
        refine .ask rfl rfl ?_
        intro least lesser lexeme
        refine (rangeTerm_follows terms lexeme).bind fun term => ?_
        exact (ih (by omega) (terms ++ [term])).weaken (by omega)
      | _ => exact .refuse _ _

theorem ignored_next (enough : before ≤ calls)
    (each : ∀ fewer < before, ∀ lexeme,
      Follows fewer (ignored calls (some lexeme))
        (State.feedIgnored schema nesting definition lexeme)
        (fun _ => .ok (.among schema nesting (.parameter definition))) fewer) :
    Follows before (next >>= ignored calls) (.ok (.among schema nesting (.ignored definition)))
      (fun _ => .ok (.among schema nesting (.parameter definition))) (before - 1) := by
  refine .of_pos fun positive => ?_
  have ended : ignored calls none = refuse (.unexpected (.symbol .semicolon) none) := by
    cases calls with
    | zero => exact absurd enough (Nat.not_le_of_lt positive)
    | succ calls => rfl
  refine .ask rfl ended ?_
  intro fewer less lexeme
  exact (each fewer less lexeme).weaken (Nat.le_sub_one_of_lt less)

theorem ignored_follows (enough : before < calls) (lexeme : Lexeme) :
    Follows before (ignored calls (some lexeme))
      (State.feedIgnored schema nesting definition lexeme)
      (fun _ => .ok (.among schema nesting (.parameter definition))) before := by
  induction calls generalizing before lexeme with
  | zero => exact absurd enough (Nat.not_lt_zero before)
  | succ calls ih =>
    have further : Follows before (next >>= ignored calls)
        (.ok (.among schema nesting (.ignored definition)))
        (fun _ => .ok (.among schema nesting (.parameter definition))) before := by
      refine (ignored_next (Nat.le_of_lt_succ enough) ?_).weaken (Nat.sub_le _ _)
      intro fewer less lexeme
      exact ih (by omega) lexeme
    cases lexeme with
    | word text => exact further
    | quoted body => exact further
    | symbol mark =>
      cases mark with
      | semicolon => exact .pure () rfl (Nat.le_refl _)
      | closeBracket => exact .refuse _ _
      | _ => exact further

theorem ignoring_follows (enough : before ≤ calls) (schema : Schema) (nesting : Nesting)
    (definition : Definition) :
    Follows before (next >>= ignored calls) (.ok (.among schema nesting (.ignored definition)))
      (fun _ => .ok (.among schema nesting (.parameter definition))) (before - 1) :=
  ignored_next enough fun _ less lexeme => ignored_follows (Nat.lt_of_lt_of_le less enough) lexeme

theorem parameterEnd_follows (changed : Definition) :
    Follows before (expectSymbol .semicolon >>= fun _ => pure changed)
      (.ok (.among schema nesting (.parameterEnd changed)))
      (fun changed => .ok (.among schema nesting (.parameter changed))) (before - 1) := by
  have ended : Follows before (expectSymbol .semicolon)
      (.ok (.among schema nesting (.parameterEnd changed)))
      (fun _ => .ok (.among schema nesting (.parameter changed))) (before - 1) :=
    .expectSymbol rfl fun _ => rfl
  exact ended.bind fun _ => .pure changed rfl (Nat.le_refl _)

theorem parameter_follows (enough : before < calls) (name : String) (value : Lexeme) :
    Follows before (parameter calls definition name value)
      (State.feedValue schema nesting definition name value)
      (fun changed => .ok (.among schema nesting (.parameter changed))) before := by
  unfold parameter
  split
  · refine (Follows.meaning (cardinality value) _ (Nat.le_refl _)).bind fun written => ?_
    exact (parameterEnd_follows _).weaken (Nat.sub_le _ _)
  · refine (Follows.meaning (defaultBytes definition.type value) _ (Nat.le_refl _)).bind
      fun bytes => ?_
    exact (parameterEnd_follows _).weaken (Nat.sub_le _ _)
  · refine (Follows.meaning (payloadSize value) _ (Nat.le_refl _)).bind fun size => ?_
    exact (parameterEnd_follows _).weaken (Nat.sub_le _ _)
  · refine (rangeTerm_follows [] value).bind fun first => ?_
    refine (rangeTerms_follows (Nat.le_of_lt enough) schema nesting definition [first]).bind
      fun terms => ?_
    refine (Follows.meaning (rangeOf definition.type terms) _ (Nat.le_refl _)).bind fun range => ?_
    exact .pure _ rfl (Nat.sub_le _ _)
  · rename_i noCard noDef noSize noRange
    have unknown : name ∉ ["card", "def", "size", "range"] := by
      simp only [List.mem_cons, List.not_mem_nil, or_false, not_or]
      exact ⟨noCard, noDef, noSize, noRange⟩
    rw [State.feedValue_unknown unknown]
    exact (ignored_follows enough value).bind fun _ => .pure definition rfl (Nat.le_refl _)

theorem parameters_follows (enough : before ≤ calls) (schema : Schema) (nesting : Nesting)
    (definition : Definition) :
    Follows before (parameters calls definition)
      (.ok (.among schema nesting (.parameter definition)))
      (fun changed =>
        State.feed (.among schema nesting (.parameter changed)) (.symbol .closeBracket))
      (before - 1) := by
  induction calls generalizing before definition with
  | zero => exact .of_none enough
  | succ calls ih =>
    rw [parameters]
    refine .ask rfl rfl ?_
    intro fewer less lexeme
    cases lexeme with
    | quoted body => exact .refuse _ _
    | symbol mark =>
      cases mark with
      | closeBracket => exact .pure definition rfl (Nat.le_sub_one_of_lt less)
      | _ => exact .refuse _ _
    | word name =>
      have colon : Follows fewer (expectSymbol .colon)
          (.ok (.among schema nesting (.colon definition name)))
          (fun _ => .ok (.among schema nesting (.value definition name))) (fewer - 1) :=
        .expectSymbol rfl fun _ => rfl
      refine colon.bind fun _ => ?_
      refine .ask rfl rfl ?_
      intro least lesser value
      refine (parameter_follows (by omega) name value).bind fun changed => ?_
      exact (ih (by omega) changed).weaken (by omega)

theorem type_follows (name : String) (id : ElementId) :
    Follows before (expectWord >>= fun type => meaning (State.ofType schema id name type))
      (.ok (.among schema nesting (.type name id)))
      (fun definition => .ok (.among schema nesting (.tail definition))) (before - 1) := by
  have word : Follows before expectWord (.ok (.among schema nesting (.type name id)))
      (fun type => State.feedDeclaration schema nesting (.type name id) (.word type))
      (before - 1) :=
    .expectWord rfl (fun _ => rfl) fun _ => rfl
  exact word.bind fun type => .meaning (State.ofType schema id name type) _ (Nat.le_refl _)

theorem heading_follows (name : String) :
    Follows before (heading schema nesting.kind name)
      (.ok (.among schema nesting (.assign name)))
      (fun definition => .ok (.among schema nesting (.tail definition))) (before - 1) := by
  have assign : Follows before (expectSymbol .assign)
      (.ok (.among schema nesting (.assign name)))
      (fun _ => State.feedDeclaration schema nesting (.assign name) (.symbol .assign))
      (before - 1) :=
    .expectSymbol rfl fun _ => rfl
  refine assign.bind fun _ => ?_
  rw [State.feedDeclaration, if_pos rfl]
  cases nesting.kind
  · have literal : Follows (before - 1) expectWord (.ok (.among schema nesting (.id name)))
        (fun literal => State.feedDeclaration schema nesting (.id name) (.word literal))
        (before - 1 - 1) :=
      .expectWord rfl (fun _ => rfl) fun _ => rfl
    refine literal.bind fun literal => ?_
    refine (Follows.meaning (elementId literal) _ (Nat.le_refl _)).bind fun id => ?_
    exact (type_follows name id).weaken (by omega)
  · exact (type_follows name 0).weaken (Nat.sub_le _ _)

def listed (schema : Schema) (nesting : Nesting) : Option Definition → Except Fault State
  | none => .ok (State.endList schema nesting)
  | some definition => .ok (State.declare schema nesting definition)

-- The readings that call one another, with as many calls as given: as many as there are lexemes
-- ahead are enough, and one more for a list, which ends at its last item.
structure Nested (schema : Schema) (calls : Nat) : Prop where
  declaration : ∀ {before}, before ≤ calls → ∀ nesting name,
    Follows before (declaration schema nesting.kind calls name)
      (.ok (.among schema nesting (.assign name)))
      (fun definition => .ok (State.declare schema nesting definition)) (before - 1)
  item : ∀ {before}, before ≤ calls → ∀ nesting,
    Follows before (item schema nesting.kind calls) (.ok (.among schema nesting .entry))
      (listed schema nesting) (before - 1)
  items : ∀ {before}, before < calls → ∀ (nesting : Nesting) container earlier,
    Follows before (items schema nesting.kind calls earlier)
      (.ok (.among schema
        { nesting with enclosing := ⟨container, earlier⟩ :: nesting.enclosing } .entry))
      (fun children => .ok (State.declare schema nesting
        { container with children? := some children })) (before - 1)

theorem children_follow (nested : Nested schema calls) (enough : before < calls)
    (nesting : Nesting) (container : Definition) :
    Follows before
      (items schema nesting.kind calls [] >>= fun children =>
        pure { container with children? := some children })
      (.ok (State.startList schema nesting container))
      (fun definition => .ok (State.declare schema nesting definition)) before := by
  refine (nested.items enough nesting container []).bind fun children => ?_
  exact .pure _ rfl (Nat.sub_le _ _)

theorem closed_follows (nested : Nested schema calls) (enough : before ≤ calls)
    (nesting : Nesting) (definition : Definition) :
    Follows before
      (if definition.isContainer then do
        expect (.symbol .openBrace) (.missingChildren definition.name)
        let children ← items schema nesting.kind calls []
        return { definition with children? := some children }
      else return definition)
      (State.feed (.among schema nesting (.parameter definition)) (.symbol .closeBracket))
      (fun definition => .ok (State.declare schema nesting definition)) before := by
  dsimp only [State.feed, State.among, State.feedDeclaration]
  by_cases container : definition.isContainer = true
  · rw [if_pos container, if_pos container]
    have opened : Follows before
        (expect (.symbol .openBrace) (.missingChildren definition.name))
        (.ok (.among schema nesting (.children definition)))
        (fun _ => .ok (State.startList schema nesting definition)) (before - 1) :=
      .expect rfl fun _ => rfl
    refine opened.bind fun _ => ?_
    refine .of_pos fun positive => ?_
    exact (children_follow nested (by omega) nesting definition).weaken (Nat.sub_le _ _)
  · rw [if_neg container, if_neg container]
    exact .pure definition rfl (Nat.le_refl _)

theorem declaration_follows (nested : Nested schema calls) (enough : before ≤ calls + 1)
    (nesting : Nesting) (name : String) :
    Follows before (declaration schema nesting.kind (calls + 1) name)
      (.ok (.among schema nesting (.assign name)))
      (fun definition => .ok (State.declare schema nesting definition)) (before - 1) := by
  rw [declaration]
  refine (heading_follows name).bind fun definition => ?_
  refine .ask rfl rfl ?_
  intro fewer less lexeme
  cases lexeme with
  | word text => exact .refuse _ _
  | quoted body => exact .refuse _ _
  | symbol mark =>
    cases mark with
    | semicolon => exact .pure definition rfl (by omega)
    | openBracket =>
      refine (parameters_follows (by omega) schema nesting definition).bind fun changed => ?_
      exact (closed_follows nested (by omega) nesting changed).weaken (by omega)
    | openBrace =>
      dsimp only [State.feed, State.among, State.feedDeclaration]
      by_cases container : definition.isContainer = true
      · rw [if_pos container, if_pos container]
        exact (children_follow nested (by omega) nesting definition).weaken (by omega)
      · rw [if_neg container, if_neg container]
        exact .refuse _ _
    | _ => exact .refuse _ _

theorem marker_follows (nesting : Nesting) :
    Follows before marker (.ok (.among schema nesting .marker))
      (fun _ => .ok (.among schema nesting .entry)) (before - 1 - 1) := by
  have word : Follows before (expect (.word "children") (.unexpected .childrenMarker))
      (.ok (.among schema nesting .marker)) (fun _ => .ok (.among schema nesting .markerEnd))
      (before - 1) :=
    .expect rfl fun _ => rfl
  refine word.bind fun _ => ?_
  exact .expectSymbol rfl fun _ => rfl

theorem item_follows (nested : Nested schema calls) (enough : before ≤ calls + 1)
    (nesting : Nesting) :
    Follows before (item schema nesting.kind (calls + 1)) (.ok (.among schema nesting .entry))
      (listed schema nesting) (before - 1) := by
  rw [item]
  refine .ask rfl rfl ?_
  intro fewer less lexeme
  cases lexeme with
  | quoted body => exact .refuse _ _
  | word name =>
    refine (nested.declaration (by omega) nesting name).bind fun definition => ?_
    exact .pure (some definition) rfl (by omega)
  | symbol mark =>
    cases mark with
    | closeBrace => exact .pure none rfl (by omega)
    | percent =>
      refine (marker_follows nesting).bind fun _ => ?_
      exact (nested.item (by omega) nesting).weaken (by omega)
    | _ => exact .refuse _ _

theorem items_follow (nested : Nested schema calls) (enough : before < calls + 1)
    (nesting : Nesting) (container : Definition) (earlier : List Definition) :
    Follows before (items schema nesting.kind (calls + 1) earlier)
      (.ok (.among schema
        { nesting with enclosing := ⟨container, earlier⟩ :: nesting.enclosing } .entry))
      (fun children => .ok (State.declare schema nesting
        { container with children? := some children })) (before - 1) := by
  rw [items]
  refine (nested.item (Nat.le_of_lt_succ enough)
    { nesting with enclosing := ⟨container, earlier⟩ :: nesting.enclosing }).bind fun item? => ?_
  cases item? with
  | none => exact .pure earlier rfl (Nat.le_refl _)
  | some definition =>
    refine .of_pos fun positive => ?_
    exact (nested.items (by omega) nesting container (earlier ++ [definition])).weaken
      (Nat.sub_le _ _)

theorem nested (schema : Schema) (calls : Nat) : Nested schema calls := by
  induction calls with
  | zero =>
    refine ⟨fun enough _ _ => ?_, fun enough _ => ?_, fun enough => ?_⟩
    · exact .of_none enough
    · exact .of_none enough
    · exact absurd enough (Nat.not_lt_zero _)
  | succ calls ih =>
    exact ⟨declaration_follows ih, item_follows ih, items_follow ih⟩

theorem declarations_follow (enough : before < calls) (kind : DeclarationKind) (schema : Schema) :
    Follows before (declarations kind calls schema) (.ok (.among schema ⟨kind, []⟩ .entry))
      (fun schema => .ok ⟨schema, .block⟩) (before - 1) := by
  induction calls generalizing before schema with
  | zero => exact absurd enough (Nat.not_lt_zero before)
  | succ calls ih =>
    rw [declarations]
    refine ((nested schema calls).item (Nat.le_of_lt_succ enough) ⟨kind, []⟩).bind
      fun item? => ?_
    cases item? with
    | none => exact .pure schema rfl (Nat.le_refl _)
    | some definition =>
      refine .of_pos fun positive => ?_
      cases kind
      · exact (ih (by omega) (schema.declare definition)).weaken (Nat.sub_le _ _)
      · exact (ih (by omega) (schema.addAlias definition)).weaken (Nat.sub_le _ _)

theorem headerEntry_follows (schema : Schema) (name : String) (value : Lexeme) :
    Follows before (headerEntry schema name value) (.ok ⟨schema, .header (.finish name value)⟩)
      (fun schema => .ok ⟨schema, .header .entry⟩) (before - 1) := by
  have ended : Follows before (expectSymbol .semicolon)
      (.ok ⟨schema, .header (.finish name value)⟩)
      (fun _ => State.feedHeader schema (.finish name value) (.symbol .semicolon))
      (before - 1) :=
    .expectSymbol rfl fun _ => rfl
  refine ended.bind fun _ => ?_
  rw [State.feedHeader, if_pos rfl]
  cases schema.lastNamed? name with
  | none => exact .refuse _ _
  | some definition =>
    refine (Follows.meaning (defaultBytes definition.type value) _ (Nat.le_refl _)).bind
      fun bytes => ?_
    exact .pure _ rfl (Nat.le_refl _)

theorem headerEntries_follow (enough : before ≤ calls) (schema : Schema) :
    Follows before (headerEntries calls schema) (.ok ⟨schema, .header .entry⟩)
      (fun schema => .ok ⟨schema, .block⟩) (before - 1) := by
  induction calls generalizing before schema with
  | zero => exact .of_none enough
  | succ calls ih =>
    rw [headerEntries]
    refine .ask rfl rfl ?_
    intro fewer less lexeme
    cases lexeme with
    | quoted body => exact .refuse _ _
    | symbol mark =>
      cases mark with
      | closeBrace => exact .pure schema rfl (by omega)
      | _ => exact .refuse _ _
    | word name =>
      have assign : Follows fewer (expectSymbol .assign) (.ok ⟨schema, .header (.assign name)⟩)
          (fun _ => .ok ⟨schema, .header (.value name)⟩) (fewer - 1) :=
        .expectSymbol rfl fun _ => rfl
      refine assign.bind fun _ => ?_
      refine .ask rfl rfl ?_
      intro least lesser value
      have further (value : Lexeme) : Follows least
          (headerEntry schema name value >>= headerEntries calls)
          (.ok ⟨schema, .header (.finish name value)⟩) (fun schema => .ok ⟨schema, .block⟩)
          (before - 1) := by
        refine (headerEntry_follows schema name value).bind fun changed => ?_
        exact (ih (by omega) changed).weaken (by omega)
      cases value with
      | symbol mark => exact .refuse _ _
      | word text => exact further (.word text)
      | quoted body => exact further (.quoted body)

theorem block_follows (enough : before ≤ calls) (schema : Schema) :
    Follows before (block calls schema) (.ok ⟨schema, .blockKind⟩)
      (fun schema => .ok ⟨schema, .block⟩) (before - 1) := by
  refine .ask rfl rfl ?_
  intro fewer less lexeme
  have opened (kind : BlockKind) : Follows fewer (expectSymbol .openBrace)
      (.ok ⟨schema, .blockStart kind⟩)
      (fun _ => State.feed ⟨schema, .blockStart kind⟩ (.symbol .openBrace)) (fewer - 1) :=
    .expectSymbol rfl fun _ => rfl
  simp only [State.feed]
  split
  · rename_i named
    cases named
    refine (opened .elements).bind fun _ => ?_
    exact (declarations_follow (by omega) .element schema).weaken (by omega)
  · rename_i named
    cases named
    refine (opened .header).bind fun _ => ?_
    exact (headerEntries_follow (by omega) schema).weaken (by omega)
  · rename_i named
    cases named
    refine (opened .types).bind fun _ => ?_
    exact (declarations_follow (by omega) .alias schema).weaken (by omega)
  · rename_i noElements noHeader noTypes
    split
    · exact (noElements rfl).elim
    · exact (noHeader rfl).elim
    · exact (noTypes rfl).elim
    · exact .refuse _ _

-- The end of the input is the end of the blocks: what is read up to it is the whole answer.
def Completes (before : Nat) (read : Descent Schema) (fed : Except Fault State) : Prop :=
  ∀ text asked lexemes stop, lex text = (lexemes, stop) → lexemes.length < before →
    ∃ lexer, read ⟨text, asked⟩ = some ((onward fed lexemes).bind (·.finish stop), lexer) ∧
      lexer.asked ≤ asked + lexemes.length + 1

theorem Follows.completes {one : Descent α} {two : α → Descent Schema}
    {middle : α → Except Fault State} (first : Follows before one fed middle between)
    (second : ∀ value, Completes between (two value) (middle value)) :
    Completes before (one >>= two) fed := by
  intro text asked lexemes stop lexed few
  obtain ⟨outcome, reads, ends⟩ := first text asked lexemes stop lexed few
  cases ends with
  | @failed fault lexer within refused =>
    refine ⟨lexer, ?_, within⟩
    rw [refused]
    exact bind_of_error reads
  | @done value taken rest text all fewer ended reached =>
    subst all
    obtain ⟨lexer, completes, within⟩ :=
      second value text (asked + taken.length) rest stop ended fewer
    refine ⟨lexer, ?_, ?_⟩
    · rw [onward_append, reached]
      exact (bind_of_ok reads).trans completes
    · rw [List.length_append]
      omega

theorem Completes.ask {read : Option Lexeme → Descent Schema} (ended : read none = pure schema)
    (each : ∀ fewer < before, ∀ lexeme,
      Completes fewer (read (some lexeme)) (State.feed ⟨schema, .block⟩ lexeme)) :
    Completes before (next >>= read) (.ok ⟨schema, .block⟩) := by
  intro text asked lexemes stop lexed few
  cases lexemes with
  | nil =>
    obtain ⟨after, asks⟩ := next_none lexed asked
    refine ⟨⟨after, asked + 1⟩, ?_, Nat.le_refl _⟩
    cases stop with
    | invalid error => exact bind_of_error asks
    | endOfInput => exact (bind_of_ok asks).trans (congrFun ended _)
  | cons found rest =>
    obtain ⟨after, ahead, asks⟩ := next_lexeme lexed asked
    obtain ⟨lexer, completes, within⟩ :=
      each _ few found after (asked + 1) rest stop ahead (Nat.lt_succ_self _)
    refine ⟨lexer, (bind_of_ok asks).trans completes, ?_⟩
    rw [List.length_cons]
    omega

theorem blocks_complete (enough : before ≤ calls) (schema : Schema) :
    Completes before (blocks calls schema) (.ok ⟨schema, .block⟩) := by
  induction calls generalizing before schema with
  | zero =>
    intro text asked lexemes stop lexed few
    exact absurd enough (Nat.not_le_of_lt (Nat.zero_lt_of_lt few))
  | succ calls ih =>
    rw [blocks]
    refine .ask rfl ?_
    intro fewer less lexeme
    dsimp only [State.feed]
    by_cases opens : lexeme = .word "declare" ∨ lexeme = .word "define"
    · rw [if_pos opens, if_pos opens]
      refine (block_follows (by omega) schema).completes fun changed => ?_
      exact ih (by omega) changed
    · rw [if_neg opens, if_neg opens]
      intro text asked lexemes stop _ _
      exact ⟨_, rfl, Nat.le_succ_of_le (Nat.le_add_right _ _)⟩

-- A reading ends wherever it starts: from some number of calls on it has one and the same outcome,
-- a token at least has been asked for where it succeeds, and at most one more than there are
-- lexemes ahead.
def Ends (read : Nat → Descent α) : Prop :=
  ∀ lexer, ∃ result after,
    (∀ calls, (lex lexer.text).1.length + 1 < calls → read calls lexer = some (result, after)) ∧
      after.asked ≤ lexer.asked + (lex lexer.text).1.length + 1 ∧
      ∀ value, result = .ok value → lexer.asked < after.asked

theorem Ends.of_follows {read : Nat → Descent α} {after : α → Except Fault State}
    (grows : ∀ calls, Within (read calls) (read (calls + 1)))
    (follows : ∀ {before calls}, before < calls →
      Follows before (read calls) fed after (before - 1)) : Ends read := by
  intro ⟨text, asked⟩
  obtain ⟨⟨result, last⟩, reads, ends⟩ := follows (Nat.lt_succ_self ((lex text).1.length + 1))
    text asked _ _ rfl (Nat.lt_succ_self _)
  refine ⟨result, last, fun calls enough => Within.of_le grows enough _ _ reads, ?_⟩
  cases ends with
  | @done value taken rest text' all fewer ended reached =>
    have length := congrArg List.length all
    rw [List.length_append] at length
    refine ⟨?_, fun value _ => ?_⟩
    · change asked + taken.length ≤ asked + (lex text).1.length + 1
      omega
    · change asked < asked + taken.length
      omega
  | failed within refused =>
    refine ⟨within, ?_⟩
    intro value succeeds
    cases succeeds

end Descent

theorem lex_length_le (text : List Char) : (lex text).1.length ≤ text.length := by
  induction text using lex.induct with
  | case1 text found rest reads _ ih =>
    have shorter := Token.next_shortens reads
    rw [lex_eq, reads, List.length_cons]
    omega
  | case2 text reason rest reads =>
    rw [lex_eq, reads]
    exact Nat.zero_le _

-- Whatever the source is, reading it by descent comes to an end, with what compiling it gives,
-- and has then asked for at most one token more than the source has lexemes. Each of its loops
-- and recursions ends wherever it is begun, and if it succeeds, past a token at least.
theorem Descent.compiling_ends (source : String) :
    (∃ lexer,
      (∀ calls, (lex source.toList).1.length < calls →
        blocks calls Builtin.schema ⟨source.toList, 0⟩ = some (Schema.ofText source, lexer)) ∧
      lexer.asked ≤ (lex source.toList).1.length + 1 ∧
      (lex source.toList).1.length ≤ source.length) ∧
    ∀ schema kind definition name terms earlier,
      Ends (declarations kind · schema) ∧ Ends (headerEntries · schema) ∧
        Ends (items schema kind · earlier) ∧ Ends (item schema kind) ∧
        Ends (declaration schema kind · name) ∧ Ends (parameters · definition) ∧
        Ends (rangeTerms · terms) ∧ Ends (next >>= ignored ·) := by
  refine ⟨?_, ?_⟩
  · obtain ⟨lexer, completes, within⟩ := blocks_complete (Nat.le_refl _) Builtin.schema
      source.toList 0 _ _ rfl (Nat.lt_succ_self _)
    refine ⟨lexer, ?_, ?_, ?_⟩
    · intro calls enough
      exact Within.of_le (blocks_within · Builtin.schema) enough _ _ completes
    · omega
    · exact lex_length_le source.toList
  · intro schema kind definition name terms earlier
    refine ⟨?_, ?_, ?_, ?_, ?_, ?_, ?_, ?_⟩
    · exact .of_follows (declarations_within kind · schema)
        fun enough => declarations_follow enough kind schema
    · exact .of_follows (headerEntries_within · schema)
        fun enough => headerEntries_follow (Nat.le_of_lt enough) schema
    · exact .of_follows (fun calls => (nested_within schema kind calls).2.2 earlier)
        fun enough => (nested schema _).items enough ⟨kind, []⟩ definition earlier
    · exact .of_follows (fun calls => (nested_within schema kind calls).2.1)
        fun enough => (nested schema _).item (Nat.le_of_lt enough) ⟨kind, []⟩
    · exact .of_follows (fun calls => (nested_within schema kind calls).1 name)
        fun enough => (nested schema _).declaration (Nat.le_of_lt enough) ⟨kind, []⟩ name
    · exact .of_follows (parameters_within · definition)
        fun enough => parameters_follows (Nat.le_of_lt enough) schema ⟨kind, []⟩ definition
    · exact .of_follows (rangeTerms_within · terms)
        fun enough => rangeTerms_follows (Nat.le_of_lt enough) schema ⟨kind, []⟩ definition terms
    · exact .of_follows (fun calls => .bind (.refl next) (ignored_within calls))
        fun enough => ignoring_follows (Nat.le_of_lt enough) schema ⟨kind, []⟩ definition

theorem Descent.cut_off_parameter_ends :
    let source := "define elements \x7b E := 81 uint [ note: a"
    (lex source.toList).1.length = 11 ∧
      Schema.ofText source = .error (.unexpected (.symbol .semicolon) none) ∧
      ∃ lexer, blocks 12 Builtin.schema ⟨source.toList, 0⟩ = some (Schema.ofText source, lexer) ∧
        lexer.asked = 12 := by
  intro source
  have lexemes : (lex source.toList).1.length = 11 := by decide +kernel
  have refused : Schema.ofText source = .error (.unexpected (.symbol .semicolon) none) := by
    decide +kernel
  have asked : (blocks 12 Builtin.schema ⟨source.toList, 0⟩).map (·.2.asked) = some 12 := by
    decide +kernel
  obtain ⟨⟨lexer, ends, _⟩, _⟩ := compiling_ends source
  have read := ends 12 (by omega)
  rw [read] at asked
  exact ⟨lexemes, refused, lexer, read, Option.some.inj asked⟩

end Ebml.Edtd
