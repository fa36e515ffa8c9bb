import Ebml.Proofs.Cursor.Composition

namespace Ebml

-- Two sources that answer alike whatever is asked of them, at least until the first of them
-- has passed some point. It never comes back from there.
structure Source.Matching where
  alike : Source → Source → Prop
  passed : Source → Prop
  position {one other : Source} (same : alike one other) : one.taken = other.taken
  take {one other : Source} (same : alike one other) (wanted : Nat) :
    passed (one.take wanted).2.2 ∨
      ∃ rest, other.take wanted = ((one.take wanted).1, (one.take wanted).2.1, rest) ∧
        alike (one.take wanted).2.2 rest
  stays {one : Source} (gone : passed one) (wanted : Nat) : passed (one.take wanted).2.2

namespace Cursor

-- Cursors that differ in nothing but such sources go on in step.
variable {α β : Type} {matching : Source.Matching} {cursor before after : Cursor}
  {source : Source}

def withSource (cursor : Cursor) (source : Source) : Cursor := { cursor with source := source }

namespace Ending

def withSource (ending : Ending α) (source : Source) : Ending α :=
  match ending with
  | .ok value cursor => .ok value (cursor.withSource source)
  | .error error cursor => .error error (cursor.withSource source)

theorem under_eq {ending : Ending α} {limits : Limits} (same : ending.last.limits = limits)
    (source : Source) : ending.under source limits = ending.withSource source := by
  subst same
  cases ending <;> rfl

end Ending

def AgreesAt (matching : Source.Matching) (step : Reading α) (cursor : Cursor)
    (source : Source) : Prop :=
  matching.passed (Ending.last (step cursor)).source ∨
    ∃ rest, step (cursor.withSource source) = Ending.withSource (step cursor) rest ∧
      matching.alike (Ending.last (step cursor)).source rest

structure InStep (matching : Source.Matching) (step : Reading α) : Prop where
  agrees : ∀ cursor source, matching.alike cursor.source source →
    AgreesAt matching step cursor source
  stays : ∀ cursor, matching.passed cursor.source →
    matching.passed (Ending.last (step cursor)).source

namespace InStep

theorem bind {step : Reading α} {next : α → Reading β} (one : InStep matching step)
    (two : ∀ value, Returns step value → InStep matching (next value)) :
    InStep matching (step >>= next) := by
  constructor
  · intro cursor source same
    have first := one.agrees cursor source same
    unfold AgreesAt at first ⊢
    cases stepped : step cursor with
    | error error between =>
      rw [stepped] at first
      rw [bind_of_error stepped]
      rcases first with passed | ⟨rest, other, same⟩
      · exact .inl passed
      · exact .inr ⟨rest, bind_of_error other, same⟩
    | ok value between =>
      rw [stepped] at first
      rw [bind_of_ok stepped]
      have onward := two value ⟨cursor, between, stepped⟩
      rcases first with passed | ⟨rest, other, same⟩
      · exact .inl (onward.stays between passed)
      · rw [bind_of_ok other]
        exact onward.agrees between rest same
  · intro cursor passed
    have first := one.stays cursor passed
    cases stepped : step cursor with
    | error error between =>
      rw [stepped] at first
      rw [bind_of_error stepped]
      exact first
    | ok value between =>
      rw [stepped] at first
      rw [bind_of_ok stepped]
      exact (two value ⟨cursor, between, stepped⟩).stays between first

theorem still {step : Reading α} (blind : Blind step) : InStep matching step := by
  constructor
  · intro cursor source same
    obtain ⟨kept, limits⟩ := blind.keeps cursor
    refine .inr ⟨source, ?_, ?_⟩
    · rw [← Ending.under_eq limits]
      exact blind cursor source cursor.limits
    · rw [kept]
      exact same
  · intro cursor passed
    rw [(blind.keeps cursor).1]
    exact passed

end InStep

variable (matching)

theorem takeBytes_eq (wanted : Nat) (cursor : Cursor) :
    takeBytes wanted cursor =
      match (cursor.source.take wanted).2.1 with
      | none => .ok (cursor.source.take wanted).1 (cursor.withSource (cursor.source.take wanted).2.2)
      | some reason => .error (.io reason) (cursor.withSource (cursor.source.take wanted).2.2) := by
  unfold takeBytes
  rcases cursor.source.take wanted with ⟨bytes, _ | reason, rest⟩ <;> rfl

theorem takeBytes_source (wanted : Nat) (cursor : Cursor) :
    (Ending.last (takeBytes wanted cursor)).source = (cursor.source.take wanted).2.2 := by
  rw [takeBytes_eq]
  split <;> rfl

theorem takeBytes_inStep (wanted : Nat) : InStep matching (takeBytes wanted) := by
  constructor
  · intro cursor source same
    unfold AgreesAt
    rw [takeBytes_source]
    rcases matching.take same wanted with passed | ⟨rest, other, same⟩
    · exact .inl passed
    · refine .inr ⟨rest, ?_, same⟩
      have taken : (cursor.withSource source).source.take wanted =
          ((cursor.source.take wanted).1, (cursor.source.take wanted).2.1, rest) := other
      rw [takeBytes_eq, takeBytes_eq, taken]
      cases (cursor.source.take wanted).2.1 <;> rfl
  · intro cursor passed
    rw [takeBytes_source]
    exact matching.stays passed wanted

theorem inStep_parts : Compositional (InStep matching) :=
  .of_blind .still .bind (takeBytes_inStep matching)

theorem startHeader_inStep : InStep matching startHeader := by
  constructor
  · intro cursor source same
    exact .inr ⟨source, rfl, same⟩
  · exact fun _ passed => passed

theorem readHeader_inStep (id : Vint) : InStep matching (readHeader id) :=
  (inStep_parts matching).readHeader (startHeader_inStep matching) id

theorem advance_inStep : InStep matching advance :=
  (inStep_parts matching).advance (readHeader_inStep matching)

theorem perform_inStep (operation : Operation) : InStep matching operation.perform :=
  (inStep_parts matching).perform (readHeader_inStep matching) operation

variable {matching}

theorem outcome_stays (operation : Operation) (gone : matching.passed cursor.source) :
    matching.passed (operation.outcome cursor).2.source := by
  rw [outcome_last]
  exact (perform_inStep matching operation).stays cursor gone

theorem outcome_inStep (operation : Operation) (same : matching.alike cursor.source source) :
    matching.passed (operation.outcome cursor).2.source ∨
      ∃ rest, operation.outcome (cursor.withSource source) =
          ((operation.outcome cursor).1, (operation.outcome cursor).2.withSource rest) ∧
        matching.alike (operation.outcome cursor).2.source rest := by
  rw [outcome_last]
  rcases (perform_inStep matching operation).agrees cursor source same with gone |
    ⟨rest, other, same⟩
  · exact .inl gone
  · refine .inr ⟨rest, ?_, same⟩
    unfold Operation.outcome
    rw [other]
    cases operation.perform cursor <;> rfl

theorem run_stays (operations : List Operation) (gone : matching.passed cursor.source) :
    matching.passed (run operations cursor).2.source := by
  induction operations generalizing cursor with
  | nil => exact gone
  | cons operation others ih => exact ih (outcome_stays operation gone)

theorem run_inStep (operations : List Operation) (same : matching.alike cursor.source source) :
    matching.passed (run operations cursor).2.source ∨
      (run operations (cursor.withSource source)).1 = (run operations cursor).1 := by
  induction operations generalizing cursor source with
  | nil => exact .inr rfl
  | cons operation others ih =>
    rcases outcome_inStep operation same with gone | ⟨rest, other, same⟩
    · exact .inl (run_stays others gone)
    · rcases ih same with gone | equal
      · exact .inl gone
      · right
        have position : (operation.outcome cursor).2.position = rest.taken := matching.position same
        simp only [run, other, equal]
        rw [position]
        rfl

end Cursor

end Ebml
