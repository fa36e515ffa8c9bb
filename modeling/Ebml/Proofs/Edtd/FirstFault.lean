import Ebml.Proofs.Edtd.Continuation

namespace Ebml.Edtd

-- The faults that the end of the input had a part in: it was found where something else had
-- to stand, or no quote closed a text before it. More input may mend those, and no others.
def Fault.MeetsEnd : Fault → Prop
  | .unexpected _ found? => found? = none
  | .missingChildren _ found? => found? = none
  | .lexical error => error = .unterminatedText
  | _ => False

theorem DeclarationPlace.refusal_meetsEnd (place : DeclarationPlace) :
    (place.refusal none).MeetsEnd := by
  cases place <;> rfl

theorem Place.refusal_meetsEnd (place : Place) : (place.refusal none).MeetsEnd := by
  cases place with
  | declarations nesting place => exact place.refusal_meetsEnd
  | _ => rfl

namespace State

variable {state : State} {fault : Fault}

theorem finish_fault {stop : Stop} (failed : state.finish stop = .error fault) :
    fault.MeetsEnd ∨ ∃ c, stop = .invalid (.unexpectedCharacter c) := by
  cases stop with
  | invalid error =>
    cases failed
    cases error with
    | unterminatedText => exact .inl rfl
    | unexpectedCharacter c => exact .inr ⟨c, rfl⟩
  | endOfInput =>
    obtain ⟨schema, place⟩ := state
    cases place with
    | block => cases failed
    | _ =>
      cases failed
      exact .inl (Place.refusal_meetsEnd _)

theorem feedAll_fault_prefix {first all : List Lexeme} (starts : first <+: all)
    (failed : state.feedAll first = .error fault) : state.feedAll all = .error fault := by
  obtain ⟨rest, same⟩ := starts
  rw [← same, feedAll_append, failed]
  rfl

end State

end Ebml.Edtd

namespace Ebml.Schema

theorem extend_fault_line {schema : Schema} {source : String} {fault : Edtd.Fault}
    (failed : schema.extend source = .error fault) (within : ¬fault.MeetsEnd) (more : String) :
    schema.extend (source ++ "\n" ++ more) = .error fault := by
  have lines : (source ++ "\n" ++ more).toList = source.toList ++ '\n' :: more.toList := by simp
  rw [extend_eq] at failed ⊢
  rw [lines]
  cases fed : Edtd.State.feedAll ⟨schema, .block⟩ (Edtd.lex source.toList).1 with
  | error earlier =>
    have stays := Edtd.State.feedAll_fault_prefix
      (Edtd.lex_line_prefix source.toList more.toList) fed
    rw [stays]
    rwa [fed] at failed
  | ok state =>
    rw [fed] at failed
    rcases Edtd.State.finish_fault failed with atEnd | ⟨c, stopped⟩
    · exact absurd atEnd within
    · rw [Edtd.lex_line_unexpected stopped, fed]
      exact failed

-- The first fault of a source is final, whatever the lines are that follow, unless the end of
-- the input had a part in it.
theorem first_fault_final {source : String} {fault : Edtd.Fault}
    (failed : ofText source = .error fault) (within : ¬fault.MeetsEnd) (more : String) :
    ofText (source ++ "\n" ++ more) = .error fault :=
  extend_fault_line failed within more

def unreadableBound : String :=
  "define elements \x7b A := 81 uint [ range: 1..9, 7..x; ] \x7d // \""

theorem unreadable_bound_final :
    ofText unreadableBound = .error (.invalidLiteral .uint "x") ∧
      ¬(Edtd.Fault.invalidLiteral .uint "x").MeetsEnd ∧
      ofText (unreadableBound ++ "\n" ++ "declare \"") = .error (.invalidLiteral .uint "x") := by
  have failed : ofText unreadableBound = .error (.invalidLiteral .uint "x") := by decide +kernel
  exact ⟨failed, id, first_fault_final failed id "declare \""⟩

end Ebml.Schema
