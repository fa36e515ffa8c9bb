import Ebml.Proofs.Edtd.Continuation
import Ebml.Proofs.Edtd.Setting

namespace Ebml.Edtd

-- Some of a source is read without a trace: parameters of no known name in front of others, and
-- markers in front of a declaration or of the end of a list.
variable {schema : Schema} {nesting : Nesting} {place : DeclarationPlace}
  {before extra : List Lexeme}

inductive Ignorable : DeclarationPlace → List Lexeme → Prop
  | parameter {definition : Definition} {name : String} {tokens : List Lexeme}
      (unknown : name ∉ ["card", "def", "size", "range"])
      (inside : ∀ token ∈ tokens, token ≠ .symbol .semicolon ∧ token ≠ .symbol .closeBracket) :
      Ignorable (.parameter definition) (Parameters.parameter name tokens)
  | markers (count : Nat) : Ignorable .entry (List.replicate count Grammar.marker).flatten

-- A place that what is read before it leads to, if it leads anywhere.
def IgnorableAfter (before extra : List Lexeme) : Prop :=
  ∀ state, State.start.feedAll before = .ok state →
    ∃ schema nesting place, state = State.among schema nesting place ∧ Ignorable place extra

namespace State

theorem leads_markers (count : Nat) :
    Leads (among schema nesting .entry) (List.replicate count Grammar.marker).flatten
      (among schema nesting .entry) := by
  induction count with
  | zero => exact .nil
  | succ count ih =>
    rw [List.replicate_succ, List.flatten_cons]
    exact .append (.cons rfl (.cons rfl (.cons rfl .nil))) ih

theorem leads_ignorable (ignorable : Ignorable place extra) :
    Leads (among schema nesting place) extra (among schema nesting place) := by
  cases ignorable with
  | parameter unknown inside => exact .cons rfl (.cons rfl (leads_unknown unknown inside))
  | markers count => exact leads_markers count

theorem feedAll_inserted (ignorable : IgnorableAfter before extra) (after : List Lexeme) :
    start.feedAll (before ++ (extra ++ after)) = start.feedAll (before ++ after) := by
  rw [State.feedAll_append, State.feedAll_append]
  cases reached : start.feedAll before with
  | error fault => rfl
  | ok state =>
    obtain ⟨schema, nesting, place, rfl, ignorable⟩ := ignorable state reached
    exact (leads_ignorable ignorable).feedAll_append after

end State

end Ebml.Edtd

namespace Ebml.Schema

open Edtd

theorem ofText_inserted {source longer : String} {before extra after : List Lexeme} {stop : Stop}
    (ignorable : IgnorableAfter before extra) (lexed : lex source.toList = (before ++ after, stop))
    (inserted : lex longer.toList = (before ++ (extra ++ after), stop)) :
    ofText longer = ofText source := by
  rw [ofText_lexed lexed, ofText_lexed inserted, State.feedAll_inserted ignorable]

theorem ofText_inserted_lines {front extra : String}
    (frontComplete : (lex front.toList).2 = .endOfInput)
    (extraComplete : (lex extra.toList).2 = .endOfInput)
    (ignorable : IgnorableAfter (lex front.toList).1 (lex extra.toList).1) (back : String) :
    ofText (front ++ "\n" ++ extra ++ "\n" ++ back) = ofText (front ++ "\n" ++ back) := by
  have lines : (front ++ "\n" ++ back).toList = front.toList ++ '\n' :: back.toList := by simp
  have moreLines : (front ++ "\n" ++ extra ++ "\n" ++ back).toList =
      front.toList ++ '\n' :: (extra.toList ++ '\n' :: back.toList) := by simp
  have lexed := lex_line frontComplete back.toList
  have inserted := lex_line frontComplete (extra.toList ++ '\n' :: back.toList)
  rw [lex_line extraComplete] at inserted
  rw [← lines] at lexed
  rw [← moreLines] at inserted
  exact ofText_inserted ignorable lexed inserted

-- Wherever it stands, in whatever container, what is ignorable changes neither what is read after
-- it nor the fault found there. A source compiles to the same with it and without it.
theorem ignorable_unseen :
    (∀ schema nesting place extra, Ignorable place extra → ∀ rest,
      (State.among schema nesting place).feedAll (extra ++ rest) =
        (State.among schema nesting place).feedAll rest) ∧
    (∀ before extra, IgnorableAfter before extra → ∀ (source longer : String) after stop,
      lex source.toList = (before ++ after, stop) →
      lex longer.toList = (before ++ (extra ++ after), stop) → ofText longer = ofText source) ∧
    ∀ front extra back : String, (lex front.toList).2 = .endOfInput →
      (lex extra.toList).2 = .endOfInput →
      IgnorableAfter (lex front.toList).1 (lex extra.toList).1 →
      ofText (front ++ "\n" ++ extra ++ "\n" ++ back) = ofText (front ++ "\n" ++ back) := by
  refine ⟨?_, ?_, ?_⟩
  · intro schema nesting place extra ignorable rest
    exact (State.leads_ignorable ignorable).feedAll_append rest
  · intro before extra ignorable source longer after stop
    exact ofText_inserted ignorable
  · intro front extra back frontComplete extraComplete ignorable
    exact ofText_inserted_lines frontComplete extraComplete ignorable back

def openParameters : String :=
  "define elements \x7b A := 81 container \x7b B := 82 uint [ card: *;"

def note : String := "note: , \x7b \"x;\" <= note : % \x7d ;"

theorem note_and_markers_unseen :
    ((lex openParameters.toList).2 = .endOfInput ∧ (lex note.toList).2 = .endOfInput ∧
      IgnorableAfter (lex openParameters.toList).1 (lex note.toList).1 ∧
      ∃ schema, ofText (openParameters ++ "\n" ++ "def: 3; ] \x7d \x7d") = .ok schema ∧
        ofText (openParameters ++ "\n" ++ note ++ "\n" ++ "def: 3; ] \x7d \x7d") = .ok schema) ∧
    (lex (openParameters ++ "]").toList).2 = .endOfInput ∧
      (lex "%children;% children ;".toList).2 = .endOfInput ∧
      IgnorableAfter (lex (openParameters ++ "]").toList).1
        (lex "%children;% children ;".toList).1 ∧
      ofText (openParameters ++ "]" ++ "\n" ++ "%children;% children ;" ++ "\n" ++ "%") =
        ofText (openParameters ++ "]" ++ "\n" ++ "%") := by
  have opened : lex openParameters.toList = ([.word "define", .word "elements", .symbol .openBrace,
      .word "A", .symbol .assign, .word "81", .word "container", .symbol .openBrace, .word "B",
      .symbol .assign, .word "82", .word "uint", .symbol .openBracket, .word "card",
      .symbol .colon, .symbol .star, .symbol .semicolon], .endOfInput) := by decide +kernel
  have closed : lex (openParameters ++ "]").toList =
      ((lex openParameters.toList).1 ++ [.symbol .closeBracket], .endOfInput) := by decide +kernel
  have noted : lex note.toList = (Parameters.parameter "note" [.symbol .comma, .symbol .openBrace,
      .quoted "x;", .symbol .atMost, .word "note", .symbol .colon, .symbol .percent,
      .symbol .closeBrace], .endOfInput) := by decide +kernel
  have marked : lex "%children;% children ;".toList =
      ((List.replicate 2 Grammar.marker).flatten, .endOfInput) := by decide +kernel
  have parameters : IgnorableAfter (lex openParameters.toList).1 (lex note.toList).1 := by
    intro state fed
    rw [opened] at fed
    cases fed
    refine ⟨_, _, _, rfl, ?_⟩
    rw [noted]
    exact .parameter (by decide) (by decide)
  have markers : IgnorableAfter (lex (openParameters ++ "]").toList).1
      (lex "%children;% children ;".toList).1 := by
    intro state fed
    rw [closed, opened] at fed
    cases fed
    refine ⟨_, _, _, rfl, ?_⟩
    rw [marked]
    exact .markers 2
  have compiles : (ofText (openParameters ++ "\n" ++ "def: 3; ] \x7d \x7d")).toOption.isSome = true :=
    by decide +kernel
  obtain ⟨schema, compiled⟩ := Option.isSome_iff_exists.mp compiles
  have compiled := toOption_eq_some.mp compiled
  obtain ⟨_, _, unseen⟩ := ignorable_unseen
  have frontComplete := congrArg Prod.snd opened
  have noteComplete := congrArg Prod.snd noted
  have closedComplete := congrArg Prod.snd closed
  have markersComplete := congrArg Prod.snd marked
  refine ⟨⟨frontComplete, noteComplete, parameters, schema, compiled, ?_⟩, closedComplete,
    markersComplete, markers, unseen _ _ _ closedComplete markersComplete markers⟩
  exact (unseen _ _ _ frontComplete noteComplete parameters).trans compiled

end Ebml.Schema
