import Ebml.Proofs.Edtd.HeaderBlock
import Ebml.Proofs.Edtd.Representation

namespace Ebml

namespace Edtd

-- A header block of any length: its entries set defaults one after the other.
def HeaderEntry.lexemes (entry : HeaderEntry) : List Lexeme :=
  [.word entry.name.text, .symbol .assign, entry.value, .symbol .semicolon]

def headerBlock (opening : String) (entries : List HeaderEntry) : List Lexeme :=
  .word opening :: .word "header" :: .symbol .openBrace ::
    (entries.flatMap HeaderEntry.lexemes ++ [.symbol .closeBrace])

def HeaderEntry.last? (name : String) (entries : List HeaderEntry) : Option Lexeme :=
  (entries.reverse.find? (·.name.text == name)).map (·.value)

-- A value for the type that the last element of the name has.
def HeaderEntry.Fits (heads : List Head) (entry : HeaderEntry) : Prop :=
  ∃ head bytes, heads.reverse.find? (·.name == entry.name.text) = some head ∧
    defaultBytes head.type entry.value = .ok bytes

end Edtd

namespace Schema

open Edtd

variable {schema extended : Schema} {entry : HeaderEntry} {entries : List HeaderEntry}
  {head : Head} {name opening : String}

def set (schema : Schema) (entry : HeaderEntry) : Except Fault Schema :=
  match schema.lastNamed? entry.name.text with
  | none => .error (.unknownElement entry.name.text)
  | some definition =>
    schema.overrideDefault entry.name.text <$> defaultBytes definition.type entry.value

def setAll (schema : Schema) (entries : List HeaderEntry) : Except Fault Schema :=
  entries.foldlM set schema

theorem setAll_cons (schema : Schema) (entry : HeaderEntry) (others : List HeaderEntry) :
    schema.setAll (entry :: others) = (schema.set entry).bind (·.setAll others) :=
  List.foldlM_cons

theorem setAll_append (schema : Schema) (first rest : List HeaderEntry) :
    schema.setAll (first ++ rest) = (schema.setAll first).bind (·.setAll rest) :=
  List.foldlM_append

theorem set_eq_ok_iff : schema.set entry = .ok extended ↔
    ∃ definition bytes, schema.lastNamed? entry.name.text = some definition ∧
      defaultBytes definition.type entry.value = .ok bytes ∧
      extended = schema.overrideDefault entry.name.text bytes := by
  unfold set
  cases schema.lastNamed? entry.name.text with
  | none => simp
  | some definition =>
    dsimp only
    rw [map_eq_ok]
    constructor
    · rintro ⟨bytes, encoded, rfl⟩
      exact ⟨definition, bytes, rfl, encoded, rfl⟩
    · rintro ⟨_, bytes, ⟨⟩, encoded, rfl⟩
      exact ⟨bytes, encoded, rfl⟩

theorem set_heads (set : schema.set entry = .ok extended) : extended.heads = schema.heads := by
  obtain ⟨definition, bytes, _, _, rfl⟩ := set_eq_ok_iff.mp set
  exact heads_overrideDefault schema entry.name.text bytes

theorem setAll_heads (set : schema.setAll entries = .ok extended) :
    extended.heads = schema.heads := by
  induction entries generalizing schema with
  | nil =>
    cases set
    rfl
  | cons entry others ih =>
    rw [setAll_cons] at set
    obtain ⟨changed, first, rest⟩ := bind_eq_ok.mp set
    rw [ih rest, set_heads first]

theorem set_of_fits (fits : entry.Fits schema.heads) :
    ∃ extended, schema.set entry = .ok extended := by
  obtain ⟨head, bytes, last, encoded⟩ := fits
  rw [lastNamed?_head] at last
  obtain ⟨definition, named, rfl⟩ := Option.map_eq_some_iff.mp last
  exact ⟨_, set_eq_ok_iff.mpr ⟨definition, bytes, named, encoded, rfl⟩⟩

theorem setAll_of_fits (fits : ∀ entry ∈ entries, entry.Fits schema.heads) :
    ∃ extended, schema.setAll entries = .ok extended := by
  induction entries generalizing schema with
  | nil => exact ⟨schema, rfl⟩
  | cons entry others ih =>
    rw [List.forall_mem_cons] at fits
    obtain ⟨changed, set⟩ := set_of_fits fits.1
    rw [← set_heads set] at fits
    obtain ⟨extended, rest⟩ := ih fits.2
    refine ⟨extended, ?_⟩
    rw [setAll_cons, set]
    exact rest

end Schema

namespace Edtd.State

variable {schema : Schema}

theorem feedAll_entry (schema : Schema) (entry : HeaderEntry) :
    feedAll ⟨schema, .header .entry⟩ entry.lexemes =
      (fun changed => ⟨changed, .header .entry⟩) <$> schema.set entry := by
  refine (entry.leads_finish schema |>.feedAll_append [.symbol .semicolon]).trans ?_
  rw [feedAll_cons]
  simp only [feed, feedHeader, if_true, Schema.set]
  cases schema.lastNamed? entry.name.text with
  | none => rfl
  | some definition =>
    dsimp only
    cases defaultBytes definition.type entry.value <;> rfl

theorem feedAll_entries (schema : Schema) (entries : List HeaderEntry) :
    feedAll ⟨schema, .header .entry⟩ (entries.flatMap HeaderEntry.lexemes) =
      (fun changed => ⟨changed, .header .entry⟩) <$> schema.setAll entries := by
  induction entries generalizing schema with
  | nil => rfl
  | cons entry others ih =>
    rw [List.flatMap_cons, State.feedAll_append, feedAll_entry, Schema.setAll_cons]
    cases schema.set entry with
    | error fault => rfl
    | ok changed => exact ih changed

end Edtd.State

namespace Schema

open Edtd

variable {schema : Schema} {entries : List HeaderEntry}

-- A header block after a source is read from what the source has made, in whatever layout.
theorem ofText_headerBlock {source text opening : String} (compiled : ofText source = .ok schema)
    (opens : opening = "declare" ∨ opening = "define")
    (lexed : lex text.toList =
      ((lex source.toList).1 ++ headerBlock opening entries, .endOfInput)) :
    ofText text = schema.setAll entries := by
  obtain ⟨_, fed⟩ := extend_eq_ok_iff.mp compiled
  have begun : State.Leads ⟨schema, .block⟩ [.word opening, .word "header", .symbol .openBrace]
      ⟨schema, .header .entry⟩ := by
    rcases opens with rfl | rfl <;> exact .cons rfl (.cons rfl (.cons rfl .nil))
  have read : State.feedAll ⟨schema, .block⟩ (headerBlock opening entries) =
      (⟨·, .block⟩) <$> schema.setAll entries := by
    refine (begun.feedAll_append _).trans ?_
    rw [List.append_eq, State.feedAll_append, State.feedAll_entries]
    cases schema.setAll entries <;> rfl
  rw [ofText_lexed lexed, State.feedAll_append, State.start, fed]
  change (State.feedAll ⟨schema, .block⟩ _).bind _ = _
  rw [read]
  cases schema.setAll entries <;> rfl

end Schema

end Ebml
