import Ebml.Proofs.Edtd.Spelling

namespace Ebml.Edtd

-- Where a quoted text ends can be told from the backslashes before each quote.
variable {text body before after rest : List Char} {c : Char}

def backslashes (before : List Char) : Nat := (before.reverse.takeWhile (· == '\\')).length

-- A character is escaped where an odd number of backslashes stands right before it.
def Escaped (before : List Char) : Prop := backslashes before % 2 = 1

-- Every quote is escaped, and so none of them closes the text that they are in.
def Unclosed (text : List Char) : Prop := ∀ before after, text = before ++ '"' :: after → Escaped before

-- The first quote that is not escaped comes right after the body.
structure ClosedAfter (body : List Char) : Prop where
  inside : Unclosed body
  ends : ¬ Escaped body

theorem backslashes_append (first before : List Char) :
    backslashes (first ++ before) =
      if backslashes before = before.length then before.length + backslashes first
      else backslashes before := by
  unfold backslashes
  rw [List.reverse_append, List.takeWhile_append, List.length_reverse]
  split
  · rw [List.length_append, List.length_reverse]
  · rfl

theorem not_escaped_nil : ¬ Escaped [] := by
  unfold Escaped
  decide

theorem escaped_cons (plain : c ≠ '\\') : Escaped (c :: before) ↔ Escaped before := by
  have one : backslashes [c] = 0 := by simp [backslashes, plain]
  have all := backslashes_append [c] before
  rw [List.singleton_append, one] at all
  unfold Escaped
  split at all <;> omega

theorem escaped_pair (c : Char) : Escaped ('\\' :: c :: before) ↔ Escaped before := by
  have two : backslashes ['\\', c] = if c = '\\' then 2 else 0 := by
    by_cases same : c = '\\' <;> simp [backslashes, same]
  have all := backslashes_append ['\\', c] before
  rw [List.cons_append, List.singleton_append, two] at all
  unfold Escaped
  split at all
  · split at all <;> omega
  · omega

theorem unclosed_nil : Unclosed [] := by
  intro before after same
  simp at same

theorem unclosed_cons (plain : c ≠ '\\') (noQuote : c ≠ '"') :
    Unclosed (c :: rest) ↔ Unclosed rest := by
  constructor
  · rintro unclosed before after rfl
    exact (escaped_cons plain).mp (unclosed (c :: before) after rfl)
  · intro unclosed before after same
    rcases List.cons_eq_append_iff.mp same with ⟨_, first⟩ | ⟨others, shape, inside⟩
    · exact absurd (List.cons.inj first).1.symm noQuote
    · rw [shape, escaped_cons plain]
      exact unclosed others after inside

theorem unclosed_pair : Unclosed ('\\' :: c :: rest) ↔ Unclosed rest := by
  constructor
  · rintro unclosed before after rfl
    exact (escaped_pair c).mp (unclosed ('\\' :: c :: before) after rfl)
  · intro unclosed before after same
    rcases List.cons_eq_append_iff.mp same with ⟨_, first⟩ | ⟨tail, shape, inside⟩
    · exact absurd (List.cons.inj first).1 (by decide)
    rcases List.cons_eq_append_iff.mp inside with ⟨none, _⟩ | ⟨others, shape', inside⟩
    · rw [shape, none]
      rfl
    · rw [shape, shape', escaped_pair]
      exact unclosed others after inside

theorem unclosed_backslash : Unclosed ['\\'] := by
  intro before after same
  rcases List.cons_eq_append_iff.mp same with ⟨_, first⟩ | ⟨tail, _, inside⟩
  · exact absurd (List.cons.inj first).1 (by decide)
  · simp at inside

theorem readQuoted?_closed (closed : readQuoted? text = some (body, after)) :
    text = body ++ '"' :: after ∧ ClosedAfter body := by
  fun_induction readQuoted? text generalizing body after with
  | case1 => cases closed
  | case2 =>
    cases closed
    exact ⟨rfl, unclosed_nil, not_escaped_nil⟩
  | case3 => cases closed
  | case4 escaped tail ih =>
    obtain ⟨⟨inner, left⟩, inside, same⟩ := Option.map_eq_some_iff.mp closed
    cases same
    obtain ⟨rfl, inner⟩ := ih inside
    exact ⟨rfl, unclosed_pair.mpr inner.inside, (escaped_pair escaped).not.mpr inner.ends⟩
  | case5 c tail noQuote notLast noEscape ih =>
    obtain ⟨⟨inner, left⟩, inside, same⟩ := Option.map_eq_some_iff.mp closed
    cases same
    obtain ⟨rfl, inner⟩ := ih inside
    have plain := noBackslash notLast noEscape
    exact ⟨rfl, (unclosed_cons plain noQuote).mpr inner.inside,
      (escaped_cons plain).not.mpr inner.ends⟩

theorem readQuoted?_unclosed (endless : readQuoted? text = none) : Unclosed text := by
  fun_induction readQuoted? text with
  | case1 => exact unclosed_nil
  | case2 => cases endless
  | case3 => exact unclosed_backslash
  | case4 escaped tail ih => exact unclosed_pair.mpr (ih (Option.map_eq_none_iff.mp endless))
  | case5 c tail noQuote notLast noEscape ih =>
    exact (unclosed_cons (noBackslash notLast noEscape) noQuote).mpr
      (ih (Option.map_eq_none_iff.mp endless))

theorem ClosedAfter.unique {other left : List Char} (closed : ClosedAfter body)
    (closed' : ClosedAfter other) (same : body ++ '"' :: after = other ++ '"' :: left) :
    body = other := by
  rcases List.append_eq_append_iff.mp same with ⟨more, longer, quote⟩ | ⟨more, longer, quote⟩
  · cases more with
    | nil => rw [longer, List.append_nil]
    | cons first more =>
      cases quote
      exact absurd (closed'.inside body more longer) closed.ends
  · cases more with
    | nil => rw [longer, List.append_nil]
    | cons first more =>
      cases quote
      exact absurd (closed.inside other more longer) closed'.ends

theorem readQuoted?_eq_some_iff : readQuoted? text = some (body, after) ↔
    text = body ++ '"' :: after ∧ ClosedAfter body := by
  constructor
  · exact readQuoted?_closed
  · rintro ⟨rfl, closed⟩
    cases read : readQuoted? (body ++ '"' :: after) with
    | none => exact absurd (readQuoted?_unclosed read body after rfl) closed.ends
    | some found =>
      obtain ⟨other, left⟩ := found
      obtain ⟨same, closed'⟩ := readQuoted?_closed read
      obtain rfl := closed.unique closed' same
      have last := (List.cons.inj (List.append_cancel_left same)).2
      rw [last]

theorem readQuoted?_eq_none_iff : readQuoted? text = none ↔ Unclosed text := by
  constructor
  · exact readQuoted?_unclosed
  · intro unclosed
    cases read : readQuoted? text with
    | none => rfl
    | some found =>
      obtain ⟨shape, closed⟩ := readQuoted?_closed read
      exact absurd (unclosed _ _ shape) closed.ends

theorem isBody_iff : IsBody body ↔ ClosedAfter body := by
  rw [IsBody, readQuoted?_eq_some_iff]
  exact and_iff_right rfl

end Ebml.Edtd
