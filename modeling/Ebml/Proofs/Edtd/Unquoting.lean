import Ebml.Proofs.Edtd.LongestMatch
import Ebml.Proofs.Edtd.Meaning

namespace Ebml

namespace Quoted

-- Quoted texts read with their quotes, the ways to fail told apart. Which characters belong to an
-- escape is found here a second time, and by other steps than where the text was found to end.
inductive Refusal where
  | missingQuote
  | danglingBackslash
  | unknownEscape
  | badDigits
deriving DecidableEq, Repr

def byteOf? (digits : List Char) : Option UInt8 :=
  match Bytes.ofHex? digits with
  | some [byte] => some byte
  | _ => none

def resolve : List Char → Except Refusal Bytes
  | [] => .ok []
  | ['\\'] => .error .danglingBackslash
  | '\\' :: 'x' :: rest =>
    match byteOf? (rest.take 2) with
    | some byte => (byte :: ·) <$> resolve (rest.drop 2)
    | none => .error .badDigits
  | '\\' :: letter :: rest =>
    match escaped? letter with
    | some meant => (String.utf8EncodeChar meant ++ ·) <$> resolve rest
    | none => .error .unknownEscape
  | c :: rest => (String.utf8EncodeChar c ++ ·) <$> resolve rest
termination_by text => text.length
decreasing_by all_goals simp only [List.length_drop, List.length_cons]; omega

-- The quotes are taken off both ends first.
def unquote : List Char → Except Refusal Bytes
  | '"' :: rest => if rest.getLast? = some '"' then resolve rest.dropLast else .error .missingQuote
  | _ => .error .missingQuote

end Quoted

namespace Edtd

variable {body rest : List Char} {c high low letter meant : Char}
  {byte : UInt8} {refusal : Quoted.Refusal}

def escapes : List (Char × Char) :=
  [('n', '\n'), ('t', '\t'), ('r', '\r'), ('0', Char.ofNat 0), ('\\', '\\'), ('"', '"'),
    ('\x27', '\x27')]

def hexDigits : List Char := "0123456789abcdefABCDEF".toList

-- What follows a backslash and is not the rest of an escape.
inductive Misread : List Char → Prop
  | letter {c : Char} {rest : List Char} (unknown : c ∉ escapes.map Prod.fst) (noByte : c ≠ 'x') :
      Misread (c :: rest)
  | digits {rest : List Char}
      (fewer : ∀ high ∈ hexDigits, ∀ low ∈ hexDigits, ¬ [high, low] <+: rest) :
      Misread ('x' :: rest)

-- A backslash that is not escaped itself starts an escape, and one of these cannot be read.
def Misescaped (body : List Char) : Prop :=
  ∃ before rest, body = before ++ '\\' :: rest ∧ ¬ Escaped before ∧ Misread rest

theorem escaped?_eq_some_iff : Quoted.escaped? letter = some meant ↔ (letter, meant) ∈ escapes := by
  unfold Quoted.escaped? escapes
  split <;> simp_all [eq_comm]

theorem hexDigit?_isSome_iff (c : Char) : (Bytes.hexDigit? c).isSome = true ↔ c ∈ hexDigits := by
  constructor
  · intro digit
    have every : ∀ code : Fin 128, (Bytes.hexDigit? (Char.ofNat code.val)).isSome = true →
        hexDigits.contains (Char.ofNat code.val) = true := by decide +kernel
    obtain ⟨value, read⟩ := Option.isSome_iff_exists.mp digit
    have here := every ⟨c.toNat, Bytes.hexDigit?_code read⟩
    rw [Char.ofNat_toNat] at here
    simpa using here digit
  · intro member
    have every : hexDigits.all (fun c => (Bytes.hexDigit? c).isSome) = true := by decide
    exact List.all_eq_true.mp every c member

theorem hexPair?_isSome_iff (high low : Char) :
    (Bytes.hexPair? high low).isSome = true ↔ high ∈ hexDigits ∧ low ∈ hexDigits := by
  rw [← hexDigit?_isSome_iff, ← hexDigit?_isSome_iff, Bytes.hexPair?]
  cases Bytes.hexDigit? high with
  | none => simp
  | some top => cases Bytes.hexDigit? low <;> simp

theorem byteOf?_eq_some_iff : Quoted.byteOf? (rest.take 2) = some byte ↔
    ∃ high low after, rest = high :: low :: after ∧ Bytes.hexPair? high low = some byte := by
  rcases rest with _ | ⟨high, _ | ⟨low, after⟩⟩
  · simp [Quoted.byteOf?, Bytes.ofHex?]
  · simp [Quoted.byteOf?, Bytes.ofHex?]
  · cases pair : Bytes.hexPair? high low <;> simp [Quoted.byteOf?, Bytes.ofHex?, pair]

theorem byteOf?_eq_none_iff : Quoted.byteOf? (rest.take 2) = none ↔ Misread ('x' :: rest) := by
  constructor
  · intro none
    refine .digits ?_
    rintro high highDigit low lowDigit ⟨after, rfl⟩
    obtain ⟨byte, pair⟩ := Option.isSome_iff_exists.mp
      ((hexPair?_isSome_iff high low).mpr ⟨highDigit, lowDigit⟩)
    have read := byteOf?_eq_some_iff.mpr ⟨high, low, after, rfl, pair⟩
    cases none.symm.trans read
  · intro misread
    cases misread with
    | letter unknown noByte => exact absurd rfl noByte
    | digits fewer =>
      refine Option.eq_none_iff_forall_ne_some.mpr ?_
      intro byte read
      obtain ⟨high, low, after, rfl, pair⟩ := byteOf?_eq_some_iff.mp read
      obtain ⟨highDigit, lowDigit⟩ := (hexPair?_isSome_iff high low).mp (by rw [pair]; rfl)
      exact fewer high highDigit low lowDigit ⟨after, rfl⟩

theorem escaped?_eq_none_iff (noByte : letter ≠ 'x') :
    Quoted.escaped? letter = none ↔ Misread (letter :: rest) := by
  constructor
  · intro none
    refine .letter ?_ noByte
    intro member
    obtain ⟨⟨_, meant⟩, listed, rfl⟩ := List.mem_map.mp member
    rw [escaped?_eq_some_iff.mpr listed] at none
    cases none
  · intro misread
    cases misread with
    | digits fewer => exact absurd rfl noByte
    | letter unknown _ =>
      refine Option.eq_none_iff_forall_ne_some.mpr ?_
      intro meant known
      exact unknown (List.mem_map.mpr ⟨_, escaped?_eq_some_iff.mp known, rfl⟩)

theorem misescaped_nil : ¬ Misescaped [] := by
  rintro ⟨before, rest, same, _⟩
  simp at same

theorem misescaped_of_misread (misread : Misread rest) : Misescaped ('\\' :: rest) :=
  ⟨[], rest, rfl, not_escaped_nil, misread⟩

theorem misescaped_cons (plain : c ≠ '\\') : Misescaped (c :: rest) ↔ Misescaped rest := by
  constructor
  · rintro ⟨before, after, same, starts, misread⟩
    rcases List.cons_eq_append_iff.mp same with ⟨_, first⟩ | ⟨others, shape, inside⟩
    · exact absurd (List.cons.inj first).1.symm plain
    · rw [shape, escaped_cons plain] at starts
      exact ⟨others, after, inside, starts, misread⟩
  · rintro ⟨before, after, rfl, starts, misread⟩
    exact ⟨c :: before, after, rfl, (escaped_cons plain).not.mpr starts, misread⟩

theorem misescaped_pair (readable : ¬ Misread (c :: rest)) :
    Misescaped ('\\' :: c :: rest) ↔ Misescaped rest := by
  constructor
  · rintro ⟨before, after, same, starts, misread⟩
    rcases List.cons_eq_append_iff.mp same with ⟨_, first⟩ | ⟨tail, shape, inside⟩
    · cases first
      exact absurd misread readable
    rcases List.cons_eq_append_iff.mp inside with ⟨none, _⟩ | ⟨others, shape', inside⟩
    · rw [shape, none] at starts
      exact absurd rfl starts
    · rw [shape, shape', escaped_pair] at starts
      exact ⟨others, after, inside, starts, misread⟩
  · rintro ⟨before, after, rfl, starts, misread⟩
    exact ⟨'\\' :: c :: before, after, rfl, (escaped_pair c).not.mpr starts, misread⟩

theorem map_eq_error_iff {α β : Type} {f : α → β} {result : Except Quoted.Refusal α} :
    f <$> result = .error refusal ↔ result = .error refusal := by
  cases result <;> simp [Functor.map, Except.map]

theorem toOption_map {α β : Type} (f : α → β) (result : Except Quoted.Refusal α) :
    (f <$> result).toOption = result.toOption.map f := by
  cases result <;> rfl

theorem plain_of_hexDigit (digit : c ∈ hexDigits) : c ≠ '\\' ∧ c ≠ '"' := by
  refine ⟨?_, ?_⟩ <;> rintro rfl <;> exact absurd digit (by decide)

theorem plain_of_hexPair (pair : Bytes.hexPair? high low = some byte) :
    (high ≠ '\\' ∧ high ≠ '"') ∧ low ≠ '\\' ∧ low ≠ '"' := by
  obtain ⟨highDigit, lowDigit⟩ := (hexPair?_isSome_iff high low).mp (by rw [pair]; rfl)
  exact ⟨plain_of_hexDigit highDigit, plain_of_hexDigit lowDigit⟩

theorem resolve_refused_iff :
    (∃ refusal, Quoted.resolve body = .error refusal) ↔ Misescaped body ∨ Escaped body := by
  fun_induction Quoted.resolve body with
  | case1 => simp [misescaped_nil, not_escaped_nil]
  | case2 => exact iff_of_true ⟨_, rfl⟩ (.inr rfl)
  | case3 rest byte read ih =>
    have readable : ¬ Misread ('x' :: rest) := by
      rw [← byteOf?_eq_none_iff, read]
      exact Option.some_ne_none byte
    obtain ⟨high, low, after, rfl, pair⟩ := byteOf?_eq_some_iff.mp read
    obtain ⟨⟨highPlain, _⟩, lowPlain, _⟩ := plain_of_hexPair pair
    simp only [map_eq_error_iff]
    rw [ih, misescaped_pair readable, escaped_pair, misescaped_cons highPlain,
      misescaped_cons lowPlain, escaped_cons highPlain, escaped_cons lowPlain]
    rfl
  | case4 rest none =>
    exact iff_of_true ⟨_, rfl⟩ (.inl (misescaped_of_misread (byteOf?_eq_none_iff.mp none)))
  | case5 letter rest noByte meant known ih =>
    have readable : ¬ Misread (letter :: rest) := by
      rw [← escaped?_eq_none_iff noByte, known]
      exact Option.some_ne_none meant
    simp only [map_eq_error_iff]
    rw [ih, misescaped_pair readable, escaped_pair]
  | case6 letter rest noByte none =>
    exact iff_of_true ⟨_, rfl⟩ (.inl (misescaped_of_misread ((escaped?_eq_none_iff noByte).mp none)))
  | case7 c rest notLast _ noEscape ih =>
    have plain := noBackslash notLast noEscape
    simp only [map_eq_error_iff]
    rw [ih, misescaped_cons plain, escaped_cons plain]

theorem resolve_toOption (body : List Char) :
    (Quoted.resolve body).toOption = Quoted.unescape body := by
  fun_induction Quoted.resolve body with
  | case1 => rfl
  | case2 => rfl
  | case3 rest byte read ih =>
    obtain ⟨high, low, after, rfl, pair⟩ := byteOf?_eq_some_iff.mp read
    rw [toOption_map, ih]
    simp [Quoted.unescape, pair, Option.map_eq_bind]
  | case4 rest none =>
    rcases rest with _ | ⟨high, _ | ⟨low, after⟩⟩
    · rfl
    · rfl
    · have noPair : Bytes.hexPair? high low = Option.none := by
        refine Option.eq_none_iff_forall_ne_some.mpr ?_
        intro byte pair
        rw [byteOf?_eq_some_iff.mpr ⟨high, low, after, rfl, pair⟩] at none
        cases none
      rw [Quoted.unescape, noPair]
      rfl
  | case5 letter rest noByte meant known ih =>
    have other : letter ≠ 'x' := noByte
    rw [toOption_map, ih]
    simp [Quoted.unescape, other, known, Option.map_eq_bind]
  | case6 letter rest noByte none =>
    have other : letter ≠ 'x' := noByte
    simp [Quoted.unescape, other, none, Except.toOption]
  | case7 c rest notLast _ noEscape ih =>
    rw [toOption_map, ih]
    simp [Quoted.unescape, noBackslash notLast noEscape]

theorem unclosed_plain (unclosed : Unclosed (c :: rest)) : c ≠ '"' := by
  rintro rfl
  exact not_escaped_nil (unclosed [] rest rfl)

theorem pieces_of_resolve (unclosed : Unclosed body)
    (reads : ¬ ∃ refusal, Quoted.resolve body = .error refusal) :
    ∃ pieces : List Piece, body = pieces.flatMap Piece.text := by
  fun_induction Quoted.resolve body with
  | case1 => exact ⟨[], rfl⟩
  | case2 => exact absurd ⟨_, rfl⟩ reads
  | case3 rest byte read ih =>
    simp only [map_eq_error_iff] at reads
    obtain ⟨high, low, after, rfl, pair⟩ := byteOf?_eq_some_iff.mp read
    obtain ⟨⟨highPlain, highQuote⟩, lowPlain, lowQuote⟩ := plain_of_hexPair pair
    rw [unclosed_pair, unclosed_cons highPlain highQuote, unclosed_cons lowPlain lowQuote] at unclosed
    obtain ⟨pieces, shape⟩ := ih unclosed reads
    exact ⟨.byte high low byte pair :: pieces, congrArg (['\\', 'x', high, low] ++ ·) shape⟩
  | case4 rest none => exact absurd ⟨_, rfl⟩ reads
  | case5 letter rest noByte meant known ih =>
    simp only [map_eq_error_iff] at reads
    obtain ⟨pieces, shape⟩ := ih (unclosed_pair.mp unclosed) reads
    exact ⟨.escape letter meant known :: pieces, congrArg (['\\', letter] ++ ·) shape⟩
  | case6 letter rest noByte none => exact absurd ⟨_, rfl⟩ reads
  | case7 c rest notLast _ noEscape ih =>
    simp only [map_eq_error_iff] at reads
    have plain := noBackslash notLast noEscape
    have noQuote := unclosed_plain unclosed
    obtain ⟨pieces, shape⟩ := ih ((unclosed_cons plain noQuote).mp unclosed) reads
    exact ⟨.plain c noQuote plain :: pieces, congrArg ([c] ++ ·) shape⟩

theorem resolve_pieces (pieces : List Piece) :
    Quoted.resolve (pieces.flatMap Piece.text) = .ok (pieces.flatMap Piece.bytes) := by
  have read := resolve_toOption (pieces.flatMap Piece.text)
  rw [Piece.unescape_pieces] at read
  exact toOption_eq_some.mp read

theorem resolve_not_missingQuote (body : List Char) :
    Quoted.resolve body ≠ .error .missingQuote := by
  fun_induction Quoted.resolve body <;> simp_all [map_eq_error_iff]

theorem escaped_of_dangling (dangling : Quoted.resolve body = .error .danglingBackslash) :
    Escaped body := by
  fun_induction Quoted.resolve body with
  | case1 => cases dangling
  | case2 => exact rfl
  | case3 rest byte read ih =>
    obtain ⟨high, low, after, rfl, pair⟩ := byteOf?_eq_some_iff.mp read
    obtain ⟨⟨highPlain, _⟩, lowPlain, _⟩ := plain_of_hexPair pair
    rw [escaped_pair, escaped_cons highPlain, escaped_cons lowPlain]
    exact ih (map_eq_error_iff.mp dangling)
  | case4 rest none => cases dangling
  | case5 letter rest noByte meant known ih =>
    exact (escaped_pair letter).mpr (ih (map_eq_error_iff.mp dangling))
  | case6 letter rest noByte none => cases dangling
  | case7 c rest notLast _ noEscape ih =>
    exact (escaped_cons (noBackslash notLast noEscape)).mpr (ih (map_eq_error_iff.mp dangling))

theorem unquote_quoted (body : String) :
    Quoted.unquote (Lexeme.quoted body).text.toList = Quoted.resolve body.toList := by
  rw [Lexeme.text_quoted, Quoted.unquote, if_pos List.getLast?_concat, List.dropLast_concat]

theorem textDefault_quoted (type : ElementType) (body : String) :
    textDefault type (.quoted body) =
      (Quoted.unquote (Lexeme.quoted body).text.toList).mapError fun _ =>
        .invalidLiteral .string (Lexeme.quoted body).text := by
  rw [unquote_quoted, textDefault, ← resolve_toOption]
  cases Quoted.resolve body.toList <;> rfl

theorem Token.pull_formed {count : Nat} {text : List Char} {found : Lexeme}
    (pulled : lexeme found ∈ pull count text) : found.Formed := by
  induction count generalizing text with
  | zero => cases pulled
  | succ count ih =>
    rcases List.mem_cons.mp pulled with first | later
    · exact (read_split (Prod.ext first.symm rfl)).2.1
    · exact ih later

end Edtd

end Ebml
