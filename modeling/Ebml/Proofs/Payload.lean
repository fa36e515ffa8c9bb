import Ebml.Payload
import Ebml.Value
import Ebml.Proofs.Bytes
import Mathlib.Data.List.DropRight

namespace Ebml

-- What the payload of an element spells as a value of its type. No payload spells a
-- value of the container type.
inductive Spells : ElementType → Bytes → Value → Prop
  | uint {payload : Bytes} (short : payload.length ≤ 8) :
      Spells .uint payload (.uint (Bytes.ofBigEndian payload))
  | int {payload : Bytes} (short : payload.length ≤ 8) :
      Spells .int payload (.int (Int.bmod (Bytes.ofBigEndian payload) (256 ^ payload.length)))
  | noFloat : Spells .float [] (.float .zero)
  | single {payload : Bytes} (length : payload.length = 4) :
      Spells .float payload (.float (.ofBinary32 (Bytes.ofBigEndian payload)))
  | double {payload : Bytes} (length : payload.length = 8) :
      Spells .float payload (.float ⟨UInt64.ofNat (Bytes.ofBigEndian payload)⟩)
  | noDate : Spells .date [] (.date 0)
  | date {payload : Bytes} (length : payload.length = 8) :
      Spells .date payload (.date (Int.bmod (Bytes.ofBigEndian payload) (256 ^ payload.length)))
  -- The text itself does not end in a NUL byte, which would be padding.
  | string {text : String} (padding : Nat) (last : (Bytes.ofText text).getLast? ≠ some 0) :
      Spells .string (Bytes.ofText text ++ List.replicate padding 0) (.string text)
  | binary {payload : Bytes} : Spells .binary payload (.binary payload)

theorem Spells.plain {type : ElementType} {payload : Bytes} {value : Value}
    (spells : Spells type payload value) : type ≠ .container := by
  rintro rfl
  cases spells

namespace Payload

def value? (type : ElementType) (payload : Bytes) : Option Value :=
  match type with
  | .int => (whole int payload).map .int
  | .uint => (whole uint payload).map .uint
  | .float => (whole float payload).map .float
  | .string => (text? payload).map .string
  | .date => (whole date payload).map .date
  | .binary => (whole binary payload).map .binary
  | .container => none

theorem signed_eq_bmod (payload : Bytes) :
    signed payload = Int.bmod (Bytes.ofBigEndian payload) (256 ^ payload.length) := by
  cases payload with
  | nil => rfl
  | cons first tail =>
    have bound := Bytes.ofBigEndian_lt tail
    have modulus : 1 <<< (8 * (first :: tail).length) = 256 * 256 ^ tail.length := by
      rw [Nat.one_shiftLeft, Nat.pow_mul, List.length_cons, Nat.pow_succ']
    have half : (256 * 256 ^ tail.length + 1) / 2 = 128 * 256 ^ tail.length := by omega
    have value := Bytes.ofBigEndian_cons first tail
    have small := first.toNat_lt
    generalize power : 256 ^ tail.length = unit at *
    have whole : Bytes.ofBigEndian (first :: tail) < 256 * unit := by nlinarith
    unfold signed
    rw [modulus, List.length_cons, Nat.pow_succ', power]
    simp only [Int.bmod, Nat.cast_mul, Nat.cast_ofNat]
    have kept : (Bytes.ofBigEndian (first :: tail) : Int) % (256 * unit : Int) =
        Bytes.ofBigEndian (first :: tail) := Int.emod_eq_of_lt (by omega) (by exact_mod_cast whole)
    rw [kept]
    have middle : (256 * (unit : Int) + 1) / 2 = 128 * unit := by exact_mod_cast half
    rw [middle]
    by_cases low : first.toNat < 128
    · have below : Bytes.ofBigEndian (first :: tail) < 128 * unit := by nlinarith
      rw [if_pos low, if_pos (by exact_mod_cast below)]
    · have above : 128 * unit ≤ Bytes.ofBigEndian (first :: tail) := by nlinarith
      rw [if_neg low, if_neg (by exact_mod_cast Nat.not_lt.mpr above)]

theorem withoutPadding_concat (payload : Bytes) (last : UInt8) :
    withoutPadding (payload ++ [last]) =
      if last = 0 then withoutPadding payload else payload ++ [last] := by
  unfold withoutPadding
  rw [List.reverse_append, List.reverse_singleton, List.singleton_append, List.dropWhile_cons]
  by_cases zero : last = 0
  · rw [if_pos zero, if_pos (beq_iff_eq.mpr zero)]
  · rw [if_neg zero, if_neg (fun same => zero (beq_iff_eq.mp same)), List.reverse_cons,
      List.reverse_reverse]

theorem withoutPadding_pad {kept : Bytes} (last : kept.getLast? ≠ some 0) (padding : Nat) :
    withoutPadding (kept ++ List.replicate padding 0) = kept := by
  induction padding with
  | zero =>
    rw [List.replicate_zero, List.append_nil]
    cases kept using List.reverseRecOn with
    | nil => rfl
    | append_singleton front final =>
      have used : final ≠ 0 := by simpa using last
      rw [withoutPadding_concat, if_neg used]
  | succ padding ih =>
    rw [List.replicate_succ', ← List.append_assoc, withoutPadding_concat, if_pos rfl, ih]

theorem withoutPadding_split (payload : Bytes) :
    (withoutPadding payload).getLast? ≠ some 0 ∧
      ∃ padding, payload = withoutPadding payload ++ List.replicate padding 0 := by
  induction payload using List.reverseRecOn with
  | nil => exact ⟨by simp [withoutPadding], 0, rfl⟩
  | append_singleton front final ih =>
    rw [withoutPadding_concat]
    by_cases zero : final = 0
    · obtain ⟨last, padding, split⟩ := ih
      rw [if_pos zero]
      refine ⟨last, padding + 1, ?_⟩
      rw [List.replicate_succ', ← List.append_assoc, ← split, zero]
    · rw [if_neg zero]
      exact ⟨by simpa using zero, 0, (List.append_nil _).symm⟩

theorem text?_eq (payload : Bytes) : text? payload = Bytes.utf8? (withoutPadding payload) := by
  unfold text? whole string
  rw [taking_whole]
  rfl

theorem text?_eq_some_iff (payload : Bytes) (text : String) :
    text? payload = some text ↔ (Bytes.ofText text).getLast? ≠ some 0 ∧
      ∃ padding, payload = Bytes.ofText text ++ List.replicate padding 0 := by
  rw [text?_eq, Bytes.utf8?_eq_some_iff]
  constructor
  · intro stored
    rw [← stored]
    exact withoutPadding_split payload
  · rintro ⟨last, padding, rfl⟩
    exact withoutPadding_pad last padding

def withoutNuls (text : String) : String :=
  String.ofList (text.toList.rdropWhile (· == Char.ofNat 0))

theorem withoutPadding_text (text : List Char) :
    withoutPadding (text.flatMap String.utf8EncodeChar) =
      (text.rdropWhile (· == Char.ofNat 0)).flatMap String.utf8EncodeChar := by
  induction text using List.reverseRecOn with
  | nil => rfl
  | append_singleton front last ih =>
    rw [List.flatMap_append, List.flatMap_singleton, List.rdropWhile_concat]
    by_cases nul : last = Char.ofNat 0
    · have padding : String.utf8EncodeChar last = [0] := by
        rw [nul]
        rfl
      rw [padding, withoutPadding_concat, if_pos rfl, if_pos (beq_iff_eq.mpr nul), ih]
    · have ends : (front.flatMap String.utf8EncodeChar ++ String.utf8EncodeChar last).getLast? ≠
          some 0 := by
        rw [List.getLast?_append_of_ne_nil _ String.utf8EncodeChar_ne_nil, ne_eq,
          Bytes.utf8EncodeChar_last]
        exact nul
      have whole := withoutPadding_pad ends 0
      rw [List.replicate_zero, List.append_nil] at whole
      rw [whole, if_neg (fun same => nul (beq_iff_eq.mp same)), List.flatMap_append,
        List.flatMap_singleton]

theorem text?_ofText (text : String) : text? (Bytes.ofText text) = some (withoutNuls text) := by
  rw [text?_eq, Bytes.utf8?_eq_some_iff, Bytes.ofText, withoutPadding_text, Bytes.ofText,
    withoutNuls, String.toList_ofList]

theorem whole_uint (payload : Bytes) :
    whole uint payload =
      if payload.length ≤ 8 then some (Bytes.ofBigEndian payload) else none := by
  unfold whole uint
  by_cases short : payload.length ≤ 8
  · rw [if_neg (Nat.not_lt.mpr short), if_pos short, taking_whole]
    rfl
  · rw [if_pos (Nat.not_le.mp short), if_neg short]
    rfl

theorem whole_int (payload : Bytes) :
    whole int payload =
      if payload.length ≤ 8 then
        some (Int.bmod (Bytes.ofBigEndian payload) (256 ^ payload.length))
      else none := by
  unfold whole int
  by_cases short : payload.length ≤ 8
  · rw [if_neg (Nat.not_lt.mpr short), if_pos short, taking_whole, signed_eq_bmod]
    rfl
  · rw [if_pos (Nat.not_le.mp short), if_neg short]
    rfl

theorem whole_binary (payload : Bytes) : whole binary payload = some payload := by
  unfold whole binary
  rw [taking_whole]
  rfl

theorem whole_float (payload : Bytes) :
    whole float payload =
      if payload.length = 0 then some .zero
      else if payload.length = 4 then some (.ofBinary32 (Bytes.ofBigEndian payload))
      else if payload.length = 8 then some ⟨UInt64.ofNat (Bytes.ofBigEndian payload)⟩
      else none := by
  unfold whole float
  repeat' split
  all_goals simp only [taking_whole, Decoded.value?, ofBinary32Bytes, ofBinary64Bytes]

theorem whole_date (payload : Bytes) :
    whole date payload =
      if payload.length = 0 then some 0
      else if payload.length = 8 then
        some (Int.bmod (Bytes.ofBigEndian payload) (256 ^ payload.length))
      else none := by
  have read := whole_int payload
  unfold whole at read
  unfold whole date
  split
  · rfl
  · split
    · rename_i length
      rw [read, if_pos (Nat.le_of_eq length)]
    · rfl

theorem value?_of_spells {type : ElementType} {payload : Bytes} {value : Value}
    (spells : Spells type payload value) : value? type payload = some value := by
  cases spells with
  | uint short => simp only [value?, whole_uint, if_pos short, Option.map_some]
  | int short => simp only [value?, whole_int, if_pos short, Option.map_some]
  | noFloat => rfl
  | single length => simp [value?, whole_float, length]
  | double length => simp [value?, whole_float, length]
  | noDate => rfl
  | date length => simp [value?, whole_date, length]
  | string padding last =>
    have read := (text?_eq_some_iff _ _).mpr ⟨last, padding, rfl⟩
    simp only [value?, read, Option.map_some]
  | binary => simp only [value?, whole_binary, Option.map_some]

theorem spells_of_value? {type : ElementType} {payload : Bytes} {value : Value}
    (decoded : value? type payload = some value) : Spells type payload value := by
  cases type with
  | uint =>
    simp only [value?, whole_uint, Option.map_eq_some_iff, Option.ite_none_right_eq_some] at decoded
    obtain ⟨_, ⟨short, read⟩, rfl⟩ := decoded
    cases read
    exact .uint short
  | int =>
    simp only [value?, whole_int, Option.map_eq_some_iff, Option.ite_none_right_eq_some] at decoded
    obtain ⟨_, ⟨short, read⟩, rfl⟩ := decoded
    cases read
    exact .int short
  | float =>
    simp only [value?, whole_float] at decoded
    split at decoded
    · rename_i length
      cases List.length_eq_zero_iff.mp length
      cases decoded
      exact .noFloat
    · split at decoded
      · rename_i length
        cases decoded
        exact .single length
      · split at decoded
        · rename_i length
          cases decoded
          exact .double length
        · cases decoded
  | string =>
    obtain ⟨text, read, rfl⟩ := Option.map_eq_some_iff.mp decoded
    obtain ⟨last, padding, rfl⟩ := (text?_eq_some_iff _ _).mp read
    exact .string padding last
  | date =>
    simp only [value?, whole_date] at decoded
    split at decoded
    · rename_i length
      cases List.length_eq_zero_iff.mp length
      cases decoded
      exact .noDate
    · split at decoded
      · rename_i length
        cases decoded
        exact .date length
      · cases decoded
  | binary =>
    simp only [value?, whole_binary, Option.map_some] at decoded
    cases decoded
    exact .binary
  | container => cases decoded

theorem value?_eq_some_iff {type : ElementType} {payload : Bytes} {value : Value} :
    value? type payload = some value ↔ Spells type payload value :=
  ⟨spells_of_value?, value?_of_spells⟩

end Payload

end Ebml
