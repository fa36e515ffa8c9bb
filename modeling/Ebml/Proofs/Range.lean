import Ebml.Range
import Mathlib.Data.Nat.Cast.Order.Ring

namespace Ebml

-- A range of integers is one of intervals with ends in words of 64 bits, with a sign or without.
-- Which integers it admits does not depend on the kind of word that the integer comes in.
variable {α β : Type} {number : α → Int} {value : Int}

namespace Bound

def map (f : α → β) : Bound α → Bound β
  | unbounded => unbounded
  | included value => included (f value)
  | excluded value => excluded (f value)

def Below (number : α → Int) : Bound α → Int → Prop
  | unbounded, _ => True
  | included least, value => number least ≤ value
  | excluded below, value => number below < value

def Above (number : α → Int) : Bound α → Int → Prop
  | unbounded, _ => True
  | included greatest, value => value ≤ number greatest
  | excluded above, value => value < number above

def closedAt (last : α) : Bound α → Bound α
  | unbounded => included last
  | bound => bound

theorem closedAt_below {least : α} (bounds : ∀ other, number least ≤ number other)
    (bound : Bound α) :
    (bound.closedAt least).Below number value ↔ number least ≤ value ∧ bound.Below number value := by
  cases bound with
  | unbounded => simp [closedAt, Below]
  | included other =>
    have := bounds other
    simp only [closedAt, Below]
    omega
  | excluded other =>
    have := bounds other
    simp only [closedAt, Below]
    omega

theorem closedAt_above {greatest : α} (bounds : ∀ other, number other ≤ number greatest)
    (bound : Bound α) :
    (bound.closedAt greatest).Above number value ↔
      value ≤ number greatest ∧ bound.Above number value := by
  cases bound with
  | unbounded => simp [closedAt, Above]
  | included other =>
    have := bounds other
    simp only [closedAt, Above]
    omega
  | excluded other =>
    have := bounds other
    simp only [closedAt, Above]
    omega

end Bound

namespace Interval

def map (f : α → β) (interval : Interval α) : Interval β :=
  ⟨interval.lower.map f, interval.upper.map f⟩

def Covers (number : α → Int) (interval : Interval α) (value : Int) : Prop :=
  interval.lower.Below number value ∧ interval.upper.Above number value

def SomeCovers (number : α → Int) (intervals : List (Interval α)) (value : Int) : Prop :=
  ∃ interval ∈ intervals, interval.Covers number value

def closed (least greatest : α) (interval : Interval α) : Interval α :=
  ⟨interval.lower.closedAt least, interval.upper.closedAt greatest⟩

theorem contains_iff [LE α] [LT α] [DecidableLE α] [DecidableLT α] (number : α → Int)
    (atMost : ∀ a b, a ≤ b ↔ number a ≤ number b) (less : ∀ a b, a < b ↔ number a < number b)
    (interval : Interval α) (value : α) :
    interval.contains value = true ↔ interval.Covers number (number value) := by
  obtain ⟨lower, upper⟩ := interval
  cases lower <;> cases upper <;> simp [contains, Covers, Bound.Below, Bound.Above, atMost, less]

theorem any_contains_iff [LE α] [LT α] [DecidableLE α] [DecidableLT α] (number : α → Int)
    (atMost : ∀ a b, a ≤ b ↔ number a ≤ number b) (less : ∀ a b, a < b ↔ number a < number b)
    (intervals : List (Interval α)) (value : α) :
    intervals.any (·.contains value) = true ↔ SomeCovers number intervals (number value) := by
  simp only [List.any_eq_true, contains_iff number atMost less, SomeCovers]

theorem map_covers (f : β → α) (interval : Interval β) :
    (interval.map f).Covers number value ↔ interval.Covers (number ∘ f) value := by
  obtain ⟨lower, upper⟩ := interval
  cases lower <;> cases upper <;> rfl

theorem someCovers_map (f : β → α) (intervals : List (Interval β)) :
    SomeCovers number (intervals.map (·.map f)) value ↔
      SomeCovers (number ∘ f) intervals value := by
  simp only [SomeCovers, List.mem_map, exists_exists_and_eq_and, map_covers]

theorem closed_covers {least greatest : α} (above : ∀ other, number least ≤ number other)
    (below : ∀ other, number other ≤ number greatest) (interval : Interval α) :
    (interval.closed least greatest).Covers number value ↔
      (number least ≤ value ∧ value ≤ number greatest) ∧ interval.Covers number value := by
  unfold Covers closed
  rw [Bound.closedAt_below above, Bound.closedAt_above below, and_and_and_comm]

theorem someCovers_closed {least greatest : α} (above : ∀ other, number least ≤ number other)
    (below : ∀ other, number other ≤ number greatest) (intervals : List (Interval α)) :
    SomeCovers number (intervals.map (·.closed least greatest)) value ↔
      (number least ≤ value ∧ value ≤ number greatest) ∧ SomeCovers number intervals value := by
  simp only [SomeCovers, List.mem_map, exists_exists_and_eq_and, closed_covers above below]
  constructor
  · rintro ⟨interval, member, inside, covers⟩
    exact ⟨inside, interval, member, covers⟩
  · rintro ⟨inside, interval, member, covers⟩
    exact ⟨interval, member, inside, covers⟩

end Interval

inductive IntegerRange where
  | int (intervals : List (Interval Int64))
  | uint (intervals : List (Interval UInt64))

namespace IntegerRange

def range : IntegerRange → Range
  | int intervals => .int (intervals.map (·.map Int64.toInt))
  | uint intervals => .uint (intervals.map (·.map UInt64.toNat))

def Contains : IntegerRange → Int → Prop
  | int intervals => Interval.SomeCovers Int64.toInt intervals
  | uint intervals => Interval.SomeCovers (Nat.cast ∘ UInt64.toNat) intervals

-- The integers that words of the range's own kind stand for.
def Fits : IntegerRange → Int → Prop
  | int _, value => -2 ^ 63 ≤ value ∧ value < 2 ^ 63
  | uint _, value => 0 ≤ value ∧ value < 2 ^ 64

def closed : IntegerRange → IntegerRange
  | int intervals => int (intervals.map (·.closed Int64.minValue Int64.maxValue))
  | uint intervals => uint (intervals.map (·.closed 0 0xFFFFFFFFFFFFFFFF))

-- Membership decided on words. One of the other kind is turned into a word of this kind, once it
-- is known to stand for the same integer there.
def admitsInt64 : IntegerRange → Int64 → Bool
  | int intervals, word => intervals.any (·.contains word)
  | uint intervals, word => decide (0 ≤ word) && intervals.any (·.contains word.toUInt64)

def admitsUInt64 : IntegerRange → UInt64 → Bool
  | int intervals, word =>
    decide (word ≤ Int64.maxValue.toUInt64) && intervals.any (·.contains word.toInt64)
  | uint intervals, word => intervals.any (·.contains word)

theorem closed_contains (stored : IntegerRange) (value : Int) :
    stored.closed.Contains value ↔ stored.Fits value ∧ stored.Contains value := by
  cases stored with
  | int intervals =>
    refine (Interval.someCovers_closed Int64.minValue_le_toInt Int64.toInt_le intervals).trans ?_
    simp only [Fits, Contains, Int64.toInt_minValue, Int64.toInt_maxValue, Int.le_sub_one_iff]
  | uint intervals =>
    have least (word : UInt64) : ((0 : UInt64).toNat : Int) ≤ word.toNat := Int.natCast_nonneg _
    have greatest (word : UInt64) :
        (word.toNat : Int) ≤ (0xFFFFFFFFFFFFFFFF : UInt64).toNat := by
      have bound := word.toNat_lt
      change (word.toNat : Int) ≤ (2 ^ 64 - 1 : Nat)
      omega
    refine (Interval.someCovers_closed least greatest intervals).trans (and_congr_left fun _ => ?_)
    exact and_congr_right fun _ => Int.le_sub_one_iff (n := 2 ^ 64)

theorem fits_of_small (stored : IntegerRange) {value : Nat} (small : value < 2 ^ 63) :
    stored.Fits value := by
  cases stored <;> simp only [Fits] <;> omega

theorem signed_iff (intervals : List (Interval Int64)) (value : Int) :
    (intervals.map (·.map Int64.toInt)).any (·.contains value) = true ↔
      (int intervals).Contains value := by
  have decided := Interval.any_contains_iff id (fun _ _ => Iff.rfl) (fun _ _ => Iff.rfl)
    (intervals.map (·.map Int64.toInt)) value
  exact decided.trans (Interval.someCovers_map _ _)

theorem unsigned_iff (intervals : List (Interval UInt64)) (value : Nat) :
    (intervals.map (·.map UInt64.toNat)).any (·.contains value) = true ↔
      (uint intervals).Contains value := by
  have decided := Interval.any_contains_iff Nat.cast (fun _ _ => Int.ofNat_le.symm)
    (fun _ _ => Int.ofNat_lt.symm) (intervals.map (·.map UInt64.toNat)) value
  exact decided.trans (Interval.someCovers_map _ _)

theorem signedWord_iff (intervals : List (Interval Int64)) (word : Int64) :
    intervals.any (·.contains word) = true ↔ (int intervals).Contains word.toInt :=
  Interval.any_contains_iff Int64.toInt (fun _ _ => Int64.le_iff_toInt_le)
    (fun _ _ => Int64.lt_iff_toInt_lt) intervals word

theorem unsignedWord_iff (intervals : List (Interval UInt64)) (word : UInt64) :
    intervals.any (·.contains word) = true ↔ (uint intervals).Contains word.toNat := by
  refine Interval.any_contains_iff (Nat.cast ∘ UInt64.toNat) ?_ ?_ intervals word
  · intro a b
    exact UInt64.le_iff_toNat_le.trans Int.ofNat_le.symm
  · intro a b
    exact UInt64.lt_iff_toNat_lt.trans Int.ofNat_lt.symm

theorem guarded_iff {stored : IntegerRange} {guard fits : Prop} {other : Int} (same : guard ↔ fits)
    (kept : fits → other = value) :
    guard ∧ stored.Contains other ↔ fits ∧ stored.Contains value := by
  rw [same]
  exact and_congr_right fun inside => by rw [kept inside]

theorem admitsInt_iff (stored : IntegerRange) (least : -2 ^ 63 ≤ value)
    (greatest : value < 2 ^ 63) :
    stored.range.admitsInt value = true ↔ stored.Fits value ∧ stored.Contains value := by
  cases stored with
  | int intervals => exact (signed_iff intervals value).trans (and_iff_right ⟨least, greatest⟩).symm
  | uint intervals =>
    rw [range, Range.admitsInt, Bool.and_eq_true, unsigned_iff, decide_eq_true_iff]
    refine guarded_iff ?_ fun inside => Int.toNat_of_nonneg inside.1
    unfold Fits
    omega

theorem admitsUInt_iff (stored : IntegerRange) {value : Nat} (greatest : value < 2 ^ 64) :
    stored.range.admitsUInt value = true ↔ stored.Fits value ∧ stored.Contains value := by
  cases stored with
  | int intervals =>
    rw [range, Range.admitsUInt, Bool.and_eq_true, signed_iff, decide_eq_true_iff]
    refine guarded_iff ?_ fun _ => rfl
    unfold Fits Range.maxInt64
    omega
  | uint intervals =>
    have fits : (uint intervals).Fits value := ⟨Int.natCast_nonneg value, by exact_mod_cast greatest⟩
    exact (unsigned_iff intervals value).trans (and_iff_right fits).symm

theorem toUInt64_toNat {word : Int64} (positive : 0 ≤ word.toInt) :
    (word.toUInt64.toNat : Int) = word.toInt := by
  rw [Int64.toNat_toUInt64_of_le (Int64.le_iff_toInt_le.mpr positive)]
  exact Int.toNat_of_nonneg positive

theorem toInt64_toInt {word : UInt64} (small : word.toNat < 2 ^ 63) :
    word.toInt64.toInt = word.toNat := by
  have kept := Int64.toInt_ofNat_of_lt small
  rwa [← UInt64.toInt64_ofNat', UInt64.ofNat_toNat] at kept

theorem admitsInt64_eq (stored : IntegerRange) (word : Int64) :
    stored.admitsInt64 word = stored.range.admitsInt word.toInt := by
  rw [Bool.eq_iff_iff, admitsInt_iff stored word.le_toInt word.toInt_lt]
  cases stored with
  | int intervals =>
    have fits : (int intervals).Fits word.toInt := ⟨word.le_toInt, word.toInt_lt⟩
    exact (signedWord_iff intervals word).trans (and_iff_right fits).symm
  | uint intervals =>
    rw [admitsInt64, Bool.and_eq_true, unsignedWord_iff, decide_eq_true_iff]
    refine guarded_iff ?_ fun inside => toUInt64_toNat inside.1
    have bound := word.toInt_lt
    rw [Int64.le_iff_toInt_le, Int64.toInt_zero, Fits]
    omega

theorem admitsUInt64_eq (stored : IntegerRange) (word : UInt64) :
    stored.admitsUInt64 word = stored.range.admitsUInt word.toNat := by
  rw [Bool.eq_iff_iff, admitsUInt_iff stored word.toNat_lt]
  cases stored with
  | int intervals =>
    rw [admitsUInt64, Bool.and_eq_true, signedWord_iff, decide_eq_true_iff]
    refine guarded_iff ?_ fun inside => toInt64_toInt (by exact_mod_cast inside.2)
    have last : Int64.maxValue.toUInt64.toNat = 2 ^ 63 - 1 := by decide
    rw [UInt64.le_iff_toNat_le, last, Fits]
    omega
  | uint intervals =>
    have fits : (uint intervals).Fits word.toNat :=
      ⟨Int.natCast_nonneg _, by exact_mod_cast word.toNat_lt⟩
    exact (unsignedWord_iff intervals word).trans (and_iff_right fits).symm

structure Decides (stored : IntegerRange) : Prop where
  int : ∀ value : Int, -2 ^ 63 ≤ value → value < 2 ^ 63 →
    (stored.range.admitsInt value = true ↔ stored.closed.Contains value)
  uint : ∀ value : Nat, value < 2 ^ 64 →
    (stored.range.admitsUInt value = true ↔ stored.closed.Contains value)
  agrees : ∀ value : Nat, value < 2 ^ 63 →
    stored.range.admitsInt value = stored.range.admitsUInt value
  text : ∀ text : String,
    stored.range.admitsText text = true ↔ ∀ c ∈ text.toList, stored.Contains c.toNat
  bytes : ∀ bytes : List UInt8,
    stored.range.admitsBytes bytes = true ↔ ∀ byte ∈ bytes, stored.Contains byte.toNat
  -- The words of its kind are all that the missing ends of its intervals leave out.
  closed : ∀ value, stored.closed.Contains value ↔ stored.Fits value ∧ stored.Contains value
  int64 : ∀ word, stored.admitsInt64 word = stored.range.admitsInt word.toInt
  uint64 : ∀ word, stored.admitsUInt64 word = stored.range.admitsUInt word.toNat

theorem admitsUInt_small (stored : IntegerRange) {value : Nat} (small : value < 2 ^ 63) :
    stored.range.admitsUInt value = true ↔ stored.Contains value :=
  (stored.admitsUInt_iff (by omega)).trans (and_iff_right (stored.fits_of_small small))

-- A range of integers admits what one of its intervals contains, whichever kind of word asks and
-- whichever kind the intervals are of. An interval without an end contains no integer that no
-- word of its own kind stands for.
theorem integer_ranges_decide (stored : IntegerRange) : stored.Decides := by
  refine ⟨?_, ?_, ?_, ?_, ?_, stored.closed_contains, stored.admitsInt64_eq,
    stored.admitsUInt64_eq⟩
  · intro value least greatest
    rw [closed_contains, stored.admitsInt_iff least greatest]
  · intro value greatest
    rw [closed_contains, stored.admitsUInt_iff greatest]
  · intro value small
    have least : -2 ^ 63 ≤ (value : Int) := by omega
    rw [Bool.eq_iff_iff, stored.admitsInt_iff least (by exact_mod_cast small),
      stored.admitsUInt_iff (by omega)]
  · intro text
    rw [Range.admitsText, List.all_eq_true]
    refine forall₂_congr fun c _ => stored.admitsUInt_small ?_
    exact c.val.toNat_lt.trans (by decide)
  · intro bytes
    rw [Range.admitsBytes, List.all_eq_true]
    refine forall₂_congr fun byte _ => stored.admitsUInt_small ?_
    exact byte.toNat_lt.trans (by decide)

-- An interval without a lower end contains -1, and one without an upper end every integer.
theorem unbounded_intervals_end_with_words :
    let upTo : IntegerRange := .uint [⟨.unbounded, .included 5⟩]
    let all : IntegerRange := .int [⟨.unbounded, .unbounded⟩]
    upTo.Contains (-1) ∧ upTo.range.admitsInt (-1) = false ∧
      all.Contains (2 ^ 63 : Nat) ∧ all.range.admitsUInt (2 ^ 63) = false ∧
      ¬ (∀ stored : IntegerRange, ∀ value : Int, -2 ^ 63 ≤ value → value < 2 ^ 63 →
        (stored.range.admitsInt value = true ↔ stored.Contains value)) ∧
      ¬ (∀ stored : IntegerRange, ∀ value : Nat, value < 2 ^ 64 →
        (stored.range.admitsUInt value = true ↔ stored.Contains value)) := by
  intro upTo all
  have below : upTo.Contains (-1) := ⟨_, List.mem_singleton_self _, trivial, (by decide : (-1 : Int) ≤ 5)⟩
  have above : all.Contains (2 ^ 63 : Nat) := ⟨_, List.mem_singleton_self _, trivial, trivial⟩
  have refusedBelow : upTo.range.admitsInt (-1) = false := by decide
  have refusedAbove : all.range.admitsUInt (2 ^ 63) = false := by decide
  refine ⟨below, refusedBelow, above, refusedAbove, ?_, ?_⟩
  · intro decided
    have admitted := (decided upTo (-1) (by decide) (by decide)).mpr below
    rw [refusedBelow] at admitted
    cases admitted
  · intro decided
    have admitted := (decided all (2 ^ 63) (by decide)).mpr above
    rw [refusedAbove] at admitted
    cases admitted

end IntegerRange

end Ebml
