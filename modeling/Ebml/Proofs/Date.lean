import Ebml.Date
import Mathlib.Algebra.Order.Ring.Int
import Mathlib.Tactic.Choose

namespace Ebml

-- Dates turned into points in time by the arithmetic of a system's clock, which has words for
-- whole seconds and for the nanoseconds within one. It gives the exact moment of every date.

-- A point in time by the seconds from the start of 1970, rounded down, and what is left.
structure Instant where
  seconds : Int64
  nanoseconds : UInt32
deriving DecidableEq

structure Span where
  seconds : UInt64
  nanoseconds : UInt32

def Span.ofSeconds (seconds : UInt64) : Span := ⟨seconds, 0⟩

def Span.ofNanoseconds (count : UInt64) : Span :=
  ⟨count / 1000000000, (count % 1000000000).toUInt32⟩

namespace Instant

def epoch : Instant := ⟨0, 0⟩

def seconds? (count : Int) : Option Int64 :=
  if -2 ^ 63 ≤ count ∧ count < 2 ^ 63 then some (Int64.ofInt count) else none

def add? (instant : Instant) (span : Span) : Option Instant := do
  let seconds ← seconds? (instant.seconds.toInt + span.seconds.toNat)
  let nanoseconds := instant.nanoseconds + span.nanoseconds
  if nanoseconds < 1000000000 then some ⟨seconds, nanoseconds⟩
  else
    let carried ← seconds? (seconds.toInt + 1)
    some ⟨carried, nanoseconds - 1000000000⟩

def sub? (instant : Instant) (span : Span) : Option Instant := do
  let seconds ← seconds? (instant.seconds.toInt - span.seconds.toNat)
  if span.nanoseconds ≤ instant.nanoseconds then
    some ⟨seconds, instant.nanoseconds - span.nanoseconds⟩
  else
    let borrowed ← seconds? (seconds.toInt - 1)
    some ⟨borrowed, instant.nanoseconds + 1000000000 - span.nanoseconds⟩

def ofDate? (date : Int64) : Option Instant := do
  let origin ← epoch.add? (.ofSeconds 978307200)
  let distance := Span.ofNanoseconds date.abs.toUInt64
  if date < 0 then origin.sub? distance else origin.add? distance

def moment (instant : Instant) : Moment :=
  if 0 ≤ instant.seconds then
    ⟨false, instant.seconds.toInt.toNat, instant.nanoseconds.toNat⟩
  else if instant.nanoseconds = 0 then ⟨true, (-instant.seconds.toInt).toNat, 0⟩
  else
    ⟨true, (-instant.seconds.toInt - 1).toNat, 1000000000 - instant.nanoseconds.toNat⟩

def Before (earlier later : Instant) : Prop :=
  earlier.seconds < later.seconds ∨
    earlier.seconds = later.seconds ∧ earlier.nanoseconds < later.nanoseconds

def Normal (instant : Instant) : Prop := instant.nanoseconds.toNat < 1000000000

def total (instant : Instant) : Int :=
  instant.seconds.toInt * 1000000000 + instant.nanoseconds.toNat

end Instant

def Span.Normal (span : Span) : Prop := span.nanoseconds.toNat < 1000000000

def Span.total (span : Span) : Int := span.seconds.toNat * 1000000000 + span.nanoseconds.toNat

theorem Span.ofNanoseconds_parts (count : UInt64) :
    (ofNanoseconds count).seconds.toNat = count.toNat / 1000000000 ∧
      (ofNanoseconds count).nanoseconds.toNat = count.toNat % 1000000000 := by
  constructor
  · exact UInt64.toNat_div _ _
  · rw [ofNanoseconds, UInt64.toNat_toUInt32, UInt64.toNat_mod]
    change count.toNat % 1000000000 % 2 ^ 32 = count.toNat % 1000000000
    omega

theorem Span.ofNanoseconds_normal (count : UInt64) : (ofNanoseconds count).Normal := by
  rw [Normal, (ofNanoseconds_parts count).2]
  exact Nat.mod_lt _ (by decide)

theorem Span.ofNanoseconds_total (count : UInt64) : (ofNanoseconds count).total = count.toNat := by
  rw [total, (ofNanoseconds_parts count).1, (ofNanoseconds_parts count).2]
  omega

theorem distance_toNat (date : Int64) : date.abs.toUInt64.toNat = date.toInt.natAbs := by
  change date.toBitVec.abs.toNat = date.toBitVec.toInt.natAbs
  have bound := date.toBitVec.isLt
  rw [BitVec.toNat_abs, BitVec.toInt_eq_msb_cond]
  split <;> omega

namespace Instant

variable {instant earlier later : Instant} {span : Span} {date : Int64} {count : Int}

theorem seconds?_some (least : -2 ^ 63 ≤ count) (greatest : count < 2 ^ 63) :
    ∃ seconds, seconds? count = some seconds ∧ seconds.toInt = count :=
  ⟨Int64.ofInt count, if_pos ⟨least, greatest⟩, Int64.toInt_ofInt_of_le least greatest⟩

theorem second_toNat : (1000000000 : UInt32).toNat = 1000000000 := rfl

theorem add?_some (normal : instant.Normal) (proper : span.Normal)
    (room : instant.seconds.toInt + span.seconds.toNat + 1 < 2 ^ 63) :
    ∃ later, instant.add? span = some later ∧ later.Normal ∧
      later.total = instant.total + span.total := by
  have least := instant.seconds.le_toInt
  unfold Normal Span.Normal at *
  have sum : (instant.nanoseconds + span.nanoseconds).toNat =
      instant.nanoseconds.toNat + span.nanoseconds.toNat := by
    rw [UInt32.toNat_add]
    omega
  obtain ⟨seconds, counted, same⟩ :=
    seconds?_some (by omega : -2 ^ 63 ≤ instant.seconds.toInt + span.seconds.toNat) (by omega)
  rw [add?, counted, Option.bind_eq_bind, Option.bind_some]
  by_cases within : instant.nanoseconds + span.nanoseconds < 1000000000
  · have fewer := UInt32.lt_iff_toNat_lt.mp within
    refine ⟨_, if_pos within, fewer, ?_⟩
    simp only [total, Span.total, same, sum]
    omega
  · have more : 1000000000 ≤ instant.nanoseconds + span.nanoseconds := UInt32.not_lt.mp within
    have left := UInt32.toNat_sub_of_le _ _ more
    rw [UInt32.le_iff_toNat_le, second_toNat] at more
    rw [second_toNat] at left
    obtain ⟨carried, counted, next⟩ :=
      seconds?_some (by omega : -2 ^ 63 ≤ seconds.toInt + 1) (by omega)
    refine ⟨⟨carried, instant.nanoseconds + span.nanoseconds - 1000000000⟩, ?_, ?_, ?_⟩
    · rw [if_neg within, counted]
      rfl
    · simp only [left]
      omega
    · simp only [total, Span.total, next, same, left]
      omega

theorem sub?_some (normal : instant.Normal) (proper : span.Normal)
    (room : -2 ^ 63 ≤ instant.seconds.toInt - span.seconds.toNat - 1) :
    ∃ earlier, instant.sub? span = some earlier ∧ earlier.Normal ∧
      earlier.total = instant.total - span.total := by
  have greatest := instant.seconds.toInt_lt
  unfold Normal Span.Normal at *
  obtain ⟨seconds, counted, same⟩ :=
    seconds?_some (by omega : -2 ^ 63 ≤ instant.seconds.toInt - span.seconds.toNat) (by omega)
  rw [sub?, counted, Option.bind_eq_bind, Option.bind_some]
  by_cases enough : span.nanoseconds ≤ instant.nanoseconds
  · have left := UInt32.toNat_sub_of_le _ _ enough
    have fewer := UInt32.le_iff_toNat_le.mp enough
    refine ⟨_, if_pos enough, ?_, ?_⟩
    · simp only [left]
      omega
    · simp only [total, Span.total, same, left]
      omega
  · have sum : (instant.nanoseconds + 1000000000).toNat =
        instant.nanoseconds.toNat + 1000000000 := by
      rw [UInt32.toNat_add, second_toNat]
      omega
    have more : span.nanoseconds ≤ instant.nanoseconds + 1000000000 := by
      rw [UInt32.le_iff_toNat_le, sum]
      omega
    have left := UInt32.toNat_sub_of_le _ _ more
    have short := UInt32.lt_iff_toNat_lt.mp (UInt32.not_le.mp enough)
    rw [sum] at left
    obtain ⟨borrowed, counted, next⟩ :=
      seconds?_some (by omega : -2 ^ 63 ≤ seconds.toInt - 1) (by omega)
    refine ⟨⟨borrowed, instant.nanoseconds + 1000000000 - span.nanoseconds⟩, ?_, ?_, ?_⟩
    · rw [if_neg enough, counted]
      rfl
    · simp only [left]
      omega
    · simp only [total, Span.total, next, same, left]
      omega

theorem ofDate?_some (date : Int64) :
    ∃ instant, ofDate? date = some instant ∧ instant.Normal ∧
      instant.total = 978307200 * 1000000000 + date.toInt := by
  have least := date.le_toInt
  have greatest := date.toInt_lt
  have distance := distance_toNat date
  have proper := Span.ofNanoseconds_normal date.abs.toUInt64
  have seconds := (Span.ofNanoseconds_parts date.abs.toUInt64).1
  have measured := Span.ofNanoseconds_total date.abs.toUInt64
  have origin : epoch.add? (.ofSeconds 978307200) = some ⟨978307200, 0⟩ := by decide
  have normal : Normal ⟨978307200, 0⟩ := (by decide : 0 < 1000000000)
  have start : total ⟨978307200, 0⟩ = 978307200 * 1000000000 := rfl
  have whole : (978307200 : Int64).toInt = 978307200 := rfl
  have sign : date < 0 ↔ date.toInt < 0 := Int64.lt_iff_toInt_lt
  rw [ofDate?, origin, Option.bind_eq_bind, Option.bind_some]
  by_cases negative : date < 0
  · rw [sign] at negative
    obtain ⟨instant, found, proper, sum⟩ := sub?_some normal proper (by dsimp only; omega)
    refine ⟨instant, (if_pos (sign.mpr negative)).trans found, proper, ?_⟩
    omega
  · obtain ⟨instant, found, proper, sum⟩ := add?_some normal proper (by dsimp only; omega)
    refine ⟨instant, (if_neg negative).trans found, proper, ?_⟩
    rw [sign] at negative
    omega

theorem before_iff (normal : earlier.Normal) (proper : later.Normal) :
    earlier.Before later ↔ earlier.total < later.total := by
  unfold Before total Normal at *
  rw [Int64.lt_iff_toInt_lt, ← Int64.toInt_inj, UInt32.lt_iff_toNat_lt]
  omega

theorem moment_eq (normal : instant.Normal) :
    instant.moment = Moment.ofDate (instant.total - 978307200 * 1000000000) := by
  have sign : 0 ≤ instant.seconds ↔ 0 ≤ instant.seconds.toInt := Int64.le_iff_toInt_le
  have none : instant.nanoseconds = 0 ↔ instant.nanoseconds.toNat = 0 := UInt32.toNat_inj.symm
  have same : (Moment.dateOrigin * Moment.nanosecondsPerSecond : Int) +
      (instant.total - 978307200 * 1000000000) = instant.total := by
    simp only [Moment.dateOrigin, Moment.nanosecondsPerSecond]
    omega
  unfold Moment.ofDate moment
  simp only [same]
  unfold total Normal Moment.nanosecondsPerSecond at *
  by_cases positive : 0 ≤ instant.seconds
  · rw [if_pos positive, Moment.mk.injEq, eq_comm, decide_eq_false_iff_not]
    rw [sign] at positive
    omega
  · rw [if_neg positive]
    rw [sign] at positive
    by_cases whole : instant.nanoseconds = 0
    · rw [if_pos whole, Moment.mk.injEq, eq_comm, decide_eq_true_iff]
      rw [none] at whole
      omega
    · rw [if_neg whole, Moment.mk.injEq, eq_comm, decide_eq_true_iff]
      rw [none] at whole
      omega

end Instant

namespace Moment

def fromEpoch (moment : Moment) : Int :=
  let distance : Int := moment.seconds * 1000000000 + moment.nanoseconds
  if moment.beforeEpoch then -distance else distance

theorem ofDate_beforeEpoch (date : Int) :
    (ofDate date).beforeEpoch = true ↔ 978307200 * 1000000000 + date < 0 :=
  decide_eq_true_iff

theorem ofDate_fromEpoch (date : Int) :
    (ofDate date).fromEpoch = 978307200 * 1000000000 + date := by
  have side := ofDate_beforeEpoch date
  unfold fromEpoch
  by_cases before : (ofDate date).beforeEpoch = true
  · rw [if_pos before]
    rw [side] at before
    simp only [ofDate, dateOrigin, nanosecondsPerSecond]
    omega
  · rw [if_neg before]
    rw [side] at before
    simp only [ofDate, dateOrigin, nanosecondsPerSecond]
    omega

end Moment

-- A date whose point in time the clock has found, and the moment that is told of it.
structure Converted (date : Int64) (instant : Instant) : Prop where
  found : Instant.ofDate? date = some instant
  told : instant.moment = Moment.ofDate date.toInt
  fraction : (Moment.ofDate date.toInt).nanoseconds < 1000000000
  distance : (Moment.ofDate date.toInt).fromEpoch = 978307200 * 1000000000 + date.toInt
  side : (Moment.ofDate date.toInt).beforeEpoch = true ↔
    978307200 * 1000000000 + date.toInt < 0

-- Every date that a word can hold is a point in time that the clock has words for, and later
-- dates are later points in time.
theorem dates_converted :
    ∃ instantOf : Int64 → Instant, (∀ date, Converted date (instantOf date)) ∧
      (∀ earlier later, earlier < later ↔ (instantOf earlier).Before (instantOf later)) ∧
      instantOf.Injective ∧ Function.Injective fun date => (instantOf date).moment := by
  choose instantOf found normal sum using Instant.ofDate?_some
  have told (date : Int64) : (instantOf date).moment = Moment.ofDate date.toInt := by
    rw [Instant.moment_eq (normal date), sum]
    congr 1
    omega
  have apart : Function.Injective fun date => (instantOf date).moment := by
    intro one other same
    have distance := congrArg Moment.fromEpoch ((told one).symm.trans (same.trans (told other)))
    rw [Moment.ofDate_fromEpoch, Moment.ofDate_fromEpoch] at distance
    exact Int64.toInt_inj.mp (by omega)
  refine ⟨instantOf, ?_, ?_, ?_, apart⟩
  · intro date
    exact ⟨found date, told date, Nat.mod_lt _ (by decide), Moment.ofDate_fromEpoch _,
      Moment.ofDate_beforeEpoch _⟩
  · intro earlier later
    rw [Instant.before_iff (normal earlier) (normal later), sum, sum, Int64.lt_iff_toInt_lt]
    omega
  · intro one other same
    exact apart (congrArg Instant.moment same)

example : (Instant.ofDate? Int64.minValue).map Instant.moment =
    some ⟨true, 8245064836, 854775808⟩ := by
  decide

end Ebml
