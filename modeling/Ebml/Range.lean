import Ebml.Binary64

namespace Ebml

inductive Bound (α : Type) where
  | unbounded
  | included (value : α)
  | excluded (value : α)
deriving DecidableEq, Repr

structure Interval (α : Type) where
  lower : Bound α
  upper : Bound α
deriving DecidableEq, Repr

namespace Interval

variable {α : Type}

def exactly (value : α) : Interval α := ⟨.included value, .included value⟩

def contains [LE α] [LT α] [DecidableLE α] [DecidableLT α] (interval : Interval α) (value : α) :
    Bool :=
  let above := match interval.lower with
    | .unbounded => true
    | .included least => decide (least ≤ value)
    | .excluded below => decide (below < value)
  let below := match interval.upper with
    | .unbounded => true
    | .included greatest => decide (value ≤ greatest)
    | .excluded above => decide (value < above)
  above && below

end Interval

namespace Binary64

instance : LE Binary64 := ⟨fun x y => x.le y = true⟩

instance : LT Binary64 := ⟨fun x y => x.lt y = true⟩

instance : DecidableLE Binary64 := fun x y => inferInstanceAs (Decidable (x.le y = true))

instance : DecidableLT Binary64 := fun x y => inferInstanceAs (Decidable (x.lt y = true))

end Binary64

-- The values an element may take: those some interval contains. The intervals are over
-- signed integers, unsigned integers or numbers.
inductive Range where
  | int (intervals : List (Interval Int))
  | uint (intervals : List (Interval Nat))
  | float (intervals : List (Interval Binary64))
deriving DecidableEq, Repr

namespace Range

def maxInt64 : Nat := 0x7fffffffffffffff

-- A negative value is in no interval of unsigned integers, and a value beyond the
-- signed 64-bit numbers is in no interval of those.
def admitsInt (range : Range) (value : Int) : Bool :=
  match range with
  | int intervals => intervals.any (·.contains value)
  | uint intervals => decide (0 ≤ value) && intervals.any (·.contains value.toNat)
  | float intervals => intervals.any (·.contains (.ofInt value))

def admitsUInt (range : Range) (value : Nat) : Bool :=
  match range with
  | int intervals => decide (value ≤ maxInt64) && intervals.any (·.contains (value : Int))
  | uint intervals => intervals.any (·.contains value)
  | float intervals => intervals.any (·.contains (.ofNat value))

def admitsFloat (range : Range) (value : Binary64) : Bool :=
  match range with
  | float intervals => intervals.any (·.contains value)
  | _ => false

def admitsText (range : Range) (text : String) : Bool :=
  text.toList.all fun c => range.admitsUInt c.toNat

def admitsBytes (range : Range) (bytes : List UInt8) : Bool :=
  bytes.all fun byte => range.admitsUInt byte.toNat

end Range

end Ebml
