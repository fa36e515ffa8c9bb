namespace Ebml

-- Double-precision numbers as their 64 bits: a sign, eleven bits of exponent and
-- fifty-two of fraction. Every rounding here is to the nearest number, ties to even,
-- and is done in exact natural-number arithmetic.
structure Binary64 where
  bits : UInt64
deriving DecidableEq, Repr

namespace Binary64

def infinityBits : Nat := 0x7ff0000000000000

def withSign (negative : Bool) (magnitude : Nat) : Binary64 :=
  ⟨UInt64.ofNat (if negative then 0x8000000000000000 + magnitude else magnitude)⟩

def zero : Binary64 := withSign false 0

def infinity (negative : Bool) : Binary64 := withSign negative infinityBits

def quietNaN (negative : Bool) : Binary64 := withSign negative 0x7ff8000000000000

def isNegative (x : Binary64) : Bool := 0x8000000000000000 ≤ x.bits.toNat

def magnitude (x : Binary64) : Nat := x.bits.toNat % 0x8000000000000000

def isNaN (x : Binary64) : Bool := infinityBits < x.magnitude

-- Numbers other than NaN are ordered as these integers are; both zeros have key 0.
def orderKey (x : Binary64) : Int :=
  if x.isNegative then -(x.magnitude : Int) else x.magnitude

def le (x y : Binary64) : Bool := !x.isNaN && !y.isNaN && decide (x.orderKey ≤ y.orderKey)

def lt (x y : Binary64) : Bool := !x.isNaN && !y.isNaN && decide (x.orderKey < y.orderKey)

def nearestEven (num den : Nat) : Nat :=
  let down := num / den
  let twice := 2 * (num % den)
  if den < twice ∨ (twice = den ∧ down % 2 = 1) then down + 1 else down

def binaryExponent (num den : Nat) : Int :=
  let guess : Int := (num.log2 : Int) - den.log2
  let reached :=
    if 0 ≤ guess then decide (den <<< guess.toNat ≤ num)
    else decide (den ≤ num <<< (-guess).toNat)
  if reached then guess else guess - 1

-- The nearest number to `num / den` with the given sign. The significand is counted in
-- units of 2^unit, and adding it to the exponent's field carries when it rounds up to
-- the next power of two; what reaches past the largest number is infinite.
def ofRatio (negative : Bool) (num den : Nat) : Binary64 :=
  if num = 0 ∨ den = 0 then withSign negative 0
  else
    let unit := max (binaryExponent num den - 52) (-1074)
    let significand :=
      if 0 ≤ unit then nearestEven num (den <<< unit.toNat)
      else nearestEven (num <<< (-unit).toNat) den
    withSign negative (min (((unit + 1074).toNat <<< 52) + significand) infinityBits)

def ofInt (n : Int) : Binary64 := ofRatio (n < 0) n.natAbs 1

def ofNat (n : Nat) : Binary64 := ofRatio false n 1

def ofBinary32 (bits : Nat) : Binary64 :=
  let negative := 0x80000000 ≤ bits
  let exponent := (bits >>> 23) % 0x100
  let fraction := bits % 0x800000
  if exponent = 0xff then withSign negative (infinityBits + (fraction <<< 29))
  else
    let significand := if exponent = 0 then fraction else 0x800000 + fraction
    ofRatio negative (significand <<< max exponent 1) (1 <<< 150)

-- The nearest number to `digits` times ten to the power `exponent`. Decimals beyond
-- 10^310 or below 10^-330 are settled by their size alone.
def ofDecimal (negative : Bool) (digits : Nat) (exponent : Int) : Binary64 :=
  let places : Int := (Nat.toDigits 10 digits).length + exponent
  if digits = 0 then withSign negative 0
  else if 310 < places then infinity negative
  else if places < -330 then withSign negative 0
  else if 0 ≤ exponent then ofRatio negative (digits * Nat.pow 10 exponent.toNat) 1
  else ofRatio negative digits (Nat.pow 10 (-exponent).toNat)

example : (ofInt (-5)).bits = 0xc014000000000000 := by decide
example : (ofNat 0xffffffffffffffff).bits = 0x43f0000000000000 := by decide
example : (ofNat 0x20000000000001).bits = 0x4340000000000000 := by decide
example : (ofBinary32 0x3fc00000).bits = 0x3ff8000000000000 := by decide
example : (ofBinary32 1).bits = 0x36a0000000000000 := by decide
example : (ofDecimal false 1 (-1)).bits = 0x3fb999999999999a := by decide
example : (ofDecimal false 5 (-324)).bits = 1 := by decide +kernel
example : (ofDecimal true 18 307).bits = 0xfff0000000000000 := by decide +kernel

end Binary64

end Ebml
