namespace Ebml

-- Dates are counted in nanoseconds from the start of 2001.
-- A moment is told by its side of, and its distance from, the start of 1970.
structure Moment where
  beforeEpoch : Bool
  seconds : Nat
  nanoseconds : Nat
deriving DecidableEq, Repr

namespace Moment

def dateOrigin : Nat := 978307200

def nanosecondsPerSecond : Nat := 1000000000

def ofDate (nanoseconds : Int) : Moment :=
  let total : Int := dateOrigin * nanosecondsPerSecond + nanoseconds
  { beforeEpoch := total < 0
    seconds := total.natAbs / nanosecondsPerSecond
    nanoseconds := total.natAbs % nanosecondsPerSecond }

end Moment

end Ebml
