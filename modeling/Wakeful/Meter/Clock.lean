import Wakeful.Meter.Word
import Wakeful.System.Span

/-! The monotonic clock in nanoseconds, and sleeping until it reaches a target. -/

namespace Wakeful

/-- A reading of the monotonic clock, made of two signed words. -/
structure ClockReading where
  /-- Whole seconds. -/
  seconds : Int
  /-- Nanoseconds beyond them. -/
  nanoseconds : Int
  deriving DecidableEq, Repr

namespace ClockReading

/-- The reading as a number of nanoseconds. -/
def total (reading : ClockReading) : Except Overflow Nat := do
  -- Both words are read as unsigned ones, and first the product and then the sum has to fit.
  let whole ← unsignedResult .multiplication (unsignedReading reading.seconds * 1000000000)
  unsignedResult .addition (whole + unsignedReading reading.nanoseconds)

/-- How long to sleep until the clock reaches a target, or nothing if it is already past it. -/
def sleepUntil (reading : ClockReading) (target : Nat) : Except Overflow (Option Span) := do
  -- A target that is reached exactly still asks for an empty sleep.
  let current ← reading.total
  if target < current then return none
  else return some (.ofNanoseconds (← unsignedDifference target current))

end ClockReading

end Wakeful
