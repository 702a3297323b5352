import Wakeful.Meter.Clock

/-! A thread that asks a running clock for the time, and sleeps now and then. -/

namespace Wakeful

/-- What a thread asks for. -/
inductive ClockCall where
  /-- The time. -/
  | tell
  /-- To sleep for so many milliseconds. -/
  | sleep (milliseconds : UInt32)
  /-- To sleep until the clock reaches a target. -/
  | sleepTo (target : UInt64)
  deriving DecidableEq, Repr

/-- What a thread gets back. -/
inductive ClockAnswer where
  /-- The time in nanoseconds. -/
  | time (now : Nat)
  /-- The sleep is over. -/
  | rested
  /-- Whether it has slept until the target. -/
  | reached (slept : Bool)
  deriving DecidableEq, Repr

/-- What comes of a call. -/
structure ClockReply where
  /-- The spans that the thread has slept for, in order. -/
  sleeps : List Span
  /-- What it gets back, unless a result does not fit. -/
  answer : Except Overflow ClockAnswer

namespace ClockReply

/-- What comes of having to sleep for a span or being past the target. -/
def ofSleep : Except Overflow (Option Span) → ClockReply
  -- Whoever is past the target already is told so without any sleep.
  | .ok none => ⟨[], .ok (.reached false)⟩
  | .ok (some span) => ⟨[span], .ok (.reached true)⟩
  | .error fault => ⟨[], .error fault⟩

/-- The nanoseconds that a thread has slept for. -/
def slept (reply : ClockReply) : Nat :=
  -- Nothing else takes a time that is known beforehand.
  reply.sleeps.foldl (fun total span => total + span.nanoseconds) 0

end ClockReply

/-- What comes of a call, by what the clock shows at its beginning. -/
def ClockCall.perform (reading : ClockReading) : ClockCall → ClockReply
  -- Every call looks at the clock once at most.
  | tell => ⟨[], reading.total.map .time⟩
  | sleep milliseconds => ⟨[.ofMilliseconds milliseconds.toNat], .ok .rested⟩
  | sleepTo target => .ofSleep (reading.sleepUntil target.toNat)

end Wakeful
