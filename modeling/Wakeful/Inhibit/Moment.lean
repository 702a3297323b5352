import Wakeful.Meter.Word
import Wakeful.System.Span

/-! Moments of the monotonic clock, of which the distant future cannot be expressed. -/

namespace Wakeful

/-- A moment of the monotonic clock. -/
structure Moment where
  /-- Nanoseconds since the clock's own start. -/
  nanoseconds : Int
  deriving DecidableEq, Repr

/-- The moment a span later, if the clock can express it. -/
def Moment.after (moment : Moment) (span : Span) : Except Overflow Moment :=
  -- The clock holds its seconds in a signed word.
  let later := moment.nanoseconds + (span.nanoseconds : Int)
  if later / 1000000000 ≤ greatestSigned then .ok ⟨later⟩ else .error .moment

end Wakeful
