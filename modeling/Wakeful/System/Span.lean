/-! Spans of time, counted in nanoseconds and shown in the largest unit that they reach. -/

namespace Wakeful

/-- A span of time. -/
structure Span where
  /-- Its length in nanoseconds. -/
  nanoseconds : Nat
  deriving DecidableEq, Repr

namespace Span

/-- A span of whole seconds. -/
def ofSeconds (seconds : Nat) : Span :=
  -- A second has a thousand million nanoseconds.
  ⟨seconds * 1000000000⟩

/-- A span of whole milliseconds. -/
def ofMilliseconds (milliseconds : Nat) : Span :=
  -- A millisecond has a million nanoseconds.
  ⟨milliseconds * 1000000⟩

/-- A span of as many nanoseconds as a word says. -/
def ofNanoseconds (nanoseconds : Nat) : Span :=
  -- The whole seconds are held in a word of their own, and what is beyond them in half a word.
  let seconds := nanoseconds / 1000000000 % 0x10000000000000000
  let beyond := nanoseconds % 1000000000 % 0x100000000
  ⟨seconds * 1000000000 + beyond⟩

/-- The whole seconds within a span. -/
def seconds (span : Span) : Nat :=
  -- What is left over is dropped.
  span.nanoseconds / 1000000000

/-- The whole milliseconds within a span. -/
def milliseconds (span : Span) : Nat :=
  -- What is left over is dropped.
  span.nanoseconds / 1000000

/-- A fraction of so many places without its closing zeros, after a point. -/
def fraction (places value : Nat) : String :=
  -- Leading zeros keep their place, and a fraction of zero is not shown at all.
  let digits := Nat.toDigits 10 value
  let padded := List.replicate (places - digits.length) '0' ++ digits
  let kept := (padded.reverse.dropWhile (· == '0')).reverse
  if kept.isEmpty then "" else "." ++ String.ofList kept

/-- A span in the largest unit that it reaches. -/
def text (span : Span) : String :=
  -- Seconds have nine places behind the point, and each smaller unit has three fewer.
  let whole := span.nanoseconds
  if 1000000000 ≤ whole then
    toString (whole / 1000000000) ++ fraction 9 (whole % 1000000000) ++ "s"
  else if 1000000 ≤ whole then
    toString (whole / 1000000) ++ fraction 6 (whole % 1000000) ++ "ms"
  else if 1000 ≤ whole then
    toString (whole / 1000) ++ fraction 3 (whole % 1000) ++ "µs"
  else toString whole ++ "ns"

end Span

end Wakeful
