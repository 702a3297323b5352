import Wakeful.Decimal.Binary64

/-! The fewest decimal digits that read back as the same floating-point number. -/

namespace Wakeful.Binary64

/--
A positive number as a fraction, together with the ends of
what rounds to it, all over one denominator.
-/
structure Neighbourhood where
  /-- The number itself. -/
  value : Nat
  /-- The lower end. -/
  low : Nat
  /-- The upper end. -/
  high : Nat
  /-- The common denominator. -/
  denominator : Nat
  /-- Whether the ends themselves round to the number. -/
  endsIncluded : Bool

/-- What rounds to a positive number. -/
def neighbourhood (significand : Nat) (exponent : Int) : Neighbourhood :=
  -- Quarters of a step are needed below a power of two, where the numbers lie twice as close.
  let below := if significand = normalSignificand ∧ leastExponent < exponent then 1 else 2
  let scale : Nat := if 0 ≤ exponent then Nat.pow 2 exponent.toNat else 1
  { value := 4 * significand * scale
    low := (4 * significand - below) * scale
    high := (4 * significand + 2) * scale
    denominator := if 0 ≤ exponent then 4 else 4 * Nat.pow 2 (-exponent).toNat
    endsIncluded := significand % 2 == 0 }

/-- Whether a decimal rounds to the number. -/
def Neighbourhood.holds (around : Neighbourhood) (digits : Nat) (scale : Int) : Bool :=
  -- Both ends are compared without dividing.
  let (point, unit) := if 0 ≤ scale then (digits * Nat.pow 10 scale.toNat * around.denominator, 1)
    else (digits * around.denominator, Nat.pow 10 (-scale).toNat)
  let low := around.low * unit
  let high := around.high * unit
  (low < point || (around.endsIncluded && low == point)) &&
    (point < high || (around.endsIncluded && point == high))

/-- The power of ten just at or below the number. -/
def Neighbourhood.magnitude (around : Neighbourhood) : Int :=
  -- Below one, the digits of the reciprocal are counted.
  if around.denominator ≤ around.value then
    (digitCount (around.value / around.denominator) : Int) - 1
  else
    let places := digitCount (around.denominator / around.value)
    if around.value * Nat.pow 10 (places - 1) = around.denominator then 1 - (places : Int)
    else -(places : Int)

/--
The decimal of so many digits that rounds to the number and is nearest to it, if there is any.
-/
def Neighbourhood.decimalOf (around : Neighbourhood) (count : Nat) : Option (Nat × Int) :=
  -- Only the two neighbours on the grid of that many digits can be
  -- nearest, and halfway between them the greater one is taken.
  let scale := around.magnitude - (count : Int) + 1
  let (point, unit) := if 0 ≤ scale then (around.value, around.denominator * Nat.pow 10 scale.toNat)
    else (around.value * Nat.pow 10 (-scale).toNat, around.denominator)
  let below := point / unit
  let (nearer, farther) :=
    if 2 * (point % unit) < unit then (below, below + 1) else (below + 1, below)
  if around.holds nearer scale then some (nearer, scale)
  else if around.holds farther scale then some (farther, scale)
  else none

/-- The shortest decimal that reads back as the number. -/
def Neighbourhood.shortest (around : Neighbourhood) : Nat × Int :=
  -- Seventeen digits always suffice.
  ((List.range 17).findSome? fun count => around.decimalOf (count + 1)).getD (0, 0)

/-- A whole number times a power of ten, written out with a point. -/
def positional (digits : Nat) (scale : Int) : String :=
  -- Whole numbers get one place behind the point, and small numbers get leading zeros.
  let shown := Nat.toDigits 10 digits
  if 0 ≤ scale then String.ofList (shown ++ List.replicate scale.toNat '0') ++ ".0"
  else
    let places := (-scale).toNat
    let padded := List.replicate (places + 1 - shown.length) '0' ++ shown
    let fraction := (padded.drop (padded.length - places)).reverse.dropWhile (· == '0')
    String.ofList (padded.take (padded.length - places)) ++ "." ++
      (if fraction.isEmpty then "0" else String.ofList fraction.reverse)

/-- The shortest text of a number, without an exponent. -/
def text : Binary64 → String
  -- Zero keeps its sign, and no number has none.
  | .notANumber => "NaN"
  | .infinite negative => if negative then "-inf" else "inf"
  | .finite negative significand exponent =>
    let sign := if negative then "-" else ""
    if significand = 0 then sign ++ "0.0"
    else
      let (digits, scale) := (neighbourhood significand exponent).shortest
      sign ++ positional digits scale

end Wakeful.Binary64
