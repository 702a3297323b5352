/-!
Floating-point numbers of 64 bits as exact values, read from decimals by rounding to the nearest.
-/

namespace Wakeful

/-- A floating-point number of 64 bits. -/
inductive Binary64 where
  /-- A sign, a whole number and the power of two that it is multiplied by. -/
  | finite (negative : Bool) (significand : Nat) (exponent : Int)
  /-- A value beyond all finite ones. -/
  | infinite (negative : Bool)
  /-- No number at all. -/
  | notANumber
  deriving DecidableEq, Repr

namespace Binary64

/-- The least exponent. -/
def leastExponent : Int := -1074

/-- The greatest exponent of a finite number. -/
def greatestExponent : Int := 971

/-- The first significand that needs one bit too many. -/
def significandRange : Nat := 0x20000000000000

/-- The least significand of a number that uses all its bits. -/
def normalSignificand : Nat := 0x10000000000000

/-- A quotient rounded to the nearest whole number, a half to the even neighbour. -/
def roundedQuotient (numerator denominator : Nat) : Nat :=
  -- Twice the remainder is compared with the denominator.
  let whole := numerator / denominator
  let twice := 2 * (numerator % denominator)
  if denominator < twice then whole + 1
  else if twice = denominator then whole + whole % 2
  else whole

/-- A quotient scaled down by a power of two and rounded. -/
def scaledQuotient (numerator denominator : Nat) (exponent : Int) : Nat :=
  -- A negative power scales the numerator up instead.
  if 0 ≤ exponent then roundedQuotient numerator (denominator * Nat.pow 2 exponent.toNat)
  else roundedQuotient (numerator * Nat.pow 2 (-exponent).toNat) denominator

/--
The exponent at which a positive quotient has all the bits of a significand, or the least exponent.
-/
def fittingExponent (numerator denominator : Nat) : Int :=
  -- The difference of the bit lengths is off by one at most.
  let guess := (Nat.log2 numerator : Int) - (Nat.log2 denominator : Int) - 52
  let fits : Bool :=
    if 0 ≤ guess then denominator * Nat.pow 2 (guess.toNat + 52) ≤ numerator
    else denominator * 0x10000000000000 ≤ numerator * Nat.pow 2 (-guess).toNat
  max leastExponent (if fits then guess else guess - 1)

/-- The number nearest to a quotient. -/
def ofQuotient (negative : Bool) (numerator denominator : Nat) : Binary64 :=
  -- Rounding may carry into one bit more, and what is too large is infinite.
  if numerator = 0 then .finite negative 0 leastExponent
  else
    let exponent := fittingExponent numerator denominator
    let significand := scaledQuotient numerator denominator exponent
    let (significand, exponent) :=
      if significand = significandRange then
        (normalSignificand, exponent + 1)
      else
        (significand, exponent)
    if greatestExponent < exponent then
      .infinite negative
    else
      .finite negative significand exponent

/-- The number of decimal digits of a whole number. -/
def digitCount (value : Nat) : Nat :=
  -- Zero has one digit.
  (Nat.toDigits 10 value).length

/--
The number nearest to a decimal, given as a whole number and
the power of ten that it is multiplied by.
-/
def ofDecimal (negative : Bool) (digits : Nat) (scale : Int) : Binary64 :=
  -- Far beyond the range the powers of ten need not be computed.
  if digits = 0 then .finite negative 0 leastExponent
  else if 400 < scale + (digitCount digits : Int) then .infinite negative
  else if scale + (digitCount digits : Int) < -400 then .finite negative 0 leastExponent
  else if 0 ≤ scale then ofQuotient negative (digits * Nat.pow 10 scale.toNat) 1
  else ofQuotient negative digits (Nat.pow 10 (-scale).toNat)

end Binary64

end Wakeful
