import Wakeful.Toml.Value
import Wakeful.Toml.Reader

/-! Whole numbers in four bases and floating-point numbers, both with underscores between digits. -/

namespace Wakeful.Toml

/-- Whether a character is a decimal digit. -/
def isDecimal (character : Char) : Bool :=
  -- Only the ten common digits count.
  '0' ≤ character && character ≤ '9'

/--
Reads digits after the first one, with the digits read so
far in reverse, and refuses a stray underscore.
-/
def moreDigits (isDigit : Char → Bool) : (read : List Char) → Reader (List Char)
  -- An underscore has to stand between two digits.
  | read, '_' :: digit :: rest =>
    if isDigit digit then moreDigits isDigit (digit :: read) rest else none
  | _, ['_'] => none
  | read, digit :: rest =>
    if isDigit digit then
      moreDigits isDigit (digit :: read) rest
    else
      some (read.reverse, digit :: rest)
  | read, [] => some (read.reverse, [])

/-- Reads at least one digit. -/
def digits? (isDigit : Char → Bool) : Reader (List Char)
  -- No underscore may come first.
  | [] => none
  | digit :: rest => if isDigit digit then moreDigits isDigit [digit] rest else none

/-- Reads decimal digits of which the first is no zero, unless it is the only one. -/
def plainDigits? : Reader (List Char)
  -- Digits behind a leading zero are not taken.
  | '0' :: rest => some (['0'], rest)
  | characters => digits? isDecimal characters

/-- Reads a sign, where none counts as plus. -/
def sign : List Char → Bool × List Char
  -- The answer says whether the number is negative.
  | '-' :: rest => (true, rest)
  | '+' :: rest => (false, rest)
  | characters => (false, characters)

/-- The number that digits of a base spell. -/
def numberOf (base : Nat) (digits : List Char) : Nat :=
  -- Only digits get here, so every one has a value.
  digits.foldl (fun value digit => value * base + (hexDigit? digit).getD 0) 0

/-- The greatest whole number. -/
def greatestInteger : Int := 0x7FFFFFFFFFFFFFFF

/-- The least whole number. -/
def leastInteger : Int := -0x8000000000000000

/-- A whole number within the bounds. -/
def boundedInteger (value : Int) : Option Value :=
  -- Whole numbers have 64 bits.
  if leastInteger ≤ value ∧ value ≤ greatestInteger then some (.integer value) else none

/-- Reads a whole number in a base other than ten. -/
def basedInteger? (base : Nat) (characters : List Char) : Option (Value × List Char) := do
  -- Digits are those below the base, and there is no sign.
  let isDigit (character : Char) : Bool := (hexDigit? character).any (· < base)
  let (digits, rest) ← digits? isDigit characters
  return (← boundedInteger (numberOf base digits), rest)

/-- Reads a whole number. -/
def integer? : Reader Value
  -- Other bases are announced by a letter behind a zero.
  | '0' :: 'x' :: rest => basedInteger? 16 rest
  | '0' :: 'o' :: rest => basedInteger? 8 rest
  | '0' :: 'b' :: rest => basedInteger? 2 rest
  | characters => do
    let (negative, rest) := sign characters
    let (digits, rest) ← plainDigits? rest
    let magnitude : Int := numberOf 10 digits
    return (← boundedInteger (if negative then -magnitude else magnitude), rest)

/-- Reads the part of a number behind its point. -/
def fraction? : Reader (List Char)
  -- There has to be a digit behind the point.
  | '.' :: rest => digits? isDecimal rest
  | _ => none

/-- Reads an exponent of ten. -/
def exponent? : Reader Int
  -- Leading zeros are allowed here.
  | letter :: rest =>
    if letter = 'e' ∨ letter = 'E' then do
      let (negative, rest) := sign rest
      let (digits, rest) ← digits? isDecimal rest
      let magnitude : Int := numberOf 10 digits
      return (if negative then -magnitude else magnitude, rest)
    else none
  | [] => none

/--
Reads what makes a number a floating-point one: a fraction, an exponent, or both in this order.
-/
def floatTail? (characters : List Char) : Option ((List Char × Int) × List Char) :=
  -- An exponent may follow a fraction, and one of the two has to be there.
  match characters with
  | '.' :: _ =>
    match fraction? characters with
    | some (digits, rest) =>
      match rest with
      | 'e' :: _ | 'E' :: _ => (exponent? rest).map fun (power, rest) => ((digits, power), rest)
      | _ => some ((digits, 0), rest)
    | none => none
  | _ => (exponent? characters).map fun (power, rest) => (([], power), rest)

/-- A floating-point number, unless it overflows upwards. -/
def boundedNumber (value : Binary64) : Option Value :=
  -- Only what overflows below zero is taken as infinite.
  if value = .infinite false then none else some (.number value)

/-- Reads a floating-point number that is written with digits. -/
def decimalNumber? (characters : List Char) : Option (Value × List Char) := do
  -- The point only moves the power of ten.
  let (negative, rest) := sign characters
  let (whole, rest) ← plainDigits? rest
  let ((fraction, power), rest) ← floatTail? rest
  let value :=
    Binary64.ofDecimal negative (numberOf 10 (whole ++ fraction)) (power - (fraction.length : Int))
  return (← boundedNumber value, rest)

/-- Reads one of the values that are written as words. -/
def specialNumber? (characters : List Char) : Option (Value × List Char) :=
  -- A sign may precede them, and on what is no number it does not count.
  match sign characters with
  | (negative, 'i' :: 'n' :: 'f' :: rest) => some (.number (.infinite negative), rest)
  | (_, 'n' :: 'a' :: 'n' :: rest) => some (.number .notANumber, rest)
  | _ => none

/-- Reads a number of either kind. -/
def number? (characters : List Char) : Option (Value × List Char) :=
  -- A number with a fraction or an exponent is never cut short to a whole number.
  let (_, unsigned) := sign characters
  let continues : Bool := match plainDigits? unsigned with
    | some (_, '.' :: _) | some (_, 'e' :: _) | some (_, 'E' :: _) => true
    | _ => false
  if continues then decimalNumber? characters
  else (specialNumber? characters).or (integer? characters)

end Wakeful.Toml
