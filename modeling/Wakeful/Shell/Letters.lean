import Wakeful.Text.Octets

/-!
A shell works on letters that stand for single octets, so that scripts and values need not be text.
-/

namespace Wakeful.Shell

/-- Letters that stand for single octets. -/
abbrev Letters := List Char

/-- The letters that stand for octets. -/
def lettersOf (octets : Octets) : Letters :=
  -- Each octet is the number of its letter.
  octets.map fun octet => Char.ofNat octet.toNat

/-- The octets that letters stand for. -/
def octetsOf (letters : Letters) : Octets :=
  -- Each letter's number is its octet.
  letters.map fun letter => UInt8.ofNat letter.toNat

/-- Whether a letter parts words. -/
def isBlank (letter : Char) : Bool := letter = ' ' || '\t' ≤ letter && letter ≤ '\x0d'

/-- The number that digits spell, and nothing if there is anything else. -/
def number? (letters : Letters) : Option Nat :=
  -- There has to be a digit.
  if letters.isEmpty then none
  else letters.foldlM (fun value letter =>
    if letter.isDigit then some (value * 10 + (letter.toNat - 48)) else none) 0

/-- The whole number that digits spell after an optional sign. -/
def integer? : Letters → Option Int
  -- A sign alone is no number.
  | '-' :: digits => (number? digits).map fun value => -(value : Int)
  | '+' :: digits => (number? digits).map fun value => (value : Int)
  | digits => (number? digits).map fun value => (value : Int)

/-- The digits of a whole number. -/
def digitsOf (value : Int) : Letters :=
  -- Only negative numbers have a sign.
  (toString value).toList

/-- What numbers come to together. -/
def totalOf (numbers : List Nat) : Nat :=
  -- No numbers come to nothing.
  numbers.foldl (fun total number => total + number) 0

/-- The lines of a text, without an empty one after the last line end. -/
def lines (letters : Letters) : List Letters :=
  -- A last line without an end counts too.
  let all := letters.foldr (fun letter lines =>
    if letter = '\n' then [] :: lines
    else match lines with
      | [] => [[letter]]
      | first :: rest => (letter :: first) :: rest) [[]]
  if all.getLast? = some [] then all.dropLast else all

/-- Lines with their ends. -/
def unlines (lines : List Letters) : Letters :=
  -- Every line gets an end.
  lines.flatMap (· ++ ['\n'])

end Wakeful.Shell
