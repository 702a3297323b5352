import Wakeful.Toml.Number

/-! Dates and times of day, which are checked for their ranges and kept as they were written. -/

namespace Wakeful.Toml

/-- Reads so many decimal digits as a number. -/
def fixedDigits? (count : Nat) (characters : List Char) : Option (Nat × List Char) :=
  -- Exactly that many characters are looked at.
  let digits := characters.take count
  if digits.length = count ∧ digits.all isDecimal then
    some (numberOf 10 digits, characters.drop count)
  else none

/-- Reads a number of two digits within bounds. -/
def twoDigits? (least greatest : Nat) (characters : List Char) : Option (Nat × List Char) := do
  -- Out of bounds is as bad as no number.
  let (value, rest) ← fixedDigits? 2 characters
  if least ≤ value ∧ value ≤ greatest then return (value, rest) else none

/-- Takes one given character. -/
def mark? (character : Char) : List Char → Option (List Char)
  -- Anything else is refused.
  | [] => none
  | first :: rest => if first = character then some rest else none

/-- Whether a year has a leap day. -/
def isLeapYear (year : Nat) : Bool :=
  -- Of the full centuries only every fourth has one.
  year % 4 = 0 && (year % 100 ≠ 0 || year % 400 = 0)

/-- The number of days in a month. -/
def daysIn (year month : Nat) : Nat :=
  -- February is the only month whose length depends on the year.
  if month = 2 then if isLeapYear year then 29 else 28
  else if month = 4 ∨ month = 6 ∨ month = 9 ∨ month = 11 then 30
  else 31

/-- What is left after a date. -/
def date? (characters : List Char) : Option (List Char) := do
  -- The day has to exist in that month of that year.
  let (year, rest) ← fixedDigits? 4 characters
  let rest ← mark? '-' rest
  let (month, rest) ← twoDigits? 1 12 rest
  let rest ← mark? '-' rest
  let (_, rest) ← twoDigits? 1 (daysIn year month) rest
  return rest

/-- What is left after the fraction of a second, if there is one. -/
def secondFraction? : List Char → Option (List Char)
  -- A point has to be followed by a digit.
  | '.' :: rest =>
    match rest.takeWhile isDecimal with
    | [] => none
    | _ => some (rest.dropWhile isDecimal)
  | characters => some characters

/-- What is left after a time of day. -/
def time? (characters : List Char) : Option (List Char) := do
  -- A minute may have a leap second.
  let (_, rest) ← twoDigits? 0 23 characters
  let rest ← mark? ':' rest
  let (_, rest) ← twoDigits? 0 59 rest
  let rest ← mark? ':' rest
  let (_, rest) ← twoDigits? 0 60 rest
  secondFraction? rest

/-- What is left after an offset from universal time, if there is one. -/
def offset? : List Char → Option (List Char)
  -- A sign without a full offset is a fault.
  | 'Z' :: rest | 'z' :: rest => some rest
  | first :: rest =>
    if first = '+' ∨ first = '-' then do
      let (_, rest) ← twoDigits? 0 23 rest
      let rest ← mark? ':' rest
      let (_, rest) ← twoDigits? 0 59 rest
      return rest
    else some (first :: rest)
  | [] => some []

/-- What is left after a time of day and an offset that follow a date, if they do. -/
def timeAfterDate? : List Char → Option (List Char)
  -- A blank behind a date need not announce a time.
  | mark :: rest =>
    if mark = 'T' ∨ mark = 't' ∨ mark = ' ' then
      match twoDigits? 0 23 rest with
      | some (_, ':' :: _) => (time? rest).bind offset?
      | _ => some (mark :: rest)
    else some (mark :: rest)
  | [] => some []

/-- Whether characters can only be a date or a time of day. -/
def announcesMoment (characters : List Char) : Bool :=
  -- Four digits and a dash open a date, two digits and a colon a time.
  match fixedDigits? 4 characters, fixedDigits? 2 characters with
  | some (_, '-' :: _), _ => true
  | _, some (_, ':' :: _) => true
  | _, _ => false

/-- Reads a date, a time of day, or a date with a time of day. -/
def moment? (characters : List Char) : Option (Value × List Char) := do
  -- What was read is found again as the difference in length.
  let rest ← match date? characters with
    | some rest => timeAfterDate? rest
    | none => time? characters
  return (.moment (characters.take (characters.length - rest.length)), rest)

end Wakeful.Toml
