import Wakeful.Shell.Spelled

/-! The orders in which lines and names are sorted. -/

namespace Wakeful.Shell.Comparison

/-- The order of two texts by the numbers of their letters. -/
def letters : Letters → Letters → Ordering
  -- A text comes before all that begin with it.
  | [], [] => .eq
  | [], _ :: _ => .lt
  | _ :: _, [] => .gt
  | first :: rest, second :: others => (compare first second).then (letters rest others)

/-- A number that is written in digits at the beginning of a text. -/
structure Written where
  /-- Whether it is below nought. -/
  isNegative : Bool
  /-- The number before its point. -/
  front : Nat
  /-- The digits after its point, of which the last is not nought. -/
  back : Letters
  /-- What follows it. -/
  rest : Letters

/-- The number that is written at the beginning of a text. -/
def written (text : Letters) : Written :=
  -- Blanks may come before it, and without digits it is nought.
  let inner := text.dropWhile fun letter => letter = ' ' || letter = '\t' || letter = '\n'
  let (isNegative, unsigned) := match inner with
    | '-' :: rest => (true, rest)
    | _ => (false, inner)
  let (front, back, rest) := Spelled.readDigits 10 unsigned
  ⟨isNegative, Spelled.valueOf 10 front, (back.reverse.dropWhile (· = '0')).reverse, rest⟩

/-- Whether a written number is nought. -/
def Written.isNought (number : Written) : Bool := number.front = 0 && number.back.isEmpty

/-- The order of two written numbers. -/
def Written.order (left right : Written) : Ordering :=
  -- Nought has no sign.
  let sign (number : Written) : Int :=
    if number.isNought then 0 else if number.isNegative then -1 else 1
  let sizes := (compare left.front right.front).then (letters left.back right.back)
  (compare (sign left) (sign right)).then (if sign left < 0 then sizes.swap else sizes)

/-- The order of two texts by the numbers at their beginnings. -/
def numbers (left right : Letters) : Ordering := (written left).order (written right)

/--
The order of two texts by numbers that may be spelled in any
way, where texts without any come first.
-/
def spelled (left right : Letters) : Ordering :=
  match Spelled.read left, Spelled.read right with
  | none, none => .eq
  | none, some _ => .lt
  | some _, none => .gt
  | some (first, _), some (second, _) => first.order second

/-- The order of two texts by numbers with a letter after them for a power of a thousand. -/
def sizes (left right : Letters) : Ordering :=
  -- A greater power wins over any number.
  let power (text : Letters) : Int :=
    let number := written text
    let place : Nat := match number.rest with
      | letter :: _ =>
        (("KMGTPEZYRQ".toList.findIdx? (· = if letter = 'k' then 'K' else letter)).map (· + 1)).getD
          0
      | [] => 0
    if number.isNought then 0 else if number.isNegative then -(place : Int) else place
  (compare (power left) (power right)).then (numbers left right)

/-- The number of the month that a text begins with, or nought. -/
def month (text : Letters) : Nat :=
  -- Three letters are enough.
  let names := ["jan", "feb", "mar", "apr", "may", "jun", "jul", "aug", "sep", "oct", "nov", "dec"]
  let inner := text.dropWhile fun letter => letter = ' ' || letter = '\t'
  ((names.findIdx? fun name => Spelled.hasWord name inner).map (· + 1)).getD 0

/-- The order of two texts by the months that they begin with. -/
def months (left right : Letters) : Ordering := compare (month left) (month right)

/-! ### Versions -/

/-- The weight of the letter at the beginning of a text in names with versions. -/
def weight : Letters → Int
  -- The end comes before everything but a tilde.
  | [] => -1
  | letter :: _ =>
    if letter.isDigit then 0
    else if letter.isAlpha then letter.toNat
    else if letter = '~' then -2
    else letter.toNat + 256

/-- The order of two texts in which numbers are compared as such. -/
def versions : (fuel : Nat) → Letters → Letters → Ordering
  -- What is no number is compared letter by letter first.
  | 0, _, _ => .eq
  | _ + 1, [], [] => .eq
  | fuel + 1, left, right =>
    let isOther (text : Letters) := text.head?.any (!·.isDigit)
    if isOther left || isOther right then
      (compare (weight left) (weight right)).then (versions fuel (left.drop 1) (right.drop 1))
    else
      let first := left.takeWhile Char.isDigit
      let second := right.takeWhile Char.isDigit
      (compare (Spelled.valueOf 10 first) (Spelled.valueOf 10 second)).then
        (versions fuel (left.drop first.length) (right.drop second.length))

/-- The part of a name before its endings, which begin with a point and a letter each. -/
def withoutEndings (name : Letters) : Letters :=
  -- The first letter belongs to no ending.
  go name.length 0 name
where
  /-- Goes on from a letter that belongs to the part. -/
  go : (fuel : Nat) → (place : Nat) → Letters → Letters
    | 0, place, _ => name.take place
    | fuel + 1, place, rest =>
      if rest.isEmpty then name.take place
      else
        let after := endings rest.length (rest.drop 1)
        let passed := rest.length - after.length
        if after.isEmpty then name.take (place + 1) else go fuel (place + passed) after
  /-- Passes over endings. -/
  endings : (fuel : Nat) → Letters → Letters
    | fuel + 1, '.' :: letter :: rest =>
      if letter.isAlpha || letter = '~' then
        endings fuel (rest.dropWhile fun letter => letter.isAlphanum || letter = '~')
      else '.' :: letter :: rest
    | _, rest => rest

/-- The order of two names with versions. -/
def names (left right : Letters) : Ordering :=
  -- Names that begin with a point come first, and endings count only at last.
  let rank (name : Letters) : Nat :=
    if name.isEmpty then 0 else if name = ['.'] then 1 else if name = ['.', '.'] then 2
    else if name.head? = some '.' then 3 else 4
  let byVersions (left right : Letters) := versions (left.length + right.length + 1) left right
  (compare (rank left) (rank right)).then
  ((byVersions (withoutEndings left) (withoutEndings right)).then (byVersions left right))

end Wakeful.Shell.Comparison
