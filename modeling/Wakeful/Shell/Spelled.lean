import Wakeful.Decimal.Binary64
import Wakeful.Shell.Letters

/-! Numbers as they are spelled with a point, a power, or in words. -/

namespace Wakeful.Shell

/-- A number as it is spelled. -/
inductive Spelled where
  /-- Digits times a power of a base. -/
  | scaled (isNegative : Bool) (digits base : Nat) (power : Int)
  /-- Beyond all bounds. -/
  | infinite (isNegative : Bool)
  /-- What is no number at all. -/
  | notANumber (isNegative : Bool)
  deriving DecidableEq, Repr

namespace Spelled

/-- The value of a digit, if it is one in a base up to sixteen. -/
def digit? (base : Nat) (letter : Char) : Option Nat :=
  -- Capital and small letters count alike.
  let value := if letter.isDigit then letter.toNat - 48
    else if 'a' ≤ letter.toLower && letter.toLower ≤ 'f' then letter.toLower.toNat - 87 else base
  if value < base then some value else none

/-- The number that digits stand for. -/
def valueOf (base : Nat) (digits : Letters) : Nat :=
  -- Anything else counts as nought.
  digits.foldl (fun value letter => value * base + (digit? base letter).getD 0) 0

/-- Digits before and after a point, and what follows them. -/
def readDigits (base : Nat) (letters : Letters) : Letters × Letters × Letters :=
  -- There need be no point.
  let isDigit (letter : Char) := (digit? base letter).isSome
  let front := letters.takeWhile isDigit
  match letters.drop front.length with
  | '.' :: rest => (front, rest.takeWhile isDigit, rest.dropWhile isDigit)
  | rest => (front, [], rest)

/-- The power after one of two marks, and what follows it; without digits there is none. -/
def readPower (mark : Char) (letters : Letters) : Int × Letters :=
  -- It may have a sign.
  match letters with
  | first :: rest =>
    let (isNegative, unsigned) := match rest with
      | '-' :: others => (true, others)
      | '+' :: others => (false, others)
      | _ => (false, rest)
    let digits := unsigned.takeWhile Char.isDigit
    if first.toLower = mark && !digits.isEmpty then
      let size : Int := (valueOf 10 digits : Nat)
      (if isNegative then -size else size, unsigned.drop digits.length)
    else (0, letters)
  | [] => (0, [])

/-- Whether letters begin with a word without regard to capital letters. -/
def hasWord (word : String) (letters : Letters) : Bool :=
  word.toList.isPrefixOf ((letters.take word.length).map Char.toLower)

/-- The number without its sign at the beginning of letters, and what follows it. -/
def readUnsigned (isNegative : Bool) (letters : Letters) : Option (Spelled × Letters) :=
  -- Two signs in front stand for the base of sixteen, in which a point moves by four powers of two.
  if hasWord "infinity" letters then some (.infinite isNegative, letters.drop 8)
  else if hasWord "inf" letters then some (.infinite isNegative, letters.drop 3)
  else if hasWord "nan" letters then
    let rest := letters.drop 3
    let inner := (rest.drop 1).takeWhile fun letter => letter.isAlphanum || letter = '_'
    let after := (rest.drop 1).drop inner.length
    some (.notANumber isNegative,
      if rest.head? = some '(' && after.head? = some ')' then after.drop 1 else rest)
  else
    let (front, back, rest) := readDigits 16 (letters.drop 2)
    if hasWord "0x" letters && !(front.isEmpty && back.isEmpty) then
      let (power, after) := readPower 'p' rest
      some (.scaled isNegative (valueOf 16 (front ++ back)) 2 (power - 4 * (back.length : Int)),
        after)
    else
      let (front, back, rest) := readDigits 10 letters
      if front.isEmpty && back.isEmpty then none
      else
        let (power, after) := readPower 'e' rest
        some (.scaled isNegative (valueOf 10 (front ++ back)) 10 (power - (back.length : Int)),
          after)

/-- The number at the beginning of letters after blanks and a sign, and what follows it. -/
def read (letters : Letters) : Option (Spelled × Letters) :=
  -- A sign alone is no number.
  match letters.dropWhile isBlank with
  | '-' :: rest => readUnsigned true rest
  | '+' :: rest => readUnsigned false rest
  | rest => readUnsigned false rest

/-- How far digits times a power reach, in decimal places, or at least nearly so. -/
def reach (digits base : Nat) (power : Int) : Int :=
  -- Ten powers of two come to about three decimal places.
  (Binary64.digitCount digits : Int) + if base = 10 then power else power * 3 / 10

/-- How two numbers are ordered, where what is none comes before all others. -/
def order : Spelled → Spelled → Ordering
  -- Numbers far beyond the bounds of machines count as unbounded, and tiny ones as nought.
  | .notANumber left, .notANumber right => compare (!left).toNat (!right).toNat
  | .notANumber _, _ => .lt
  | _, .notANumber _ => .gt
  | left, right =>
    compare (view left).1 (view right).1 |>.then (finite (view left).2 (view right).2)
where
  /-- The side on which a number lies, and its fraction. -/
  view : Spelled → Int × (Int × Nat)
    | .scaled isNegative digits base power =>
      if digits = 0 || reach digits base power < -5000 then (0, 0, 1)
      else if 5000 < reach digits base power then (if isNegative then -1 else 1, 0, 1)
      else
        let size := if 0 ≤ power then digits * Nat.pow base power.toNat else digits
        (0, if isNegative then -(size : Int) else size,
          if 0 ≤ power then 1 else Nat.pow base (-power).toNat)
    | .infinite isNegative => (if isNegative then -1 else 1, 0, 1)
    | .notANumber _ => (0, 0, 1)
  /-- The order of two fractions. -/
  finite (left right : Int × Nat) : Ordering := compare (left.1 * right.2) (right.1 * left.2)

end Spelled

end Wakeful.Shell
