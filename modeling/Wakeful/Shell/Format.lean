import Wakeful.Shell.Spelled
import Wakeful.Shell.Sum
import Wakeful.Shell.Task

/-! Formats: texts with escapes and with fields that arguments fill. -/

namespace Wakeful.Shell

/-- Which escapes are known. -/
structure EscapeStyle where
  /-- Whether a nought before three octal digits does not count as one of them. -/
  marksOctal : Bool
  /-- Whether hexadecimal digits and quotes can be escaped. -/
  isWide : Bool
  /-- Whether one escape ends everything. -/
  canStop : Bool
  /-- Whether letters can be given by longer numbers, so that escapes without digits are faults. -/
  hasNumbers : Bool
  deriving DecidableEq, Repr

/-- What an escape stands for. -/
inductive Escaped where
  /-- Letters. -/
  | letters (value : Letters)
  /-- The end of everything. -/
  | stop
  /-- Nothing, since its digits are missing. -/
  | incomplete
  deriving DecidableEq, Repr

/-- How a text with escapes ends. -/
inductive EscapeEnd where
  /-- With its last letter. -/
  | whole
  /-- With an escape that ends everything. -/
  | stopped
  /-- With an escape that is a fault. -/
  | broken
  deriving DecidableEq, Repr

namespace EscapeStyle

/-- The letters of the simple escapes. -/
def simple : List (Char × Char) :=
  -- Each stands for a sign that moves something.
  [('\\', '\\'), ('a', '\x07'), ('b', '\x08'), ('e', '\x1b'), ('f', '\x0c'), ('n', '\n'),
    ('r', '\x0d'), ('t', '\t'), ('v', '\x0b')]

/-- The octet of a number. -/
def octet (value : Nat) : Letters := [Char.ofNat (value % 256)]

/-- The number that at most so many digits in a base spell, and what follows them. -/
def digits (base count : Nat) (letters : Letters) : Nat × Letters :=
  -- There may be none.
  let shown := (letters.take count).takeWhile fun letter => (Sum.digit? base letter).isSome
  ((Sum.digits base 0 shown).1, letters.drop shown.length)

/-- What an escape with so many digits stands for, and what follows it. -/
def readNumber (mark : Char) (count : Nat) (letters : Letters) : Escaped × Letters :=
  -- Only the usual letters are written themselves, and half letters are none.
  let (value, after) := digits 16 count letters
  let shown := (Nat.toDigits 16 value).map Char.toUpper
  if letters.length < after.length + count || 0xD800 ≤ value && value < 0xE000 then
    (.incomplete, after)
  else if value < 0x80 then (.letters (octet value), after)
  else if value < 0x10000 then
    (.letters ('\\' :: 'u' :: List.replicate (4 - shown.length) '0' ++ shown), after)
  else (.letters ('\\' :: mark :: List.replicate (8 - shown.length) '0' ++ shown), after)

/-- What an escape after its backslash stands for, and what follows it. -/
def read (style : EscapeStyle) : Letters → Escaped × Letters
  -- An unknown escape stands for itself.
  | 'c' :: rest => if style.canStop then (.stop, []) else (.letters ['\\', 'c'], rest)
  | '"' :: rest => (.letters (if style.isWide then ['"'] else ['\\', '"']), rest)
  | '0' :: rest =>
    let (value, after) := if style.marksOctal then digits 8 3 rest else digits 8 3 ('0' :: rest)
    (.letters (octet value), after)
  | 'x' :: rest =>
    if !style.isWide then (.letters ['\\', 'x'], rest)
    else if (rest.head?.bind (Sum.digit? 16)).isNone then (.incomplete, rest)
    else
      let (value, after) := digits 16 2 rest
      (.letters (octet value), after)
  | letter :: rest =>
    if style.hasNumbers && letter = 'u' then readNumber letter 4 rest
    else if style.hasNumbers && letter = 'U' then readNumber letter 8 rest
    else if (Sum.digit? 8 letter).isSome then
      let (value, after) := digits 8 3 (letter :: rest)
      (.letters (octet value), after)
    else match simple.lookup letter with
      | some meant => (.letters [meant], rest)
      | none =>
        if style.isWide then (.letters ['\\', letter], rest) else (.letters ['\\'], letter :: rest)
  | [] => (.letters ['\\'], [])

/-- Letters with their escapes carried out, and how they end. -/
def carryOut (style : EscapeStyle) : (fuel : Nat) → Letters → Letters × EscapeEnd
  -- An escape without its digits stands for itself unless this is a fault.
  | 0, _ => ([], .whole)
  | _ + 1, [] => ([], .whole)
  | fuel + 1, '\\' :: rest =>
    match style.read rest with
    | (.stop, _) => ([], .stopped)
    | (.incomplete, after) =>
      if style.hasNumbers then ([], .broken)
      else
        let (others, ending) := style.carryOut fuel after
        ('\\' :: 'x' :: others, ending)
    | (.letters value, after) =>
      let (others, ending) := style.carryOut fuel after
      (value ++ others, ending)
  | fuel + 1, letter :: rest =>
    let (others, ending) := style.carryOut fuel rest
    (letter :: others, ending)

/-- Letters with all their escapes carried out, and how they end. -/
def unescape (style : EscapeStyle) (letters : Letters) : Letters × EscapeEnd :=
  -- Every step takes a letter.
  style.carryOut (letters.length + 1) letters

end EscapeStyle

/-- Whether a program is a shell's own or stands by itself. -/
inductive Origin where
  /-- It is a shell's own. -/
  | shell
  /-- It stands by itself. -/
  | system
  deriving DecidableEq, Repr

/-- A width or a number of places. -/
inductive Measure where
  /-- It is not given. -/
  | none
  /-- It is given. -/
  | fixed (value : Nat)
  /-- It is taken from an argument. -/
  | taken
  deriving DecidableEq, Repr

/-- A field of a format. -/
structure Field where
  /-- The signs right after its opening. -/
  flags : Letters
  /-- The least width. -/
  width : Measure
  /-- The number of places. -/
  places : Measure
  /-- The letter that says what fills it. -/
  kind : Char
  deriving DecidableEq, Repr

/-- A piece of a format. -/
inductive FormatPiece where
  /-- A text. -/
  | text (value : Letters)
  /-- A field. -/
  | field (field : Field)
  /-- The end of everything. -/
  | stop
  /-- A field that is none, with its letters. -/
  | broken (letters : Letters)
  /-- A field that ends with the format. -/
  | missing (letters : Letters)
  /-- An escape without its digits. -/
  | incomplete
  deriving DecidableEq, Repr

namespace FormatPiece

/-- A measure at the beginning of letters, and what follows it. -/
def readMeasure : Letters → Measure × Letters
  -- A sign asks for an argument.
  | '*' :: rest => (.taken, rest)
  | letters =>
    let shown := letters.takeWhile Char.isDigit
    ((number? shown).elim Measure.none Measure.fixed, letters.drop shown.length)

/-- The letters that a program by itself does not take after a sign. -/
def barred : Char → List Char
  -- A point before the number of places is such a sign too.
  | '#' => ['c', 'd', 'i', 's', 'u']
  | '0' => ['c', 's']
  | '.' => ['c']
  | '\'' | 'I' => ['c', 'e', 'E', 'o', 's', 'x', 'X']
  | _ => []

/-- Whether a letter may fill a field that begins with signs. -/
def fills (origin : Origin) (signs : Letters) (kind : Char) : Bool :=
  -- A shell takes them all with all signs.
  "diouxXeEfFgGsc".toList.contains kind &&
    (origin = Origin.shell || !(signs.flatMap barred).contains kind)
    || kind = 'b' && origin = Origin.shell

/-- The field after its opening, and what follows it. -/
def readField (origin : Origin) (letters : Letters) : FormatPiece × Letters :=
  -- Letters for the sizes of numbers are passed over by some.
  let flags :=
    letters.takeWhile ((if origin = Origin.system then "#-+ 0'I" else "#-+ 0").toList.contains ·)
  let (width, rest) := readMeasure (letters.drop flags.length)
  let (places, rest) : Measure × Letters := match rest with
    | '.' :: others =>
      match readMeasure others with
      | (.none, after) => (.fixed 0, after)
      | (measure, after) => (measure, after)
    | _ => (.none, rest)
  let rest := if origin = Origin.system then rest.dropWhile ("hlLjzt".toList.contains ·) else rest
  let signs := if places == Measure.none then flags else '.' :: flags
  match rest with
  | [] => (.missing (letters.take (letters.length - rest.length)), [])
  | kind :: after =>
    if fills origin signs kind then (.field ⟨flags, width, places, kind⟩, after)
    else (.broken (letters.take (letters.length - after.length)), after)

/-- The pieces of a format. -/
def read (origin : Origin) : (fuel : Nat) → Letters → List FormatPiece
  -- Texts and escapes become texts.
  | 0, _ => []
  | _ + 1, [] => []
  | fuel + 1, '%' :: '%' :: rest => .text ['%'] :: read origin fuel rest
  | fuel + 1, '%' :: 'b' :: rest => .field ⟨[], .none, .none, 'b'⟩ :: read origin fuel rest
  | fuel + 1, '%' :: rest =>
    if origin = Origin.system && rest.head? = some 'q' then
      .field ⟨[], .none, .none, 'q'⟩ :: read origin fuel (rest.drop 1)
    else
      let (piece, after) := readField origin rest
      piece :: read origin fuel after
  | fuel + 1, '\\' :: rest =>
    match EscapeStyle.read ⟨false, origin == .system, origin == .system,
      origin == .system⟩ rest with
    | (.letters value, after) => .text value :: read origin fuel after
    | (.stop, _) => [.stop]
    | (.incomplete, _) => [.incomplete]
  | fuel + 1, letter :: rest => .text [letter] :: read origin fuel rest

end FormatPiece

/-- What is wrong with an argument for a field. -/
inductive FillFault where
  /-- It is no number. -/
  | notANumber
  /-- Something follows the number. -/
  | leftOver
  /-- The number is too great. -/
  | outOfRange
  deriving DecidableEq, Repr

/-- The words for a fault of an argument. -/
def FillFault.message (origin : Origin) (argument : Letters) : FillFault → Letters
  -- The texts of the two kinds of programs differ a little.
  | fault =>
    let shown := if origin = .shell then argument else ['\''] ++ argument ++ ['\'']
    let words := match fault, origin with
      | notANumber, .shell => ": expected numeric value"
      | notANumber, .system => ": expected a numeric value"
      | leftOver, .shell => ": not completely converted"
      | leftOver, .system => ": value not completely converted"
      | outOfRange, _ => ": Numerical result out of range"
    shown ++ words.toList

namespace Field

/-- Letters brought to a width; with a sign in front of a number, noughts come after it. -/
def pad (flags : Letters) (width : Nat) (zeros : Bool) (sign body : Letters) : Letters :=
  -- Blanks come after it if asked for, and noughts never do.
  let missing := width - (sign.length + body.length)
  if flags.contains '-' then sign ++ body ++ List.replicate missing ' '
  else if zeros then sign ++ List.replicate missing '0' ++ body
  else List.replicate missing ' ' ++ sign ++ body

/-- Letters without blanks before them. -/
def afterBlanks (letters : Letters) : Letters :=
  -- All kinds of blanks count.
  letters.dropWhile fun letter => letter = ' ' || '\t' ≤ letter && letter ≤ '\x0d'

/-- Whether letters begin with a minus sign, and what follows any sign. -/
def signed : Letters → Bool × Letters
  -- Both signs are known.
  | '-' :: rest => (true, rest)
  | '+' :: rest => (false, rest)
  | letters => (false, letters)

/-- The whole number that an argument spells, with what is wrong with it. -/
def wholeNumber (origin : Origin) (isSigned : Bool) (argument : Letters) : Int × Option FillFault :=
  -- A quote stands for the number of the letter after it.
  match argument with
  | '\'' :: letter :: _ | '"' :: letter :: _ => (letter.toNat, none)
  | ['\''] | ['"'] => (0, if origin = .system then some .notANumber else none)
  | _ =>
    let (isNegative, unsigned) := signed (afterBlanks argument)
    if !unsigned.head?.any Char.isDigit then
      (0, if argument.isEmpty then none else some .notANumber)
    else
      let (size, after) := Sum.readNumber unsigned
      let value : Int := if isNegative then -(size : Int) else size
      let (least, greatest) : Int × Int :=
        if isSigned then
          (-0x8000000000000000, 0x7FFFFFFFFFFFFFFF)
        else
          (-0xFFFFFFFFFFFFFFFF, 0xFFFFFFFFFFFFFFFF)
      if value < least || greatest < value then
        (if isSigned && isNegative then least else greatest, some .outOfRange)
      else (value, if after.isEmpty then none else some .leftOver)

/-- The digits of a number in a base up to sixteen. -/
def inBase (base value : Nat) : Letters := Nat.toDigits base value

/-- A whole number in a field. -/
def whole (field : Field) (width : Nat) (places : Option Nat) (value : Int) : Letters :=
  -- With a number of places no noughts fill the width, and with none of them zero is not shown.
  let bits := (value % 0x10000000000000000).toNat
  let plain := match field.kind with
    | 'o' => inBase 8 bits
    | 'x' => inBase 16 bits
    | 'X' => (inBase 16 bits).map Char.toUpper
    | 'u' => inBase 10 bits
    | _ => inBase 10 value.natAbs
  let shown := if places = some 0 && value = 0 then [] else plain
  let body := List.replicate (places.getD 0 - shown.length) '0' ++ shown
  let sign : Letters := match field.kind with
    | 'd' | 'i' =>
      if value < 0 then
        ['-']
      else if field.flags.contains '+' then
        ['+']
      else if field.flags.contains ' ' then [' '] else []
    | 'x' => if field.flags.contains '#' && value ≠ 0 then ['0', 'x'] else []
    | 'X' => if field.flags.contains '#' && value ≠ 0 then ['0', 'X'] else []
    | 'o' => if field.flags.contains '#' && body.head? ≠ some '0' then ['0'] else []
    | _ => []
  pad field.flags width (field.flags.contains '0' && places.isNone) sign body

/-- The number nearest to a quotient that has 64 bits and a power of two. -/
def wideQuotient (isNegative : Bool) (numerator denominator : Nat) : Binary64 :=
  -- Powers of two can be of any size.
  if numerator = 0 then .finite isNegative 0 0
  else
    let guess := (Nat.log2 numerator : Int) - (Nat.log2 denominator : Int) - 63
    let scaled (exponent : Int) : Nat :=
      if 0 ≤ exponent then
        Binary64.roundedQuotient numerator (denominator * Nat.pow 2 exponent.toNat)
      else Binary64.roundedQuotient (numerator * Nat.pow 2 (-exponent).toNat) denominator
    let exponent := if scaled guess < 0x8000000000000000 then guess - 1 else guess
    .finite isNegative (scaled exponent) exponent

/-- Whether a number is too small to be known with full precision, and so is not known exactly. -/
def isTiny (origin : Origin) (digits base : Nat) (power : Int) : Bool :=
  -- A program by itself knows much smaller numbers than a shell does.
  if digits = 0 then false
  else if origin ≠ .shell || Spelled.reach digits base power < -5000 then
    Spelled.reach digits base power < -4950
  else if 0 ≤ power then false
  else
    let denominator := Nat.pow base (-power).toNat
    digits * Nat.pow 2 1022 < denominator && (digits * Nat.pow 2 1074) % denominator ≠ 0

/--
The number nearest to digits times a power of a base in the precision in which a program counts.
-/
def nearest (origin : Origin) (isNegative : Bool) (digits base : Nat) (power : Int) : Binary64 :=
  -- A program by itself counts more precisely than a shell
  -- does, and knows greater and smaller numbers.
  let reach := Spelled.reach digits base power
  if digits = 0 || reach < -4950 then .finite isNegative 0 0
  else if 5000 < reach then .infinite isNegative
  else
    let numerator := if 0 ≤ power then digits * Nat.pow base power.toNat else digits
    let denominator := if 0 ≤ power then 1 else Nat.pow base (-power).toNat
    if origin = .shell then
      .ofQuotient isNegative numerator denominator
    else
      wideQuotient isNegative numerator denominator

/--
Whether an argument has a sign, the number with a point that it spells, and what is wrong with it.
-/
def pointNumber (origin : Origin) (argument : Letters) : Bool × Binary64 × Option FillFault :=
  -- A quote stands for the number of the letter after it, and
  -- words for numbers without bounds are known too.
  match argument with
  | '\'' :: letter :: _ | '"' :: letter :: _ =>
    (false, nearest origin false letter.toNat 10 0, none)
  | _ =>
    match Spelled.read argument with
    | none => (false, .finite false 0 0, if argument.isEmpty then none else some .notANumber)
    | some (spelled, rest) =>
      let value : Binary64 := match spelled with
        | .infinite isNegative => .infinite isNegative
        | .notANumber _ => .notANumber
        | .scaled isNegative digits base power => nearest origin isNegative digits base power
      let isOut := match spelled, value with
        | .scaled .., .infinite _ => true
        | .scaled _ digits base power, _ => isTiny origin digits base power
        | _, _ => false
      let isNegative := match spelled with
        | .scaled isNegative _ _ _ | .infinite isNegative | .notANumber isNegative => isNegative
      (isNegative, value,
        if isOut then some .outOfRange else if rest.isEmpty then none else some .leftOver)

/-- A fraction with so many places after the point. -/
def fixedPlaces (isWide : Bool) (numerator denominator places : Nat) : Letters :=
  -- A half goes to the even neighbour.
  let digits := inBase 10 (Binary64.roundedQuotient (numerator * Nat.pow 10 places) denominator)
  let padded := List.replicate (places + 1 - digits.length) '0' ++ digits
  let (wholePart, fraction) := padded.splitAt (padded.length - places)
  wholePart ++ if places = 0 && !isWide then [] else '.' :: fraction

/-- The power of ten just at or below a positive fraction. -/
def magnitude (numerator denominator : Nat) : Int :=
  -- The numbers of digits are off by one at most.
  let guess := (Binary64.digitCount numerator : Int) - Binary64.digitCount denominator
  let reaches := if 0 ≤ guess then denominator * Nat.pow 10 guess.toNat ≤ numerator
    else denominator ≤ numerator * Nat.pow 10 (-guess).toNat
  if reaches then guess else guess - 1

/-- The digits of a fraction with so many places after the first, and its power of ten. -/
def scaled (numerator denominator places : Nat) : Letters × Int :=
  -- Rounding may make one digit more.
  if numerator = 0 then (List.replicate (places + 1) '0', 0)
  else
    let power := magnitude numerator denominator
    let shift := (places : Int) - power
    let digits :=
      inBase 10 (if 0 ≤ shift then
          Binary64.roundedQuotient (numerator * Nat.pow 10 shift.toNat) denominator
        else Binary64.roundedQuotient numerator (denominator * Nat.pow 10 (-shift).toNat))
    if digits.length ≤ places + 1 then (digits, power) else (digits.take (places + 1), power + 1)

/-- A power of ten as it follows other digits. -/
def powerText (power : Int) : Letters :=
  -- It has a sign and at least two digits.
  let digits := inBase 10 power.natAbs
  ['e', if power < 0 then '-' else '+'] ++ (if digits.length < 2 then '0' :: digits else digits)

/-- A fraction with one digit before the point and a power of ten. -/
def withPower (isWide : Bool) (numerator denominator places : Nat) : Letters :=
  -- Without places there is no point either.
  let (digits, power) := scaled numerator denominator places
  digits.take 1 ++ (if places = 0 && !isWide then [] else '.' :: digits.drop 1) ++ powerText power

/-- Letters without noughts at the end, and without a point that would be left there. -/
def withoutZeros (letters : Letters) : Letters :=
  -- Without a point nothing goes away.
  if letters.contains '.' then
    let short := (letters.reverse.dropWhile (· = '0'))
    (if short.head? = some '.' then short.drop 1 else short).reverse
  else letters

/-- A fraction with so many digits that count, in the shorter of both forms. -/
def general (isWide : Bool) (numerator denominator count : Nat) : Letters :=
  -- The power of ten decides.
  let count := max count 1
  let (digits, power) := scaled numerator denominator (count - 1)
  let trim (letters : Letters) := if isWide then letters else withoutZeros letters
  if power < -4 || (count : Int) ≤ power then
    trim (digits.take 1 ++ '.' :: digits.drop 1) ++ powerText power
  else trim (fixedPlaces isWide numerator denominator ((count : Int) - 1 - power).toNat)

/-- A number with a point or a power of ten in a field. -/
def point (field : Field) (width : Nat) (places : Option Nat) (isNegative : Bool)
    (value : Binary64) : Letters :=
  -- What is no finite number is shown by a word.
  let isWide := field.flags.contains '#'
  let count := places.getD 6
  let (isFinite, body) : Bool × Letters := match value with
    | .notANumber => (false, "nan".toList)
    | .infinite _ => (false, "inf".toList)
    | .finite _ significand exponent =>
      let numerator := if 0 ≤ exponent then significand * Nat.pow 2 exponent.toNat else significand
      let denominator := if 0 ≤ exponent then 1 else Nat.pow 2 (-exponent).toNat
      (true, match field.kind.toLower with
        | 'f' => fixedPlaces isWide numerator denominator count
        | 'e' => withPower isWide numerator denominator count
        | _ => general isWide numerator denominator count)
  let sign : Letters :=
    if isNegative then
      ['-']
    else if field.flags.contains '+' then ['+'] else if field.flags.contains ' ' then [' '] else []
  pad field.flags width (isFinite && field.flags.contains '0') sign
    (if field.kind.isUpper then body.map Char.toUpper else body)

end Field

/-- What filling a format has come to so far. -/
structure Filling where
  /-- The arguments that are left. -/
  arguments : List Letters
  /-- The texts and complaints so far, the last first. -/
  written : List (Nat × Letters)
  /-- The code. -/
  code : Nat
  /-- Whether nothing more is to come. -/
  isOver : Bool

namespace Filling

/-- The filling with a text more. -/
def say (filling : Filling) (text : Letters) : Filling :=
  -- The texts are kept in the reverse order.
  { filling with written := (1, text) :: filling.written }

/-- The filling with a complaint more. -/
def complain (filling : Filling) (words : Letters) : Filling :=
  -- A complaint makes the program fail.
  { filling with written := (2, words) :: filling.written, code := 1 }

/-- The filling with an end that is a failure. -/
def breakOff (filling : Filling) (code : Nat) (words : Letters) : Filling :=
  -- Nothing else is written.
  { filling.complain words with code, isOver := true }

/-- The next argument, which is empty if there is none, and the filling without it. -/
def take (filling : Filling) : Letters × Filling :=
  -- Missing arguments are no fault.
  (filling.arguments.head?.getD [], { filling with arguments := filling.arguments.tail })

/-- The filling after a complaint about an argument, if there is one. -/
def judge (origin : Origin) (filling : Filling) (argument : Letters)
    (fault : Option FillFault) : Filling :=
  -- The field is filled all the same.
  fault.elim filling fun fault => filling.complain (fault.message origin argument)

/-- The value of a measure, which is a width or a number of places, and the filling after it. -/
def measure (origin : Origin) (isWidth : Bool) (filling : Filling) : Measure → Option Int × Filling
  -- An argument may be needed, of which a shell takes only 32 bits,
  -- and a number of places below nought counts for none.
  | .none => (none, filling)
  | .fixed value => (some value, filling)
  | .taken =>
    let (argument, after) := filling.take
    let (value, fault) := Field.wholeNumber origin true argument
    let after := after.judge origin argument fault
    match origin with
    | .shell => (some ((value + 0x80000000) % 0x100000000 - 0x80000000), after)
    | .system =>
      if value.natAbs < 0x80000000 then (some value, after)
      else if isWidth then
        (some 0, after.breakOff 1 ("invalid field width: '".toList ++ argument ++ ['\'']))
      else if value < 0 then (none, after)
      else (some 0, after.breakOff 1 ("invalid precision: '".toList ++ argument ++ ['\'']))

/-- The filling with an end that is asked for. -/
def stop (origin : Origin) (filling : Filling) : Filling :=
  -- It makes up for all faults of a program by itself.
  { filling with isOver := true, code := if origin = .shell then filling.code else 0 }

/-- The filling after a field. -/
def fill (origin : Origin) (filling : Filling) (field : Field) : Filling :=
  -- The measures are taken before the value, and a negative width asks for blanks after it.
  let (width, filling) := filling.measure origin true field.width
  if filling.isOver then filling else
  let (places, filling) := filling.measure origin false field.places
  if filling.isOver then filling else
  let flags := if width.any (· < 0) then '-' :: field.flags else field.flags
  let field := { field with flags }
  let width := (width.getD 0).natAbs
  let places := places.bind fun value => if value < 0 then none else some value.toNat
  let isMissing := filling.arguments.isEmpty
  let (argument, filling) := filling.take
  let text (value : Letters) := Field.pad flags width false [] (places.elim value (value.take ·))
  match field.kind with
  | 's' => filling.say (text argument)
  | 'q' => filling.say (text (if isMissing then [] else Quoting.word argument))
  | 'c' => filling.say (Field.pad flags width false [] [argument.head?.getD '\x00'])
  | 'b' =>
    let (value, ending) :=
      EscapeStyle.unescape ⟨true, origin == .system, true, origin == .system⟩ argument
    let after := filling.say (text value)
    match ending with
    | .whole => after
    | .stopped => after.stop origin
    | .broken => after.breakOff 1 "missing hexadecimal number in escape".toList
  | kind =>
    if "diouxX".toList.contains kind then
      let (value, fault) := Field.wholeNumber origin (kind = 'd' || kind = 'i') argument
      (filling.judge origin argument fault).say (field.whole width places value)
    else
      let (isNegative, value, fault) := Field.pointNumber origin argument
      (filling.judge origin argument fault).say (field.point width places isNegative value)

/-- The filling after a piece of a format. -/
def step (origin : Origin) (filling : Filling) (piece : FormatPiece) : Filling :=
  -- Nothing happens after the end.
  if filling.isOver then filling
  else match piece with
    | .text value => filling.say value
    | .field field => filling.fill origin field
    | .stop => filling.stop origin
    | .incomplete => filling.breakOff 1 "missing hexadecimal number in escape".toList
    | .broken letters =>
      if origin = .shell then filling.breakOff 2 ('%' :: letters ++ ": invalid directive".toList)
      else filling.breakOff 1 ('%' :: letters ++ ": invalid conversion specification".toList)
    | .missing letters =>
      if origin = .shell then filling.breakOff 2 "missing format character".toList
      else filling.breakOff 1 ('%' :: letters ++ ": invalid conversion specification".toList)

/-- The filling after a format that is used for as long as there are arguments for it. -/
def goOn (origin : Origin) (pieces : List FormatPiece) : (fuel : Nat) → Filling → Filling
  -- A format that takes no arguments is used once.
  | 0, filling => filling
  | fuel + 1, filling =>
    let after := pieces.foldl (step origin) filling
    if after.isOver || after.arguments.isEmpty then after
    else if after.arguments.length = filling.arguments.length then
      if origin = .shell then after
      else { after.complain ("warning: ignoring excess arguments, starting with '".toList
        ++ after.arguments.head?.getD [] ++ ['\'']) with code := after.code }
    else goOn origin pieces fuel after

end Filling

/-- Fills a format with arguments. -/
def fillFormat (origin : Origin) (format : Letters) (arguments : List Letters) : Filling :=
  -- Each round takes an argument.
  Filling.goOn origin (FormatPiece.read origin (format.length + 1) format) (arguments.length + 1)
    ⟨arguments, [], 0, false⟩

end Wakeful.Shell
