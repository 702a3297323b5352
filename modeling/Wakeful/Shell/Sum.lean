import Wakeful.Shell.Script

/-!
Calculations with whole numbers of 64 bits, in which names stand for numbers and may get new ones.
-/

namespace Wakeful.Shell

/-- An operator between two numbers. -/
inductive SumOperator where
  /-- The product. -/
  | times
  /-- The quotient, cut off towards zero. -/
  | divided
  /-- What a division leaves. -/
  | remainder
  /-- The sum. -/
  | plus
  /-- The difference. -/
  | minus
  /-- The bits moved towards the higher places. -/
  | raised
  /-- The bits moved towards the lower places. -/
  | lowered
  /-- Whether the first is less. -/
  | less
  /-- Whether the first is not greater. -/
  | notGreater
  /-- Whether the first is greater. -/
  | greater
  /-- Whether the first is not less. -/
  | notLess
  /-- Whether they are equal. -/
  | equal
  /-- Whether they differ. -/
  | different
  /-- The bits that both have. -/
  | bitBoth
  /-- The bits that only one has. -/
  | bitOne
  /-- The bits that any has. -/
  | bitAny
  deriving DecidableEq, Repr

namespace SumOperator

/-- The operators with the letters that stand for them, a longer spelling before its beginning. -/
def spellings : List (String × SumOperator) :=
  -- Two letters are looked for before one.
  [("<<", raised), (">>", lowered), ("<=", notGreater), (">=", notLess), ("==", equal),
    ("!=", different), ("*", times), ("/", divided), ("%", remainder), ("+", plus), ("-", minus),
    ("<", less), (">", greater), ("&", bitBoth), ("^", bitOne), ("|", bitAny)]

/-- How loosely an operator binds. -/
def looseness : SumOperator → Nat
  -- Products bind most tightly.
  | times | divided | remainder => 0
  | plus | minus => 1
  | raised | lowered => 2
  | less | notGreater | greater | notLess => 3
  | equal | different => 4
  | bitBoth => 5
  | bitOne => 6
  | bitAny => 7

/-- Whether an operator can be joined with a setting. -/
def canSet (operator : SumOperator) : Bool :=
  -- Comparisons cannot.
  operator.looseness != 3 && operator.looseness != 4

/-- The number of a truth value. -/
def truth (holds : Bool) : Int := if holds then 1 else 0

/-- A number as a word of 64 bits with a sign. -/
def wrap (value : Int) : Int := value.bmod 0x10000000000000000

/-- Combines numbers bit by bit as words. -/
def bitwise (combine : UInt64 → UInt64 → UInt64) (left right : Int) : Int :=
  -- Words are signed.
  (combine (Int64.ofInt left).toUInt64 (Int64.ofInt right).toUInt64).toInt64.toInt

/-- The number that an operator makes of two, if it makes one. -/
def result? (operator : SumOperator) (left right : Int) : Option Int :=
  -- Nothing can be divided by zero, and distances count by the number of bits.
  let distance := (right % 64).toNat
  match operator with
  | times => some (wrap (left * right))
  | divided => if right = 0 then none else some (wrap (left.tdiv right))
  | remainder => if right = 0 then none else some (wrap (left.tmod right))
  | plus => some (wrap (left + right))
  | minus => some (wrap (left - right))
  | raised => some (wrap (left * Nat.pow 2 distance))
  | lowered => some (left / Nat.pow 2 distance)
  | less => some (truth (left < right))
  | notGreater => some (truth (left ≤ right))
  | greater => some (truth (right < left))
  | notLess => some (truth (right ≤ left))
  | equal => some (truth (left == right))
  | different => some (truth (left != right))
  | bitBoth => some (bitwise (· &&& ·) left right)
  | bitOne => some (bitwise (· ^^^ ·) left right)
  | bitAny => some (bitwise (· ||| ·) left right)

end SumOperator

/-- A calculation. -/
inductive Sum where
  /-- A number. -/
  | number (value : Int)
  /-- The number of a name. -/
  | name (name : String)
  /-- The number with the other sign. -/
  | negated (inner : Sum)
  /-- Whether the number is zero. -/
  | inverted (inner : Sum)
  /-- The bits that the number does not have. -/
  | complement (inner : Sum)
  /-- Two numbers joined by an operator. -/
  | joined (operator : SumOperator) (left right : Sum)
  /-- Whether both numbers are not zero, of which the second is only found if it matters. -/
  | both (left right : Sum)
  /-- Whether any number is not zero, of which the second is only found if it matters. -/
  | either (left right : Sum)
  /-- One of two numbers, as a third decides. -/
  | choice (condition first second : Sum)
  /-- A name gets a number, possibly joined with the one it has. -/
  | setting (name : String) (operator : Option SumOperator) (value : Sum)
  deriving Repr

/-- Why a calculation has no value. -/
inductive SumFault where
  /-- Something else should have come next. -/
  | expecting (what : String)
  /-- Something is to be divided by zero. -/
  | divisionByZero
  /-- A name has a value that is no number. -/
  | notANumber (value : Letters)
  deriving DecidableEq, Repr

/-- The words for a fault in a calculation. -/
def SumFault.message (calculation : Letters) : SumFault → Letters
  -- The whole calculation is shown, or only the value that is no number.
  | expecting what =>
    "arithmetic expression: expecting ".toList ++ what.toList ++ ": \"".toList ++
      calculation ++ ['"']
  | divisionByZero => "arithmetic expression: division by zero: \"".toList ++ calculation ++ ['"']
  | notANumber value => "Illegal number: ".toList ++ value

namespace Sum

/-- The value of a digit in a base up to sixteen. -/
def digit? (base : Nat) (letter : Char) : Option Nat :=
  -- Capital and small letters count alike.
  let value :=
    if letter.isDigit then letter.toNat - 48
    else if 'a' ≤ letter ∧ letter ≤ 'f' then letter.toNat - 87
    else if 'A' ≤ letter ∧ letter ≤ 'F' then letter.toNat - 55
    else 16
  if value < base then some value else none

/-- The number at the beginning of letters in a base, and what follows it. -/
def digits (base : Nat) : (value : Nat) → Letters → Nat × Letters
  -- The longest number counts.
  | value, [] => (value, [])
  | value, letter :: rest =>
    match digit? base letter with
    | some next => digits base (value * base + next) rest
    | none => (value, letter :: rest)

/-- The number at the beginning of letters that begin with a digit, and what follows it. -/
def readNumber : Letters → Nat × Letters
  -- A leading zero marks numbers in the bases eight and sixteen.
  | '0' :: mark :: first :: rest =>
    if (mark = 'x' || mark = 'X') && (digit? 16 first).isSome then digits 16 0 (first :: rest)
    else digits 8 0 (mark :: first :: rest)
  | '0' :: rest => digits 8 0 rest
  | letters => digits 10 0 letters

/-- The greatest number. -/
def greatest : Nat := 0x7FFFFFFFFFFFFFFF

/-- The number of a value as a name has it. -/
def numberOf (letters : Letters) : Except SumFault Int :=
  -- Blanks around it do not count, nothing at all counts as
  -- zero, and a number that is too great is none.
  let isBlank (letter : Char) := letter = ' ' || '\t' ≤ letter && letter ≤ '\x0d'
  let inner := letters.dropWhile isBlank
  let (isNegative, unsigned) := match inner with
    | '-' :: rest => (true, rest)
    | '+' :: rest => (false, rest)
    | _ => (false, inner)
  if inner.isEmpty then .ok 0
  else if !unsigned.head?.any Char.isDigit then .error (.notANumber letters)
  else
    let (value, after) := readNumber unsigned
    if greatest + (if isNegative then 1 else 0) < value || !(after.dropWhile isBlank).isEmpty then
      .error (.notANumber letters)
    else .ok (if isNegative then -(value : Int) else value)

/-- A piece of a calculation. -/
inductive Token where
  /-- A number. -/
  | number (value : Int)
  /-- A name. -/
  | name (name : String)
  /-- An operator between numbers. -/
  | operator (operator : SumOperator)
  /-- A sign of equality, possibly joined with an operator. -/
  | setting (operator : Option SumOperator)
  /-- Any other sign. -/
  | sign (letters : String)
  deriving DecidableEq, Repr

/-- The piece at the beginning of letters that begin with a sign, and what follows it. -/
def readSign (letters : Letters) : Token × Letters :=
  -- Conditions come first, since their signs begin like those of other operators.
  let starts (text : String) := text.toList.isPrefixOf letters
  if starts "&&" then (.sign "&&", letters.drop 2)
  else if starts "||" then (.sign "||", letters.drop 2)
  else match SumOperator.spellings.find? fun spelling => starts spelling.1 with
    | some (text, operator) =>
      let rest := letters.drop text.length
      if operator.canSet && rest.head? = some '=' then (.setting (some operator), rest.drop 1)
      else (.operator operator, rest)
    | none =>
      if starts "=" then (.setting none, letters.drop 1)
      else (.sign (String.ofList (letters.take 1)), letters.drop 1)

/-- The pieces of a calculation. -/
def tokens : (fuel : Nat) → Letters → List Token
  -- Every piece takes at least one letter, and a number that is too great counts as the greatest.
  | 0, _ => []
  | _ + 1, [] => []
  | fuel + 1, letter :: rest =>
    if letter ∈ [' ', '\t', '\n'] then tokens fuel rest
    else if letter.isDigit then
      let (value, after) := readNumber (letter :: rest)
      .number (min value greatest) :: tokens fuel after
    else if Script.beginsName letter then
      let (word, after) := Script.readName (letter :: rest)
      .name word :: tokens fuel after
    else
      let (token, after) := readSign (letter :: rest)
      token :: tokens fuel after

mutual

/-- Reads a calculation in which names may get numbers. -/
def readSetting : (fuel : Nat) → List Token → Except SumFault (Sum × List Token)
  -- A setting needs a name right before its sign.
  | 0, _ => .error (.expecting "primary")
  | fuel + 1, .name word :: .setting operator :: rest => do
    let (inner, after) ← readSetting fuel rest
    return (.setting word operator inner, after)
  | fuel + 1, tokens => readChoice fuel tokens

/-- Reads a calculation that may choose between two others. -/
def readChoice : (fuel : Nat) → List Token → Except SumFault (Sum × List Token)
  -- The first of the others may hold settings.
  | 0, _ => .error (.expecting "primary")
  | fuel + 1, tokens => do
    match ← readEither fuel tokens with
    | (condition, .sign "?" :: rest) =>
      match ← readSetting fuel rest with
      | (first, .sign ":" :: others) =>
        let (second, after) ← readChoice fuel others
        return (.choice condition first second, after)
      | _ => .error (.expecting "':'")
    | other => return other

/-- Reads a calculation of conditions one of which has to hold. -/
def readEither : (fuel : Nat) → List Token → Except SumFault (Sum × List Token)
  -- The others are taken together.
  | 0, _ => .error (.expecting "primary")
  | fuel + 1, tokens => do
    match ← readBoth fuel tokens with
    | (left, .sign "||" :: rest) =>
      let (right, after) ← readEither fuel rest
      return (.either left right, after)
    | other => return other

/-- Reads a calculation of conditions all of which have to hold. -/
def readBoth : (fuel : Nat) → List Token → Except SumFault (Sum × List Token)
  -- The others are taken together.
  | 0, _ => .error (.expecting "primary")
  | fuel + 1, tokens => do
    let (first, rest) ← readPrimary fuel tokens
    match ← goOn fuel 8 first rest with
    | (left, .sign "&&" :: rest) =>
      let (right, after) ← readBoth fuel rest
      return (.both left right, after)
    | other => return other

/-- Goes on with operators that bind more tightly than a bound. -/
def goOn : (fuel : Nat) → (bound : Nat) → Sum → List Token → Except SumFault (Sum × List Token)
  -- Operators that bind alike are carried out from the left.
  | 0, _, _, _ => .error (.expecting "primary")
  | fuel + 1, bound, left, .operator operator :: rest => do
    if operator.looseness < bound then
      let (first, after) ← readPrimary fuel rest
      let (right, last) ← goOn fuel operator.looseness first after
      goOn fuel bound (.joined operator left right) last
    else return (left, .operator operator :: rest)
  | _ + 1, _, left, rest => return (left, rest)

/-- Reads a number, a name, a sign in front of either, or parentheses. -/
def readPrimary : (fuel : Nat) → List Token → Except SumFault (Sum × List Token)
  -- Nothing else can stand in this place.
  | 0, _ => .error (.expecting "primary")
  | _ + 1, .number literal :: rest => return (.number literal, rest)
  | _ + 1, .name word :: rest => return (.name word, rest)
  | fuel + 1, .operator .plus :: rest => readPrimary fuel rest
  | fuel + 1, .operator .minus :: rest => do
    let (inner, after) ← readPrimary fuel rest
    return (.negated inner, after)
  | fuel + 1, .sign "!" :: rest => do
    let (inner, after) ← readPrimary fuel rest
    return (.inverted inner, after)
  | fuel + 1, .sign "~" :: rest => do
    let (inner, after) ← readPrimary fuel rest
    return (.complement inner, after)
  | fuel + 1, .sign "(" :: rest => do
    match ← readSetting fuel rest with
    | (inner, .sign ")" :: after) => return (inner, after)
    | _ => .error (.expecting "')'")
  | _ + 1, _ => .error (.expecting "primary")

end

/-- Reads a whole calculation. -/
def read (letters : Letters) : Except SumFault Sum := do
  -- Nothing may be left.
  let pieces := tokens (letters.length + 1) letters
  match ← readSetting (8 * pieces.length + 8) pieces with
  | (sum, []) => return sum
  | _ => .error (.expecting "EOF")

/-- The numbers that names have got, the latest first. -/
abbrev Settings := List (String × Int)

/-- The value of a calculation, with the numbers that names have got. -/
def value (valueOf : String → Except SumFault Int) :
    Sum → Settings → Except SumFault (Int × Settings)
  -- What has been set on the way is seen by what comes after it.
  | number literal, settings => return (literal, settings)
  | name word, settings =>
    match settings.lookup word with
    | some latest => return (latest, settings)
    | none => do return (← valueOf word, settings)
  | negated inner, settings => do
    let (found, after) ← value valueOf inner settings
    return (SumOperator.wrap (-found), after)
  | inverted inner, settings => do
    let (found, after) ← value valueOf inner settings
    return (SumOperator.truth (found == 0), after)
  | complement inner, settings => do
    let (found, after) ← value valueOf inner settings
    return (-found - 1, after)
  | joined operator left right, settings => do
    let (first, between) ← value valueOf left settings
    let (second, after) ← value valueOf right between
    match operator.result? first second with
    | some result => return (result, after)
    | none => .error .divisionByZero
  | both left right, settings => do
    let (first, between) ← value valueOf left settings
    if first = 0 then return (0, between)
    let (second, after) ← value valueOf right between
    return (SumOperator.truth (second != 0), after)
  | either left right, settings => do
    let (first, between) ← value valueOf left settings
    if first ≠ 0 then return (1, between)
    let (second, after) ← value valueOf right between
    return (SumOperator.truth (second != 0), after)
  | choice condition first second, settings => do
    let (decision, after) ← value valueOf condition settings
    if decision ≠ 0 then value valueOf first after else value valueOf second after
  | setting word operator inner, settings => do
    let (found, after) ← value valueOf inner settings
    let result ← match operator with
      | none => pure found
      | some operator => do
        let former ← match after.lookup word with
          | some latest => pure latest
          | none => valueOf word
        match operator.result? former found with
        | some result => pure result
        | none => .error .divisionByZero
    return (result, (word, result) :: after)

/-- The value of the calculation that letters spell, with the numbers that names have got. -/
def evaluate (valueOf : String → Except SumFault Int) (letters : Letters) :
    Except SumFault (Int × Settings) := do
  -- It is read as a whole before anything is carried out.
  (← read letters).value valueOf []

end Sum

end Wakeful.Shell
