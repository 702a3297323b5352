import Wakeful.Shell.Condition

/-!
Conditions as a program by itself takes them: the number of
arguments comes before what each of them means.
-/

namespace Wakeful.Shell.Verdict

/-- A part of a condition that takes the arguments it needs. -/
abbrev Judging := StateT (List Letters) (Except ConditionFault)

/-- The letters of questions. -/
def questions : List Char := "bcdefghknprstuwxzGLNOS".toList

/-- The signs of comparisons. -/
def comparisons : List String :=
  ["=", "!=", "==", "-eq", "-ne", "-ge", "-gt", "-le", "-lt", "-nt", "-ot", "-ef"]

/-- Whether an argument is a comparison of those around it. -/
def compares (argument : Letters) : Bool := comparisons.contains (String.ofList argument)

/-- The sign for the length of a text in the stead of a number. -/
def lengthSign : Letters := ['-', 'l']

/-- The whole number that an argument spells. -/
def wholeNumber (argument : Letters) : Except ConditionFault Int :=
  -- Blanks around it do not count, and it may be of any size.
  let isBlank (letter : Char) : Bool := letter = ' ' || letter = '\t'
  match integer? (((argument.dropWhile isBlank).reverse.dropWhile isBlank).reverse) with
  | some value => .ok value
  | none => .error (.notANumber argument)

/-- The next argument, which is taken. -/
def take : Judging Letters := do
  -- There has to be one.
  match ← get with
  | [] => throw (.missingArgument [])
  | argument :: rest =>
    set rest
    return argument

/-- Whether the next argument is not empty. -/
def isText : Judging Bool := return !(← take).isEmpty

/-- Whether the arguments begin with one. -/
def begins (argument : Letters) : Judging Bool := return (← get).head? = some argument

/-- The answer to a question about the next argument. -/
def ask (workplace : Workplace) : Judging Bool := do
  -- Only a few letters are questions.
  let sign ← take
  match sign with
  | ['-', letter] =>
    if !questions.contains letter then throw (.unexpected sign)
    let argument ← take
    if letter = 't' then
      let _ ← wholeNumber argument
    return Condition.affirms workplace letter argument
  | _ => throw (.unexpected sign)

/-- The outcome of a comparison, in which lengths of texts can take the place of numbers. -/
def weigh (workplace : Workplace) (isLength : Bool) : Judging Bool := do
  -- The sign for a length is passed over where texts are compared.
  if isLength then
    let _ ← take
  let left ← take
  let sign ← take
  let isOther := (← begins lengthSign) && 2 ≤ (← get).length
  if isOther then
    let _ ← take
  let right ← take
  let number (isLength : Bool) (argument : Letters) : Except ConditionFault Int :=
    if isLength then .ok argument.length else wholeNumber argument
  let name := String.ofList sign
  if name = "=" || name = "==" then return (if isOther then sign else left) == right
  else if name = "!=" then return (if isOther then sign else left) != right
  else if ["-nt", "-ot", "-ef"].contains name then
    if isLength || isOther then throw (.unexpected sign)
    let isThere (argument : Letters) := workplace.isThere (octetsOf argument)
    if name = "-nt" then return isThere left && !isThere right
    if name = "-ot" then return !isThere left && isThere right
    Condition.compare workplace sign left right
  else
    let first ← number isLength left
    let second ← number isOther right
    return match name with
      | "-eq" => first == second
      | "-ne" => first != second
      | "-ge" => second ≤ first
      | "-gt" => second < first
      | "-le" => first ≤ second
      | _ => first < second

/-- The verdict on two arguments. -/
def two (workplace : Workplace) : Judging Bool := do
  -- Without a question there is nothing to be said about two.
  match ← get with
  | ['!'] :: rest =>
    set rest
    return !(← isText)
  | ['-', _] :: _ => ask workplace
  | _ => throw (.missingArgument [])

mutual

/-- The verdict on the next so many arguments. -/
def judge (workplace : Workplace) : (fuel count : Nat) → Judging Bool
  -- More than four have to be read from the first on.
  | 0, _ => throw .notClosed
  | fuel + 1, count => do
    let arguments ← get
    if count = 1 then isText
    else if count = 2 then two workplace
    else if count = 3 then three workplace fuel
    else if count = 4 && arguments.head? = some ['!'] then
      let _ ← take
      return !(← three workplace fuel)
    else if count = 4 && arguments.head? = some ['('] && arguments[3]? = some [')'] then
      let _ ← take
      let verdict ← two workplace
      let _ ← take
      return verdict
    else either workplace fuel

/-- The verdict on three arguments. -/
def three (workplace : Workplace) : (fuel : Nat) → Judging Bool
  -- What stands in the middle comes first.
  | 0 => throw .notClosed
  | fuel + 1 => do
    match ← get with
    | first :: second :: rest =>
      if compares second then weigh workplace false
      else if first = ['!'] then
        let _ ← take
        return !(← two workplace)
      else if first = ['('] && rest.head? = some [')'] then
        let _ ← take
        let verdict ← isText
        let _ ← take
        return verdict
      else if second = ['-', 'a'] || second = ['-', 'o'] then either workplace fuel
      else throw (.unexpected second)
    | _ => throw (.missingArgument [])

/-- Whether any of several conditions holds. -/
def either (workplace : Workplace) : (fuel : Nat) → Judging Bool
  -- All of them are looked at.
  | 0 => throw .notClosed
  | fuel + 1 => do
    let verdict ← both workplace fuel
    if ← begins ['-', 'o'] then
      let _ ← take
      return (← either workplace fuel) || verdict
    else return verdict

/-- Whether all of several conditions hold. -/
def both (workplace : Workplace) : (fuel : Nat) → Judging Bool
  -- All of them are looked at.
  | 0 => throw .notClosed
  | fuel + 1 => do
    let verdict ← single workplace fuel
    if ← begins ['-', 'a'] then
      let _ ← take
      return (← both workplace fuel) && verdict
    else return verdict

/-- Whether a condition without parts holds. -/
def single (workplace : Workplace) : (fuel : Nat) → Judging Bool
  -- A parenthesis is closed by the next one unless it is far away.
  | 0 => throw .notClosed
  | fuel + 1 => do
    let arguments ← get
    match arguments with
    | [] => throw (.missingArgument [])
    | ['!'] :: _ =>
      let _ ← take
      return !(← single workplace fuel)
    | ['('] :: inner =>
      let _ ← take
      if inner.isEmpty then throw (.missingArgument [])
      let near := (inner.drop 1).takeWhile (· != [')'])
      let verdict ← judge workplace fuel (if 4 ≤ near.length then inner.length else near.length + 1)
      if (← take) ≠ [')'] then throw .notClosed
      return verdict
    | first :: second :: rest =>
      if 2 ≤ rest.length && first = lengthSign && rest.head?.any compares then weigh workplace true
      else if 1 ≤ rest.length && compares second then weigh workplace false
      else match first with
        | ['-', _] => ask workplace
        | _ => isText
    | [['-', _]] => ask workplace
    | _ => isText

end

/-- Whether the condition in arguments holds. -/
def holds (workplace : Workplace) (arguments : List Letters) : Except ConditionFault Bool := do
  -- Nothing may be left over, and no condition holds if there is none.
  if arguments.isEmpty then return false
  let (verdict, rest) ← (judge workplace (8 * arguments.length + 16) arguments.length).run arguments
  match rest with
  | [] => return verdict
  | argument :: _ => throw (.unexpected argument)

end Wakeful.Shell.Verdict
