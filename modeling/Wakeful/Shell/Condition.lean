import Wakeful.Shell.Format

/-! Conditions on texts, numbers and files, as a shell's own command takes them. -/

namespace Wakeful.Shell

/-- What is wrong with a condition. -/
inductive ConditionFault where
  /-- Something follows that should not. -/
  | unexpected (operator : Letters)
  /-- Something should follow. -/
  | missingArgument (operator : Letters)
  /-- A parenthesis is not closed. -/
  | notClosed
  /-- A number should stand in the stead of something. -/
  | notANumber (argument : Letters)
  deriving DecidableEq, Repr

/-- The words for a fault in a condition. -/
def ConditionFault.message : ConditionFault → Letters
  -- The argument comes first, if there is one.
  | unexpected operator => operator ++ ": unexpected operator".toList
  | missingArgument operator => operator ++ ": argument expected".toList
  | notClosed => "closing paren expected".toList
  | notANumber argument => "Illegal number: ".toList ++ argument

namespace Condition

/-- What an argument can mean. -/
inductive Word where
  /-- A question about the next argument. -/
  | question (letter : Char)
  /-- A comparison of the arguments around it. -/
  | comparison (sign : Letters)
  /-- The opposite of what follows. -/
  | opposite
  /-- Both conditions around it. -/
  | both
  /-- Any of the conditions around it. -/
  | any
  /-- The beginning of a group. -/
  | opening
  /-- The end of a group. -/
  | closing
  /-- A text. -/
  | text
  /-- There is no argument. -/
  | nothing
  deriving DecidableEq, Repr

/-- The letters of questions. -/
def questions : List Char := "rwxefdcbpugkstznhOGLS".toList

/-- The signs of comparisons. -/
def comparisons : List String :=
  ["=", "!=", "<", ">", "-eq", "-ne", "-ge", "-gt", "-le", "-lt", "-nt", "-ot", "-ef"]

/-- What an argument means by itself. -/
def meaning (argument : Letters) : Word :=
  -- Most arguments are texts.
  match argument with
  | ['!'] => .opposite
  | ['('] => .opening
  | [')'] => .closing
  | ['-', 'a'] => .both
  | ['-', 'o'] => .any
  | ['-', letter] => if questions.contains letter then .question letter else .text
  | _ => if comparisons.contains (String.ofList argument) then .comparison argument else .text

/-- Whether an argument is a comparison. -/
def compares (argument : Letters) : Bool :=
  -- Only its own meaning counts.
  match meaning argument with
  | .comparison _ => true
  | _ => false

/-- What the first of several arguments means among them. -/
def first : List Letters → Word
  -- A question at the end or before a comparison is a text, and so is a parenthesis at the end.
  | [] => .nothing
  | argument :: rest =>
    match meaning argument, rest with
    | .question letter, [_] => .question letter
    | .question _, [] => .text
    | .question letter, next :: _ :: _ => if compares next then .text else .question letter
    | .opening, [] => .text
    | word, _ => word

/-- The whole number that an argument spells in the base ten. -/
def wholeNumber (argument : Letters) : Except ConditionFault Int :=
  -- Blanks around it do not count.
  let inner := Field.afterBlanks (Field.afterBlanks argument).reverse
  match integer? inner.reverse with
  | some value =>
    if -0x8000000000000000 ≤ value ∧ value < 0x8000000000000000 then
      .ok value
    else
      .error (.notANumber argument)
  | none => .error (.notANumber argument)

/-- Whether a question about an argument is to be affirmed. -/
def affirms (workplace : Workplace) (letter : Char) (argument : Letters) : Bool :=
  -- Links are followed unless they are asked for.
  let path := octetsOf argument
  let node := (workplace.find path).toOption.map (·.2)
  match letter with
  | 'z' => argument.isEmpty
  | 'n' => !argument.isEmpty
  | 't' => false
  | 'h' | 'L' => (workplace.named? path).any Node.isLink
  | 'e' | 'O' | 'G' => node.isSome
  | 'd' => node.any Node.isDirectory
  | 'r' => node.any Node.readable
  | 'w' => node.any Node.writable
  | 'x' => node.any Node.searchable
  | 'f' => (node matches some (.file _ _))
  | 'S' => (node matches some (.socket _ _))
  | 'c' => (node matches some (.device _))
  | 's' => match node with
    | some (.file _ contents) => !contents.isEmpty
    | some (.directory _) => true
    | _ => false
  | 'u' => node.any fun node => node.mode.testBit 11
  | 'g' => node.any fun node => node.mode.testBit 10
  | 'k' => node.any fun node => node.mode.testBit 9
  | _ => false

/-- Whether a comparison of two arguments holds. -/
def compare (workplace : Workplace) (sign left right : Letters) : Except ConditionFault Bool := do
  -- Files have no times, so that none is newer or older than another.
  let place (argument : Letters) := ((workplace.find (octetsOf argument)).toOption).map (·.1)
  match String.ofList sign with
  | "=" | "==" => return left == right
  | "!=" => return left != right
  | "<" => return Octets.before (octetsOf left) (octetsOf right)
  | ">" => return Octets.before (octetsOf right) (octetsOf left)
  | "-nt" | "-ot" => return false
  | "-ef" => return (place left).isSome && place left == place right
  | name =>
    let first ← wholeNumber left
    let second ← wholeNumber right
    return match name with
      | "-eq" => first == second
      | "-ne" => first != second
      | "-ge" => second ≤ first
      | "-gt" => second < first
      | "-le" => first ≤ second
      | _ => first < second

mutual

/-- Whether any of several conditions holds, and the arguments from the last one of them on. -/
def anyHolds (workplace : Workplace) : (fuel : Nat) → Word → List Letters →
    Except ConditionFault (Bool × List Letters)
  -- All of them are looked at.
  | 0, _, arguments => .ok (false, arguments)
  | fuel + 1, word, arguments => do
    let (holds, after) ← bothHold workplace fuel word arguments
    if first after.tail = .any then
      let (others, last) ← anyHolds workplace fuel (first (after.drop 2)) (after.drop 2)
      return (holds || others, last)
    else return (holds, after)

/-- Whether all of several conditions hold, and the arguments from the last one of them on. -/
def bothHold (workplace : Workplace) : (fuel : Nat) → Word → List Letters →
    Except ConditionFault (Bool × List Letters)
  -- All of them are looked at.
  | 0, _, arguments => .ok (false, arguments)
  | fuel + 1, word, arguments => do
    let (holds, after) ← oppositeHolds workplace fuel word arguments
    if first after.tail = .both then
      let (others, last) ← bothHold workplace fuel (first (after.drop 2)) (after.drop 2)
      return (holds && others, last)
    else return (holds, after)

/-- Whether a condition or its opposite holds, and the arguments from its last one on. -/
def oppositeHolds (workplace : Workplace) : (fuel : Nat) → Word → List Letters →
    Except ConditionFault (Bool × List Letters)
  -- The opposite of nothing holds.
  | 0, _, arguments => .ok (false, arguments)
  | fuel + 1, word, arguments => do
    if word = .opposite then
      let next := first arguments.tail
      let (holds, after) ← oppositeHolds workplace fuel next (if next = .nothing then arguments
        else arguments.tail)
      return (!holds, after)
    else simpleHolds workplace fuel word arguments

/-- Whether a condition without parts holds, and the arguments from its last one on. -/
def simpleHolds (workplace : Workplace) : (fuel : Nat) → Word → List Letters →
    Except ConditionFault (Bool × List Letters)
  -- A text by itself holds if it is not empty.
  | 0, _, arguments => .ok (false, arguments)
  | fuel + 1, word, arguments => do
    match word, arguments with
    | .nothing, _ | _, [] => return (false, arguments)
    | .opening, _ :: rest =>
      if first rest = .closing then return (false, rest)
      let (holds, after) ← anyHolds workplace fuel (first rest) rest
      if first after.tail = .closing then return (holds, after.tail) else throw .notClosed
    | .question letter, sign :: rest =>
      match rest with
      | [] => throw (.missingArgument sign)
      | argument :: _ =>
        if letter = 't' then
          let _ ← wholeNumber argument
        return (affirms workplace letter argument, rest)
    | _, text :: rest =>
      match first rest, rest with
      | .comparison sign, _ :: others =>
        match others with
        | [] => throw (.missingArgument sign)
        | right :: _ => return (← compare workplace sign text right, others)
      | _, _ => return (!text.isEmpty, arguments)

end

/-- Whether a condition holds whose first argument has a meaning. -/
def judge (workplace : Workplace) (word : Word) (arguments : List Letters) :
    Except ConditionFault Bool := do
  -- Nothing may follow it.
  let (holds, after) ← anyHolds workplace (4 * arguments.length + 8) word arguments
  match after with
  | _ :: _ :: _ => throw (.unexpected (after.headD []))
  | _ => return holds

/-- Whether the condition in three arguments holds, and whether its opposite is meant. -/
def threeHold (workplace : Workplace) (left sign right : Letters) :
    Except ConditionFault (Bool × Bool) := do
  -- A comparison comes before everything else.
  if compares sign then return (← judge workplace .text [left, sign, right], false)
  else if left = ['('] && right = [')'] then return (← judge workplace (first [sign]) [sign], false)
  else if left = ['!'] then return (← judge workplace (first [sign, right]) [sign, right], true)
  else return (← judge workplace (first [left, sign, right]) [left, sign, right], false)

/-- Whether the condition in arguments holds. -/
def holds (workplace : Workplace) (arguments : List Letters) : Except ConditionFault Bool := do
  -- The number of arguments comes before the meaning of each of
  -- them, and two signs for the opposite count as one.
  match arguments with
  | [] => return false
  | [left, sign, right] =>
    let (holds, isOpposite) ← threeHold workplace left sign right
    return holds != isOpposite
  | [opening, second, third, closing] =>
    if opening = ['('] && closing = [')'] then
      judge workplace (first [second, third]) [second, third]
    else if opening = ['!'] then return !(← threeHold workplace second third closing).1
    else judge workplace (first arguments) arguments
  | _ => judge workplace (first arguments) arguments

end Condition

end Wakeful.Shell
