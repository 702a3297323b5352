import Wakeful.Shell.Regex
import Wakeful.Shell.Tool.Text
import Wakeful.Shell.Verdict

/-! Programs that make something of their arguments alone. -/

namespace Wakeful.Shell.Tool

/-- A program that only leaves with a code. -/
def leaving (code : Nat) (task : Task) : Result := task.saying code []

/-- Words joined by blanks. -/
def joined (words : List Letters) : Letters := List.intercalate [' '] words

/-- Writes its arguments in one line with all escapes carried out, as a shell does. -/
def echoOwn (task : Task) : Result :=
  -- One choice alone leaves out the line end.
  let (words, ending) : List Letters × Letters := match task.arguments with
    | ['-', 'n'] :: words => (words, [])
    | words => (words, ['\n'])
  let (text, ends) := EscapeStyle.unescape ⟨true, false, true, false⟩ (joined words)
  task.saying 0 (if ends = .stopped then text else text ++ ending)

/-- Writes its arguments in one line, with escapes carried out if asked for. -/
def echo (task : Task) : Result :=
  -- Only arguments made of nothing but the letters of choices are choices.
  let isChoice (word : Letters) := match word with
    | '-' :: letter :: rest => (letter :: rest).all ("neE".toList.contains ·)
    | _ => false
  let chosen := (task.arguments.takeWhile isChoice).flatMap (·.drop 1)
  let text := joined (task.arguments.dropWhile isChoice)
  let ending : Letters := if chosen.contains 'n' then [] else ['\n']
  if (chosen.filter (· != 'n')).getLast? = some 'e' then
    let (text, ends) := EscapeStyle.unescape ⟨true, true, true, false⟩ text
    task.saying 0 (if ends = .stopped then text else text ++ ending)
  else task.saying 0 (text ++ ending)

/-- Writes its arguments in a format. -/
def printf (origin : Origin) (task : Task) : Result :=
  -- A shell writes its complaints before everything else.
  let arguments :=
    if task.arguments.head? = some ['-', '-'] then task.arguments.drop 1 else task.arguments
  match origin, arguments with
  | .shell, [] => task.failing 2 "usage: printf format [arg ...]".toList
  | .system, [] => task.misused 1 "missing operand".toList
  | _, format :: words =>
    let sign := if origin = .shell && arguments.length = task.arguments.length then format.take 2
      else []
    match sign with
    | ['-', letter] => task.failing 2 ("Illegal option -".toList ++ [letter])
    | _ =>
      let filling := fillFormat origin format words
      let written := filling.written.reverse.map fun (descriptor, text) =>
        (descriptor, if descriptor = 2 then task.complaint text else text)
      let ordered :=
        if origin = .shell then written.filter (·.1 = 2) ++ written.filter (·.1 = 1) else written
      ⟨filling.code, ordered, task.input, task.workplace⟩

/-- Tests a condition. -/
def test (origin : Origin) (task : Task) : Result :=
  -- A condition that cannot be understood has a code of its own.
  let verdict := match origin with
    | .shell => Condition.holds task.workplace task.arguments
    | .system => Verdict.holds task.workplace task.arguments
  match verdict with
  | .ok true => task.saying 0 []
  | .ok false => task.saying 1 []
  | .error fault => task.failing 2 fault.message

/-- Tests a condition that a bracket closes. -/
def bracket (origin : Origin) (task : Task) : Result :=
  -- Without the bracket nothing is tested.
  if task.arguments.getLast? = some [']'] then
    test origin { task with arguments := task.arguments.dropLast }
  else task.failing 2 (if origin = .shell then "missing ]".toList else "missing ']'".toList)

/-! ### Numbers in turn -/

/-- A decimal as a whole number of its smallest parts, with the number of places after its point. -/
def decimal? (letters : Letters) : Option (Int × Nat) :=
  -- A power of ten may follow.
  let (isNegative, unsigned) := Field.signed letters
  let wholePart := unsigned.takeWhile Char.isDigit
  let rest := unsigned.drop wholePart.length
  let (fraction, rest) := match rest with
    | '.' :: others => (others.takeWhile Char.isDigit, others.dropWhile Char.isDigit)
    | _ => ([], rest)
  let power := match rest with
    | [] => some 0
    | mark :: others => if mark = 'e' || mark = 'E' then number? others else none
  match number? (wholePart ++ fraction), power with
  | some size, some power =>
    let grown := size * Nat.pow 10 (power - fraction.length)
    let size : Int := if fraction.length ≤ power then grown else size * Nat.pow 10 power
    some (if isNegative then -size else size,
      if fraction.length ≤ power then 0 else fraction.length - power)
  | _, _ => none

/-- A whole number of small parts, written with so many places after its point. -/
def decimalText (places : Nat) (value : Int) : Letters :=
  -- There is at least one digit before the point.
  let digits := Nat.toDigits 10 value.natAbs
  let padded := List.replicate (places + 1 - digits.length) '0' ++ digits
  let (wholePart, fraction) := padded.splitAt (padded.length - places)
  (if value < 0 then ['-'] else []) ++ wholePart ++ if places = 0 then [] else '.' :: fraction

/-- A number with noughts before it up to a width, after its sign. -/
def widened (width : Nat) : Letters → Letters
  | '-' :: digits => '-' :: List.replicate (width - 1 - digits.length) '0' ++ digits
  | digits => List.replicate (width - digits.length) '0' ++ digits

/-- The width of a number among others with so many places, as it was given. -/
def operandWidth (places : Nat) (text : Letters) : Nat :=
  -- Noughts before it count too.
  let text := (Field.afterBlanks text).dropWhile (· = '+')
  let body := text.takeWhile fun letter => letter ≠ '.' && letter ≠ 'e' && letter ≠ 'E'
  let power := ((text.dropWhile fun letter => letter ≠ 'e' && letter ≠ 'E').drop 1)
  let digits :=
    body.length + ((integer? power).getD 0).toNat + if body.getLast?.any Char.isDigit then 0 else 1
  digits + if places = 0 then 0 else places + 1

/-- Writes the numbers from one to another. -/
def seq (task : Task) : Result :=
  -- Negative numbers are no choices.
  let rec divide : List Letters → List Letters × List Letters
    | [] => ([], [])
    | word :: rest => match word with
      | '-' :: next :: _ =>
        if next.isDigit || next = '.' then ([], word :: rest)
        else if word = ['-', 's'] || word = ['-', 'f'] then match rest with
          | value :: others =>
            let (choices, numbers) := divide others
            (word :: value :: choices, numbers)
          | [] => ([word], [])
        else
          let (choices, numbers) := divide rest
          (word :: choices, numbers)
      | _ => ([], word :: rest)
  let (chosen, operands) := divide task.arguments
  withChoices ⟨"w", "sf", [("equal-width", 'w'), ("separator", 's'), ("format", 'f')],
    false⟩ 1 (fun task choices =>
    let separator := (choices.value? 's').getD ['\n']
    let triple := match operands with
      | [last] => some (['1'], ['1'], last)
      | [first, last] => some (first, ['1'], last)
      | [first, step, last] => some (first, step, last)
      | _ => none
    match triple with
    | none => if operands.isEmpty then task.misused 1 "missing operand".toList
      else task.misused 1 ("extra operand '".toList ++ (operands[3]?.getD []) ++ ['\''])
    | some (firstText, stepText, lastText) =>
      match [firstText, stepText, lastText].find? fun text => (decimal? text).isNone with
      | some text => task.misused 1 ("invalid floating point argument: '".toList ++ text ++ ['\''])
      | none =>
        match decimal? firstText, decimal? stepText, decimal? lastText with
        | some (first, firstPlaces), some (step, stepPlaces), some (last, lastPlaces) =>
          if choices.has 'w' && choices.has 'f' then
            task.misused 1
              "format string may not be specified when printing equal width strings".toList
          else if step = 0 then
            task.misused 1 ("invalid Zero increment value: '".toList ++ stepText ++ ['\''])
          else
            let fine := max (max firstPlaces stepPlaces) lastPlaces
            let scale (value : Int) (places : Nat) : Int := value * Nat.pow 10 (fine - places)
            let first := scale first firstPlaces
            let step := scale step stepPlaces
            let last := scale last lastPlaces
            let places := max firstPlaces stepPlaces
            let count := ((last - first).fdiv step + 1).toNat
            let render (value : Int) : Letters :=
              decimalText places (value.tdiv (Nat.pow 10 (fine - places)))
            let shown := (List.range count).map fun (turn : Nat) => render (first + turn * step)
            let width := max (operandWidth places firstText) (operandWidth places lastText)
            let texts := match choices.value? 'f' with
              | some format => shown.map fun text =>
                ((fillFormat .system format [text]).written.reverse.filter (·.1 = 1)).flatMap (·.2)
              | none => if choices.has 'w' then shown.map (widened width) else shown
            task.saying 0 (if texts.isEmpty then [] else List.intercalate separator texts ++ ['\n'])
        | _, _, _ => task.failing 1 []) { task with arguments := chosen }

/-! ### Expressions in arguments -/

/-- What is wrong with an expression. -/
inductive ExpressionFault where
  /-- Something should follow. -/
  | missingAfter (word : Letters)
  /-- Something follows that should not. -/
  | unexpected (word : Letters)
  /-- A parenthesis should be closed after something. -/
  | notClosed (word : Letters)
  /-- A number should stand in the stead of a text. -/
  | notANumber
  /-- Something is to be divided by zero. -/
  | divisionByZero
  /-- A pattern cannot be understood. -/
  | badPattern (fault : Regex.Fault)
  deriving DecidableEq, Repr

/-- The words for a fault in an expression. -/
def ExpressionFault.message : ExpressionFault → Letters
  -- Most of them show an argument.
  | missingAfter word => "syntax error: missing argument after '".toList ++ word ++ ['\'']
  | unexpected word => "syntax error: unexpected argument '".toList ++ word ++ ['\'']
  | notClosed word => "syntax error: expecting ')' after '".toList ++ word ++ ['\'']
  | notANumber => "non-integer argument".toList
  | divisionByZero => "division by zero".toList
  | badPattern fault => fault.message.toList

/-- What is left of an expression, after the last argument that has been taken. -/
structure ExpressionRest where
  /-- The last argument that has been taken. -/
  last : Letters
  /-- The arguments that are left. -/
  words : List Letters

/-- The whole number that a text spells, if it spells one. -/
def expressionNumber (text : Letters) : Except ExpressionFault Int :=
  -- Only a minus sign may come first.
  match if text.head? = some '+' then none else integer? text with
  | some value => .ok value
  | none => .error .notANumber

/-- Whether a text counts as nothing. -/
def isNull (text : Letters) : Bool :=
  -- Nothing and zero do.
  let digits := if text.head? = some '-' then text.drop 1 else text
  text.isEmpty || !digits.isEmpty && digits.all (· = '0')

/-- What a pattern takes from the beginning of a text. -/
def matchText (text pattern : Letters) : Except ExpressionFault Letters :=
  -- A group is taken itself, and otherwise its length counts.
  match Regex.read .loose pattern with
  | .error fault => .error (.badPattern fault)
  | .ok regex =>
    let hasGroup :=
      "\\(".toList.isPrefixOf pattern || (pattern.zip (pattern.drop 1)).contains ('\\', '(')
    match (regex.ends ⟨none, text, []⟩).head? with
    | some last => .ok (if hasGroup then (last.groups.lookup 1).getD []
        else digitsOf (text.length - last.rest.length : Nat))
    | none => .ok (if hasGroup then [] else ['0'])

/-- The operators between two texts by how loosely they bind, the loosest first. -/
def expressionLevels : List (List String) :=
  -- Patterns bind most tightly.
  [["|"], ["&"], ["<", "<=", "=", "==", "!=", ">=", ">"], ["+", "-"], ["*", "/", "%"], [":"]]

/-- What an operator makes of two texts. -/
def applyExpression (isMeant : Bool) (operator : String) (left right : Letters) :
    Except ExpressionFault Letters := do
  -- Numbers are compared by value, and other texts by their
  -- letters; nothing is made of texts that are not meant.
  if !isMeant then return left
  let truth (holds : Bool) : Letters := if holds then ['1'] else ['0']
  match operator with
  | "|" => return if isNull left then (if isNull right then ['0'] else right) else left
  | "&" => return if isNull left || isNull right then ['0'] else left
  | ":" => matchText left right
  | "+" => return digitsOf ((← expressionNumber left) + (← expressionNumber right))
  | "-" => return digitsOf ((← expressionNumber left) - (← expressionNumber right))
  | "*" => return digitsOf ((← expressionNumber left) * (← expressionNumber right))
  | "/" | "%" =>
    let first ← expressionNumber left
    let second ← expressionNumber right
    if second = 0 then throw .divisionByZero
    return digitsOf (if operator = "/" then first.tdiv second else first.tmod second)
  | _ =>
    let order := match expressionNumber left, expressionNumber right with
      | .ok first, .ok second => (decide (first < second), first == second)
      | _, _ => (Octets.before (octetsOf left) (octetsOf right), left == right)
    return truth (match operator with
      | "<" => order.1
      | "<=" => order.1 || order.2
      | "=" | "==" => order.2
      | "!=" => !order.2
      | ">=" => !order.1
      | _ => !order.1 && !order.2)

mutual

/-- The value at the beginning of an expression, of operators that bind at least so tightly. -/
def expressionValue : (fuel : Nat) → (isMeant : Bool) → List (List String) → ExpressionRest →
    Except ExpressionFault (Letters × ExpressionRest)
  -- Below the tightest operators there are words and parentheses.
  | 0, _, _, rest => .error (.missingAfter rest.last)
  | fuel + 1, isMeant, [], rest => expressionAtom fuel isMeant rest
  | fuel + 1, isMeant, level :: tighter, rest => do
    let (value, after) ← expressionValue fuel isMeant tighter rest
    expressionMore fuel isMeant level tighter value after

/-- Goes on with operators of one level from the left. -/
def expressionMore :
    (fuel : Nat) → (isMeant : Bool) → List String → List (List String) → Letters → ExpressionRest →
    Except ExpressionFault (Letters × ExpressionRest)
  -- An operator of another level is left to somebody else, and what
  -- decides by itself leaves the rest without meaning.
  | 0, _, _, _, value, rest => .ok (value, rest)
  | fuel + 1, isMeant, level, tighter, value, rest => do
    match rest.words with
    | word :: others =>
      let operator := String.ofList word
      if level.contains operator then
        let decides := operator = "|" && !isNull value || operator = "&" && isNull value
        let (right, after) ← expressionValue fuel (isMeant && !decides) tighter ⟨word, others⟩
        expressionMore fuel isMeant level tighter
          (← applyExpression isMeant operator value right) after
      else return (value, rest)
    | [] => return (value, rest)

/-- The value of a word, of parentheses or of a function. -/
def expressionAtom : (fuel : Nat) → (isMeant : Bool) → ExpressionRest → Except ExpressionFault
    (Letters × ExpressionRest)
  -- A function takes the words after it.
  | 0, _, rest => .error (.missingAfter rest.last)
  | fuel + 1, isMeant, rest => do
    match rest.words with
    | [] => throw (.missingAfter rest.last)
    | word :: others =>
      let inner : ExpressionRest := ⟨word, others⟩
      match String.ofList word with
      | "(" =>
        let (value, after) ← expressionValue fuel isMeant expressionLevels inner
        match after.words with
        | [')'] :: more => return (value, ⟨[')'], more⟩)
        | [] => throw (.notClosed after.last)
        | other :: _ => throw (.unexpected other)
      | "+" =>
        match others with
        | [] => throw (.missingAfter word)
        | text :: more => return (text, ⟨text, more⟩)
      | "length" =>
        let (text, after) ← expressionAtom fuel isMeant inner
        return (digitsOf (text.length : Nat), after)
      | "match" =>
        let (text, between) ← expressionAtom fuel isMeant inner
        let (pattern, after) ← expressionAtom fuel isMeant between
        if isMeant then return (← matchText text pattern, after) else return ([], after)
      | "index" =>
        let (text, between) ← expressionAtom fuel isMeant inner
        let (letters, after) ← expressionAtom fuel isMeant between
        return (digitsOf ((text.findIdx? letters.contains).elim 0 (· + 1) : Nat), after)
      | "substr" =>
        let (text, between) ← expressionAtom fuel isMeant inner
        let (place, further) ← expressionAtom fuel isMeant between
        let (count, after) ← expressionAtom fuel isMeant further
        let place := ((integer? place).getD 0)
        let count := ((integer? count).getD 0)
        return (if place ≤ 0 || count ≤ 0 then []
          else (text.drop (place.toNat - 1)).take count.toNat, after)
      | ")" => throw (.unexpected word)
      | _ => return (word, ⟨word, others⟩)

end

/-- Writes the value of an expression. -/
def expr (task : Task) : Result :=
  -- A value that counts as nothing is a failure.
  let words := if task.arguments.head? = some ['-', '-'] then task.arguments.drop 1
    else task.arguments
  let fuel := 16 * words.length + 16
  match if words.isEmpty then none
    else some (expressionValue fuel true expressionLevels ⟨[], words⟩) with
  | none => task.misused 2 "missing operand".toList
  | some (.error fault) => task.failing 2 fault.message
  | some (.ok (value, rest)) =>
    match rest.words with
    | [] => task.saying (if isNull value then 1 else 0) (value ++ ['\n'])
    | word :: _ => task.failing 2 (ExpressionFault.unexpected word).message

/-! ### Paths and names -/

/-- Letters without separators at their end, of which a lone one stays. -/
def withoutSlashes (path : Letters) : Letters :=
  -- Something has to be left.
  let short := (path.reverse.dropWhile (· = '/')).reverse
  if short.isEmpty then path.take 1 else short

/-- The last name of a path. -/
def lastName (path : Letters) : Letters :=
  -- Separators after it do not count.
  let short := withoutSlashes path
  if short = ['/'] then short else (short.reverse.takeWhile (· != '/')).reverse

/-- The path of the directory in which a path lies. -/
def directoryName (path : Letters) : Letters :=
  -- A name alone lies in the working directory.
  let short := withoutSlashes path
  let above := (short.reverse.dropWhile (· != '/')).reverse
  if short = ['/'] then short else if above.isEmpty then ['.'] else withoutSlashes above

/-- Texts with their ends, which are noughts if so chosen. -/
def ended (choices : Choices) (texts : List Letters) : Letters :=
  -- Every text has an end.
  texts.flatMap (· ++ [if choices.has 'z' || choices.has '0' then '\x00' else '\n'])

/-- Writes the last names of paths. -/
def basename : Task → Result :=
  -- An ending goes away unless it is the whole name.
  withChoices ⟨"az", "s", [("multiple", 'a'), ("suffix", 's')], false⟩ 1 fun task choices =>
    let cut (suffix name : Letters) :=
      if suffix.isSuffixOf name && suffix != name then name.take (name.length - suffix.length)
      else name
    match choices.operands with
    | [] => task.misused 1 "missing operand".toList
    | path :: others =>
      if choices.has 'a' || choices.has 's' then
        task.saying 0 (ended choices ((path :: others).map fun path =>
          cut ((choices.value? 's').getD []) (lastName path)))
      else match others with
        | [] => task.saying 0 (ended choices [lastName path])
        | [suffix] => task.saying 0 (ended choices [cut suffix (lastName path)])
        | _ :: extra :: _ => task.misused 1 ("extra operand '".toList ++ extra ++ ['\''])

/-- Writes the paths of the directories in which paths lie. -/
def dirname : Task → Result :=
  -- Each has a line of its own.
  withChoices ⟨"z", "", [], true⟩ 1 fun task choices =>
    if choices.operands.isEmpty then task.misused 1 "missing operand".toList
    else task.saying 0 (ended choices (choices.operands.map directoryName))

/-! ### The surroundings -/

/-- Writes variables. -/
def printenv : Task → Result :=
  -- One that is missing is a failure.
  withChoices ⟨"0", "", [("null", '0')], false⟩ 2 fun task choices =>
    let value? (name : Letters) :=
      (task.settings.find? fun line => (name ++ ['=']).isPrefixOf line).map
      (·.drop (name.length + 1))
    if choices.operands.isEmpty then task.saying 0 (ended choices task.settings)
    else
      let found := choices.operands.filterMap value?
      task.saying (if found.length = choices.operands.length then 0 else 1) (ended choices found)

/-- Tells who runs it. -/
def id : Task → Result :=
  -- It is always the owner of everything.
  withChoices ⟨"ugGnr", "",
    [("user", 'u'), ("group", 'g'), ("groups", 'G'), ("name", 'n'), ("real", 'r')], true⟩ 1
    fun task choices =>
      let isShort := "ugG".toList.any choices.has
      let other := choices.operands.find? fun name => name ≠ "root".toList && name ≠ ['0']
      if let some name := other then
        task.failing 1 (['\''] ++ name ++ "': no such user".toList) else
      if !isShort && "nr".toList.any choices.has then
        task.failing 1 "printing only names or real IDs requires -u, -g, or -G".toList else
      let text := if !isShort then "uid=0(root) gid=0(root) groups=0(root)"
        else if choices.has 'n' then "root" else "0"
      task.saying 0 (text.toList ++ ['\n'])

/-- A program without arguments that tells one thing. -/
def telling (code : Nat) (text : String) : Task → Result :=
  -- Any argument is one too many.
  withChoices ⟨"", "", [], true⟩ 1 fun task choices =>
    match choices.operands with
    | [] => task.saying code (text.toList ++ ['\n'])
    | extra :: _ => task.misused 1 ("extra operand '".toList ++ extra ++ ['\''])

/-- Tells about the system. -/
def uname : Task → Result :=
  -- Only what is the same everywhere is told.
  withChoices ⟨"asmopi", "", [("kernel-name", 's'), ("machine", 'm'), ("operating-system", 'o')],
    true⟩ 1 fun task choices =>
    let parts := (if choices.has 's' || choices.chosen.isEmpty then ["Linux"] else [])
      ++ (if choices.has 'm' then ["x86_64"] else []) ++
        (if choices.has 'o' then ["GNU/Linux"] else [])
    task.saying 0 (joined (parts.map String.toList) ++ ['\n'])

/-- Waits for some time. -/
def sleep (task : Task) : Result :=
  -- Only the form of the times matters.
  let isTime (text : Letters) :=
    let short := if text.getLast?.any ("smhd".toList.contains ·) then text.dropLast else text
    (decimal? short).any fun (value, _) => 0 ≤ value
  let words := if task.arguments.head? = some ['-', '-'] then task.arguments.drop 1
    else task.arguments
  match words.filter (!isTime ·) with
  | [] => if words.isEmpty then task.misused 1 "missing operand".toList else task.saying 0 []
  | bad :: _ => task.misused 1 ("invalid time interval '".toList ++ bad ++ ['\''])

/-- Writes the path of the working directory. -/
def pwd (task : Task) : Result :=
  -- A directory that has been removed has no path.
  match task.workplace.getcwd with
  | .ok path => task.saying 0 (lettersOf path ++ ['\n'])
  | .error _ => task.failing 1 "couldn't find directory entry in '..' with matching i-node".toList

/-- Changes a password, for which there is nothing to read. -/
def passwd (task : Task) : Result :=
  -- The new one is asked for in vain.
  ⟨10, [(2, "New password: Password change has been aborted.\n".toList), (2, task.complaint
    "Authentication token manipulation error\n".toList),
    (2, task.complaint "password unchanged".toList)], [], task.workplace⟩

end Wakeful.Shell.Tool
