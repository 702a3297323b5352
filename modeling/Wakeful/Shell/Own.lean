import Wakeful.Shell.Fields
import Wakeful.Shell.Signal
import Wakeful.Shell.Tool.Files

/-! A shell's own commands that change nothing but the shell itself. -/

namespace Wakeful.Shell

/-- The shell's other own commands. -/
def ordinaryCommands : List String :=
  -- Their failures are like those of programs.
  ["alias", "bg", "cd", "chdir", "command", "echo", "false", "fg", "getopts", "hash", "jobs",
    "kill", "printf", "pwd", "read", "test", "[", "true", "type", "ulimit", "umask", "unalias",
    "wait"]

/-- The options of a shell with their letters and names, in order. -/
def shellOptions : List (Char × String) :=
  -- Two of them have no letters, for which capital letters stand here.
  [('e', "errexit"), ('f', "noglob"), ('I', "ignoreeof"), ('i', "interactive"), ('m', "monitor"),
    ('n', "noexec"), ('s', "stdin"), ('x', "xtrace"), ('v', "verbose"), ('V', "vi"), ('E', "emacs"),
    ('C', "noclobber"), ('a', "allexport"), ('b', "notify"), ('u', "nounset"), ('p', "privileged"),
    ('L', "nolog"), ('D', "debug")]

/-- The letters of options that can be given. -/
def optionLetters : List Char := "efIimnsxvVECabup".toList

/-- Letters between single quotes, as a shell reads them. -/
def singleQuoted (letters : Letters) : Letters :=
  -- A quote in them stands between other quotes.
  let parts := Tool.pieces '\'' letters
  List.intercalate "\"'\"".toList (parts.map fun part => ['\''] ++ part ++ ['\''])

/-- The number from zero on that a word spells. -/
def count? (word : Letters) : Option Nat :=
  -- It has to fit into a word of 31 bits.
  match Condition.wholeNumber word with
  | .ok value => if 0 ≤ value ∧ value < 0x80000000 then some value.toNat else none
  | .error _ => none

namespace Action

/-- Complains and takes the present command as a failure that ends a shell. -/
def reject (words : Letters) : Action Unit := giveUp words

/-- Complains about a word that should be a number. -/
def rejectNumber (word : Letters) : Action Unit := reject ("Illegal number: ".toList ++ word)

/-- Complains about a choice. -/
def rejectChoice (letter : Char) : Action Unit := reject ("Illegal option -".toList ++ [letter])

/-- Writes a text, and fails if this is not possible. -/
def say (text : Letters) : Action Unit := do
  -- Nothing to write is never a failure.
  if text.isEmpty then return
  if !(← write 1 text) then
    complain (((← frame).command.getD []) ++ ": I/O error".toList)
    setCode 1

/-- The choices at the beginning of arguments, and the other arguments. -/
def choicesOf (known : String) : List Letters → Except Char (List Char × List Letters)
  -- Two signs end the choices, and one sign is none.
  | ['-', '-'] :: rest => .ok ([], rest)
  | ('-' :: letter :: more) :: rest =>
    match (letter :: more).find? fun letter => !known.toList.contains letter with
    | some bad => .error bad
    | none => (choicesOf known rest).map fun (chosen, others) => (letter :: more ++ chosen, others)
  | rest => .ok ([], rest)

/-- Carries out a command with choices. -/
def withChosen (known : String) (arguments : List Letters)
    (act : List Char → List Letters → Action Unit) : Action Unit :=
  -- Nothing is done if a choice is not known.
  match choicesOf known arguments with
  | .ok (chosen, others) => act chosen others
  | .error letter => rejectChoice letter

/-! ### Directories -/

/-- The path that another one leads to from a path, without dots. -/
def joinedPath (start path : Letters) : Letters :=
  -- A step upwards takes away a name.
  let names :=
    (Tool.pieces '/' (if path.head? = some '/' then path else start ++ '/' :: path)).filter
    (!·.isEmpty)
  let kept := names.foldl (fun kept name =>
    if name = ['.'] then
      kept
    else if name = ['.', '.'] then kept.drop 1 else name :: kept) ([] : List Letters)
  if kept.isEmpty then ['/'] else kept.reverse.flatMap ('/' :: ·)

/-- Works in another directory from now on. -/
def changeDirectory (arguments : List Letters) : Action Unit :=
  -- The former one is remembered.
  withChosen "LPe" arguments fun chosen operands => do
    let frame ← frame
    let isBack := operands.head? = some ['-']
    let goal ← match operands with
      | [] => pure ((← value? "HOME").getD [])
      | path :: _ => if isBack then pure ((← value? "OLDPWD").getD []) else pure path
    let isPhysical := ((chosen.filter (· != 'e')).getLast?) = some 'P'
    let path := if goal.isEmpty then ['.'] else goal
    let target := if isPhysical then path else joinedPath frame.path path
    let (outcome, after) := (← workplace).chdir (octetsOf target)
    match outcome with
    | .error _ => reject ("can't cd to ".toList ++ goal)
    | .ok _ =>
      setWorkplace after
      let reached :=
        if isPhysical then (after.getcwd.toOption.map lettersOf).getD target else target
      let _ ← assign "OLDPWD" frame.path true
      let _ ← assign "PWD" reached true
      changeFrame ({ · with path := reached })
      if isBack then say (reached ++ ['\n'])

/-- Tells the working directory. -/
def tellDirectory (arguments : List Letters) : Action Unit :=
  -- Links in the path may have been replaced.
  withChosen "LP" arguments fun chosen _ => do
    let logical := (← frame).path
    let physical := ((← workplace).getcwd.toOption.map lettersOf).getD logical
    say ((if chosen.getLast? = some 'P' then physical else logical) ++ ['\n'])

/-- Withholds permissions from new files. -/
def changeMask (arguments : List Letters) : Action Unit :=
  -- Without an argument the permissions are told.
  withChosen "S" arguments fun chosen operands => do
    let mask := (← frame).mask &&& 0o777
    match operands with
    | [] =>
      if chosen.isEmpty then
        let digits := Nat.toDigits 8 mask
        say (List.replicate (4 - digits.length) '0' ++ digits ++ ['\n'])
      else
        let part (who : Char) (shift : Nat) : Letters :=
          [who, '='] ++ ([('r', 2), ('w', 1), ('x', 0)].filterMap
          fun (letter, bit) => if mask.testBit (shift + bit) then none else some letter)
        say (part 'u' 6 ++ [','] ++ part 'g' 3 ++ [','] ++ part 'o' 0 ++ ['\n'])
    | word :: _ =>
      if word.head?.any Char.isDigit then
        if word.all fun letter => (Sum.digit? 8 letter).isSome then
          changeFrame ({ · with mask := (Sum.digits 8 0 word).1 &&& 0o777 })
        else rejectNumber word
      else match Tool.readMode true 0 (0o777 ^^^ mask) word with
        | some granted => changeFrame ({ · with mask := 0o777 ^^^ (granted &&& 0o777) })
        | none => reject ("Illegal mode: ".toList ++ word)

/-! ### Variables -/

/-- The name and the value that an argument gives to it. -/
def assignment (argument : Letters) : Letters × Option Letters :=
  -- The first sign of equality parts them.
  let name := argument.takeWhile (· != '=')
  (name, if name.length < argument.length then some (argument.drop (name.length + 1)) else none)

/-- Lines that would set variables again, in the order of their names. -/
def listing (opening : String) (chosen : List (String × Variable)) : Letters :=
  -- A variable without a value is only named.
  let sorted := chosen.mergeSort fun left right =>
    !Octets.before (Octets.ofText right.1) (Octets.ofText left.1)
  sorted.flatMap fun (name, kept) => opening.toList ++ name.toList
    ++ (kept.value.elim [] fun value => '=' :: singleQuoted value) ++ ['\n']

/-- Marks variables, some of which get a value on the way. -/
def markVariables (isFixing : Bool) (arguments : List Letters) : Action Unit :=
  -- Without names those that are marked are told.
  withChosen "p" arguments fun chosen operands => do
    if operands.isEmpty || chosen.contains 'p' then
      let word := if isFixing then "readonly " else "export "
      let marked := (← frame).bindings.filter fun entry =>
        if isFixing then entry.2.isFixed else entry.2.isExported
      say (listing word marked)
    else operands.forM fun argument => do
      if !(← isGoing) then return
      let (name, value) := assignment argument
      if !Script.isName name then reject (name ++ ": bad variable name".toList)
      else
        let name := String.ofList name
        let allowed ← match value with
          | some value => assign name value false
          | none => pure true
        if allowed then
          let former := (← known? name).getD ⟨none, false, false⟩
          putVariable name { former with
            isExported := former.isExported || !isFixing, isFixed := former.isFixed || isFixing }

/-- Forgets variables or functions. -/
def forget (arguments : List Letters) : Action Unit :=
  -- A variable that has to stay as it is cannot be forgotten.
  withChosen "fv" arguments fun chosen operands => operands.forM fun name => do
    if !(← isGoing) then return
    let word := String.ofList name
    if chosen.getLast? = some 'f' then
      changeFrame fun frame => { frame with functions := frame.functions.filter (·.1 != word) }
    else if !Script.isName name then reject (name ++ ": bad variable name".toList)
    else if (← known? word).any (·.isFixed) then reject (name ++ ": is read only".toList)
    else removeVariable word

/-- Keeps what variables are now for the end of the function. -/
def keepLocals (arguments : List Letters) : Action Unit := do
  -- Every variable is kept once.
  if (← frame).locals.isEmpty then reject "not in a function".toList
  else arguments.forM fun argument => do
    if !(← isGoing) then return
    let (name, value) := assignment argument
    if argument = ['-'] then return
    if !Script.isName name then reject (name ++ ": bad variable name".toList)
    else
      let name := String.ofList name
      let former ← known? name
      let kept : List (String × Option Variable) → List (String × Option Variable) := fun saved =>
        if saved.any (·.1 = name) then saved else (name, former) :: saved
      changeFrame fun frame => { frame with locals := match frame.locals with
        | saved :: others => kept saved :: others
        | [] => [] }
      match value with
      | some value => discard (assign name value false)
      | none => return

/-- Restores variables. -/
def restore (saved : List (String × Option Variable)) : Action Unit :=
  -- One that was not there is forgotten.
  saved.forM fun (name, former) => match former with
    | some former => putVariable name former
    | none => removeVariable name

/-- Reads a line into variables. -/
def readLine (arguments : List Letters) : Action Unit := do
  -- A backslash takes away the meaning of the next letter, unless this is not wanted.
  match match arguments with
    | ['-', 'p'] :: _ :: rest => Except.ok ([], rest)
    | ['-', 'r', 'p'] :: _ :: rest | ['-', 'r'] :: ['-', 'p'] :: _ :: rest => .ok (['r'], rest)
    | _ => choicesOf "r" arguments with
  | .error letter => rejectChoice letter
  | .ok (chosen, names) =>
    if names.isEmpty then reject "arg count".toList
    else
      let (input, _) ← readable 0
      let rec scan : Letters → List Mark × Letters × Bool
        | [] => ([], [], false)
        | '\n' :: rest => ([], rest, true)
        | '\\' :: letter :: rest =>
          if chosen.contains 'r' then
            if letter = '\n' then ([.letter '\\' .divided], rest, true)
            else
              let (marks, after, ended) := scan (letter :: rest)
              (.letter '\\' .divided :: marks, after, ended)
          else
            let (marks, after, ended) := scan rest
            (if letter = '\n' then marks else .letter letter .quoted :: marks, after, ended)
        | letter :: rest =>
          let (marks, after, ended) := scan rest
          (if letter = '\x00' then marks else .letter letter .divided :: marks, after, ended)
      let (marks, rest, ended) := scan input
      leaveReadable 0 rest
      let separators ← separators
      let (first, others) :=
        Mark.fields separators none (some (names.length - 1))
          (Mark.afterDivision separators false marks)
      let isBlank (mark : Mark) := Mark.divides? separators mark == some true
      let trimmed := (others.reverse.dropWhile isBlank).reverse
      let last := match (Mark.fields separators none none trimmed).1 with
        | [] => []
        | [only] => only.map (·.1)
        | _ => Mark.text [] trimmed
      let values := (first.take (names.length - 1)).map (·.map (·.1))
      let values := values ++ (if first.length < names.length then [last] else [])
      names.zipIdx.forM fun (name, place) => do
        if !(← isGoing) then return
        if !Script.isName name then reject (name ++ ": bad variable name".toList)
        else discard (assign (String.ofList name) (values[place]?.getD []) false)
      if ← isGoing then setCode (if ended then 0 else 1)

/-! ### Arguments and options -/

/-- Turns an option on or off. -/
def setOption (isOn : Bool) (letter : Char) : Action Unit :=
  -- Nothing happens to the others.
  changeFrame fun frame =>
    let others := frame.options.filter (· != letter)
    { frame with options := if isOn then letter :: others else others }

/-- The options that are on, in order. -/
def shownOptions : Action Letters := do
  -- Only those with letters are shown, the last ones first.
  let options := (← frame).options
  return optionLetters.reverse.filter options.contains

/-- Sets options and arguments. -/
def setOptions : (fuel : Nat) → List Letters → Action Unit
  -- Arguments stay as they are if none are given.
  | 0, _ => return
  | _ + 1, [] => return
  | _ + 1, ['-', '-'] :: rest => changeFrame ({ · with arguments := rest })
  | _ + 1, ['-'] :: rest => do
    setOption false 'x'
    setOption false 'v'
    if !rest.isEmpty then changeFrame ({ · with arguments := rest })
  | fuel + 1, word :: rest => do
    match word with
    | sign :: letters =>
      if sign ≠ '-' && sign ≠ '+' then changeFrame ({ · with arguments := word :: rest })
      else if letters = ['o'] then
        match rest with
        | [] =>
          let options := (← frame).options
          if sign = '-' then
            say ("Current option settings\n".toList ++ shellOptions.flatMap fun (letter, name) =>
              name.toList ++ List.replicate (16 - name.length) ' '
                ++ (if options.contains letter then "on\n" else "off\n").toList)
          else say (shellOptions.flatMap fun (letter, name) =>
            (if options.contains letter then "set -o " else "set +o ").toList ++ name.toList ++
              ['\n'])
        | name :: others =>
          match shellOptions.find? fun option => option.2.toList = name with
          | some (letter, _) => do
            setOption (sign = '-') letter
            setOptions fuel others
          | none => reject ("Illegal option ".toList ++ [sign] ++ "o ".toList ++ name)
      else match letters.find? fun letter => !optionLetters.contains letter with
        | some bad => reject ("Illegal option ".toList ++ [sign, bad])
        | none => do
          letters.forM (setOption (sign = '-'))
          setOptions fuel rest
    | [] => changeFrame ({ · with arguments := word :: rest })

/-- Sets options and arguments, or tells all variables. -/
def set (arguments : List Letters) : Action Unit := do
  -- Only variables with values are told.
  if arguments.isEmpty then
    say (listing "" ((← frame).bindings.filter fun entry => entry.2.value.isSome))
  else setOptions (arguments.length + 1) arguments

/-- Drops arguments. -/
def shift (arguments : List Letters) : Action Unit := do
  -- There have to be enough.
  let present := (← frame).arguments
  match arguments.head?.elim (some 1) count? with
  | none => rejectNumber (arguments.headD [])
  | some count =>
    if present.length < count then reject "can't shift that many".toList
    else changeFrame ({ · with arguments := present.drop count })

/-- Reads the next choice among arguments. -/
def readChoice (arguments : List Letters) : Action Unit := do
  -- A variable tells which argument is looked at.
  match arguments with
  | known :: target :: given =>
    let frame ← frame
    let words := if given.isEmpty then frame.arguments else given
    let place := max 1 (((← value? "OPTIND").bind number?).getD 1)
    let inside := (words[place - 2]?.getD []).drop frame.choiceOffset
    let isInside := 0 < frame.choiceOffset && 2 ≤ place && !inside.isEmpty
    let start : Option (Letters × Nat) := if isInside then some (inside, place)
      else match words[place - 1]? with
        | some ('-' :: letter :: more) =>
          if letter = '-' && more.isEmpty then none else some (letter :: more, place + 1)
        | _ => none
    let ends := words[place - 1]? = some ['-', '-'] && !isInside
    let finish (name : Char) (place offset code : Nat) : Action Unit := do
      let _ ← assign "OPTIND" (digitsOf (place : Nat)) false
      changeFrame ({ · with choiceOffset := offset })
      if Script.isName target then discard (assign (String.ofList target) [name] false)
      else reject (target ++ ": bad variable name".toList)
      if ← isGoing then setCode code
    let isQuiet := known.head? = some ':'
    match start with
    | none => finish '?' (if ends then place + 1 else place) 0 1
    | some ([], place) => finish '?' place 0 1
    | some (letter :: more, place) =>
      let offset := if more.isEmpty then 0 else (words[place - 2]?.getD []).length - more.length
      match if letter = ':' then none else known.idxOf? letter with
      | none =>
        if isQuiet then discard (assign "OPTARG" [letter] false)
        else
          let _ ← write 2 ("Illegal option -".toList ++ [letter, '\n'])
          removeVariable "OPTARG"
        finish '?' place offset 0
      | some index =>
        if known[index + 1]? ≠ some ':' then
          let _ ← assign "OPTARG" [] false
          finish letter place offset 0
        else if !more.isEmpty then
          let _ ← assign "OPTARG" more false
          finish letter place 0 0
        else match words[place - 1]? with
          | some value =>
            let _ ← assign "OPTARG" value false
            finish letter (place + 1) 0 0
          | none =>
            if isQuiet then discard (assign "OPTARG" [letter] false)
            else
              let _ ← write 2 ("No arg for -".toList ++ [letter] ++ " option\n".toList)
              removeVariable "OPTARG"
            finish (if isQuiet then ':' else '?') place 0 0
  | _ => reject "Usage: getopts optstring var [arg...]".toList

/-! ### Signals -/

/-- Arranges what is to be done about signals. -/
def arrange (arguments : List Letters) : Action Unit := do
  -- The arrangement of zero is for the end.
  match arguments.dropWhile (· = ['-', '-']) with
  | [] =>
    let traps := (← frame).traps.mergeSort fun left right => left.1 ≤ right.1
    say (traps.flatMap fun (signal, action) =>
      "trap -- ".toList ++ singleQuoted action ++ ' ' :: (Signal.name signal).toList ++ ['\n'])
  | first :: rest =>
    let isReset := rest.isEmpty || (Signal.ofWord? first).isSome && first.all Char.isDigit
    let action := if isReset || first = ['-'] then none else some first
    (if isReset then first :: rest else rest).forM fun word => do
      if (← frame).code ≠ 0 then return
      match Signal.ofWord? word with
      | none =>
        let _ ← write 2 ("trap: ".toList ++ word ++ ": bad trap\n".toList)
        setCode 1
      | some signal => changeFrame fun frame =>
        let others := frame.traps.filter (·.1 != signal)
        { frame with traps := action.elim others fun action => (signal, action) :: others }

/-- How sending signals is to be called. -/
def killUsage : Letters :=
  "Usage: kill [-s sigspec | -signum | -sigspec] [pid | job]... or\nkill -l [exitstatus]".toList

/-- Sends signals to processes. -/
def sendSignals (arguments : List Letters) : Action Unit := do
  -- A job is named by its number.
  let targets (signal : Nat) (words : List Letters) : Action Unit := do
    if words.isEmpty then reject killUsage
    else words.forM fun word => do
      if !(← isGoing) then return
      match word with
      | '%' :: _ => match (← frame).background with
        | some process => if !(← send signal process) then setCode 1
        | none => reject ("No such job: ".toList ++ word)
      | _ =>
        let digits := if word.head? = some '-' then word.drop 1 else word
        match count? digits with
        | none => rejectNumber digits
        | some process =>
          let here := (← frame).process
          if !(← send signal (if process = 0 then here else process)) then
            complain "No such process\n".toList
            setCode 1
  let list (words : List Letters) : Action Unit := match words with
    | [] => say ((List.range (Signal.greatest + 1)).flatMap fun signal =>
        (if signal = 0 then "0" else Signal.name signal).toList ++ ['\n'])
    | word :: _ => match count? word with
      | some value =>
        let signal := if 128 < value then value - 128 else value
        if 0 < signal && signal ≤ Signal.greatest then say ((Signal.name signal).toList ++ ['\n'])
        else reject ("invalid signal number or name: ".toList ++ word)
      | none => rejectNumber word
  match arguments with
  | ('-' :: spelled) :: rest =>
    match if spelled = ['-'] then none else Signal.ofWord? spelled with
    | some signal => targets signal rest
    | none => match spelled with
      | ['-'] => targets Signal.terminate rest
      | ['l'] => list rest
      | 's' :: name =>
        let (name, rest) := if name.isEmpty then (rest.headD [], rest.drop 1) else (name, rest)
        match Signal.ofWord? name with
        | some signal => targets signal (rest.dropWhile (· = ['-', '-']))
        | none =>
          reject (if arguments.length < 2 && spelled = ['s'] then "No arg for -s option".toList
          else "invalid signal number or name: ".toList ++ name)
      | letter :: _ => rejectChoice letter
      | [] => rejectNumber spelled
  | _ => targets Signal.terminate arguments

/-! ### Names of commands -/

/-- The paths at which a program of a name may lie, in order. -/
def candidates (name : Letters) : Action (List Letters) := do
  -- A name with a separator is a path itself.
  if name.contains '/' then return [name]
  let directories := Tool.pieces ':' ((← value? "PATH").getD [])
  return directories.map fun directory => if directory.isEmpty then name
    else directory ++ '/' :: name

/-- The paths from the first regular file on, or nothing if no path leads to one. -/
def programPaths (name : Letters) : Action (Option (List Letters)) := do
  -- Whether it can be run is found out later.
  let workplace ← workplace
  let paths ← candidates name
  if name.contains '/' then return some paths
  let rest := paths.dropWhile fun path => match (workplace.find (octetsOf path)).toOption with
    | some (_, .file _ _) => false
    | _ => true
  return if rest.isEmpty then none else some rest

/-- What a name stands for, in a few words or in the shortest form. -/
def describe (isLong : Bool) (name : Letters) : Action (Option Letters) := do
  -- Reserved words and short names come first.
  let frame ← frame
  let word := String.ofList name
  let own (words : String) : Option Letters := some (if isLong then name ++ words.toList else name)
  if Reader.reserved.contains word then return own " is a shell keyword"
  match frame.aliases.lookup word with
  | some value =>
    return some (if isLong then name ++ " is an alias for ".toList ++ value
      else "alias ".toList ++ name ++ '=' :: singleQuoted value)
  | none =>
    if specialCommands.contains word then return own " is a special shell builtin"
    if (frame.functions.lookup word).isSome then return own " is a shell function"
    if ordinaryCommands.contains word then return own " is a shell builtin"
    let workplace ← workplace
    match ← programPaths name with
    | some (path :: _) =>
      let isThere := match (workplace.find (octetsOf path)).toOption with
        | some (_, node) => !name.contains '/' || node.searchable
        | none => false
      if isThere then return some (if isLong then name ++ " is ".toList ++ path else path)
      return none
    | _ => return none

/-- Tells what names stand for. -/
def tellNames (isLong : Bool) (names : List Letters) : Action Unit :=
  -- A name that stands for nothing is a failure.
  names.forM fun name => do
    match ← describe isLong name with
    | some words => say (words ++ ['\n'])
    | none =>
      if isLong then say (name ++ ": not found\n".toList)
      setCode 127

/-- Gives short names to commands, or tells them. -/
def giveNames (arguments : List Letters) : Action Unit := do
  -- Without a value the present one is told.
  let tell (entry : String × Letters) : Letters :=
    entry.1.toList ++ '=' :: singleQuoted entry.2 ++ ['\n']
  if arguments.isEmpty then say ((← frame).aliases.flatMap tell)
  else arguments.forM fun argument => do
    let (name, value) := assignment argument
    let word := String.ofList name
    match value, (← frame).aliases.lookup word with
    | some value, _ =>
      changeFrame fun frame =>
        { frame with aliases := frame.aliases.filter (·.1 != word) ++ [(word, value)] }
    | none, some value => say (tell (word, value))
    | none, none =>
      let _ ← write 2 ("alias: ".toList ++ name ++ " not found\n".toList)
      setCode 1

/-- Takes short names away from commands. -/
def takeNames (arguments : List Letters) : Action Unit :=
  -- All may be taken away at once.
  withChosen "a" arguments fun chosen names => do
    if chosen.contains 'a' then changeFrame ({ · with aliases := [] })
    else names.forM fun name => do
      let word := String.ofList name
      if ((← frame).aliases.lookup word).isSome then
        changeFrame fun frame => { frame with aliases := frame.aliases.filter (·.1 != word) }
      else
        let _ ← write 2 ("unalias: ".toList ++ name ++ " not found\n".toList)
        setCode 1

/-- Remembers where programs are. -/
def remember (arguments : List Letters) : Action Unit :=
  -- Nothing is kept, since looking for them again finds the same.
  withChosen "rv" arguments fun _ names => names.forM fun name => do
    if (← programPaths name).isNone then
      complain (name ++ ": not found".toList)
      setCode 1

end Action

end Wakeful.Shell
