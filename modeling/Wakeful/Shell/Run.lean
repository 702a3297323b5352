import Wakeful.Shell.Image
import Wakeful.Shell.Own
import Wakeful.Shell.Program

/-!
Running scripts: words are replaced by what they stand for, and commands are carried out in turn.
-/

namespace Wakeful.Shell

/-- How deep scripts and programs may go into each other, and how many turns a loop may take. -/
def runDepth : Nat := 6000

/-- How deep a script may be nested to be read. -/
def readDepth : Nat := 20000

/-- The greatest length that a single argument may have to be handed over to a program. -/
def argumentLimit : Nat := 131071

/-- The directories in which a shell without other orders looks for programs. -/
def defaultSearch : Letters :=
  -- A shell knows more directories than the system does.
  "/usr/local/sbin:/usr/local/bin:/usr/sbin:/usr/bin:/sbin:/bin".toList

/-- Letters without the line ends after them and without noughts. -/
def withoutLineEnds (letters : Letters) : Letters :=
  -- Line ends elsewhere stay.
  ((letters.filter (· != '\x00')).reverse.dropWhile (· = '\n')).reverse

/-- The scripts that are joined by pipes. -/
def pipeParts : Script → List Script
  | .pipe first second => first :: pipeParts second
  | script => [script]

/-- Where a command is looked for. -/
structure Lookup where
  /-- Whether functions count. -/
  withFunctions : Bool
  /-- Whether a failure of the shell's own commands never ends it. -/
  isShielded : Bool
  /-- Whether its failure is only looked at. -/
  isTested : Bool

/-- A command with all that belongs to it. -/
structure Invocation where
  /-- Its name. -/
  name : Letters
  /-- Its arguments. -/
  arguments : List Letters
  /-- The values that variables get for it. -/
  settings : List (String × List Part)
  /-- What is read and written in other places. -/
  redirections : List Redirection

namespace Action

/-! ### Processes -/

/-- How a process ends that goes on so. -/
def statusOf (frame : Frame) : ExitStatus :=
  -- Codes have eight bits.
  match frame.flow with
  | .ended status => status
  | .leaving code => .exited (code % 256)
  | _ => .exited (frame.code % 256)

/-- A new number for a process, which is there from now on. -/
def newProcess : Action Nat := do
  -- Numbers are never used again.
  let number := (← world).lastProcess + 1
  changeWorld fun world => { world with lastProcess := number, living := number :: world.living }
  return number

/-- What belongs to a process that begins as a part of another one. -/
def childFrame (outer : Frame) (number : Nat) : Frame :=
  -- Of all arrangements only those stay that let signals be ignored.
  { outer with
    process := number, parent := outer.process, traps := outer.traps.filter (·.2.isEmpty),
    flow := .onward }

/-- Does something in a process of its own. -/
def child (body : Action Unit) : Action ExitStatus := do
  -- What belongs to this process stays as it is.
  let outer ← frame
  let number ← newProcess
  changeFrame fun _ => childFrame outer number
  body
  let status := statusOf (← frame)
  changeFrame fun _ => outer
  changeWorld fun world => { world with
    living := world.living.filter (· != number), signals := world.signals.filter (·.1 != number) }
  return status

/-- Leaves descriptors as they were. -/
def withDescriptors (former : List (Nat × Nat)) : Action Unit :=
  changeFrame ({ · with descriptors := former })

/-! ### Values -/

/-- The value of a parameter, if it has one. -/
def parameter? (name : String) : Action (Option Letters) := do
  -- Numbers name the arguments.
  let frame ← frame
  match name with
  | "@" | "*" =>
    return if frame.arguments.isEmpty then none else some (List.intercalate [' '] frame.arguments)
  | "#" => return some (digitsOf (frame.arguments.length : Nat))
  | "?" => return some (digitsOf (frame.code : Nat))
  | "-" => return some (← shownOptions)
  | "$" => return some (digitsOf (frame.shell : Nat))
  | "!" => return frame.background.map fun process => digitsOf (process : Nat)
  | _ => match number? name.toList with
    | some 0 => return some frame.name
    | some place => return frame.arguments[place - 1]?
    | none => value? name

/-- The pieces that a parameter makes. -/
def parameterMarks (name : String) (isQuoted : Bool) : Action (List Mark) := do
  -- The arguments stay apart from each other, unless they are taken as one text.
  let manner := if isQuoted then Manner.quoted else .divided
  let arguments := (← frame).arguments
  if name = "@" || name = "*" && !isQuoted then
    return (arguments.map (Mark.ofLetters manner)).intersperse [.gap] |>.flatten
  else if name = "*" then
    let joiner := match ← value? "IFS" with
      | some separators => separators.take 1
      | none => [' ']
    return Mark.ofLetters manner (List.intercalate joiner arguments)
  else return Mark.ofLetters manner ((← parameter? name).getD [])

/--
Complains about a parameter without a value if this is not allowed, and tells whether it is allowed.
-/
def checkParameter (name : String) (value : Option Letters) : Action Bool := do
  -- The list of arguments may be empty.
  if value.isSome || name = "@" || name = "*" || !(← hasOption 'u') then return true
  giveUp (name.toList ++ ": parameter not set".toList)
  return false

/-- The value of a calculation, as letters. -/
def sumValue (expression : Letters) : Action Letters := do
  -- A name without a value counts as zero.
  let bindings := (← frame).bindings
  let valueOf (name : String) := match (bindings.lookup name).bind (·.value) with
    | some value => Sum.numberOf value
    | none => .ok 0
  match Sum.evaluate valueOf expression with
  | .error fault =>
    giveUp (fault.message expression)
    return []
  | .ok (value, settings) =>
    settings.reverse.forM fun (name, number) => do
      if ← isGoing then discard (assign name (digitsOf number) false)
    return digitsOf value

/-- Writes what is carried out, if this is wanted. -/
def trace (words : List Letters) : Action Unit := do
  -- A sign comes before the words.
  if (← hasOption 'x') && !words.isEmpty then
    discard (write 2 (((← value? "PS4").getD []) ++ List.intercalate [' '] words ++ ['\n']))

/-! ### Files for descriptors -/

/-- The descriptor that a path stands for. -/
def pathDescriptor? (path : Letters) : Option Nat :=
  -- A few names and two directories of numbers do so.
  let numbered (directory : String) : Option Nat :=
    if directory.toList.isPrefixOf path then number? (path.drop directory.length) else none
  if path = "/dev/stdin".toList then some 0
  else if path = "/dev/stdout".toList then some 1
  else if path = "/dev/stderr".toList then some 2
  else (numbered "/dev/fd/").or (numbered "/proc/self/fd/")

/-- The words for a refusal to open a file. -/
def openingWords (access : Access) (path : Letters) (reason : Errno) : Letters :=
  -- What is missing depends on what the file is opened for.
  let isReading := access = .reading
  let words := if reason = .notFound || reason = .notADirectory then
      (if isReading then "No such file" else "Directory nonexistent")
    else reason.text
  (if isReading then "cannot open " else "cannot create ").toList ++ path ++ ": ".toList ++
    words.toList

/-- Opens a file, and gives the number of its stream. -/
def openFile (access : Access) (path : Letters) : Action (Except Errno Nat) := do
  -- Some paths stand for descriptors that are open already.
  match pathDescriptor? path with
  | some descriptor =>
    match ← descriptor? descriptor with
    | some number => return .ok number
    | none => return .error .notFound
  | none =>
    let workplace ← workplace
    if access = .reading then
      match workplace.find (octetsOf path) with
      | .error (.refused reason) => return .error reason
      | .error _ => return .error .notFound
      | .ok (spot, node) =>
        if !node.readable then return .error .permissionDenied
        match node with
        | .file _ _ => return .ok (← addStream (.file spot.place 0 .reading))
        | .socket _ _ => return .error .notOpenable
        | .directory _ => return .ok (← addStream .directory)
        | _ => return .ok (← addStream .nowhere)
    else
      let isKept := match (workplace.find (octetsOf path)).toOption with
        | some (_, .file _ _) => true
        | _ => false
      if isKept && access = .writing && (← hasOption 'C') then return .error .alreadyExists
      match workplace.openWrite (access = .writing || access = .replacing) (octetsOf path) with
      | .error reason => return .error reason
      | .ok (place, after) =>
        setWorkplace after
        match place with
        | some place => return .ok (← addStream (.file place 0 access))
        | none => return .ok (← addStream (if path = "/dev/full".toList then .full else .nowhere))

/-! ### Programs -/

/-- The signals that a process ignores. -/
def ignoredTraps (traps : List (Nat × Letters)) : List (Nat × Letters) := traps.filter (·.2.isEmpty)

/-- What a program is given that runs in this process. -/
def task (called : Letters) (arguments : List Letters) (settings : List Octets) : Action Task := do
  -- It reads from the first descriptor.
  let (input, rewinds) ← readable 0
  return ⟨called, arguments, input, rewinds, ← refusal? 0, ← workplace, settings.map lettersOf⟩

/-- What a program that does something by itself comes to, with its code if it cannot write. -/
def runTool (tool : Task → Result) (failure : Nat) (called : Letters) (arguments : List Letters)
    (settings : List Octets) : Action ExitStatus := do
  -- What it does not read is left, and what it writes goes where the descriptors lead.
  let result := tool (← task called arguments settings)
  let kept := (← frame).directory
  setWorkplace { result.workplace with directory := kept }
  leaveReadable 0 result.rest
  result.written.forM fun (descriptor, text) => discard (write descriptor text)
  let hasOutput := result.written.any fun (descriptor, text) => descriptor = 1 && !text.isEmpty
  match ← writeRefusal? 1 with
  | none => return .exited result.code
  | some reason =>
    if !hasOutput then return .exited result.code
    let _ ← write 2 (called ++ ": write error: ".toList ++ reason.text.toList ++ ['\n'])
    return .exited failure

/-- What belongs to a shell that begins in this process. -/
def shellFrame (called : Letters) (settings : List Octets) : Action Frame := do
  -- Variables come from the environment, and names that are none are left out.
  let outer ← frame
  let found := settings.filterMap fun line =>
    let letters := lettersOf line
    let name := letters.takeWhile (· != '=')
    if Script.isName name && name.length < letters.length then
      some (String.ofList name, (⟨some (letters.drop (name.length + 1)), true, false⟩ : Variable))
    else none
  let own (name : String) (value : Letters) : String × Variable :=
    (name, ⟨some value, false, false⟩)
  let start :=
    [own "PS1" "# ".toList, own "PS2" "> ".toList, own "PS4" "+ ".toList, own "OPTIND" ['1'],
    own "PATH" defaultSearch, own "IFS" [' ', '\t', '\n']]
  let put (bindings : List (String × Variable)) (entry : String × Variable) :=
    if (bindings.lookup entry.1).isSome then
      bindings.map fun other => if other.1 = entry.1 then entry else other
    else bindings ++ [entry]
  let workplace ← workplace
  let physical := (workplace.getcwd.toOption.map lettersOf).getD ['/']
  let known := found.foldl put start
  let path := match (known.lookup "PWD").bind (·.value) with
    | some path =>
      let isHere := path.head? = some '/' && match (workplace.find (octetsOf path)).toOption with
        | some (spot, _) => spot == outer.directory
        | none => false
      if isHere then path else physical
    | none => physical
  let bindings :=
    [own "IFS" [' ', '\t', '\n'], own "OPTIND" ['1'], own "PPID" (digitsOf (outer.parent : Nat)),
    ("PWD", ⟨some path, true, false⟩)].foldl put known
  return { outer with
    shell := outer.process, name := called, arguments := [], path, bindings, functions := [],
    aliases := [], documents := [], options := [], traps := ignoredTraps outer.traps, locals := [],
    loops := 0, code := 0, outputCode := 0, background := none, line := 1, command := none,
    choiceOffset := 0, flow := .onward }

/-- Where a shell finds its script. -/
inductive ScriptSource where
  /-- In an argument. -/
  | argument (text : Letters)
  /-- In a file. -/
  | file (path : Letters)
  /-- In what can be read. -/
  | input

/--
Sets the options of a shell by its arguments, and tells
where the script is; nothing if it cannot begin.
-/
def beginShell (called : Letters) :
    (fuel : Nat) → (wantsText : Bool) → List Letters → Action (Option ScriptSource)
  -- The arguments after the options are the name of the shell and its own arguments.
  | 0, _, _ => return none
  | fuel + 1, wantsText, arguments => do
    let refuse (words : Letters) : Action (Option ScriptSource) := do
      changeFrame ({ · with line := 0 })
      giveUp words
      return none
    let settle (rest : List Letters) : Action (Option ScriptSource) := do
      if wantsText then
        match rest with
        | [] => refuse "-c requires an argument".toList
        | text :: others =>
          changeFrame fun frame =>
            { frame with name := others.headD called, arguments := others.drop 1 }
          return some (.argument text)
      else if (← hasOption 's') || rest.isEmpty then
        changeFrame ({ · with arguments := rest })
        return some .input
      else
        changeFrame fun frame => { frame with name := rest.headD called, arguments := rest.drop 1 }
        return some (.file (rest.headD []))
    match arguments with
    | ['-', '-'] :: rest | ['-'] :: rest => settle rest
    | (sign :: letters) :: rest =>
      if sign ≠ '-' && sign ≠ '+' then settle arguments
      else if letters = ['o'] then
        match rest with
        | name :: others =>
          match shellOptions.find? fun option => option.2.toList = name with
          | some (letter, _) =>
            setOption (sign = '-') letter
            beginShell called fuel wantsText others
          | none => refuse ("Illegal option ".toList ++ [sign] ++ "o ".toList ++ name)
        | [] => return none
      else
        match letters.find? fun letter =>
          letter ≠ 'c' && letter ≠ 'l' && !optionLetters.contains letter with
        | some bad => refuse ("Illegal option ".toList ++ [sign, bad])
        | none =>
          (letters.filter fun letter => letter ≠ 'c' && letter ≠ 'l').forM (setOption (sign = '-'))
          beginShell called fuel (wantsText || letters.contains 'c') rest
    | _ => settle arguments

mutual

/-- Replaces the parts of a word by what they stand for. -/
def expand : (fuel : Nat) → List Part → Action (List Mark)
  -- Quotes around nothing but the list of arguments are not there if the list is empty.
  | 0, _ => giveUp "Too deep".toList *> pure []
  | _ + 1, [] => return []
  | fuel + 1, part :: parts => do
    if !(← isGoing) then return []
    let isList := match part, parts with
      | .letters [] true, .parameter "@" .value true :: _ => true
      | _, _ => false
    let first ← if isList && (← frame).arguments.isEmpty then pure [] else expandPart fuel part
    return first ++ (← expand fuel parts)

/-- Replaces a part of a word by what it stands for. -/
def expandPart : (fuel : Nat) → Part → Action (List Mark)
  -- Values between quotes are not divided.
  | 0, _ => giveUp "Too deep".toList *> pure []
  | fuel + 1, part => do
    let mannerOf (isQuoted : Bool) := if isQuoted then Manner.quoted else .divided
    match part with
    | .letters value isQuoted => return Mark.ofLetters (if isQuoted then .quoted else .plain) value
    | .home => return (((← value? "HOME").getD ['~']).map (Mark.letter · .quoted))
    | .sum expression isQuoted =>
      let inner ← expand fuel expression
      if !(← isGoing) then return []
      return Mark.ofLetters (mannerOf isQuoted) (← sumValue (Mark.text [' '] inner))
    | .output script isQuoted => return Mark.ofLetters (mannerOf isQuoted) (← captured fuel script)
    | .parameter name use isQuoted => expandUse fuel name use isQuoted

/-- Replaces a parameter by what is made of it. -/
def expandUse : (fuel : Nat) → (name : String) → Use → (isQuoted : Bool) → Action (List Mark)
  -- An empty value may count as a missing one.
  | 0, _, _, _ => giveUp "Too deep".toList *> pure []
  | fuel + 1, name, use, isQuoted => do
    let value ← parameter? name
    let isMissing (emptyCounts : Bool) := value.isNone || emptyCounts && value == some []
    let instead (word : List Part) : Action (List Mark) := do
      let marks ← expand fuel word
      return if isQuoted then marks else marks.map Mark.divide
    match use with
    | .value => if ← checkParameter name value then parameterMarks name isQuoted else return []
    | .length =>
      if ← checkParameter name value then
        let count := (← frame).arguments.length
        let length := if name = "@" || name = "*" then count else (value.getD []).length
        return Mark.ofLetters (if isQuoted then .quoted else .divided) (digitsOf (length : Nat))
      else return []
    | .otherwise emptyCounts word =>
      if isMissing emptyCounts then instead word else parameterMarks name isQuoted
    | .replaced emptyCounts word => if isMissing emptyCounts then return [] else instead word
    | .assigned emptyCounts word =>
      if isMissing emptyCounts then
        let marks ← expand fuel word
        if !(← isGoing) then return []
        if !Script.isName name.toList then
          giveUp (name.toList ++ ": bad variable name".toList)
          return []
        let _ ← assign name (Mark.text [' '] marks) false
      parameterMarks name isQuoted
    | .required emptyCounts word =>
      if isMissing emptyCounts then
        let words := Mark.text [' '] (← expand fuel word)
        if ← isGoing then
          let usual := if emptyCounts then "parameter not set or null" else "parameter not set"
          giveUp (name.toList ++ ": ".toList ++ if word.isEmpty then usual.toList else words)
        return []
      else parameterMarks name isQuoted
    | .trimmed atEnd longest pattern =>
      if ← checkParameter name value then
        let marks ← expand fuel pattern
        let short := (Pattern.ofMarked (Mark.field marks)).trim atEnd longest (value.getD [])
        return Mark.ofLetters (if isQuoted then .quoted else .divided) short
      else return []
    | .unknown =>
      giveUp "Bad substitution".toList
      return []

/-- What a script writes, without the line ends after it. -/
def captured : (fuel : Nat) → Script → Action Letters
  -- The script runs in a process of its own.
  | 0, _ => giveUp "Too deep".toList *> pure []
  | fuel + 1, script => do
    let number ← addStream (.sink [])
    let status ← child do
      setDescriptor 1 number
      run fuel false script
      close fuel
    let text ← collected number
    dropStream number
    report status
    changeFrame ({ · with outputCode := codeOf status })
    settle fuel
    return withoutLineEnds text

/-- Replaces words one after the other, and divides them into fields. -/
def expandWords : (fuel : Nat) → List (List Part) → Action (List Letters)
  -- Patterns among the fields stand for paths.
  | 0, _ => giveUp "Too deep".toList *> pure []
  | _ + 1, [] => return []
  | fuel + 1, word :: others => do
    let marks ← expand fuel word
    if !(← isGoing) then return []
    let fields := (Mark.fields (← separators) none none marks).1
    let workplace ← workplace
    let isPlain ← hasOption 'f'
    let found := fields.flatMap fun field => if isPlain then [field.map (·.1)]
      else expandPath workplace field
    return found ++ (← expandWords fuel others)

/-- Replaces a word as a whole. -/
def expandText : (fuel : Nat) → List Part → Action Letters
  -- Nothing is divided.
  | 0, _ => giveUp "Too deep".toList *> pure []
  | fuel + 1, word => return Mark.text [' '] (← expand fuel word)

/--
Replaces the words of a command; the arguments of some commands are not divided if they give values.
-/
def commandWords : (fuel : Nat) → List (List Part) → Action (List Letters)
  -- The first field tells the command.
  | 0, _ => giveUp "Too deep".toList *> pure []
  | _ + 1, [] => return []
  | fuel + 1, word :: others => do
    match ← expandWords fuel [word] with
    | [] => if ← isGoing then commandWords fuel others else return []
    | first :: rest =>
      if first = "command".toList && rest.isEmpty then return first :: (← commandWords fuel others)
      else if ["export", "readonly", "local"].contains (String.ofList first) then
        return first :: rest ++ (← markedWords fuel others)
      else return first :: rest ++ (← expandWords fuel others)

/-- Replaces words, of which those that give values are not divided. -/
def markedWords : (fuel : Nat) → List (List Part) → Action (List Letters)
  -- The name has to stand there by itself.
  | 0, _ => giveUp "Too deep".toList *> pure []
  | _ + 1, [] => return []
  | fuel + 1, word :: others => do
    let fields ← match Script.setting? word with
      | some (name, value) => pure [name.toList ++ '=' :: (← expandText fuel value)]
      | none => expandWords fuel [word]
    return fields ++ (← markedWords fuel others)

/-- Carries out redirections in turn, and tells whether all could be carried out. -/
def redirect : (fuel : Nat) → List Redirection → Action Bool
  -- What follows a failure is not carried out.
  | 0, _ => giveUp "Too deep".toList *> pure false
  | _ + 1, [] => return true
  | fuel + 1, redirection :: others => do
    let done ← match redirection with
      | .file descriptor access word =>
        let path ← expandText fuel word
        if !(← isGoing) then pure false
        else match ← openFile access path with
          | .ok number => setDescriptor descriptor number *> pure true
          | .error reason => complain (openingWords access path reason) *> pure false
      | .copy descriptor word =>
        let source ← expandText fuel word
        if !(← isGoing) then pure false
        else if source = ['-'] then closeDescriptor descriptor *> pure true
        else match number? source with
          | none => giveUp "Syntax error: Bad fd number".toList *> pure false
          | some other =>
            match ← descriptor? other with
            | some number => setDescriptor descriptor number *> pure true
            | none => complain (source ++ ": Bad file descriptor".toList) *> pure false
      | .document descriptor number =>
        let parts := ((← frame).documents.lookup number).getD []
        let text ← expandText fuel parts
        setDescriptor descriptor (← addStream (.source text))
        isGoing
    if done then redirect fuel others else return false

/-- Gives values to variables in turn, and tells what it has given. -/
def giveValues :
    (fuel : Nat) → (isExported : Bool) → List (String × List Part) → Action (List Letters)
  -- What comes after a failure is not given.
  | 0, _, _ => giveUp "Too deep".toList *> pure []
  | _ + 1, _, [] => return []
  | fuel + 1, isExported, (name, word) :: others => do
    let value ← expandText fuel word
    if !(← isGoing) then return []
    if !(← assign name value isExported) then return []
    return (name.toList ++ '=' :: value) :: (← giveValues fuel isExported others)

/-- Runs a script; whether its failure is only looked at is told. -/
def run : (fuel : Nat) → (isTested : Bool) → Script → Action Unit
  -- Nothing happens in a shell that does not go on.
  | 0, _, _ => giveUp "Too deep".toList
  | fuel + 1, isTested, script => do
    if !(← isGoing) || (← hasOption 'n') then return
    let code : Action Nat := Frame.code <$> frame
    let judge : Action Unit := do
      if !isTested && (← isGoing) && (← code) ≠ 0 && (← hasOption 'e') then
        setFlow (.leaving (← code))
    match script with
    | .nothing => return
    | .simple line settings words redirections =>
      simple fuel isTested line settings words redirections
      settle fuel
      judge
    | .redirected line inner redirections =>
      changeFrame ({ · with line })
      let former := (← frame).descriptors
      if ← redirect fuel redirections then run fuel isTested inner else setCode 2
      withDescriptors former
    | .sequence first second =>
      run fuel isTested first
      run fuel isTested second
    | .background inner =>
      let number ← newProcess
      let nothing ← addStream .nowhere
      let frame := childFrame (← frame) number
      let frame := { frame with descriptors := (0, nothing) :: frame.descriptors.filter (·.1 != 0) }
      changeWorld fun world => { world with jobs := world.jobs ++ [⟨frame, inner⟩] }
      changeFrame ({ · with background := some number })
      setCode 0
    | .both first second =>
      run fuel true first
      if (← isGoing) && (← code) = 0 then run fuel isTested second
    | .either first second =>
      run fuel true first
      if (← isGoing) && (← code) ≠ 0 then run fuel isTested second
    | .pipe first second =>
      let status ← runPipe fuel isTested none (first :: pipeParts second)
      report status
      setCode (codeOf status)
      settle fuel
      judge
    | .invert inner =>
      run fuel true inner
      if ← isGoing then setCode (if (← code) = 0 then 1 else 0)
    | .aside inner =>
      let status ← child do
        run fuel isTested inner
        close fuel
      report status
      setCode (codeOf status)
      settle fuel
      judge
    | .choice condition first second =>
      run fuel true condition
      if ← isGoing then
        if (← code) = 0 then run fuel isTested first
        else match second with
          | .nothing => setCode 0
          | _ => run fuel isTested second
    | .loop endsOnSuccess condition body =>
      changeFrame fun frame => { frame with loops := frame.loops + 1 }
      runLoop fuel isTested 0 endsOnSuccess condition body
      changeFrame fun frame => { frame with loops := frame.loops - 1 }
    | .each line name words body =>
      changeFrame ({ · with line })
      let values ← match words with
        | some words => expandWords fuel words
        | none => pure (← frame).arguments
      if ← isGoing then
        setCode 0
        changeFrame fun frame => { frame with loops := frame.loops + 1 }
        runEach fuel isTested name body values
        changeFrame fun frame => { frame with loops := frame.loops - 1 }
    | .cases line word branches =>
      changeFrame ({ · with line })
      let subject ← expandText fuel word
      if ← isGoing then
        setCode 0
        runCases fuel isTested subject branches
    | .define name body =>
      changeFrame fun frame =>
        { frame with functions := (name, body) :: frame.functions.filter (·.1 != name) }
      setCode 0

/-- Runs scripts of which each reads what the one before writes. -/
def runPipe : (fuel : Nat) → (isTested : Bool) → (input : Option Nat) → List Script →
    Action ExitStatus
  -- Each runs in a process of its own, and the last one tells how it went.
  | 0, _, _, _ => giveUp "Too deep".toList *> pure (.exited 2)
  | _ + 1, _, _, [] => return .exited 0
  | fuel + 1, isTested, input, script :: others => do
    let output ← if others.isEmpty then pure none else some <$> addStream (.sink [])
    let status ← child do
      input.forM (setDescriptor 0)
      output.forM (setDescriptor 1)
      run fuel isTested script
      close fuel
    match output with
    | none => return status
    | some number =>
      setStream number (.source (← collected number))
      runPipe fuel isTested (some number) others

/-- Ends a turn of a loop, and tells whether another one may follow. -/
def endTurn : (fuel : Nat) → Action Bool
  -- Loops around it may have to end too.
  | 0 => return false
  | _ + 1 => do
    match (← frame).flow with
    | .onward => return true
    | .continuing count =>
      if count ≤ 1 then
        setFlow .onward
        return true
      setFlow (.continuing (count - 1))
      return false
    | .breaking count =>
      setFlow (if count ≤ 1 then .onward else .breaking (count - 1))
      return false
    | _ => return false

/--
Runs a script for as long as a condition succeeds, or until it does, with the code of the last turn.
-/
def runLoop : (fuel : Nat) → (isTested : Bool) → (last : Nat) → (endsOnSuccess : Bool) →
    (condition body : Script) →
    Action Unit
  -- Without any turn the loop succeeds.
  | 0, _, _, _, _, _ => giveUp "Too deep".toList
  | fuel + 1, isTested, last, endsOnSuccess, condition, body => do
    run fuel true condition
    let wasGoing ← isGoing
    if !(← endTurn fuel) then
      if (← frame).flow = .onward then setCode last
    else if wasGoing && ((← frame).code == 0) == endsOnSuccess then setCode last
    else
      if wasGoing then run fuel isTested body
      if ← endTurn fuel then
        let code := (← frame).code
        runLoop fuel isTested (if wasGoing then code else last) endsOnSuccess condition body

/-- Runs a script for each of several values of a variable. -/
def runEach : (fuel : Nat) → (isTested : Bool) → (name : String) → (body : Script) → List Letters →
    Action Unit
  -- Without any turn the loop succeeds.
  | 0, _, _, _, _ => giveUp "Too deep".toList
  | _ + 1, _, _, _, [] => return
  | fuel + 1, isTested, name, body, value :: others => do
    if ← assign name value false then
      run fuel isTested body
      if ← endTurn fuel then runEach fuel isTested name body others

/-- Runs the first script of which a pattern matches. -/
def runCases :
    (fuel : Nat) → (isTested : Bool) → (subject : Letters) → List (List (List Part) × Script) →
      Action Unit
  -- Patterns are replaced only if no earlier one matches.
  | 0, _, _, _ => giveUp "Too deep".toList
  | _ + 1, _, _, [] => return
  | fuel + 1, isTested, subject, (patterns, body) :: others => do
    match patterns with
    | [] => runCases fuel isTested subject others
    | pattern :: more =>
      let marks ← expand fuel pattern
      if !(← isGoing) then return
      if (Pattern.ofMarked (Mark.field marks)).holds subject then run fuel isTested body
      else runCases fuel isTested subject ((more, body) :: others)

/-- Carries out a simple command. -/
def simple : (fuel : Nat) → (isTested : Bool) → (line : Nat) → List (String × List Part) →
    List (List Part) → List Redirection → Action Unit
  -- Words come first, then redirections, and then values.
  | 0, _, _, _, _, _ => giveUp "Too deep".toList
  | fuel + 1, isTested, line, settings, words, redirections => do
    changeFrame ({ · with line, outputCode := 0 })
    match ← commandWords fuel words with
    | [] =>
      if ← isGoing then
        let former := (← frame).descriptors
        if ← redirect fuel redirections then
          trace (← giveValues fuel false settings)
          if ← isGoing then setCode (← frame).outputCode
        else if ← isGoing then setCode 2
        withDescriptors former
    | name :: arguments =>
      if ← isGoing then
        carryOut fuel ⟨true, false, isTested⟩ ⟨name, arguments, settings, redirections⟩

/-- Carries out a command by its name. -/
def carryOut : (fuel : Nat) → Lookup → Invocation → Action Unit
  -- The shell's special commands come first, then functions, its other commands and programs.
  | 0, _, _ => giveUp "Too deep".toList
  | fuel + 1, lookup, call => do
    let word := String.ofList call.name
    let frame ← frame
    let isSpecial := specialCommands.contains word
    let function := if isSpecial || !lookup.withFunctions then none else frame.functions.lookup word
    let isOwn := isSpecial || function.isNone && ordinaryCommands.contains word
    let ends := isSpecial && !lookup.isShielded
    let isExec := word = "exec"
    let names := call.settings.map (·.1)
    let saved := names.eraseDups.map fun name => (name, frame.bindings.lookup name)
    if !(← redirect fuel call.redirections) then
      if ← isGoing then
        setCode 2
        if ends then setFlow (.leaving 2)
    else
      let given ← giveValues fuel (!ends || isExec && !call.arguments.isEmpty) call.settings
      if ← isGoing then
        trace (given ++ call.name :: call.arguments)
        if isOwn then
          let former := frame.command
          changeFrame ({ · with command := some call.name })
          own fuel lookup.isTested former word call.arguments
          changeFrame ({ · with command := former })
          let leaves := word ∈ ["exit", "exec", "eval", ".", "command", "return"]
          if !ends && !leaves then
            match (← Action.frame).flow with
            | .leaving _ => setFlow .onward
            | _ => pure ()
        else match function with
          | some body => callFunction fuel lookup.isTested body call.arguments
          | none => callProgram fuel call.name call.arguments
      if !ends then restore saved
    if !(isExec && (← isGoing)) then withDescriptors frame.descriptors

/-- Runs the body of a function with arguments. -/
def callFunction :
    (fuel : Nat) → (isTested : Bool) → (body : Script) → (arguments : List Letters) → Action Unit
  -- Variables of its own are given back at the end.
  | 0, _, _, _ => giveUp "Too deep".toList
  | fuel + 1, isTested, body, arguments => do
    let outer ← frame
    changeFrame fun frame => { frame with arguments, loops := 0, locals := [] :: frame.locals }
    run fuel isTested body
    restore ((← frame).locals.headD [])
    changeFrame fun frame => { frame with
      arguments := outer.arguments, loops := outer.loops, locals := outer.locals,
      flow := if frame.flow = .returning then .onward else frame.flow }

/-- Runs a program in a process of its own and waits for its end. -/
def callProgram : (fuel : Nat) → (name : Letters) → (arguments : List Letters) → Action Unit
  -- A program that cannot be found has a code of its own.
  | 0, _, _ => giveUp "Too deep".toList
  | fuel + 1, name, arguments => do
    match ← programPaths name with
    | none =>
      let reasons ← (← candidates name).mapM fun path => return (← workplace).find (octetsOf path)
      let isThere := reasons.any fun found => found.isOk
      complain (name ++ (if isThere then ": Permission denied" else ": not found").toList)
      setCode 127
    | some paths =>
      let status ← child do
        match ← start fuel name paths arguments (← environment) true with
        | .ok status => setFlow (.ended status)
        | .error reason =>
          let isMissing := reason = .notFound || reason = .notADirectory
          complain (name ++ ": ".toList ++ (if isMissing then "not found" else reason.text).toList)
          let notFound := isMissing || reason = .nameTooLong || reason = .tooManyLinks
          setFlow (.ended (.exited (if notFound then 127 else 126)))
      report status
      setCode (codeOf status)

/-- Carries out one of the shell's own commands, in the course of another one perhaps. -/
def own : (fuel : Nat) → (isTested : Bool) → (outer : Option Letters) → (word : String) →
    (arguments : List Letters) →
    Action Unit
  -- The code of the command before is known to some of them.
  | 0, _, _, _, _ => giveUp "Too deep".toList
  | fuel + 1, isTested, outer, word, arguments => do
    let last := (← frame).code
    let tool (run : Task → Result) : Action Unit := do
      let shown := (← frame).name ++ ": ".toList ++ digitsOf ((← frame).line : Nat) ++
        ": ".toList ++ word.toList
      let result := run (← task shown arguments [])
      let (output, others) := result.written.partition (·.1 = 1)
      others.forM fun (descriptor, text) => discard (write descriptor text)
      say (output.flatMap (·.2))
      changeFrame fun frame => { frame with code := max frame.code result.code }
    let leave (act : Nat → Action Unit) : Action Unit :=
      match arguments.dropWhile (· = ['-', '-']) with
      | [] => act last
      | code :: _ => match count? code with
        | some code => act code
        | none => rejectNumber code
    let skip (act : Nat → Flow) : Action Unit := match arguments.head?.elim (some 1) count? with
      | some (count + 1) => do
        let loops := (← frame).loops
        if 0 < loops then setFlow (act (min (count + 1) loops))
      | _ => rejectNumber (arguments.headD [])
    setCode 0
    match word with
    | ":" | "true" => return
    | "false" => setCode 1
    | "echo" => tool Tool.echoOwn
    | "printf" => tool (Tool.printf .shell)
    | "test" => tool (Tool.test .shell)
    | "[" => tool (Tool.bracket .shell)
    | "exit" => leave fun code => do
      setCode code
      setFlow (.leaving code)
    | "return" => leave fun code => do
      setCode code
      setFlow .returning
    | "break" => skip .breaking
    | "continue" => skip .continuing
    | "cd" | "chdir" => changeDirectory arguments
    | "pwd" => tellDirectory arguments
    | "umask" => changeMask arguments
    | "export" => markVariables false arguments
    | "readonly" => markVariables true arguments
    | "unset" => forget arguments
    | "local" => keepLocals arguments
    | "read" => readLine arguments
    | "set" => set arguments
    | "shift" => shift arguments
    | "getopts" => readChoice arguments
    | "trap" => arrange arguments
    | "kill" => sendSignals arguments
    | "alias" => giveNames arguments
    | "unalias" => takeNames arguments
    | "hash" => remember arguments
    | "type" => tellNames true arguments
    | "times" => say "0m0.000000s 0m0.000000s\n0m0.000000s 0m0.000000s\n".toList
    | "ulimit" =>
      match choicesOf "HSatfdsmcnpvlwre" arguments with
      | .error letter => rejectChoice letter
      | .ok (_, []) => say "unlimited\n".toList
      | .ok (_, word :: _) =>
        if word ≠ "unlimited".toList && !word.all Char.isDigit then reject "bad number".toList
    | "jobs" => return
    | "fg" | "bg" => reject "No current job".toList
    | "wait" => awaitJobs fuel arguments
    | "eval" =>
      changeFrame ({ · with code := last })
      if !(← runText fuel isTested 1
          (List.intercalate [' '] (arguments.dropWhile (· = ['-', '-'])))) then
        if ← isGoing then setCode 0
    | "." => runFile fuel arguments
    | "exec" =>
      let words := arguments.dropWhile (· = ['-', '-'])
      match words with
      | [] => return
      | name :: rest =>
        let paths := (← programPaths name).getD (← candidates name)
        match ← start fuel name paths rest (← environment) true with
        | .ok status => setFlow (.ended status)
        | .error reason =>
          let isMissing := reason = .notFound || reason = .notADirectory
          complain (name ++ ": ".toList ++ (if isMissing then "not found" else reason.text).toList)
          let code := if isMissing || reason = .nameTooLong || reason = .tooManyLinks then 127
            else 126
          setCode code
          setFlow (.leaving code)
    | "command" =>
      match choicesOf "pvV" arguments with
      | .error letter => rejectChoice letter
      | .ok (chosen, words) =>
        match words, (chosen.filter (· != 'p')).getLast? with
        | [], _ => return
        | name :: _, some letter => tellNames (letter = 'V') [name]
        | name :: rest, none =>
          changeFrame ({ · with command := outer, code := last })
          carryOut fuel ⟨false, true, isTested⟩ ⟨name, rest, [], []⟩
    | _ => return

/-- Runs the commands in a file. -/
def runFile : (fuel : Nat) → (arguments : List Letters) → Action Unit
  -- A name without a separator is looked for where programs are.
  | 0, _ => giveUp "Too deep".toList
  | fuel + 1, arguments => do
    match arguments.dropWhile (· = ['-', '-']) with
    | [] => return
    | name :: _ =>
      let workplace ← workplace
      let found := (← candidates name).find? fun path =>
        match (workplace.find (octetsOf path)).toOption with
        | some (_, .file _ _) => true
        | _ => name.contains '/'
      match found with
      | none => reject (name ++ ": not found".toList)
      | some path =>
        match ← openFile .reading path with
        | .error reason => reject (openingWords .reading path reason)
        | .ok number =>
          let former := (← frame).descriptors
          setDescriptor 10 number
          let (text, _) ← readable 10
          withDescriptors former
          changeFrame ({ · with command := some path })
          let _ ← runText fuel false 1 text
          if (← frame).flow = .returning then setFlow .onward

/-- Runs a text as a script, and tells whether there was anything to run. -/
def runText : (fuel : Nat) → (isTested : Bool) → (line : Nat) → Letters → Action Bool
  -- Each line is read only when those before it have been run.
  | 0, _, _, _ => giveUp "Too deep".toList *> pure false
  | fuel + 1, isTested, line, text => do
    runLines fuel isTested (Source.ofLetters (← frame).documents line text)

/-- Runs what is left of a script, and tells whether there was anything to run. -/
def runLines : (fuel : Nat) → (isTested : Bool) → Source → Action Bool
  -- What is wrong with a line ends the shell.
  | 0, _, _ => giveUp "Too deep".toList *> pure false
  | fuel + 1, isTested, source => do
    match (Reader.next readDepth).run { source with aliases := (← frame).aliases } with
    | .error fault =>
      changeFrame ({ · with line := fault.line })
      giveUp fault.complaint.toList
      return false
    | .ok (none, _) => return false
    | .ok (some (script, _), after) =>
      changeFrame ({ · with documents := after.documents })
      run fuel isTested script
      if ← isGoing then let _ ← runLines fuel isTested after
      return true

/-- Carries out what has been arranged about the signals that have come. -/
def settle : (fuel : Nat) → Action Unit
  -- The code of the last command is kept.
  | 0 => return
  | fuel + 1 => do
    let here := (← frame).process
    let mine := (← world).signals.filter (·.1 = here)
    match mine with
    | [] => return
    | (_, signal) :: _ =>
      if !(← isGoing) then return
      let isSame (entry : Nat × Nat) : Bool := entry == (here, signal)
      changeWorld fun world => { world with signals := world.signals.filter (!isSame ·) }
      let code := (← frame).code
      let arranged := (← frame).traps.lookup signal
      match if signal = Signal.kill then none else arranged with
      | some [] => pure ()
      | some action =>
        let command := (← frame).command
        changeFrame ({ · with command := none })
        let _ ← runText fuel false 1 action
        changeFrame ({ · with command })
        if ← isGoing then setCode code
      | none => if signal ∉ Signal.harmless then setFlow (.ended (.killed signal))
      settle fuel

/-- Carries out what has been arranged for the end of this process. -/
def close : (fuel : Nat) → Action Unit
  -- A process that a signal has ended does nothing more.
  | 0 => return
  | fuel + 1 => do
    match (← frame).flow with
    | .ended _ => return
    | flow =>
      let last := (← frame).code
      let code := match flow with
        | .leaving code => code
        | _ => last
      setFlow .onward
      settle fuel
      if ← isGoing then
        match (← frame).traps.lookup 0 with
        | some (letter :: action) =>
          changeFrame fun frame =>
            { frame with traps := frame.traps.filter (·.1 != 0), code, command := none }
          let _ ← runText fuel false 1 (letter :: action)
          match (← frame).flow with
          | .leaving _ | .ended _ => pure ()
          | _ => setFlow (.leaving code)
        | _ => setFlow (.leaving code)
      runJobs fuel (← frame).process

/-- Runs what still waits to be run for a process. -/
def runJobs : (fuel : Nat) → (process : Nat) → Action Unit
  -- It is run in the order in which it came up.
  | 0, _ => return
  | fuel + 1, process => do
    match (← world).jobs.find? (·.frame.parent = process) with
    | none => return
    | some job =>
      runJob fuel job
      runJobs fuel process

/-- Runs a script that waits to be run. -/
def runJob : (fuel : Nat) → Job → Action Unit
  -- How it ends is remembered.
  | 0, _ => return
  | fuel + 1, job => do
    let number := job.frame.process
    let outer ← frame
    changeWorld fun world => { world with jobs := world.jobs.filter (·.frame.process != number) }
    changeFrame fun _ => job.frame
    run fuel false job.script
    close fuel
    let status := statusOf (← frame)
    changeFrame fun _ => outer
    changeWorld fun world => { world with
      living := world.living.filter (· != number), finished := (number, status) :: world.finished }

/-- Waits for processes in the background. -/
def awaitJobs : (fuel : Nat) → (arguments : List Letters) → Action Unit
  -- Without arguments all are waited for.
  | 0, _ => return
  | fuel + 1, arguments => do
    match arguments.dropWhile (· = ['-', '-']) with
    | [] =>
      runJobs fuel (← frame).process
      setCode 0
    | words => awaitEach fuel words

/-- Waits for processes by their numbers. -/
def awaitEach : (fuel : Nat) → (words : List Letters) → Action Unit
  -- The last one tells the code.
  | 0, _ => return
  | _ + 1, [] => return
  | fuel + 1, word :: others => do
    let target ← match word with
      | '%' :: _ => pure (← frame).background
      | _ => pure (count? word)
    match target with
    | none =>
      reject ((if word.head? = some '%' then "No such job: " else "Illegal number: ").toList ++
        word)
    | some process =>
      (← world).jobs.find? (·.frame.process = process) |>.forM (runJob fuel)
      match (← world).finished.lookup process with
      | some status =>
        report status
        setCode (codeOf status)
      | none => setCode 127
      awaitEach fuel others

/--
Starts the first program that can be started at one of
several paths in this process, and gives how it ends.
-/
def start : (fuel : Nat) → (called : Letters) → (paths arguments : List Letters) →
    (settings : List Octets) →
    (readsScripts : Bool) → Action (Except Errno ExitStatus)
  -- A path that is forbidden does not keep others from being tried.
  | 0, _, _, _, _, _ => return .error .notFound
  | _ + 1, _, [], _, _, _ => return .error .notFound
  | fuel + 1, called, path :: others, arguments, settings, readsScripts => do
    let next (reason : Errno) : Action (Except Errno ExitStatus) := do
      match ← start fuel called others arguments settings readsScripts with
      | .error .notFound => return .error reason
      | result => return result
    match Tool.look (← workplace) path with
    | .error reason => next reason
    | .ok (_, .file mode contents) =>
      if !mode.testBit 6 then next .permissionDenied
      else if arguments.any (argumentLimit < ·.length) ||
          settings.any (argumentLimit < ·.length) then
        return .error .argumentsTooLong
      else match (Image.name? contents).bind fun name => Program.all.lookup name with
        | some program => return .ok (← launch fuel program called arguments settings)
        | none =>
          let text := lettersOf contents
          if "#!".toList.isPrefixOf text then
            let line := ((text.drop 2).takeWhile (· != '\n')).dropWhile isBlank
            let interpreter := line.takeWhile (!isBlank ·)
            let extra := ((line.drop interpreter.length).dropWhile isBlank)
            start fuel interpreter [interpreter]
              ((if extra.isEmpty then [] else [extra]) ++ path :: arguments) settings false
          else if readsScripts then
            return .ok (← launch fuel .shell called (path :: arguments) settings)
          else return .error .notExecutable
    | .ok _ => next .permissionDenied

/-- Runs a program in this process, and gives how it ends. -/
def launch : (fuel : Nat) → Program → (called : Letters) → (arguments : List Letters) →
    (settings : List Octets) →
    Action ExitStatus
  -- A shell begins with what its environment gives it.
  | 0, _, _, _, _ => return .exited 2
  | fuel + 1, program, called, arguments, settings => do
    match program with
    | .tool run failure => runTool run failure called arguments settings
    | .shell =>
      let outer ← frame
      let frame ← shellFrame called settings
      changeFrame fun _ => frame
      match ← beginShell called (arguments.length + 1) false arguments with
      | none => pure ()
      | some (.argument text) => discard (runText fuel false 1 text)
      | some .input =>
        let (text, _) ← readable 0
        leaveReadable 0 []
        discard (runText fuel false 1 text)
      | some (.file path) =>
        match Tool.look (← workplace) path with
        | .ok (_, .file _ contents) => discard (runText fuel false 1 (lettersOf contents))
        | .ok _ => setCode 0
        | .error reason =>
          changeFrame ({ · with line := 0, name := called })
          giveUp (openingWords .reading path reason)
      close fuel
      let status := statusOf (← Action.frame)
      changeFrame fun _ => outer
      return status
    | .runner plan =>
      let kept := (← frame).directory
      match plan (← task called arguments settings) with
      | .error result => runTool (fun _ => result) 125 called arguments settings
      | .ok errand =>
        setWorkplace errand.workplace
        leaveReadable 0 errand.rest
        if errand.withholdsInput then setDescriptor 0 (← addStream .nowhere)
        let ignored := errand.ignored.map fun signal => (signal, ([] : Letters))
        changeFrame fun frame => { frame with traps := ignored ++ frame.traps }
        let moved ← match errand.directory with
          | none => pure true
          | some path =>
            let (outcome, after) := (← workplace).chdir (octetsOf path)
            setWorkplace after
            pure outcome.isOk
        if !moved then
          let _ ← write 2 (called ++ ": cannot change directory to '".toList ++
            errand.directory.getD []
            ++ "': No such file or directory\n".toList)
          return .exited 125
        let status ← runErrand fuel called errand (.exited errand.code) errand.steps
        changeFrame ({ · with directory := kept })
        return status

/-- Takes the steps of a program that runs others, and gives how the program ends after it. -/
def runErrand :
    (fuel : Nat) → (called : Letters) → Errand → (last : ExitStatus) → List Step → Action ExitStatus
  -- A command that cannot be run may end everything.
  | 0, _, _, _, _ => return .exited 2
  | _ + 1, _, _, last, [] => return last
  | fuel + 1, called, errand, last, .say descriptor text :: others => do
    let _ ← write descriptor text
    runErrand fuel called errand last others
  | fuel + 1, called, errand, last, .call command counts :: others => do
    let name := command.headD []
    let search :=
      (errand.settings.find? fun line => "PATH=".toList.isPrefixOf line).elim "/bin:/usr/bin".toList
      (·.drop 5)
    let paths := if name.contains '/' then [name] else (Tool.pieces ':' search).map fun directory =>
      if directory.isEmpty then name else directory ++ '/' :: name
    let settings := errand.settings.map octetsOf
    let run := start fuel name (if name.isEmpty then [] else paths) (command.drop 1) settings true
    let outcome ← if errand.conduct = .instead then run else do
        let number ← addStream (.sink [])
        let status ← child do
          match ← run with
          | .ok status => setFlow (.ended status)
          | .error reason =>
            writeStream number ['x']
            setFlow (.ended (.exited reason.number))
        if (← collected number).isEmpty then pure (Except.ok status)
        else match status with
          | .exited number =>
            pure (.error (if number = Errno.notFound.number then Errno.notFound
              else .permissionDenied))
          | _ => pure (.error .permissionDenied)
    match outcome with
    | .error reason =>
      let isMissing := reason = .notFound || reason = .notADirectory
      let shown := if errand.conduct = .batch then name else
        if called = "nohup".toList || called = "timeout".toList then
          "failed to run command '".toList ++ name ++ ['\'']
        else ['\''] ++ name ++ ['\'']
      let _ ← write 2 (called ++ ": ".toList ++ shown ++ ": ".toList ++ reason.text.toList ++
        ['\n'])
      if errand.conduct = .each then
        runErrand fuel called errand (if counts then .exited 1 else last) others
      else return .exited (if isMissing then 127 else 126)
    | .ok status =>
      match errand.conduct, status with
      | .instead, _ => return status
      | .each, _ =>
        runErrand fuel called errand
          (if counts && codeOf status ≠ 0 then .exited 1 else last) others
      | .batch, .killed signal =>
        let _ ← write 2 (called ++ ": ".toList ++ name ++ ": terminated by signal ".toList ++
          digitsOf (signal : Nat) ++ ['\n'])
        return .exited 125
      | .batch, .exited 255 =>
        let _ ← write 2 (called ++ ": ".toList ++ name ++
          ": exited with status 255; aborting\n".toList)
        return .exited 124
      | .batch, .exited 0 => runErrand fuel called errand last others
      | .batch, .exited _ => runErrand fuel called errand (.exited 123) others

end

end Action

/-! ### From outside -/

/-- Runs the program with certain contents, and gives how it ends and what it writes. -/
def execute (workplace : Workplace) (path : Octets) (called : Octets)
    (arguments settings : List Octets) : Except Errno (ExitStatus × Octets) :=
  -- There is nothing to read, and complaints go nowhere.
  let number := 4711
  let frame : Frame :=
    { process := number, parent := 1, shell := number, name := [], arguments := []
      directory := workplace.directory, path := [], mask := workplace.mask
      descriptors := [(0, 1), (1, 2), (2, 3)], bindings := [], functions := [], aliases := []
      documents := [], options := [], traps := [], locals := [], loops := 0, code := 0
      outputCode := 0, background := none, line := 1, command := none, choiceOffset := 0
      flow := .onward }
  let world : World :=
    { tree := workplace.tree, detached := workplace.detached
      streams := [(1, .nowhere), (2, .sink []), (3, .nowhere)]
      signals := [], living := [number], finished := [], jobs := [], lastProcess := number }
  let begin : Action (Except Errno ExitStatus) :=
    Action.start runDepth (lettersOf called) [lettersOf path]
      (arguments.map lettersOf) settings false
  let (outcome, after) := StateT.run begin ⟨world, frame⟩
  outcome.map fun status => (status, octetsOf (StateT.run (Action.collected 2) after).1)

end Wakeful.Shell
