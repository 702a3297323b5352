import Wakeful.Shell.Edit.State
import Wakeful.Shell.Tool.Text

/-! A program that changes texts line by line as commands of its own tell it. -/

namespace Wakeful.Shell.Tool

open Edit

/--
The other choices in an argument that asks for files to be changed
themselves, and what it asks to be put after their names.
-/
def placeOf? (argument : Letters) : Option (Letters × Letters) :=
  -- The name of the copy that is kept may be given with it.
  match argument with
  | '-' :: '-' :: word =>
    let name := word.takeWhile (· ≠ '=')
    if 2 ≤ name.length && name.isPrefixOf "in-place".toList then
      some ([], word.drop (name.length + 1))
    else
      none
  | '-' :: letters =>
    let flags := letters.takeWhile ("nrEszu".toList.contains ·)
    match letters.drop flags.length with
    | 'i' :: ending => some (if flags.isEmpty then [] else '-' :: flags, ending)
    | _ => none
  | _ => none

/-- The path of the copy that is kept of a file. -/
def copyPath (ending path : Letters) : Letters :=
  -- A sign in the ending stands for the name of the file.
  if !ending.contains '*' then path ++ ending
  else
    let name := (path.reverse.takeWhile (· ≠ '/')).reverse
    let copy := ending.flatMap fun letter => if letter = '*' then name else [letter]
    if copy.contains '/' then copy else path.take (path.length - name.length) ++ copy

/-- The sources of the commands, with the arguments that are left. -/
def editSources (task : Task) (choices : Choices) :
    Except Letters (List ScriptPart × List Letters) := do
  -- The first of these arguments holds the commands unless choices give them.
  let given ← choices.chosen.filterMapM fun (letter, value) => do
    if letter = 'e' then return some (⟨none, value⟩ : ScriptPart)
    else if letter = 'f' then
      match task.file value with
      | .ok text =>
        return some ⟨some value, if text.getLast? = some '\n' then text.dropLast else text⟩
      | .error reason =>
        throw ("couldn't open file ".toList ++ value ++ ": ".toList ++ reason.text.toList)
    else return none
  match given, choices.operands with
  | [], text :: paths => return ([⟨none, text⟩], paths)
  | given, paths => return (given, paths)

/--
What has been written by lines at work, for a program and for the files that its commands name.
-/
def settle (task : Task) (state : State) : List (Nat × Letters) × Workplace :=
  -- A few names stand for what the program writes anyway.
  state.written.reverse.foldl (fun (written, workplace) (target, text) => match target with
    | .own => (written ++ [(1, text)], workplace)
    | .file path =>
      if path = "/dev/stdout".toList then (written ++ [(1, text)], workplace)
      else if path = "/dev/stderr".toList then (written ++ [(2, text)], workplace)
      else
        let before := (({ task with workplace }).file path).toOption.getD []
        (written, (workplace.writeFile (octetsOf path) (octetsOf (before ++ text))).toOption.getD
          workplace))
    (([] : List (Nat × Letters)), task.workplace)

/-- The workplace in which the files that commands name are empty. -/
def emptied (task : Task) (commands : List Command) : Except Letters Workplace :=
  -- They are emptied before anything is read.
  (commands.filterMap fun command => match command.deed with
    | .write path _ | .exchange ⟨_, _, _, _, _, _, some path⟩ => some path
    | _ => none).foldlM (fun workplace path =>
      if path = "/dev/stdout".toList || path = "/dev/stderr".toList then pure workplace
      else (workplace.writeFile (octetsOf path) []).mapError fun reason =>
        "couldn't open file ".toList ++ path ++ ": ".toList ++ reason.text.toList) task.workplace

/-- Whether commands look for the last line before it has been read. -/
def looksAhead (commands : List Command) : Bool :=
  -- Some of them want a line more.
  commands.any fun command =>
    command.range.first == some .last || command.range.bound == some (.address .last)
    || command.deed == .plain 'n' || command.deed == .plain 'N'

/-- Changes files themselves. -/
def editInPlace (task : Task) (setting : Setting) (ending : Letters)
    (paths : List Letters) : Result :=
  -- What cannot be changed is passed over.
  let (state, task, code, complaints) :=
    paths.foldl (fun (found : State × Task × Nat × List (Nat × Letters)) path =>
    let (state, task, code, complaints) := found
    if state.code.isSome then found else
    let refused (code : Nat) (words : Letters) :=
      (state, task, code, complaints ++ [(2, task.complaint words)])
    match task.workplace.contentsOf (octetsOf path) with
    | .ok contents =>
      let fresh : State := { state with unended := state.unended.filter (· ≠ .own) }
      let after := fresh.through setting
        (linesOf setting.ending path (lettersOf contents))
      let text := (after.written.filter (·.1 = .own)).reverse.flatMap (·.2)
      let others := after.written.filter (·.1 ≠ .own)
      let kept := if ending.isEmpty then task.workplace
        else
          (task.workplace.writeFile (octetsOf (copyPath ending path)) contents).toOption.getD
          task.workplace
      let workplace := (kept.writeFile (octetsOf path) (octetsOf text)).toOption.getD kept
      ({ after with written := others }, { task with workplace }, code, complaints)
    | .error (.refused .isADirectory) =>
      refused 4 ("couldn't edit ".toList ++ path ++ ": not a regular file".toList)
    | .error (.refused reason) =>
      refused (max code 2) ("can't read ".toList ++ path ++ ": ".toList ++ reason.text.toList)
    | .error _ => (state, task, code, complaints)) (State.start, task, 0, [])
  let (written, workplace) := settle task state
  ⟨state.code.getD code, complaints ++ written, task.input, workplace⟩

/-- Changes what files contain on the way to what the program writes. -/
def editThrough (task : Task) (setting : Setting) (isSeparate : Bool)
    (paths : List Letters) : Result :=
  -- A directory ends it, unless it has only been looked at in search of the last line.
  let files := task.files paths
  let isBarrier (contents : Except Errno Letters) : Bool := !looksAhead setting.commands &&
    (match contents with | .error .isADirectory => true | _ => false)
  let reached := files.takeWhile fun file => !isBarrier file.2
  let complaints := reached.filterMap fun (path, contents) => match contents with
    | .ok _ | .error .isADirectory => none
    | .error reason =>
      some (2, task.complaint ("can't read ".toList ++ path ++ ": ".toList ++ reason.text.toList))
  let texts := reached.map fun (path, contents) =>
    linesOf setting.ending path (contents.toOption.getD [])
  let last :=
    if isSeparate then texts.foldl (fun state lines => state.through setting lines) State.start
    else State.start.through setting texts.flatten
  let barrier := if last.code.isSome then none else files[reached.length]?
  let (written, workplace) := settle task last
  let complaints := complaints ++ barrier.toList.map fun (path, _) =>
    (2, task.complaint
      ("read error on ".toList ++ path ++ ": ".toList ++ Errno.isADirectory.text.toList))
  let lack :=
    if last.lacksRegex then
      [(2, task.complaint (Fault.message [] (.whole "no previous regular expression".toList)))]
    else
      []
  ⟨last.code.getD (if barrier.isSome then 4 else if complaints.isEmpty then 0 else 2),
    complaints ++ lack ++ written, task.restAfter paths, workplace⟩

/-- Changes texts line by line, which may be those of the files themselves. -/
def sed (task : Task) : Result :=
  -- Two signs alone end the choices.
  let before := task.arguments.takeWhile (· ≠ ['-', '-'])
  let places := before.filterMap placeOf?
  let arguments := before.flatMap (fun argument => match placeOf? argument with
    | some ([], _) => []
    | some (flags, _) => [flags]
    | none => [argument]) ++ task.arguments.drop before.length
  let usage : Letters :=
    "Usage: sed [OPTION]... \x7bscript-only-if-no-other-script\x7d [input-file]...\n".toList
  withChoices ⟨"nrEszu", "efl",
    [("quiet", 'n'), ("silent", 'n'), ("regexp-extended", 'E'), ("expression", 'e'), ("file", 'f'),
      ("separate", 's'), ("null-data", 'z'), ("unbuffered", 'u'), ("line-length", 'l'),
      ("posix", 'u'), ("sandbox", 'u')], true⟩ 1
    (fun task choices => match editSources task choices with
      | .error words => task.failing 4 words
      | .ok ([], _) => ⟨1, [(2, usage)], task.input, task.workplace⟩
      | .ok (sources, paths) =>
        let style : RegexStyle :=
          if choices.has 'E' || choices.has 'r' then .strict else .strictBasic
        match Edit.read style (ScriptPart.joined sources) with
        | .error fault =>
          task.failing (match fault with | .placeless _ => 4 | _ => 1) (fault.message sources)
        | .ok commands => match emptied task commands with
          | .error words => task.failing 4 words
          | .ok workplace =>
            let isSilent := (ScriptPart.joined sources).take 2 = "#n".toList
              && ((ScriptPart.joined sources).drop 2).head?.all (· = '\n')
            let setting : Setting :=
              ⟨commands, choices.has 'n' || isSilent, if choices.has 'z' then '\x00' else '\n',
              ((choices.value? 'l').bind number?).getD 70, fun path =>
                (task.file path).toOption.getD []⟩
            let task := { task with workplace }
            match places.getLast? with
            | some (_, ending) =>
              if paths.isEmpty then
                task.failing 4 "no input files".toList
              else
                editInPlace task setting ending paths
            | none => editThrough task setting (choices.has 's') paths) { task with arguments }

end Wakeful.Shell.Tool
