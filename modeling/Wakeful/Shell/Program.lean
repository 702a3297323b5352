import Wakeful.Shell.Tool.Calendar
import Wakeful.Shell.Tool.Change
import Wakeful.Shell.Tool.Dump
import Wakeful.Shell.Tool.Edit
import Wakeful.Shell.Tool.Find
import Wakeful.Shell.Tool.Pair
import Wakeful.Shell.Tool.Search
import Wakeful.Shell.Tool.Shape
import Wakeful.Shell.Tool.Sort
import Wakeful.Shell.Tool.Translate

/-! The programs that every system has, some of which run others. -/

namespace Wakeful.Shell

/-- How a program runs others. -/
inductive Conduct where
  /-- It becomes another one. -/
  | instead
  /-- It waits for each, and some failures end everything. -/
  | batch
  /-- It waits for each, and goes on in any case. -/
  | each
  deriving DecidableEq, Repr

/-- What a program that runs others is about to do. -/
structure Errand where
  /-- What it does in turn. -/
  steps : List Step
  /-- Its code if nothing goes wrong. -/
  code : Nat
  /-- The files as it has left them before. -/
  workplace : Workplace
  /-- The lines of the environment that they get. -/
  settings : List Letters
  /-- Whether they have nothing to read. -/
  withholdsInput : Bool
  /-- What is left to read after it. -/
  rest : Letters
  /-- The signals that they ignore. -/
  ignored : List Nat
  /-- The directory in which they run, if it is another one. -/
  directory : Option Letters
  /-- How it runs commands. -/
  conduct : Conduct

/-- A program. -/
inductive Program where
  /-- It does something by itself, and has a code for being unable to write. -/
  | tool (run : Task → Result) (failure : Nat)
  /-- It runs scripts. -/
  | shell
  /-- It runs others, unless it has nothing to run. -/
  | runner (plan : Task → Except Result Errand)

namespace Errand

/-- The errand to run one command. -/
def single (task : Task) (command : List Letters) : Errand :=
  -- Everything else is handed on.
  ⟨[.call command true], 0, task.workplace, task.settings, false, task.input, [], none, .instead⟩

/-- Lines of an environment in which a name has another value. -/
def withSetting (settings : List Letters) (name value : Letters) : List Letters :=
  -- The place of a former value is kept.
  let line := name ++ '=' :: value
  let isSame (other : Letters) := (name ++ ['=']).isPrefixOf other
  if settings.any isSame then
    settings.map fun other => if isSame other then line else other
  else
    settings ++ [line]

/--
The words in a text, each with whether its line ends right
after it, or the quote that is never closed.
-/
def inputWords (byLines : Bool) :
    (fuel : Nat) → (present : Option Letters) → Letters → Except Char (List (Letters × Bool))
  -- Blanks part them unless whole lines are meant, and quotes
  -- and backslashes keep what they stand before.
  | 0, present, _ | _ + 1, present, [] => .ok (present.toList.map (·, true))
  | fuel + 1, present, letter :: rest =>
    if letter = '\\' then
      match rest with
      | next :: others => inputWords byLines fuel (some (present.getD [] ++ [next])) others
      | [] => .ok (present.toList.map (·, true))
    else if letter = '"' || letter = '\'' then
      let inner := rest.takeWhile fun other => other ≠ letter && other ≠ '\n'
      if (rest.drop inner.length).head? = some letter then
        inputWords byLines fuel (some (present.getD [] ++ inner)) (rest.drop (inner.length + 1))
      else .error letter
    else if letter = '\n' || present.isNone && isBlank letter ||
        !byLines && (letter = ' ' || letter = '\t') then
      (inputWords byLines fuel none rest).map (present.toList.map (·, letter == '\n') ++ ·)
    else inputWords byLines fuel (some (present.getD [] ++ [letter])) rest

/-- The words in a text without regard to lines. -/
def wordsIn (text : Letters) : List Letters :=
  -- Quotes that are never closed leave none.
  ((inputWords false (text.length + 1) none text).toOption.getD []).map (·.1)

/-- Runs a command with other variables, or writes the variables. -/
def env (task : Task) : Except Result Errand :=
  -- Settings come after the choices, and the command after both.
  let rec divide : (fuel : Nat) → List Letters → List Letters × List Letters
    | 0, words => ([], words)
    | _ + 1, [] => ([], [])
    | fuel + 1, word :: rest =>
      if word = ['-', 'u'] || word = ['-', 'C'] || word = "--unset".toList ||
          word = "--chdir".toList then
        let (choices, others) := divide fuel (rest.drop 1)
        (word :: rest.take 1 ++ choices, others)
      else if word = ['-', '-'] then ([], rest)
      else if word.head? = some '-' then
        let (choices, others) := divide fuel rest
        (word :: choices, others)
      else ([], word :: rest)
  let arguments := match task.arguments with
    | ['-', 'S'] :: text :: rest => wordsIn text ++ rest
    | ('-' :: 'S' :: text) :: rest => wordsIn text ++ rest
    | arguments => arguments
  let (chosen, words) := divide (arguments.length + 1) arguments
  let chosen := chosen.map fun word => if word = ['-'] then ['-', 'i'] else word
  let table : ChoiceTable :=
    ⟨"i0v", "uC", [("ignore-environment", 'i'), ("unset", 'u'), ("chdir", 'C'), ("null", '0')],
      false⟩
  match Choices.read table chosen with
  | .error words => .error (task.misused 125 words)
  | .ok choices =>
    let isSetting (word : Letters) := word.contains '=' && word.head? ≠ some '='
    let start := if choices.has 'i' then [] else task.settings.filter fun line =>
      (choices.values 'u').all fun name => !(name ++ ['=']).isPrefixOf line
    let settings := (words.takeWhile isSetting).foldl (fun settings word =>
      let name := word.takeWhile (· != '=')
      withSetting settings name (word.drop (name.length + 1))) start
    match words.dropWhile isSetting with
    | [] =>
      let ending : Letters := if choices.has '0' then ['\x00'] else ['\n']
      .error (task.saying 0 (settings.flatMap (· ++ ending)))
    | command => .ok { single task command with settings, directory := choices.value? 'C' }

/-- Lists of at most so many items. -/
def groups {α : Type} (count : Nat) : (fuel : Nat) → List α → List (List α)
  -- The last list may be shorter.
  | 0, _ => []
  | _ + 1, [] => []
  | fuel + 1, items => items.take (max count 1) :: groups count fuel (items.drop (max count 1))

/-- Text in which every occurrence of a part is replaced. -/
def replaced (part other text : Letters) : Letters :=
  -- Octets are replaced just so.
  lettersOf (Octets.replace (octetsOf part) (octetsOf other) (octetsOf text))

/-- Words in groups of so many lines. -/
def lineGroups (count : Nat) (words : List (Letters × Bool)) : List (List Letters) :=
  -- A line goes on if blanks come before its end.
  let (done, present, _) := words.foldl (fun (done, present, ended) (word, isEnd) =>
    let present := word :: present
    let ended := if isEnd then ended + 1 else ended
    if isEnd && count ≤ ended then (present.reverse :: done, [], 0) else (done, present, ended))
    (([] : List (List Letters)), ([] : List Letters), 0)
  (if present.isEmpty then done else present.reverse :: done).reverse

/-- Runs a command with what can be read as its arguments. -/
def xargs (task : Task) : Except Result Errand :=
  -- The arguments may be divided among several runs, for which the last such choice counts.
  let table : ChoiceTable :=
    ⟨"0rtpx", "nLIdPEas",
      [("null", '0'), ("no-run-if-empty", 'r'), ("max-args", 'n'), ("replace", 'I'),
    ("delimiter", 'd'), ("max-lines", 'L'), ("max-procs", 'P'), ("eof", 'E'), ("arg-file", 'a'),
    ("verbose", 't')], false⟩
  match Choices.read table task.arguments with
  | .error words => .error (task.misused 1 words)
  | .ok choices =>
    let command := if choices.operands.isEmpty then ["echo".toList] else choices.operands
    let separator := if choices.has '0' then some '\x00' else (choices.value? 'd').bind fun value =>
      match (EscapeStyle.unescape ⟨false, false, false, false⟩ value).1 with
      | letter :: _ => some letter
      | [] => none
    let dividers := (choices.chosen.map (·.1)).filter ("nLI".toList.contains ·)
    let divider :=
      if dividers.contains 'I' && dividers.all (· ≠ 'L') then some 'I' else dividers.getLast?
    let text : Except Errno Letters := match choices.value? 'a' with
      | some path => task.file path
      | none => .ok task.input
    let wrong := ["n", "L"].findSome? fun name =>
      match (choices.value? (name.toList.headD ' ')) with
      | none => none
      | some value => match number? value with
        | none =>
          some ("invalid number \"".toList ++ value ++ "\" for -".toList ++ name.toList ++
            " option".toList)
        | some 0 => some ("value 0 for -".toList ++ name.toList ++ " option should be >= 1".toList)
        | some _ => none
    match wrong, text with
    | some words, _ => .error (task.misused 1 words)
    | none, .error reason =>
      .error (task.failing 1
        ("Cannot open input file '".toList ++ (choices.value? 'a').getD [] ++ "': ".toList ++
          reason.text.toList))
    | none, .ok text =>
      let words : Except Char (List (Letters × Bool)) := match separator with
        | some sign =>
          let parts := Tool.pieces sign text
          .ok ((if parts.getLast? = some [] then parts.dropLast else parts).map (·, true))
        | none => (inputWords (divider = some 'I') (text.length + 1) none text).map fun words =>
          (choices.value? 'E').elim words fun last => words.takeWhile (·.1 ≠ last)
      match words with
      | .error quote =>
        let kind := if quote = '"' then "double" else "single"
        .error (task.failing 1 ("unmatched ".toList ++ kind.toList
          ++ " quote; by default quotes are special to xargs unless you use the -0 option".toList))
      | .ok words =>
        let count := divider.bind fun letter => (choices.value? letter).bind number?
        let plain := words.map (·.1)
        let commands := match divider, choices.value? 'I' with
          | some 'I', some mark => plain.map fun word => command.map (replaced mark word)
          | _, _ =>
            let batches := if words.isEmpty then (if choices.has 'r' then [] else [[]])
              else if divider = some 'L' then lineGroups (count.getD 1) words
              else groups (count.getD words.length) (words.length + 1) plain
            batches.map (command ++ ·)
        let steps := commands.flatMap fun command =>
          (if choices.has 't' then [Step.say 2 (List.intercalate [' '] command ++ ['\n'])]
            else []) ++ [Step.call command true]
        .ok ⟨steps, 0, task.workplace, task.settings, true, [], [], none, .batch⟩

/-- Looks for files, and may run commands for them. -/
def find (task : Task) : Except Result Errand :=
  -- What has been removed is gone before the first command.
  (Tool.find task).map fun (steps, workplace, code) =>
    ⟨steps, code, workplace, task.settings, false, task.input, [], none, .each⟩

/-- The errand to run the operands after choices, or what is to be said if there are none. -/
def operandsOf (table : ChoiceTable) (failure count : Nat) (task : Task)
    (otherwise : Choices → Result) (change : Choices → Errand → Errand) : Except Result Errand :=
  -- So many operands come before the command.
  match Choices.read table task.arguments with
  | .error words => .error (task.misused failure words)
  | .ok choices =>
    match choices.operands.drop count with
    | [] => .error (otherwise choices)
    | command => .ok (change choices (single task command))

/-- Runs a command that is not hung up. -/
def nohup (task : Task) : Except Result Errand :=
  -- Only one signal is ignored.
  operandsOf ⟨"", "", [], false⟩ 125 0 task (fun _ => task.misused 125 "missing operand".toList)
    fun _ errand => { errand with ignored := [1] }

/-- Runs a command that leaves others the precedence. -/
def nice (task : Task) : Except Result Errand :=
  -- Without a command the present precedence is told.
  operandsOf ⟨"", "n", [("adjustment", 'n')], false⟩ 125 0 task
    (fun _ => task.saying 0 "0\n".toList) fun _ errand => errand

/-- Runs a command in a session of its own. -/
def setsid (task : Task) : Except Result Errand :=
  -- Nothing else changes.
  operandsOf ⟨"cfw", "", [("wait", 'w'), ("fork", 'f')], false⟩ 1 0 task
    (fun _ => task.failing 1 "no command specified".toList) fun _ errand => errand

/-- Runs a command for at most some time. -/
def timeout (task : Task) : Except Result Errand :=
  -- Only a command that does nothing but wait can take too long.
  let table : ChoiceTable :=
    ⟨"fv", "sk", [("signal", 's'), ("kill-after", 'k'), ("foreground", 'f'),
      ("preserve-status", 'p')], false⟩
  match Choices.read table task.arguments with
  | .error words => .error (task.misused 125 words)
  | .ok choices =>
    let seconds (text : Letters) : Option (Int × Nat) :=
      let unit : Nat := match text.getLast? with
        | some 'm' => 60
        | some 'h' => 3600
        | some 'd' => 86400
        | _ => 1
      let digits := if text.getLast?.any ("smhd".toList.contains ·) then text.dropLast else text
      (Tool.decimal? digits).map fun (value, places) => (value * unit, places)
    match choices.operands with
    | [] | [_] => .error (task.misused 125 "missing operand".toList)
    | limit :: command =>
      match seconds limit with
      | none => .error (task.misused 125 ("invalid time interval '".toList ++ limit ++ ['\'']))
      | some (bound, places) =>
        let isLate := 0 < bound && command.head? = some "yes".toList || match command with
          | [name, time] =>
            name = "sleep".toList && 0 < bound && (seconds time).any fun (value, others) =>
            bound * Nat.pow 10 others < value * Nat.pow 10 places
          | _ => false
        if isLate then .error (task.saying 124 []) else .ok (single task command)

end Errand

namespace Program

/-- The programs that every system has, by their names. -/
def all : List (String × Program) :=
  -- A shell has more names than one.
  let tools : List (String × (Task → Result)) :=
    [("true", Tool.leaving 0), ("false", Tool.leaving 1), ("echo", Tool.echo),
      ("printf", Tool.printf .system), ("test", Tool.test .system), ("[", Tool.bracket .system),
      ("cat", Tool.cat), ("tac", Tool.tac), ("rev", Tool.rev), ("head", Tool.head),
      ("tail", Tool.tail), ("wc", Tool.wc), ("sort", Tool.sort), ("uniq", Tool.uniq),
      ("cut", Tool.cut), ("paste", Tool.paste), ("tr", Tool.tr), ("grep", Tool.grep),
      ("seq", Tool.seq), ("expr", Tool.expr), ("basename", Tool.basename),
      ("dirname", Tool.dirname), ("printenv", Tool.printenv), ("id", Tool.id),
      ("whoami", Tool.telling 0 "root"), ("uname", Tool.uname), ("arch", Tool.telling 0 "x86_64"),
      ("tty", Tool.telling 1 "not a tty"), ("nproc", Tool.telling 0 "1"),
      ("hostname", Tool.telling 0 "localhost"),
      ("logname", fun task => task.failing 1 "no login name".toList), ("sleep", Tool.sleep),
      ("pwd", Tool.pwd), ("passwd", Tool.passwd), ("ls", Tool.ls), ("mkdir", Tool.mkdir),
      ("rmdir", Tool.rmdir), ("rm", Tool.rm), ("touch", Tool.touch), ("cp", Tool.cp),
      ("mv", Tool.mv), ("ln", Tool.ln), ("chmod", Tool.chmod), ("tee", Tool.tee),
      ("readlink", Tool.readlink), ("realpath", Tool.realpath), ("sync", Tool.leaving 0),
      ("sed", Tool.sed), ("od", Tool.od), ("base64", Tool.base64), ("cksum", Tool.cksum),
      ("md5sum", Tool.digests Tool.firstDigest), ("sha1sum", Tool.digests Tool.secondDigest),
      ("sha256sum", Tool.digests Tool.thirdDigest), ("nl", Tool.nl), ("fold", Tool.fold),
      ("expand", Tool.expand), ("yes", Tool.yes), ("factor", Tool.factor), ("comm", Tool.comm),
      ("cmp", Tool.cmp), ("diff", Tool.diff), ("stat", Tool.stat), ("which", Tool.which),
      ("date", Tool.date)]
  let searches :=
    [("egrep", ['-', 'E']), ("fgrep", ['-', 'F'])].map fun (name, (choice : Letters)) =>
    (name, fun (task : Task) =>
      Tool.grep { task with name := "grep".toList, arguments := choice :: task.arguments })
  let runners :=
    [("env", Errand.env), ("find", Errand.find), ("xargs", Errand.xargs), ("nohup", Errand.nohup),
      ("nice", Errand.nice),
    ("setsid", Errand.setsid), ("timeout", Errand.timeout)]
  let failures :=
    [("ls", 2), ("sort", 2), ("grep", 2), ("egrep", 2), ("fgrep", 2), ("sed", 4), ("expr", 3)]
  ["dash", "bash"].map (·, .shell) ++
    (tools ++ searches).map (fun (name, run) => (name, .tool run ((failures.lookup name).getD 1)))
    ++ runners.map fun (name, plan) => (name, .runner plan)

end Program

end Wakeful.Shell
