import Wakeful.Shell.Pattern
import Wakeful.Shell.Tool.Files

/-! Programs that look for files and tell what they are. -/

namespace Wakeful.Shell.Tool

/-- A file that has been come upon. -/
structure Discovery where
  /-- The path by which it was reached. -/
  path : Letters
  /-- What it is. -/
  node : Node
  /-- How far it lies below the place where the search began. -/
  depth : Nat
  /-- Whether it is a directory without anything in it. -/
  isBare : Bool

/-- Whether and how a file is meant. -/
inductive Search where
  /-- By a pattern for its name, where capital and small letters may count alike. -/
  | named (isSmall : Bool) (pattern : Letters)
  /-- By a pattern for its path. -/
  | reached (isSmall : Bool) (pattern : Letters)
  /-- By its kind. -/
  | kind (letters : Letters)
  /-- By having nothing in it. -/
  | bare
  /-- By its size, which is compared in one of three ways in units of so many octets. -/
  | sized (order : Ordering) (count size : Nat)
  /-- By its permissions. -/
  | permitted (mode : Nat)
  /-- Always or never. -/
  | constant (value : Bool)
  /-- What lies below it is not looked at. -/
  | pruned
  /-- Its path is written with a letter after it. -/
  | shown (ending : Char)
  /-- It is removed. -/
  | removed
  /-- A command is run for it, in which its path takes the place of a mark. -/
  | executed (command : List Letters)
  /-- A command is run in the end for all together. -/
  | gathered (command : List Letters)
  /-- What is not meant otherwise. -/
  | opposite (inner : Search)
  /-- What is meant in both ways. -/
  | both (first second : Search)
  /-- What is meant in any of two ways. -/
  | any (first second : Search)

namespace Search

/-- What becomes of a file. -/
structure Outcome where
  /-- Whether it is meant. -/
  isMeant : Bool
  /-- What is done. -/
  steps : List Step
  /-- Whether what lies below is left out. -/
  isPruned : Bool
  /-- Whether it is removed. -/
  isRemoved : Bool
  /-- The commands that are to be run in the end for it too. -/
  gathered : List (List Letters)

/-- What is only looked at. -/
def Outcome.plain (isMeant : Bool) : Outcome := ⟨isMeant, [], false, false, []⟩

/-- One outcome after another. -/
def Outcome.followedBy (first second : Outcome) : Outcome :=
  -- The second one tells whether the file is meant.
  ⟨second.isMeant, first.steps ++ second.steps, first.isPruned || second.isPruned,
    first.isRemoved || second.isRemoved, first.gathered ++ second.gathered⟩

/-- The mark that a path takes the place of. -/
def mark : Letters := ['\x7b', '\x7d']

/-- Letters in which a path takes the place of every mark. -/
def filled (path : Letters) (letters : Letters) : Letters :=
  lettersOf (Octets.replace (octetsOf mark) (octetsOf path) (octetsOf letters))

/-- The pattern that letters spell. -/
def wildcards (letters : Letters) : Pattern := Pattern.ofMarked (letters.map (·, false))

/-- The letter for the kind of a file. -/
def kindOf : Node → Char
  | .directory _ => 'd'
  | .file _ _ => 'f'
  | .link _ => 'l'
  | .socket _ _ => 's'
  | .device _ => 'c'

/-- The outcome of a search for a file. -/
def judge (found : Discovery) : Search → Outcome
  -- The second of two ways is looked at only if the first leaves it open.
  | named isSmall pattern =>
    let small (letters : Letters) := if isSmall then letters.map Char.toLower else letters
    .plain ((wildcards (small pattern)).holds (small (lastName found.path)))
  | reached isSmall pattern =>
    let small (letters : Letters) := if isSmall then letters.map Char.toLower else letters
    .plain ((wildcards (small pattern)).holds (small found.path))
  | kind letters => .plain (letters.contains (kindOf found.node))
  | bare => .plain (match found.node with
      | .directory _ => found.isBare
      | .file _ contents => contents.isEmpty
      | _ => false)
  | sized order count size =>
    let length := match found.node with
      | .file _ contents => contents.length
      | .directory _ => 4096
      | _ => 0
    .plain (Ord.compare ((length + size - 1) / size) count == order)
  | permitted mode => .plain (found.node.mode == mode)
  | constant value => .plain value
  | pruned => { Outcome.plain true with isPruned := true }
  | shown ending => { Outcome.plain true with steps := [.say 1 (found.path ++ [ending])] }
  | removed => { Outcome.plain true with isRemoved := true }
  | executed command =>
    { Outcome.plain true with steps := [.call (command.map (filled found.path)) false] }
  | gathered command => { Outcome.plain true with gathered := [command] }
  | opposite inner => { inner.judge found with isMeant := !(inner.judge found).isMeant }
  | both first second =>
    let one := first.judge found
    if one.isMeant then one.followedBy (second.judge found) else one
  | any first second =>
    let one := first.judge found
    if one.isMeant then one else one.followedBy (second.judge found)

/-- Whether something is done with what is meant. -/
def acts : Search → Bool
  | shown _ | removed | executed _ | gathered _ => true
  | opposite inner => inner.acts
  | both first second | any first second => first.acts || second.acts
  | _ => false

/-- A reading of the words of a search, which are taken one after the other. -/
abbrev Reading := StateT (List Letters) (Except Letters)

/-- The number after a sign that tells how it is compared. -/
def measured (value : Letters) : Ordering × Letters :=
  -- A plus sign asks for more, and a minus sign for less.
  match value with
  | '+' :: rest => (.gt, rest)
  | '-' :: rest => (.lt, rest)
  | rest => (.eq, rest)

mutual

/-- Reads ways of which any is enough. -/
def readAny : (fuel : Nat) → Reading Search
  -- A word stands between them.
  | 0 => throw "expression is too long".toList
  | fuel + 1 => do
    let first ← readBoth fuel
    match (← get).map String.ofList with
    | "-o" :: _ | "-or" :: _ =>
      modify (·.drop 1)
      return .any first (← readAny fuel)
    | _ => return first

/-- Reads ways that all have to hold. -/
def readBoth : (fuel : Nat) → Reading Search
  -- They may follow each other without a word in between.
  | 0 => throw "expression is too long".toList
  | fuel + 1 => do
    let first ← readOne fuel
    match (← get).map String.ofList with
    | [] | "-o" :: _ | "-or" :: _ | ")" :: _ => return first
    | "-a" :: _ | "-and" :: _ =>
      modify (·.drop 1)
      return .both first (← readBoth fuel)
    | _ => return .both first (← readBoth fuel)

/-- Reads a single way. -/
def readOne : (fuel : Nat) → Reading Search
  -- Many of them have a value.
  | 0 => throw "expression is too long".toList
  | fuel + 1 => do
    match ← get with
    | [] => throw "expected an expression".toList
    | word :: rest =>
      set rest
      let valued (make : Letters → Except Letters Search) : Reading Search := do
        match rest with
        | [] => throw ("missing argument to \x60".toList ++ word ++ ['\''])
        | value :: others =>
          set others
          make value
      match String.ofList word with
      | "!" | "-not" => return .opposite (← readOne fuel)
      | "(" =>
        let inner ← readAny fuel
        match ← get with
        | [')'] :: others =>
          set others
          return inner
        | _ => throw "expected to find a ')'".toList
      | "-name" => valued fun value => .ok (.named false value)
      | "-iname" => valued fun value => .ok (.named true value)
      | "-path" | "-wholename" => valued fun value => .ok (.reached false value)
      | "-ipath" | "-iwholename" => valued fun value => .ok (.reached true value)
      | "-type" => valued fun value =>
        let letters := value.filter (· ≠ ',')
        if letters.all ("bcdpfls".toList.contains ·) && !letters.isEmpty then .ok (.kind letters)
        else .error ("Unknown argument to -type: ".toList ++ value)
      | "-empty" => return .bare
      | "-true" => return .constant true
      | "-false" => return .constant false
      | "-prune" => return .pruned
      | "-print" => return .shown '\n'
      | "-print0" => return .shown '\x00'
      | "-delete" => return .removed
      | "-exec" =>
        let command := rest.takeWhile fun word => word ≠ [';']
        let plus := rest.zipIdx.find? fun (word, place) =>
          word = ['+'] && 0 < place && rest[place - 1]? = some mark
        match plus with
        | some (_, place) =>
          if place ≤ command.length then
            set (rest.drop (place + 1))
            return .gathered (rest.take (place - 1))
        | none => pure ()
        if command.isEmpty || command.length = rest.length then
          throw ("missing argument to \x60-exec'".toList)
        set (rest.drop (command.length + 1))
        return .executed command
      | "-size" => valued fun value =>
        let (order, number) := measured value
        let unit : Nat := match number.getLast? with
          | some 'c' => 1
          | some 'w' => 2
          | some 'k' => 1024
          | some 'M' => 0x100000
          | some 'G' => 0x40000000
          | _ => 512
        match number? (number.filter Char.isDigit) with
        | some count => .ok (.sized order count unit)
        | none => .error ("Invalid argument \x60".toList ++ value ++ "' to -size".toList)
      | "-perm" => valued fun value => match readMode false 0 0 value with
        | some mode => .ok (.permitted mode)
        | none => .error ("invalid mode '".toList ++ value ++ ['\''])
      | _ => throw ("unknown predicate \x60".toList ++ word ++ ['\''])

end

end Search

/-- What a search comes to. -/
structure SearchState where
  /-- What has been done, the last first. -/
  steps : List Step
  /-- The commands that are to be run in the end, with the paths for them, the last first. -/
  gathered : List (List Letters × List Letters)
  /-- The files, some of which may have been removed. -/
  workplace : Workplace
  /-- Whether everything could be looked at. -/
  isGood : Bool

/-- Looks at a file and at all below it. -/
def explore (task : Task) (search : Search) (least : Nat) (most : Option Nat) (deepFirst : Bool) :
    (fuel depth : Nat) → (path : Letters) → SearchState → SearchState
  -- What is not far enough below or too far is left out.
  | 0, _, _, state => state
  | fuel + 1, depth, path, state =>
    match lookAtName state.workplace path with
    | .error reason =>
      let words := task.complaint (['\''] ++ path ++ "': ".toList ++ reason.text.toList)
      { state with steps := .say 2 words :: state.steps, isGood := false }
    | .ok (spot, node) =>
      let names := if node.isDirectory then
          ordered ((state.workplace.tree.entriesAt spot).map fun entry => lettersOf entry.1) else []
      let outcome :=
        if least ≤ depth then search.judge ⟨path, node, depth, names.isEmpty⟩ else .plain false
      let act (state : SearchState) : SearchState :=
        let state := { state with
          steps := outcome.steps.reverse ++ state.steps
          gathered := outcome.gathered.foldl (fun all command =>
            if all.any (·.1 = command) then
              all.map fun entry => if entry.1 = command then (command, path :: entry.2) else entry
            else (command, [path]) :: all) state.gathered }
        if !outcome.isRemoved then state
        else
          let (result, after) := if node.isDirectory then state.workplace.rmdir (octetsOf path)
            else state.workplace.unlink (octetsOf path)
          match result with
          | .ok _ => { state with workplace := after }
          | .error _ => { state with isGood := false }
      let goesOn := most.all (depth < ·) && (deepFirst || !outcome.isPruned)
      let deepen (state : SearchState) : SearchState :=
        if !goesOn then state
        else
          names.foldl (fun state name =>
            explore task search least most deepFirst fuel (depth + 1) (below path name) state) state
      if deepFirst then act (deepen state) else deepen (act state)

/--
Looks for files below directories, and gives what is to be done and how it went, or what is wrong.
-/
def find (task : Task) : Except Result (List Step × Workplace × Nat) :=
  -- Without anything to be done the paths are written.
  let words := task.arguments.dropWhile [['-', 'H'], ['-', 'L'], ['-', 'P']].contains
  let isPath (word : Letters) : Bool :=
    word.head? ≠ some '-' && word ≠ ['('] && word ≠ ['!'] && word ≠ [')']
  let paths := words.takeWhile isPath
  let rec settings : List Letters → Nat × Option Nat × Bool × List Letters
    | [] => (0, none, false, [])
    | [word] =>
      if word = "-depth".toList then
        (0, none, true, [])
      else
        (0, none, word = "-delete".toList, [word])
    | word :: value :: rest =>
      if word = "-maxdepth".toList then
        let (least, _, deep, others) := settings rest
        (least, number? value, deep, others)
      else if word = "-mindepth".toList then
        let (_, most, deep, others) := settings rest
        ((number? value).getD 0, most, deep, others)
      else
        let (least, most, deep, others) := settings (value :: rest)
        if word = "-depth".toList then
          (least, most, true, others)
        else
          (least, most, deep || word = "-delete".toList, word :: others)
  let (least, most, deepFirst, rest) := settings (words.drop paths.length)
  let reading : Except Letters (Search × List Letters) :=
    if rest.isEmpty then
      .ok (.constant true, [])
    else
      (Search.readAny (4 * rest.length + 4)).run rest
  match reading with
  | .error words => .error (task.failing 1 words)
  | .ok (_, word :: _) =>
    .error (task.failing 1 ("paths must precede expression: \x60".toList ++ word ++ ['\'']))
  | .ok (search, []) =>
    let search := if search.acts then search else .both search (.shown '\n')
    let start : SearchState := ⟨[], [], task.workplace, true⟩
    let last := (if paths.isEmpty then [['.']] else paths).foldl
      (fun state path => explore task search least most deepFirst 100 0 path state) start
    let together :=
      last.gathered.reverse.map fun (command, paths) => Step.call (command ++ paths.reverse) true
    .ok (last.steps.reverse ++ together, last.workplace, if last.isGood then 0 else 1)

/-- The letters that show permissions. -/
def modeLetters (node : Node) : Letters :=
  -- The kind comes first.
  let kind := Search.kindOf node
  let bits := [(8, 'r'), (7, 'w'), (6, 'x'), (5, 'r'), (4, 'w'), (3, 'x'), (2, 'r'), (1, 'w'),
    (0, 'x')]
  (if kind = 'f' then '-' else kind) :: bits.map fun (bit, letter) =>
    if node.mode.testBit bit then letter else '-'

/-- Tells what files are. -/
def stat : Task → Result :=
  -- Only what does not change from time to time can be asked for.
  withChoices ⟨"Lft", "c", [("format", 'c'), ("printf", 'p'), ("dereference", 'L')],
    true⟩ 1 fun task choices =>
    let format := (choices.value? 'c').or (choices.value? 'p')
    let ending : Letters := if (choices.value? 'p').isSome then [] else ['\n']
    let links (spot : Spot) (node : Node) : Nat :=
      if node.isDirectory then
        2 + ((task.workplace.tree.entriesAt spot).filter (·.2.isDirectory)).length
      else
        1
    let describe (path : Letters) (spot : Spot) (node : Node) (letter : Char) : Letters :=
      match letter with
      | 'n' => path
      | 'N' => match node with
        | .link target => paired path "->" (lettersOf target)
        | _ => Quoting.quoted path
      | 's' => match node with
        | .file _ contents => digitsOf (contents.length : Nat)
        | .link target => digitsOf (target.length : Nat)
        | .directory _ => "4096".toList
        | _ => ['0']
      | 'a' => Nat.toDigits 8 node.mode
      | 'A' => modeLetters node
      | 'F' => match node with
        | .file _ contents =>
          (if contents.isEmpty then "regular empty file" else "regular file").toList
        | .directory _ => "directory".toList
        | .link _ => "symbolic link".toList
        | .socket _ _ => "socket".toList
        | .device _ => "character special file".toList
      | 'u' | 'g' => ['0']
      | 'U' | 'G' => "root".toList
      | 'h' => digitsOf (links spot node : Nat)
      | '%' => ['%']
      | _ => ['?']
    let rec fill (path : Letters) (spot : Spot) (node : Node) : Letters → Letters
      | '%' :: letter :: rest => describe path spot node letter ++ fill path spot node rest
      | '\\' :: 'n' :: rest =>
        if ending.isEmpty then
          '\n' :: fill path spot node rest
        else
          '\\' :: 'n' :: fill path spot node rest
      | letter :: rest => letter :: fill path spot node rest
      | [] => []
    match format, choices.operands with
    | _, [] => task.misused 1 "missing operand".toList
    | none, _ => task.failing 1 "only formats are understood".toList
    | some format, paths =>
      let written := paths.map fun path =>
        match if choices.has 'L' then look task.workplace path
          else lookAtName task.workplace path with
        | .ok (spot, node) => (1, fill path spot node format ++ ending)
        | .error reason => (2, task.complaint (about "cannot statx" path reason))
      ⟨if written.all (·.1 = 1) then 0 else 1, written, task.input, task.workplace⟩

/-- Tells where programs lie. -/
def which : Task → Result :=
  -- The first one that is found counts unless all are asked for.
  withChoices ⟨"as", "", [], false⟩ 2 fun task choices =>
    let search :=
      (task.settings.find? fun line => "PATH=".toList.isPrefixOf line).elim [] (·.drop 5)
    let isProgram (path : Letters) : Bool := match look task.workplace path with
      | .ok (_, .file mode _) => mode.testBit 6
      | _ => false
    let found := choices.operands.map fun name =>
      let paths := (if name.contains '/' then [name] else (pieces ':' search).map fun directory =>
        below (if directory.isEmpty then ['.'] else directory) name).filter isProgram
      if choices.has 'a' then paths else paths.take 1
    let code := if found.isEmpty || found.any (·.isEmpty) then 1 else 0
    task.saying code (if choices.has 's' then [] else unlines found.flatten)

end Wakeful.Shell.Tool
