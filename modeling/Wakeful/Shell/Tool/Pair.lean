import Wakeful.Shell.Differences
import Wakeful.Shell.Tool.Files
import Wakeful.Shell.Tool.Text

/-! Programs that compare two files. -/

namespace Wakeful.Shell.Tool

/-- What two files are made of by a program that reads them both, unless one cannot be read. -/
def withPair (failure : Nat) (paths : List Letters) (task : Task)
    (act : Letters → Letters → Result) : Result :=
  -- There have to be two names.
  let refused := if failure = 2 then task.refusedBare else task.refused
  match paths with
  | [] => task.misused failure "missing operand".toList
  | [only] => task.misused failure ("missing operand after '".toList ++ only ++ ['\''])
  | [left, right] => match task.file left, task.file right with
    | .ok first, .ok second => { act first second with rest := task.restAfter [left, right] }
    | .error reason, _ => ⟨failure, [(2, refused left reason)], task.input, task.workplace⟩
    | _, .error reason => ⟨failure, [(2, refused right reason)], task.input, task.workplace⟩
  | _ :: _ :: extra :: _ => task.misused failure ("extra operand '".toList ++ extra ++ ['\''])

/-- Whether the letters of a text come before those of another one. -/
def isLower (left right : Letters) : Bool := Octets.before (octetsOf left) (octetsOf right)

/--
The lines of two texts in order, each with the number of the
text that has it alone, or with three for both.
-/
def merged : (fuel : Nat) → List Letters → List Letters → List (Nat × Letters)
  -- The lower line comes first.
  | 0, _, _ => []
  | _ + 1, [], right => right.map (2, ·)
  | _ + 1, left, [] => left.map (1, ·)
  | fuel + 1, left :: lefts, right :: rights =>
    if left = right then (3, left) :: merged fuel lefts rights
    else if isLower left right then (1, left) :: merged fuel lefts (right :: rights)
    else (2, right) :: merged fuel (left :: lefts) rights

/-- Whether lines are in order. -/
def isOrdered (lines : List Letters) : Bool :=
  (lines.zip (lines.drop 1)).all fun (left, right) => !isLower right left

/-- Writes the lines that two ordered files have alone or in common. -/
def comm : Task → Result :=
  -- Each kind of line has a column.
  withChoices ⟨"123z", "", [], true⟩ 1 fun task choices =>
    withPair 1 choices.operands task fun left right =>
    let has (kind : Nat) : Bool := choices.has (Char.ofNat (48 + kind))
    let first := lines left
    let second := lines right
    let written :=
      (merged (first.length + second.length + 1) first second).flatMap fun (kind, line) =>
      if has kind then []
      else
        let columns := ((List.range kind).drop 1).filter fun other => !has other
        List.replicate columns.length '\t' ++ line ++ ['\n']
    let isGood := first = second || isOrdered first && isOrdered second
    ⟨if isGood then 0 else 1, [(1, written)] ++ if isGood then [] else
      [(2, task.complaint "input is not in sorted order".toList)], [], task.workplace⟩

/-- Tells where two files differ first. -/
def cmp (task : Task) : Result :=
  -- A file that ends where the other one goes on differs too.
  let table : ChoiceTable :=
    ⟨"bls", "n", [("quiet", 's'), ("silent", 's'), ("verbose", 'l'), ("bytes", 'n')], true⟩
  withChoices table 2 (fun task choices =>
    let paths := if choices.operands.length = 1 then choices.operands ++ [['-']]
      else choices.operands
    withPair 2 paths task fun left right =>
      let count := (choices.value? 'n').bind number?
      let left := count.elim left (left.take ·)
      let right := count.elim right (right.take ·)
      let pairs := (left.zip right).zipIdx
      let differing := pairs.filter fun (pair, _) => pair.1 ≠ pair.2
      let shorter :=
        if left.length < right.length then
          paths.head?
        else if right.length < left.length then paths[1]? else none
      let place (number : Nat) : Letters := digitsOf (number : Nat)
      let ended : List (Nat × Letters) := match shorter with
        | some name =>
          if choices.has 's' then [] else [(2, task.complaint ("EOF on ".toList ++ name))]
        | none => []
      match differing with
      | [] => ⟨if shorter.isSome then 1 else 0, ended, [], task.workplace⟩
      | (_, first) :: _ =>
        let line := ((left.take first).filter (· = '\n')).length + 1
        let octal (letter : Char) : Letters := rightAligned 3 (Nat.toDigits 8 letter.toNat)
        let width := (Nat.toDigits 10 (min left.length right.length)).length
        let written : Letters := if choices.has 's' then []
          else if choices.has 'l' then differing.flatMap fun ((left, right), number) =>
            rightAligned width (place (number + 1)) ++ ' ' :: octal left ++ ' ' :: octal right ++
              ['\n']
          else
            paths.headD [] ++ ' ' :: (paths.getD 1 []) ++ " differ: char ".toList ++
              place (first + 1) ++ ", line ".toList
            ++ place line ++ ['\n']
        ⟨1, (1, written) :: if choices.has 'l' then ended else [], [], task.workplace⟩) task

/-! ### Differences -/

/-- A range of lines after so many others. -/
def rangeText (before count : Nat) : Letters :=
  -- A range of one line is a single number.
  if count ≤ 1 then
    digitsOf (before + count : Nat)
  else
    digitsOf (before + 1 : Nat) ++ ',' :: digitsOf (before + count : Nat)

/-- What lines have to have in common to count as the same. -/
def lineKey (choices : Choices) (line : Letters) : Letters :=
  -- Capital letters and blanks may not matter.
  let line := if choices.has 'i' then line.map Char.toLower else line
  if choices.has 'w' then line.filter (!isBlank ·)
  else if choices.has 'b' then
    ((line.reverse.dropWhile isBlank).foldl (fun kept letter =>
      if isBlank letter then
        (if kept.head? = some ' ' then kept else ' ' :: kept)
      else
        letter :: kept) [])
  else line

/-- Lines with a sign before each of them. -/
def markedLines (sign : Char) (lines : List Letters) : Letters :=
  -- A missing end of the last one is told.
  lines.flatMap fun line =>
    sign :: ' ' :: line ++ if line.getLast? = some '\n' then []
      else "\n\\ No newline at end of file\n".toList

/-- The words for the changes from one text to another one. -/
def changesText (choices : Choices) (left right : Letters) : Letters :=
  -- Changes of empty lines alone may not matter.
  let first := endedLines left
  let second := endedLines right
  (Differences.between (lineKey choices) first second).flatMap fun change =>
    let gone := (first.drop change.first).take change.gone
    let come := (second.drop change.second).take change.come
    if choices.has 'B' && (gone ++ come).all (· = ['\n']) then []
    else
      let sign := if gone.isEmpty then 'a' else if come.isEmpty then 'd' else 'c'
      rangeText change.first change.gone ++ sign :: rangeText change.second change.come ++ ['\n'] ++
        markedLines '<' gone
        ++ (if sign = 'c' then "---\n".toList else []) ++ markedLines '>' come

/-- What is told about two files: whether they differ, and the words for it. -/
def fileDifference (choices : Choices) (names : Letters × Letters) (left right : Letters) :
    Bool × Letters :=
  -- Sometimes only the names are told.
  let text := changesText choices left right
  let both := names.1 ++ " and ".toList ++ names.2
  if text.isEmpty then
    (false, if choices.has 's' then "Files ".toList ++ both ++ " are identical\n".toList else [])
  else if choices.has 'q' then (true, "Files ".toList ++ both ++ " differ\n".toList)
  else (true, text)

/-- What is told about two directories, with the numbers of the descriptors. -/
def directoryDifference (task : Task) (choices : Choices) (flags : Letters) :
    (fuel : Nat) → Letters → Letters →
    Bool × List (Nat × Letters)
  -- Names that only one of them has are told too.
  | 0, _, _ => (false, [])
  | fuel + 1, left, right =>
    let namesIn (path : Letters) : List Letters := match look task.workplace path with
      | .ok (spot, _) => (task.workplace.tree.entriesAt spot).map fun entry => lettersOf entry.1
      | .error _ => []
    let first := namesIn left
    let second := namesIn right
    let found := (ordered (first ++ second).eraseDups).map fun name =>
      let one := below left name
      let other := below right name
      if !second.contains name then
        (true, [(1, "Only in ".toList ++ left ++ ": ".toList ++ name ++ ['\n'])])
      else if !first.contains name then
        (true, [(1, "Only in ".toList ++ right ++ ": ".toList ++ name ++ ['\n'])])
      else match look task.workplace one, look task.workplace other with
        | .ok (_, .directory _), .ok (_, .directory _) =>
          if choices.has 'r' then directoryDifference task choices flags fuel one other
          else
            (false,
              [(1, "Common subdirectories: ".toList ++ one ++ " and ".toList ++ other ++ ['\n'])])
        | .ok (_, .directory _), .ok _ =>
          (true,
            [(1, "File ".toList ++ one ++ " is a directory while file ".toList ++ other ++
              " is a regular file\n".toList)])
        | .ok _, .ok (_, .directory _) =>
          (true,
            [(1, "File ".toList ++ one ++ " is a regular file while file ".toList ++ other ++
              " is a directory\n".toList)])
        | _, _ => match task.file one, task.file other with
          | .ok before, .ok after =>
            let (differs, text) := fileDifference choices (one, other) before after
            let heading :=
              if differs && !choices.has 'q' then
                "diff ".toList ++ flags ++ one ++ ' ' :: other ++ ['\n']
              else
                []
            (differs, [(1, heading ++ text)])
          | .error reason, _ => (true, [(2, task.refusedBare one reason)])
          | _, .error reason => (true, [(2, task.refusedBare other reason)])
    (found.any (·.1), found.flatMap (·.2))

/-- Tells how two files or directories differ. -/
def diff : Task → Result :=
  -- A file is compared with the one of its name in a directory.
  withChoices ⟨"qsbBiwaNr", "",
    [("brief", 'q'), ("report-identical-files", 's'), ("ignore-case", 'i'), ("recursive", 'r'),
      ("ignore-all-space", 'w'), ("ignore-space-change", 'b'), ("ignore-blank-lines", 'B'),
      ("text", 'a')], true⟩ 2
    fun task choices =>
      let isDirectory (path : Letters) : Bool := match look task.workplace path with
        | .ok (_, .directory _) => true
        | _ => false
      let nameOf (path : Letters) : Letters := (path.reverse.takeWhile (· ≠ '/')).reverse
      let paths := match choices.operands with
        | [left, right] =>
          if isDirectory left && !isDirectory right then [below left (nameOf right), right]
          else if isDirectory right && !isDirectory left then [left, below right (nameOf left)]
          else [left, right]
        | paths => paths
      match paths with
      | [left, right] =>
        if isDirectory left && isDirectory right then
          let flags := task.arguments.filter fun argument => argument.head? = some '-'
          let (differs, written) :=
            directoryDifference task choices (flags.flatMap (· ++ [' '])) 100 left right
          ⟨if written.any (·.1 = 2) then 2 else if differs then 1 else 0, written, task.input,
            task.workplace⟩
        else withPair 2 paths task fun before after =>
          let (differs, text) := fileDifference choices (left, right) before after
          task.saying (if differs then 1 else 0) text
      | _ => withPair 2 paths task fun _ _ => task.saying 0 []

end Wakeful.Shell.Tool
