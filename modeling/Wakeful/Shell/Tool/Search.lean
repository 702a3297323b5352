import Wakeful.Shell.Regex
import Wakeful.Shell.Tool.Files

/-! Programs that look for lines. -/

namespace Wakeful.Shell.Tool

/-- What lines are looked for, and how. -/
structure Quest where
  /-- The expressions, one of which has to match. -/
  regexes : List Regex
  /-- Whether capital and small letters count alike. -/
  isSmall : Bool
  /-- Whether lines are meant in which nothing matches. -/
  isInverted : Bool

namespace Quest

/-- A line as it is looked at. -/
def view (quest : Quest) (line : Letters) : Letters :=
  -- Only small letters are left if they count like capital ones.
  if quest.isSmall then line.map Char.toLower else line

/-- Whether a line is meant. -/
def means (quest : Quest) (line : Letters) : Bool :=
  -- One expression is enough.
  (quest.regexes.any fun regex => (regex.first? (quest.view line)).isSome) != quest.isInverted

/-- The first match of any expression, of which the longest counts. -/
def first? (quest : Quest) (before : Option Char) (text : Letters) : Option RegexMatch :=
  -- The one with the fewest letters before it comes first.
  (quest.regexes.filterMap fun regex => regex.firstFrom [] before text).foldl
  (fun best found => match best with
    | none => some found
    | some other =>
      if found.before.length < other.before.length
        || found.before.length = other.before.length &&
          other.found.length < found.found.length then some found
      else some other) none

/-- All matches in a line that are not empty. -/
def matchesIn (quest : Quest) :
    (fuel : Nat) → (place : Nat) → (before : Option Char) → Letters → List (Nat × Letters)
  -- The letters are taken from the line itself, and each match has its place.
  | 0, _, _, _ => []
  | fuel + 1, place, before, text =>
    match quest.first? before (quest.view text) with
    | none => []
    | some found =>
      let start := found.before.length
      let count := found.found.length
      if count = 0 then
        match text.drop start with
        | [] => []
        | letter :: rest => matchesIn quest fuel (place + start + 1) (some letter) rest
      else
        let here := (text.drop start).take count
        (place + start, here) :: matchesIn quest fuel (place + start + count) here.getLast?
        (text.drop (start + count))

end Quest

/-- The choices of a program that looks for lines. -/
def searchChoices : ChoiceTable :=
  -- Long words stand for most of them.
  ⟨"EFGPabchHilLnoqrRsvwxyzU", "efmABC",
    [("recursive", 'r'), ("byte-offset", 'b'), ("perl-regexp", 'P'), ("count", 'c'),
      ("ignore-case", 'i'), ("invert-match", 'v'), ("line-number", 'n'),
    ("quiet", 'q'), ("silent", 'q'), ("only-matching", 'o'), ("fixed-strings", 'F'),
    ("extended-regexp", 'E'), ("regexp", 'e'), ("word-regexp", 'w'), ("line-regexp", 'x'),
    ("files-with-matches", 'l'), ("files-without-match", 'L'), ("no-messages", 's'),
    ("max-count", 'm'), ("no-filename", 'h'), ("with-filename", 'H'), ("after-context", 'A'),
    ("before-context", 'B'), ("context", 'C'), ("text", 'a')], true⟩

/-- A pattern in which an escape for digits is written as a choice of letters. -/
def digitSets : Letters → Letters
  -- All other escapes stay as they are.
  | '\\' :: 'd' :: rest => "[0-9]".toList ++ digitSets rest
  | '\\' :: 'D' :: rest => "[^0-9]".toList ++ digitSets rest
  | '\\' :: letter :: rest => '\\' :: letter :: digitSets rest
  | letter :: rest => letter :: digitSets rest
  | [] => []

/-- The expression that a pattern describes under choices. -/
def searchRegex (choices : Choices) (pattern : Letters) : Except Regex.Fault Regex := do
  -- Words and whole lines have conditions at their ends.
  let style := ((choices.chosen.map (·.1)).filter ("EFGP".toList.contains ·)).getLast?
  let regex ← match style with
    | some 'F' => pure (Regex.literal pattern)
    | some 'E' => Regex.read .extended pattern
    | some 'P' => Regex.read .extended (digitSets pattern)
    | _ => Regex.read .basic pattern
  let regex := if choices.has 'i' || choices.has 'y' then regex.small else regex
  let regex := if choices.has 'w' then .followed (.edge .afterNoWord)
    (.followed regex (.edge .beforeNoWord)) else regex
  return if choices.has 'x' then .followed (.edge .beginning) (.followed regex (.edge .ending))
    else regex

/-- The lines of a text that are written, each with its number and whether it is meant itself. -/
def chosenLines (quest : Quest) (most : Option Nat) (before after : Nat) (text : List Letters) :
    List (Letters × Nat × Bool) :=
  -- Lines around those that are meant are written too.
  let marked := text.zipIdx.map fun (line, place) => (line, place, quest.means line)
  let meant := (marked.filter (·.2.2)).map (·.2.1)
  let meant := most.elim meant (meant.take ·)
  marked.filterMap fun (line, place, _) =>
    if meant.contains place then some (line, place + 1, true)
    else if meant.any fun other => other ≤ place + before && place ≤ other + after then
      some (line, place + 1, false)
    else none

/-- The text that is written for a file in which lines have been looked for. -/
def searchText (quest : Quest) (choices : Choices) (name : Option Letters) (context : Nat × Nat)
    (text : Letters) : Bool × Letters :=
  -- A count or a name alone takes the place of the lines.
  let count (letter : Char) := (choices.value? letter).bind number?
  let all := lines text
  let found := chosenLines quest (count 'm') context.1 context.2 all
  let offset (number : Nat) : Nat := totalOf ((all.take (number - 1)).map (·.length + 1))
  let total := (found.filter (·.2.2)).length
  let mark (sign : Char) (number place : Nat) : Letters :=
    (name.elim [] fun name => name ++ [sign]) ++
      (if choices.has 'n' then digitsOf number ++ [sign] else [])
      ++ (if choices.has 'b' then digitsOf (offset number + place : Nat) ++ [sign] else [])
  let listing :=
    ((choices.chosen.map (·.1)).filter fun letter => letter = 'l' || letter = 'L').getLast?
  let body : Letters :=
    if choices.has 'q' then []
    else if listing = some 'l' then
      (if total = 0 then [] else name.getD "(standard input)".toList ++ ['\n'])
    else if listing = some 'L' then
      (if total = 0 then name.getD "(standard input)".toList ++ ['\n'] else [])
    else if choices.has 'c' then
      (name.elim [] fun name => name ++ [':']) ++ digitsOf total ++ ['\n']
    else
      let parts (line : Letters) (number : Nat) (isMeant : Bool) : Letters :=
        if quest.isInverted == isMeant then []
        else (quest.matchesIn (line.length + 1) 0 none line).flatMap fun (place, part) =>
          mark (if isMeant then ':' else '-') number place ++ part ++ ['\n']
      let (shown, _) := found.foldl (fun (shown, former) (line, number, isMeant) =>
        let gap : Letters :=
          if context ≠ (0, 0) && former ≠ 0 && former + 1 < number then "--\n".toList else []
        let whole := mark (if isMeant then ':' else '-') number 0 ++ line ++ ['\n']
        (shown ++ [gap ++ if choices.has 'o' then parts line number isMeant else whole], number))
        (([] : List Letters), 0)
      shown.flatten
  (total ≠ 0, body)

/-- The files at and below a path. -/
def filesBelow (workplace : Workplace) : (fuel : Nat) → (path : Letters) → List Letters
  -- Links below it are not followed.
  | 0, _ => []
  | fuel + 1, path =>
    match look workplace path with
    | .ok (spot, .directory _) =>
      let names := ordered ((workplace.tree.entriesAt spot).map fun entry => lettersOf entry.1)
      names.flatMap fun name => match lookAtName workplace (below path name) with
        | .ok (_, .directory _) => filesBelow workplace fuel (below path name)
        | .ok (_, .file _ _) => [below path name]
        | _ => []
    | _ => [path]

/-- Writes the lines in which something is found. -/
def grep : Task → Result :=
  -- Finding nothing counts as a failure, and a file that cannot be read as a graver one.
  withChoices searchChoices 2 fun task choices =>
    let given := (choices.values 'e').map (pieces '\n')
    let (patterns, paths) := match given, choices.operands with
      | [], pattern :: paths => (some (pieces '\n' pattern), paths)
      | [], [] => (none, [])
      | _, paths => (some given.flatten, paths)
    let styles := ((choices.chosen.map (·.1)).filter ("EFGP".toList.contains ·)).eraseDups
    if 1 < styles.length then task.failing 2 "conflicting matchers specified".toList
    else match patterns with
    | none =>
      let usage :=
        "Usage: grep [OPTION]... PATTERNS [FILE]...\nTry 'grep --help' for more information.\n"
      ⟨2, [(2, usage.toList)], task.input, task.workplace⟩
    | some patterns =>
      match patterns.mapM (searchRegex choices) with
      | .error fault => task.failing 2 fault.message.toList
      | .ok regexes =>
        let quest : Quest := ⟨regexes, choices.has 'i' || choices.has 'y', choices.has 'v'⟩
        let number (letter : Char) := (choices.value? letter).bind number?
        let context :=
          ((number 'B').or (number 'C') |>.getD 0, (number 'A').or (number 'C') |>.getD 0)
        let isDeep := choices.has 'r' || choices.has 'R'
        let starts := if paths.isEmpty then [['.']] else paths
        let isMany := paths.length > 1 || isDeep && starts.any fun path =>
          match look task.workplace path with
          | .ok (_, .directory _) => true
          | _ => false
        let paths := if isDeep then starts.flatMap (filesBelow task.workplace 100) else paths
        let files := if isDeep && paths.isEmpty then [] else task.files paths
        let named := match ((choices.chosen.map (·.1)).filter fun letter =>
          letter = 'h' || letter = 'H').getLast? with
          | some letter => letter == 'H'
          | none => isMany
        let results := files.map fun (path, contents) => match contents with
          | .error reason =>
            (false, if choices.has 's' then [] else [(2, task.refusedBare path reason)])
          | .ok text =>
            let name := if path = ['-'] then "(standard input)".toList else path
            let shown := if named || choices.has 'l' || choices.has 'L' then some name else none
            let (found, body) := searchText quest choices shown context text
            (found, [(1, body)])
        let isListed := "cqlL".toList.any choices.has
        let (results, _) :=
          results.foldl (fun (results, isFirst) (found, (written : List (Nat × Letters))) =>
          let isEmpty := !found
          let gap : List (Nat × Letters) :=
            if context ≠ (0, 0) && !isFirst && !isEmpty && !isListed then
              [(1, "--\n".toList)]
            else
              []
          (results ++ [(found, gap ++ written)],
            isFirst && isEmpty)) (([] : List (Bool × List (Nat × Letters))), true)
        let found := results.any (·.1)
        let failed := files.any (!·.2.isOk)
        let code := if found && (choices.has 'q' || !failed) then 0 else if failed then 2 else 1
        ⟨code, results.flatMap (·.2), task.restAfter paths, task.workplace⟩

end Wakeful.Shell.Tool
