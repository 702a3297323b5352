import Wakeful.Shell.Comparison
import Wakeful.Shell.Pattern
import Wakeful.Shell.Tool.Values

/-! Listing files, and what permissions mean. -/

namespace Wakeful.Shell.Tool

/-- A path between quotes after a deed, as complaints show it. -/
def about (deed : String) (path : Letters) (reason : Errno) : Letters :=
  -- The reason comes last.
  deed.toList ++ ' ' :: Quoting.quoted path ++ ": ".toList ++ reason.text.toList

/-- Two names with a sign between them. -/
def paired (left : Letters) (sign : String) (right : Letters) : Letters :=
  -- Both stand between quotes.
  Quoting.quoted left ++ ' ' :: sign.toList ++ ' ' :: Quoting.quoted right

/-- What a path leads to, with its place, or why it leads nowhere. -/
def look (workplace : Workplace) (path : Letters) : Except Errno (Spot × Node) :=
  -- Links are followed.
  match workplace.find (octetsOf path) with
  | .ok found => .ok found
  | .error (.refused reason) => .error reason
  | .error _ => .error .notFound

/-- What a path names, where a link at its end counts by itself. -/
def lookAtName (workplace : Workplace) (path : Letters) : Except Errno (Spot × Node) := do
  -- What has been located is there.
  let spot ← workplace.locate false (octetsOf path)
  match workplace.tree.at? spot with
  | some node => .ok (spot, node)
  | none => .error .notFound

/-- A path below another one. -/
def below (directory name : Letters) : Letters :=
  -- A separator comes between them unless there is one.
  if directory.getLast? = some '/' then directory ++ name else directory ++ '/' :: name

/-- Texts in the order of their letters. -/
def ordered (texts : List Letters) : List Letters :=
  -- The first difference decides.
  texts.mergeSort fun left right => !Octets.before (octetsOf right) (octetsOf left)

/-! ### Listing -/

/-- The ending of a name from its last point on. -/
def endingOf (name : Letters) : Letters :=
  -- A name without a point has none.
  if name.contains '.' then '.' :: (name.reverse.takeWhile (· ≠ '.')).reverse else []

/-- How large a node is. -/
def sizeOf (node : Node) : Nat :=
  -- Directories have the size of a block.
  match node with
  | .file _ contents => contents.length
  | .link target => target.length
  | .directory _ => 4096
  | _ => 0

/-- Names in the order of a listing, with the size of what each of them stands for. -/
def listed (choices : Choices) (names : List (Letters × Nat)) : List (Letters × Nat) :=
  -- The last choice of an order counts, and names settle what it leaves open.
  let order (left right : Letters × Nat) : Ordering :=
    let byName := Comparison.letters left.1 right.1
    match ((choices.chosen.map (·.1)).filter ("SvX".toList.contains ·)).getLast? with
    | some 'S' => (compare right.2 left.2).then byName
    | some 'v' => (Comparison.names left.1 right.1).then byName
    | some 'X' => (Comparison.letters (endingOf left.1) (endingOf right.1)).then byName
    | _ => byName
  let all := names.mergeSort fun left right => order left right ≠ .gt
  if choices.has 'r' then all.reverse else all

/-- The names in a directory that a listing shows, with the size of what each of them stands for. -/
def shownNames (choices : Choices) (names : List (Letters × Nat)) : List Letters :=
  -- Names with a point before them are shown only if asked for, and some are left out.
  let scope :=
    ((choices.chosen.map (·.1)).filter fun letter => letter = 'a' || letter = 'A').getLast?
  let isLeftOut (name : Letters) : Bool := choices.has 'B' && name.getLast? = some '~'
    || (choices.values 'I').any fun pattern =>
      (Pattern.ofMarked (pattern.map (·, false))).holds name
  let visible :=
    names.filter fun (name, _) => (scope.isSome || name.head? ≠ some '.') && !isLeftOut name
  let own := [['.'], ['.', '.']].filter (!isLeftOut ·)
  (listed choices ((if scope = some 'a' then own.map (·, 4096) else []) ++ visible)).map (·.1)

/-- A name with the sign for what it stands for, if asked for. -/
def markedName (workplace : Workplace) (choices : Choices) (path name : Letters) : Letters :=
  -- Directories, links and programs have signs.
  let node : Option Node := (lookAtName workplace path).toOption.map (·.2)
  let manner :=
    ((choices.chosen.map (·.1)).filter fun letter => letter = 'F' || letter = 'p').getLast?
  let mark : Letters := match node with
    | some (.directory _) => if manner.isSome then ['/'] else []
    | some (.link _) => if manner = some 'F' then ['@'] else []
    | some (.file mode _) => if manner = some 'F' && mode &&& 0o111 != 0 then ['*'] else []
    | some (.socket _ _) => if manner = some 'F' then ['='] else []
    | _ => []
  (if choices.has 'Q' then '"' ::
    name.flatMap (fun letter => if letter = '"' || letter = '\\' then ['\\', letter] else [letter])
    ++ ['"'] else name) ++ mark

/-- The width of the lines in which names stand side by side. -/
def listWidth : Nat := 80

/-- Names one after another in lines, with commas between them. -/
def joinedNames (names : List Letters) : Letters :=
  -- A line ends before it becomes too long.
  let (written, _) := names.foldl (fun (written, column) name =>
    if written.isEmpty then (name, name.length)
    else if column + name.length + 2 < listWidth then
      (written ++ ", ".toList ++ name, column + name.length + 2)
    else (written ++ ",\n".toList ++ name, name.length)) (([] : Letters), 0)
  if names.isEmpty then [] else written ++ ['\n']

/-- The widths of so many columns of names, which are filled one after the other or all at once. -/
def columnWidths (downwards : Bool) (names : List Letters) (count : Nat) : List Nat :=
  -- The last column needs no blanks after it.
  let rows := (names.length + count - 1) / count
  let placed := names.zipIdx.map fun (name, place) =>
    let column := if downwards then place / rows else place % count
    (column, name.length + if column + 1 = count then 0 else 2)
  (List.range count).map fun column =>
    placed.foldl (fun most (other, width) => if other = column then max most width else most) 3

/-- Blanks from a column to another one, in which stops take the place of several of them. -/
def blanksTo : (fuel : Nat) → (start goal : Nat) → Letters
  -- Stops lie at multiples of eight.
  | 0, _, _ => []
  | fuel + 1, start, goal =>
    if goal ≤ start then []
    else if (start + 1) / 8 < goal / 8 then '\t' :: blanksTo fuel (start + 8 - start % 8) goal
    else ' ' :: blanksTo fuel (start + 1) goal

/-- Names side by side in columns, as many as a line can hold. -/
def namesInColumns (downwards : Bool) (names : List Letters) : Letters :=
  -- One column is always possible.
  let most := min (listWidth / 3) names.length
  let fits (count : Nat) : Bool := totalOf (columnWidths downwards names count) < listWidth
  let count := ((((List.range (most + 1)).drop 1).filter fits).getLast?).getD 1
  let widths := columnWidths downwards names count
  let rows := (names.length + count - 1) / count
  (List.range rows).flatMap fun row =>
    let inRow := names.zipIdx.filterMap fun (name, place) =>
      if (if downwards then place % rows = row else place / count = row) then some name else none
    let (written, _, _) :=
      (inRow.zip widths).foldl (fun (written, (column : Nat), (start : Nat)) (name, width) =>
      (written ++ blanksTo listWidth column start ++ name, start + name.length,
        start + width)) (([] : Letters), 0, 0)
    written ++ ['\n']

/-- Names as a listing arranges them. -/
def arranged (choices : Choices) (names : List Letters) : Letters :=
  -- The last choice of an arrangement counts.
  match ((choices.chosen.map (·.1)).filter ("1Cxm".toList.contains ·)).getLast? with
  | some 'm' => joinedNames names
  | some 'C' => namesInColumns true names
  | some 'x' => namesInColumns false names
  | _ => unlines names

/-- A directory with those below it, if all of them are to be listed. -/
def directoriesFrom (workplace : Workplace) (choices : Choices) :
    (fuel : Nat) → Letters × Spot × Node →
    List (Letters × Spot × Node)
  -- A link to a directory is not followed.
  | 0, _ => []
  | fuel + 1, (path, spot, node) =>
    let names := shownNames choices ((workplace.tree.entriesAt spot).map fun entry =>
      (lettersOf entry.1, sizeOf entry.2))
    let inner := names.filterMap fun name => match lookAtName workplace (below path name) with
      | .ok (spot, .directory mode) =>
        if name = ['.'] || name = ['.', '.'] then
          none
        else
          some (below path name, spot, Node.directory mode)
      | _ => none
    (path, spot, node) :: if choices.has 'R' && node.readable then
        inner.flatMap (directoriesFrom workplace choices fuel)
      else []

/-- Lists files and directories. -/
def ls : Task → Result :=
  -- Files come before directories, and several directories have headings.
  withChoices ⟨"1aAdFmprRCxqtSUcuvXBQNkLH", "I",
    [("ignore-backups", 'B'), ("ignore", 'I'), ("quote-name", 'Q'), ("recursive", 'R'),
      ("all", 'a'), ("almost-all", 'A'), ("directory", 'd'), ("reverse", 'r'), ("classify", 'F')],
      true⟩ 2 fun task choices =>
    let sizeAt (path : Letters) :=
      ((lookAtName task.workplace path).toOption.map fun found => sizeOf found.2).getD 0
    let paths :=
      (listed choices
        ((if choices.operands.isEmpty then [['.']] else choices.operands).map fun path =>
      (path, sizeAt path))).map (·.1)
    let followsLinks := !choices.has 'd' && !choices.has 'F' || choices.has 'L' || choices.has 'H'
    let seen (path : Letters) : Except Errno (Spot × Node) :=
      match if followsLinks then look task.workplace path else lookAtName task.workplace path with
      | .ok found => .ok found
      | .error reason => (lookAtName task.workplace path).mapError fun _ => reason
    let found := paths.map fun path => (path, seen path)
    let complaints := choices.operands.filterMap fun path => match seen path with
      | .ok _ => none
      | .error reason => some (2, task.complaint (about "cannot access" path reason))
    let isListed (node : Node) := node.isDirectory && !choices.has 'd'
    let files := found.filterMap fun (path, result) => match result with
      | .ok (_, node) =>
        if isListed node then none else some (markedName task.workplace choices path path)
      | .error _ => none
    let directories := found.filterMap fun (path, result) => match result with
      | .ok (spot, node) => if isListed node then some (path, spot, node) else none
      | .error _ => none
    let directories := directories.flatMap (directoriesFrom task.workplace choices 100)
    let named := 1 < paths.length || choices.has 'R'
    let blocks := directories.map fun (path, spot, node) =>
      if !node.readable then
        (2, task.complaint (about "cannot open directory" path .permissionDenied))
      else
        let names := (task.workplace.tree.entriesAt spot).map fun entry =>
          (lettersOf entry.1, sizeOf entry.2)
        let body := arranged choices ((shownNames choices names).map fun name =>
          markedName task.workplace choices (below path name) name)
        (1, (if named then path ++ ":\n".toList else []) ++ body)
    let first : List (Nat × Letters) := if files.isEmpty then [] else [(1, arranged choices files)]
    let all := first ++ blocks
    let spaced := all.zipIdx.map fun ((descriptor, text), place) =>
      (descriptor, if place = 0 || descriptor = 2 then text else '\n' :: text)
    let failed := !complaints.isEmpty || blocks.any (·.1 = 2)
    ⟨if failed then 2 else 0, complaints ++ spaced, task.input, task.workplace⟩

/-! ### Permissions -/

/-- The bits for letters that name permissions, which may be those that somebody has already. -/
def modeBits (isDirectory : Bool) (mode : Nat) (letters : Letters) : Option Nat :=
  -- One letter for somebody stands for all that this one may do.
  match letters with
  | ['u'] => some ((mode >>> 6) % 8 * 0o111)
  | ['g'] => some ((mode >>> 3) % 8 * 0o111)
  | ['o'] => some (mode % 8 * 0o111)
  | _ => letters.foldlM (fun bits letter => match letter with
    | 'r' => some (bits ||| 0o444)
    | 'w' => some (bits ||| 0o222)
    | 'x' => some (bits ||| 0o111)
    | 'X' => some (bits ||| if isDirectory || mode &&& 0o111 != 0 then 0o111 else 0)
    | 's' => some (bits ||| 0o6000)
    | 't' => some (bits ||| 0o1000)
    | _ => none) 0

/-- The permissions after changes for those who have been named, each with a sign before it. -/
def changedMode (isDirectory : Bool) (mask : Nat) (who : Letters) :
    (fuel mode : Nat) → Letters → Option Nat
  -- What is withheld stays so unless somebody is named.
  | 0, _, _ => none
  | _ + 1, mode, [] => some mode
  | fuel + 1, mode, sign :: rest => do
    if !"+-=".toList.contains sign then none
    let letters := rest.takeWhile fun letter => !"+-=".toList.contains letter
    let bits ← modeBits isDirectory mode letters
    let everybody := who.isEmpty || who.contains 'a'
    let range := if everybody then 0o7777 else (if who.contains 'u' then 0o4700 else 0)
      ||| (if who.contains 'g' then 0o2070 else 0) ||| (if who.contains 'o' then 0o1007 else 0)
    let chosen := bits &&& range &&& if who.isEmpty then 0o7777 ^^^ (mask &&& 0o777) else 0o7777
    let kept := if isDirectory then mode &&& 0o6000 else 0
    let after := match sign with
      | '+' => mode ||| chosen
      | '-' => mode &&& (0o7777 ^^^ chosen)
      | _ => (mode &&& (0o7777 ^^^ range)) ||| chosen ||| kept
    changedMode isDirectory mask who fuel after (rest.drop letters.length)

/-- The permissions that letters describe, starting from others. -/
def readMode (isDirectory : Bool) (mask mode : Nat) (letters : Letters) : Option Nat :=
  -- Octal digits stand for permissions, and otherwise each part changes some of them.
  if !letters.isEmpty && letters.all fun letter => (Sum.digit? 8 letter).isSome then
    let value := (Sum.digits 8 0 letters).1
    if value ≤ 0o7777 then some value else none
  else (pieces ',' letters).foldlM (fun mode part =>
    let who := part.takeWhile ("ugoa".toList.contains ·)
    if who.length = part.length then none
    else changedMode isDirectory mask who (part.length + 1) mode (part.drop who.length)) mode

end Wakeful.Shell.Tool
