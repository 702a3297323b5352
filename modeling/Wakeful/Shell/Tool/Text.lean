import Wakeful.Shell.Format
import Wakeful.Shell.Pattern

/-! Programs that read texts and write them in another form. -/

namespace Wakeful.Shell.Tool

/-- A number brought to a width by blanks before it. -/
def rightAligned (width : Nat) (letters : Letters) : Letters :=
  -- A longer number stays as it is.
  List.replicate (width - letters.length) ' ' ++ letters

/-- Letters with their line ends, divided into lines of which the last need not have an end. -/
def endedLines (letters : Letters) : List Letters :=
  -- An end belongs to the line before it.
  letters.foldr (fun letter found =>
    if letter = '\n' then [letter] :: found
    else match found with
      | [] => [[letter]]
      | first :: rest => if first.isEmpty then [letter] :: rest else (letter :: first) :: rest) []

/-- The pieces of a line between separators. -/
def pieces (separator : Char) (line : Letters) : List Letters :=
  -- Every separator opens a new piece.
  line.foldr (fun letter parts =>
    if letter = separator then [] :: parts
    else match parts with
      | [] => [[letter]]
      | first :: rest => (letter :: first) :: rest) [[]]

/-- What is made of a text in which noughts take the place of line ends if so chosen. -/
def withNoughts (choices : Choices) (make : Letters → Letters) (text : Letters) : Letters :=
  -- Both are exchanged before and after.
  let exchanged (letters : Letters) : Letters := letters.map fun letter =>
    if letter = '\n' then '\x00' else if letter = '\x00' then '\n' else letter
  if choices.has 'z' then exchanged (make (exchanged text)) else make text

/-! ### Writing files one after the other -/

/-- A letter as it is shown if all have to be seen. -/
def shown (letter : Char) : Letters :=
  -- Letters beyond the usual ones are shown by those at the same place below.
  let low (code : Nat) : Letters :=
    if code < 32 then
      ['^', Char.ofNat (code + 64)]
    else if code = 127 then ['^', '?'] else [Char.ofNat code]
  let code := letter.toNat
  if letter = '\n' || letter = '\t' then
    [letter]
  else if code < 128 then low code else ['M', '-'] ++ low (code - 128)

/-- Where the writing of lines stands. -/
structure LineState where
  /-- The number of lines so far. -/
  count : Nat
  /-- Whether a new line begins. -/
  isFresh : Bool
  /-- Whether the last line was empty. -/
  wasEmpty : Bool

/-- A line with its end as it is written, and where the writing stands after it. -/
def catLine (choices : Choices) (state : LineState) (line : Letters) : Letters × LineState :=
  -- Several empty lines may count as one.
  let has (letters : String) := letters.toList.any choices.has
  let isEmpty := state.isFresh && line = ['\n']
  if choices.has 's' && isEmpty && state.wasEmpty then ([], state)
  else
    let isNumbered := state.isFresh && (if choices.has 'b' then !isEmpty else choices.has 'n')
    let count := if isNumbered then state.count + 1 else state.count
    let mark : Letters := if isNumbered then rightAligned 6 (digitsOf count) ++ ['\t'] else []
    let body := (line.filter (· != '\n')).flatMap fun letter =>
      if letter = '\t' then (if has "tTA" then ['^', 'I'] else [letter])
      else if has "vetA" then shown letter else [letter]
    let ends := line.getLast? = some '\n'
    let ending : Letters := if ends then (if has "eEA" then ['$', '\n'] else ['\n']) else []
    (mark ++ body ++ ending, ⟨count, ends, isEmpty⟩)

/-- Writes files one after the other. -/
def cat : Task → Result :=
  -- A complaint comes where the file would have come.
  withChoices ⟨"AbeEnstTuv", "",
    [("number", 'n'), ("number-nonblank", 'b'), ("show-all", 'A'), ("show-ends", 'E'),
      ("show-nonprinting", 'v'), ("show-tabs", 'T'), ("squeeze-blank", 's')],
      true⟩ 1 fun task choices =>
    let files := task.files choices.operands
    let (written, _) := files.foldl (fun (written, state) (path, contents) =>
      match contents with
      | .error reason => ((2, task.refused path reason) :: written, state)
      | .ok letters =>
        let (text, after) := (endedLines letters).foldl (fun (text, state) line =>
          let (shown, after) := catLine choices state line
          (shown :: text, after)) (([] : List Letters), state)
        ((1, text.reverse.flatten) :: written, after)) (([] : List (Nat × Letters)),
        (⟨0, true, false⟩ : LineState))
    let failed := files.any fun file => file.2.toOption.isNone
    ⟨if failed then 1 else 0, written.reverse, task.restAfter choices.operands, task.workplace⟩

/-- Writes the lines of files in the reverse order. -/
def tac : Task → Result :=
  -- An end stays with its line.
  withChoices ⟨"", "", [], true⟩ 1 fun task choices =>
    task.gatheringEach choices.operands 1 fun text => (endedLines text).reverse.flatten

/-- Writes the letters of every line in the reverse order. -/
def rev : Task → Result :=
  -- The end of a line stays where it is.
  withChoices ⟨"", "", [], true⟩ 1 fun task choices =>
    task.gathering choices.operands 1 fun text => (endedLines text).flatMap fun line =>
      (line.filter (· != '\n')).reverse ++ line.filter (· = '\n')

/-! ### Beginnings and ends -/

/-- How much of a file is meant. -/
structure Extent where
  /-- Whether octets are counted, and not lines. -/
  isOctets : Bool
  /-- The sign before the number. -/
  sign : Option Char
  /-- The number. -/
  count : Nat

/-- The number that a text spells, with a letter for what it is multiplied by. -/
def multiple? (letters : Letters) : Option Nat :=
  -- The letters stand for powers of a thousand and a bit.
  let factor : Char → Option Nat
    | 'b' => some 512
    | 'k' | 'K' => some 1024
    | 'M' | 'm' => some 0x100000
    | 'G' => some 0x40000000
    | _ => none
  match letters.getLast?.bind factor with
  | some factor => (number? letters.dropLast).map (· * factor)
  | none => number? letters

/-- The extent that a value describes. -/
def extent? (isOctets : Bool) (value : Letters) : Option Extent :=
  -- A sign may come first.
  match value with
  | '-' :: rest => (multiple? rest).map fun count => ⟨isOctets, some '-', count⟩
  | '+' :: rest => (multiple? rest).map fun count => ⟨isOctets, some '+', count⟩
  | rest => (multiple? rest).map fun count => ⟨isOctets, none, count⟩

/-- Arguments in which a number with a sign in front of it is the value of a choice. -/
def withPlainCount (arguments : List Letters) : List Letters :=
  -- Only the first argument can be such a number.
  match arguments with
  | ('-' :: letter :: digits) :: rest =>
    if letter.isDigit then
      let count := (letter :: digits).takeWhile Char.isDigit
      let unit := if (letter :: digits).drop count.length = ['c'] then "-c" else "-n"
      unit.toList :: count :: rest
    else arguments
  | _ => arguments

/-- The first so many lines, or all but the last so many. -/
def beginning (extent : Extent) (text : Letters) : Letters :=
  -- A sign asks for all but the last ones.
  let pick {α : Type} (items : List α) :=
    items.take (if extent.sign = some '-' then items.length - extent.count else extent.count)
  if extent.isOctets then pick text else (pick (endedLines text)).flatten

/-- The last so many lines, or all from a certain one on. -/
def ending (extent : Extent) (text : Letters) : Letters :=
  -- A sign asks for all from that one on.
  let pick {α : Type} (items : List α) :=
    items.drop (if extent.sign = some '+' then extent.count - 1 else items.length - extent.count)
  if extent.isOctets then pick text else (pick (endedLines text)).flatten

/-- Writes a part of each file, with its name before it if there are several. -/
def excerpts (pick : Extent → Letters → Letters) (leaves : Bool) (task : Task) : Result :=
  -- What comes after the part can be given back to a file.
  withChoices ⟨"qv", "nc",
    [("lines", 'n'), ("bytes", 'c'), ("quiet", 'q'), ("silent", 'q'), ("verbose", 'v')], true⟩ 1
    (fun task choices =>
      let last := (choices.chosen.filter fun choice => choice.1 = 'n' || choice.1 = 'c').getLast?
      let wanted : Option Extent := match last with
        | none => some ⟨false, none, 10⟩
        | some (letter, value) => extent? (letter = 'c') value
      match wanted, last with
      | none, some (letter, value) =>
        let unit := if letter = 'c' then "bytes" else "lines"
        task.failing 1
          ("invalid number of ".toList ++ unit.toList ++ ": '".toList ++ value ++ ['\''])
      | none, none => task.failing 1 []
      | some extent, _ =>
        let files := task.files choices.operands
        let named := choices.has 'v' || files.length > 1 && !choices.has 'q'
        let (written, _) :=
          files.foldl (fun (written, isFirst) (path, (contents : Except Errno Letters)) =>
          match contents with
          | .error reason =>
            let about : Letters := match reason with
              | .isADirectory =>
                task.complaint
                  ("error reading '".toList ++ path ++ "': ".toList ++ reason.text.toList)
              | _ =>
                task.complaint
                  ("cannot open ".toList ++ Quoting.quoted path ++ " for reading: ".toList ++
                    reason.text.toList)
            (written ++ [(2, about)], isFirst)
          | .ok letters =>
            let name := if path = ['-'] then "standard input".toList else path
            let heading : Letters := if named then
                (if isFirst then [] else ['\n']) ++ "==> ".toList ++ name ++ " <==\n".toList else []
            (written ++ [(1, heading ++ pick extent letters)], false))
          (([] : List (Nat × Letters)), true)
        let rest := task.restAfter choices.operands
        let left := if task.rewinds && leaves && choices.operands.isEmpty then
          task.input.drop (pick extent task.input).length else rest
        ⟨if files.all (·.2.isOk) then 0 else 1, written, left, task.workplace⟩)
    { task with arguments := withPlainCount task.arguments }

/-- Writes the beginnings of files. -/
def head : Task → Result := excerpts beginning true

/-- Writes the ends of files. -/
def tail (task : Task) : Result :=
  -- Nothing at all is asked for without headings, and the
  -- short form of a number is for one file only.
  let result := excerpts ending false task
  let isNothing (word : Letters) : Bool := word = ['-', 'n', '0'] || word = ['-', 'c', '0']
  let isShort : Bool := match task.arguments with
    | ('-' :: letter :: _) :: _ :: _ :: _ => letter.isDigit
    | _ => false
  if isShort then task.failing 1 "option used in invalid context".toList
  else if task.arguments.any isNothing
    || (task.arguments.zip (task.arguments.drop 1)).any fun (word, value) =>
      isNothing (word ++ value) then
    { result with written := result.written.filter (·.1 = 2) }
  else result

/-! ### Counting -/

/-- The width of the longest line of a text. -/
def longestWidth (text : Letters) : Nat :=
  -- Stops lie at multiples of eight, and letters that cannot be seen take no place.
  let width (line : Letters) : Nat := (line.foldl (fun (most, column) letter =>
    let next := if letter = '\t' then (column / 8 + 1) * 8
      else if letter = '\x0d' || letter = '\x0c' then 0
      else if 32 ≤ letter.toNat && letter.toNat < 127 then column + 1 else column
    (max most next, next)) (0, 0)).1
  (lines text).foldl (fun most line => max most (width line)) 0

/-- The number of words in a text. -/
def wordCount (text : Letters) : Nat :=
  -- A word begins where something follows a blank.
  (text.foldl (fun (count, inWord) letter =>
    if isBlank letter then
      (count, false)
    else
      (if inWord then count else count + 1, true)) (0, false)).1

/-- What is counted of a text, in the order in which it is written. -/
def counts (choices : Choices) (text : Letters) : List Nat :=
  -- Lines, words and octets are counted if nothing else is said.
  let plain := !("lwcmL".toList.any choices.has)
  [(plain || choices.has 'l', text.count '\n'), (plain || choices.has 'w', wordCount text),
    (choices.has 'm', text.length), (plain || choices.has 'c', text.length),
    (choices.has 'L', longestWidth text)].filterMap fun (wanted, count) =>
      if wanted then some count else none

/-- Counts lines, words and octets. -/
def wc : Task → Result :=
  -- The width is that of the greatest number that can come up,
  -- and is fixed where that is not known before.
  withChoices ⟨"lwcmL", "",
    [("lines", 'l'), ("words", 'w'), ("bytes", 'c'), ("chars", 'm'), ("max-line-length", 'L')],
    true⟩ 1
    fun task choices =>
      let paths := choices.operands
      let files := task.files paths
      let isRegular (path : Letters) := if Task.ownInput.contains path then task.rewinds
        else match (task.workplace.find (octetsOf path)).toOption with
          | some (_, .file _ _) | none => true
          | _ => false
      let size :=
        (files.filterMap (·.2.toOption)).foldl (fun size text => size + text.length) (0 : Nat)
      let columns := (counts choices []).length
      let width := if columns = 1 && files.length ≤ 1 then 1
        else if files.all (fun file => isRegular file.1) then (digitsOf size).length else 7
      let line (numbers : List Nat) (name : Letters) : Letters :=
        List.intercalate [' '] (numbers.map fun count =>
          rightAligned width (digitsOf (count : Nat)))
          ++ (if paths.isEmpty then [] else ' ' :: name) ++ ['\n']
      let written := files.map fun (path, contents) => match contents with
        | .ok text => [(1, line (counts choices text) path)]
        | .error .isADirectory =>
          [(2, task.refused path .isADirectory), (1, line (counts choices []) path)]
        | .error reason => [(2, task.refused path reason)]
      let add (total : List Nat) (text : Letters) : List Nat :=
        let here := counts choices text
        let sums := List.zipWith (· + ·) total here
        if choices.has 'L' then
          sums.dropLast ++ [max (total.getLast?.getD 0) (here.getLast?.getD 0)]
        else
          sums
      let total := (files.filterMap (·.2.toOption)).foldl add (List.replicate columns 0)
      ⟨if files.all (·.2.isOk) then 0 else 1,
        written.flatten ++ (if 1 < files.length then [(1, line total "total".toList)] else []),
        task.restAfter paths, task.workplace⟩

/-! ### Repeated lines -/

/-- Leaves out lines that repeat the one before. -/
def uniq : Task → Result :=
  -- Fields and letters at the beginning may be passed over when lines are compared.
  withChoices ⟨"cdiuz", "fsw",
    [("count", 'c'), ("repeated", 'd'), ("unique", 'u'), ("ignore-case", 'i'),
      ("zero-terminated", 'z'), ("skip-fields", 'f'), ("skip-chars", 's'), ("check-chars", 'w')],
      true⟩ 1 fun task choices =>
      let count (letter : Char) := (choices.value? letter).bind number?
      let passField (text : Letters) := (text.dropWhile isBlank).dropWhile (!isBlank ·)
      let key (line : Letters) :=
        let later :=
          ((List.range ((count 'f').getD 0)).foldl (fun text _ => passField text) line).drop
          ((count 's').getD 0)
        let short := (count 'w').elim later (later.take ·)
        if choices.has 'i' then short.map Char.toLower else short
      let group (found : List (Letters × Nat)) (line : Letters) := match found with
        | (first, times) :: others =>
          if key first = key line then (first, times + 1) :: others else (line, 1) :: found
        | [] => [(line, 1)]
      let render (found : Letters × Nat) : Letters :=
        (if choices.has 'c' then rightAligned 7 (digitsOf found.2) ++ [' '] else []) ++ found.1 ++
          ['\n']
      let result := task.gathering (choices.operands.take 1) 1 (withNoughts choices fun text =>
        let groups := ((lines text).foldl group []).reverse
        (groups.filter fun found =>
          !(choices.has 'd' && found.2 < 2) && !(choices.has 'u' && 1 < found.2)).flatMap render)
      match choices.operands.drop 1 with
      | [] => result
      | [path] =>
        if result.code ≠ 0 || path = ['-'] then result
        else
          match task.workplace.writeFile (octetsOf path)
            (octetsOf (result.written.flatMap (·.2))) with
          | .ok after => { result with written := [], workplace := after }
          | .error reason => ⟨1, [(2, task.refused path reason)], task.input, task.workplace⟩
      | _ :: extra :: _ => task.misused 1 ("extra operand '".toList ++ extra ++ ['\''])

/-! ### Parts of lines -/

/-- The ranges of numbers that a list describes; a range without an end goes on for ever. -/
def ranges? (list : Letters) : Option (List (Nat × Option Nat)) :=
  -- Commas and blanks part the ranges, and nothing has the number zero.
  ((list.map fun letter => if letter = ' ' then ',' else letter) |> pieces ',').mapM fun range =>
    match pieces '-' range with
    | [only] =>
      (number? only).bind fun value => if value = 0 then none else some (value, some value)
    | [[], last] => (number? last).map fun last => (1, some last)
    | [first, []] =>
      (number? first).bind fun first => if first = 0 then none else some (first, none)
    | [first, last] => do
      let first ← number? first
      let last ← number? last
      if first = 0 || last < first then none else some (first, some last)
    | _ => none

/-- Writes parts of each line. -/
def cut : Task → Result :=
  -- A line without separators is written as a whole.
  withChoices ⟨"snz", "bcfdxo",
    [("zero-terminated", 'z'), ("bytes", 'b'), ("characters", 'c'), ("fields", 'f'),
      ("delimiter", 'd'), ("only-delimited", 's'), ("complement", 'n'), ("output-delimiter", 'o')],
      true⟩ 1 fun task choices =>
    let wanted := ['b', 'c', 'f'].filterMap fun letter => (choices.value? letter).map fun value =>
      (letter, value)
    let separator := (choices.value? 'd').getD ['\t']
    match wanted with
    | [] => task.failing 1 "you must specify a list of bytes, characters, or fields".toList
    | [(letter, list)] =>
      if separator.length > 1 then task.failing 1 "the delimiter must be a single character".toList
      else if letter ≠ 'f' && (choices.has 'd' || choices.has 's') then
        task.failing 1 "an input delimiter may be specified only when operating on fields".toList
      else match ranges? list with
        | none =>
          task.failing 1
            ("invalid ".toList ++
              (if letter = 'f' then "field" else "byte or character position").toList
            ++ " value '".toList ++ list ++ ['\''])
        | some ranges =>
          let isMeant (place : Nat) := (ranges.any fun (first, last) =>
            first ≤ place && last.all (place ≤ ·)) != choices.has 'n'
          let pick {α : Type} (items : List α) : List α :=
            (items.zipIdx 1).filterMap fun (item, place) =>
              if isMeant place then some item else none
          let sign := separator.head?.getD '\x00'
          let joiner := (choices.value? 'o').getD [sign]
          let shorten (line : Letters) : Option Letters :=
            if letter ≠ 'f' then some (pick line)
            else if line.contains sign then some (List.intercalate joiner (pick (pieces sign line)))
            else if choices.has 's' then none else some line
          task.gatheringEach choices.operands 1 (withNoughts choices fun text =>
            unlines ((lines text).filterMap shorten))
    | _ => task.failing 1 "only one type of list may be specified".toList

/-- Joins lines of files side by side, or the lines of each file. -/
def paste : Task → Result :=
  -- The separators are used in turn.
  withChoices ⟨"s", "d", [("serial", 's'), ("delimiters", 'd')], true⟩ 1 fun task choices =>
    let (separators, _) :=
      EscapeStyle.unescape ⟨false, false, false, false⟩ ((choices.value? 'd').getD ['\t'])
    let files := task.files choices.operands
    let complaints := task.complaints files
    let texts := files.map fun file => lines (file.2.toOption.getD [])
    let join (parts : List Letters) : Letters := parts.zipIdx.flatMap fun (part, place) =>
      (if place = 0 || separators.isEmpty then []
        else [separators[(place - 1) % separators.length]?.getD '\t']) ++ part
    let rows := if choices.has 's' then texts.map join
      else
        let height := texts.foldl (fun most text => max most text.length) 0
        (List.range height).map fun row => join (texts.map fun text => text[row]?.getD [])
    ⟨if complaints.isEmpty then 0 else 1, complaints ++ [(1, unlines rows)],
      task.restAfter choices.operands, task.workplace⟩

end Wakeful.Shell.Tool
