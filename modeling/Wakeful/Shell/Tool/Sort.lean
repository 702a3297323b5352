import Wakeful.Shell.Comparison
import Wakeful.Shell.Tool.Text

/-! A program that sorts lines by keys. -/

namespace Wakeful.Shell.Tool

/-- A place in a line. -/
structure SortPlace where
  /-- How many fields come before it. -/
  fields : Nat
  /-- How many letters of its field come before it. -/
  letters : Nat
  /-- Whether blanks at the beginning of its field do not count. -/
  skipsBlanks : Bool

/-- A key by which lines are sorted. -/
structure SortKey where
  /-- Where it begins. -/
  start : SortPlace
  /-- Where it ends, if not at the end of the line. -/
  finish : Option SortPlace
  /-- The letters that say how it is compared. -/
  manner : Letters

namespace SortKey

/-- Passes over so many fields. -/
def passFields (separator : Option Char) : (count : Nat) → Letters → Letters
  -- Blanks belong to the field after them unless a separator is given.
  | 0, line => line
  | count + 1, line => match separator with
    | some sign => passFields separator count ((line.dropWhile (· ≠ sign)).drop 1)
    | none =>
      let isGap (letter : Char) : Bool := letter = ' ' || letter = '\t' || letter = '\n'
      passFields separator count ((line.dropWhile isGap).dropWhile (!isGap ·))

/-- What is left of a line from a place on. -/
def beyond (separator : Option Char) (place : SortPlace) (line : Letters) : Letters :=
  -- A line may end before it.
  let rest := passFields separator place.fields line
  let rest := if place.skipsBlanks then rest.dropWhile fun letter =>
    letter = ' ' || letter = '\t' || letter = '\n' else rest
  rest.drop place.letters

/-- What is left of a line after a key with an end. -/
def after (separator : Option Char) (place : SortPlace) (line : Letters) : Letters :=
  -- Without letters the whole field belongs to the key, but not the separator after it.
  if place.letters ≠ 0 then beyond separator place line
  else match separator with
    | some sign => (passFields separator place.fields line).dropWhile (· ≠ sign)
    | none => passFields separator (place.fields + 1) line

/-- What a key takes from a line. -/
def pick (key : SortKey) (separator : Option Char) (line : Letters) : Letters :=
  -- A key may end before it begins.
  let first := beyond separator key.start line
  match key.finish with
  | none => first
  | some place => first.take (first.length - (after separator place line).length)

/-- A number of fields or letters from one on, which is reduced by one, and what follows it. -/
def readCount (letters : Letters) : Option (Nat × Letters) :=
  -- There have to be digits.
  (number? (letters.takeWhile Char.isDigit)).map fun number =>
    (number, letters.dropWhile Char.isDigit)

/-- The letters that say how a key is compared. -/
def manners : Letters := "bdfghiMnRrV".toList

/-- The key that a value describes, or why it describes none. -/
def read (value : Letters) : Except Letters SortKey := do
  -- A comma parts the beginning from the end.
  let wrong (reason : String) : Letters :=
    reason.toList ++ ": invalid field specification '".toList ++ value ++ ['\'']
  let count (reason : String) (letters : Letters) : Except Letters (Nat × Letters) :=
    match readCount letters with
    | some found => .ok found
    | none => .error (reason.toList ++ ": invalid count at start of '".toList ++ letters ++ ['\''])
  let (field, rest) ← count "invalid number at field start" value
  if field = 0 then throw (wrong "field number is zero")
  let (letter, rest) ← match rest with
    | '.' :: others => count "invalid number after '.'" others
    | _ => pure (1, rest)
  if letter = 0 then throw (wrong "character offset is zero")
  let manner := rest.takeWhile (manners.contains ·)
  let start : SortPlace := ⟨field - 1, letter - 1, manner.contains 'b'⟩
  match rest.drop manner.length with
  | [] => return ⟨start, none, manner⟩
  | ',' :: others =>
    let (field, rest) ← count "invalid number after ','" others
    if field = 0 then throw (wrong "field number is zero")
    let (letter, rest) ← match rest with
      | '.' :: others => count "invalid number after '.'" others
      | _ => pure (0, rest)
    let more := rest.takeWhile (manners.contains ·)
    if (rest.drop more.length).isEmpty then
      return ⟨start, some ⟨field - 1, letter, more.contains 'b'⟩, manner ++ more⟩
    else throw (wrong "stray character in field spec")
  | _ => throw (wrong "stray character in field spec")

/-- The key with the ways of comparing that are for all keys without their own. -/
def withManner (key : SortKey) (manner : Letters) : SortKey :=
  -- Blanks at its beginning and its end are among them.
  if !key.manner.isEmpty then key
  else
    let place (place : SortPlace) : SortPlace := { place with skipsBlanks := manner.contains 'b' }
    ⟨place key.start, key.finish.map place, manner⟩

/-- The ways of comparing that exclude each other, if letters ask for several. -/
def clash? (manner : Letters) : Option Letters :=
  -- Versions and chance exclude the others only together, and so do the letters that may not count.
  let has (letter : Char) := manner.contains letter
  let kinds :=
    ("nghM".toList.filter has).length + (if has 'V' || has 'R' || has 'd' || has 'i' then 1 else 0)
  if kinds ≤ 1 then
    none
  else
    some ("dfghiMnRV".toList.filter fun letter => letter ≠ 'f' && has letter)

/-- How the key orders two lines. -/
def order (key : SortKey) (separator : Option Char) (left right : Letters) : Ordering :=
  -- Some letters may not count, and small ones may count as capital ones.
  let has (letter : Char) := key.manner.contains letter
  let prepare (line : Letters) : Letters :=
    let picked := key.pick separator line
    let picked := if has 'd' then picked.filter fun letter =>
      letter.isAlphanum || letter = ' ' || letter = '\t'
      else if has 'i' then picked.filter fun letter => ' ' ≤ letter && letter ≤ '~' else picked
    if has 'f' then picked.map Char.toUpper else picked
  let compared :=
    if has 'n' then Comparison.numbers
    else if has 'g' then Comparison.spelled
    else if has 'h' then Comparison.sizes
    else if has 'M' then Comparison.months
    else if has 'V' then Comparison.names
    else Comparison.letters
  let found := compared (prepare left) (prepare right)
  if has 'r' then found.swap else found

end SortKey

/-- How lines are sorted. -/
structure SortPlan where
  /-- The keys. -/
  keys : List SortKey
  /-- The letter between fields, if it is not blanks that part them. -/
  separator : Option Char
  /-- Whether lines that all keys find alike are compared as wholes. -/
  isTotal : Bool
  /-- Whether the order of whole lines is reversed. -/
  isReversed : Bool

namespace SortPlan

/-- The order of two lines by the keys alone. -/
def byKeys (plan : SortPlan) (left right : Letters) : Ordering :=
  -- The first key that tells them apart counts.
  plan.keys.foldl (fun found key => found.then (key.order plan.separator left right)) .eq

/-- The order of two lines. -/
def order (plan : SortPlan) (left right : Letters) : Ordering :=
  -- Whole lines come last.
  let whole := Comparison.letters left right
  if plan.keys.isEmpty then if plan.isReversed then whole.swap else whole
  else (plan.byKeys left right).then
    (if !plan.isTotal then .eq else if plan.isReversed then whole.swap else whole)

/-- Lines of several texts, each of which is in order, brought into one order. -/
def mergeAll (plan : SortPlan) : (fuel : Nat) → List (List Letters) → List Letters
  -- Among lines that are alike the first text goes first.
  | 0, _ => []
  | fuel + 1, texts =>
    let heads := texts.zipIdx.filterMap fun (lines, place) => lines.head?.map (·, place)
    match heads with
    | [] => []
    | first :: others =>
      let (line, place) :=
        others.foldl (fun best next => if plan.order next.1 best.1 = .lt then next else best) first
      line :: mergeAll plan fuel (texts.set place ((texts.getD place []).drop 1))

/-- Lines without those that the keys find to be like the one before. -/
def distinct (plan : SortPlan) (lines : List Letters) : List Letters :=
  -- The first of them stays.
  (lines.foldl (fun kept line => match kept with
    | [] => [line]
    | former :: _ => if plan.order former line = .eq then kept else line :: kept) []).reverse

/-- The number of the first line that is not in its place, with the line. -/
def disorder? (plan : SortPlan) (isStrict : Bool) (lines : List Letters) : Option (Nat × Letters) :=
  -- Lines that are alike may be refused too.
  ((lines.zip (lines.drop 1)).zipIdx.find? fun ((left, right), _) =>
    match plan.order left right with
    | .gt => true
    | .eq => isStrict
    | .lt => false).map fun ((_, right), place) => (place + 2, right)

end SortPlan

/-- The letter between fields that a value describes. -/
def separatorOf (value : Letters) : Except Letters Char :=
  -- Two signs stand for nought.
  match value with
  | [] => .error "empty tab".toList
  | [letter] => .ok letter
  | ['\\', '0'] => .ok '\x00'
  | _ => .error ("multi-character tab '".toList ++ value ++ ['\''])

/-- How lines are sorted by choices. -/
def sortPlan (choices : Choices) : Except Letters SortPlan := do
  -- Ways of comparing that stand alone are for all keys without their own, or for whole lines.
  let manner := (choices.chosen.map (·.1)).filter (SortKey.manners.contains ·)
  let separators ← (choices.values 't').mapM separatorOf
  if 1 < separators.eraseDups.length then throw "incompatible tabs".toList
  let keys ← (choices.values 'k').mapM SortKey.read
  let own : SortKey := ⟨⟨0, 0, manner.contains 'b'⟩, none, manner⟩
  let keys := if keys.isEmpty && manner.any (· ≠ 'r') then [own] else keys.map (·.withManner manner)
  match keys.findSome? fun key => SortKey.clash? key.manner with
  | some letters => throw ("options '-".toList ++ letters ++ "' are incompatible".toList)
  | none =>
    return ⟨keys, separators.head?, !(choices.has 's' || choices.has 'u'), manner.contains 'r'⟩

/-- The words for ways of comparing, each with its letter. -/
def sortWords : List (String × String) :=
  [("general-numeric", "-g"), ("human-numeric", "-h"), ("month", "-M"), ("numeric", "-n"),
    ("random", "-R"), ("version", "-V")]

/-- The argument without words for ways of comparing. -/
def withoutSortWords (argument : Letters) : Letters :=
  -- A letter stands for each of them.
  if "--sort=".toList.isPrefixOf argument then
    match sortWords.find? fun (word, _) => (argument.drop 7).isPrefixOf word.toList with
    | some (_, letters) => letters.toList
    | none => argument
  else argument

/-- Sorts lines. -/
def sort (task : Task) : Result :=
  -- Files may also only be looked at or brought together.
  let before := task.arguments.takeWhile (· ≠ ['-', '-'])
  let arguments := before.map withoutSortWords ++ task.arguments.drop before.length
  withChoices ⟨"bcCdfghimMnrRsuVz", "ktoST",
    [("reverse", 'r'), ("numeric-sort", 'n'), ("unique", 'u'), ("key", 'k'),
      ("field-separator", 't'), ("output", 'o'), ("ignore-case", 'f'), ("stable", 's'),
      ("check", 'c'), ("merge", 'm'), ("ignore-leading-blanks", 'b'), ("dictionary-order", 'd'),
      ("general-numeric-sort", 'g'), ("human-numeric-sort", 'h'), ("ignore-nonprinting", 'i'),
      ("month-sort", 'M'), ("version-sort", 'V'), ("zero-terminated", 'z'), ("buffer-size", 'S'),
      ("temporary-directory", 'T')], true⟩ 2
    (fun task choices => match sortPlan choices with
      | .error words => task.failing 2 words
      | .ok plan =>
        let files := task.files choices.operands
        let checks := choices.has 'c' || choices.has 'C'
        let rest := task.restAfter choices.operands
        if checks && 1 < choices.operands.length then
          task.failing 2
            ("extra operand '".toList ++ (choices.operands.getD 1 []) ++
              "' not allowed with -c".toList)
        else match files.find? fun file => !file.2.isOk with
        | some (path, .error reason) =>
          let deed := if reason = .isADirectory then "read failed: " else "cannot read: "
          ⟨2, [(2, task.refusedBare (deed.toList ++ Quoting.name path) reason)], rest,
            task.workplace⟩
        | _ =>
          let ending := if choices.has 'z' then '\x00' else '\n'
          let linesOf (text : Letters) : List Letters :=
            let parts := pieces ending text
            if parts.getLast? = some [] then parts.dropLast else parts
          let texts := files.map fun file => linesOf (file.2.toOption.getD [])
          let all := texts.flatten
          if checks then match plan.disorder? (choices.has 'u') all with
            | none => ⟨0, [], rest, task.workplace⟩
            | some (number, line) =>
              let words := ((files.head?.map (·.1)).getD []) ++ ':' :: digitsOf (number : Nat) ++
                ": disorder: ".toList ++ line
              ⟨1, if choices.has 'c' then [(2, task.complaint words)] else [], rest, task.workplace⟩
          else
            let sorted := if choices.has 'm' then plan.mergeAll (all.length + 1) texts
              else all.mergeSort fun left right => plan.order left right ≠ .gt
            let kept := if choices.has 'u' then plan.distinct sorted else sorted
            let text := kept.flatMap (· ++ [ending])
            match choices.value? 'o' with
            | none => ⟨0, [(1, text)], rest, task.workplace⟩
            | some path => match task.workplace.writeFile (octetsOf path) (octetsOf text) with
              | .ok after => ⟨0, [], rest, after⟩
              | .error reason =>
                ⟨2, [(2, task.refusedBare ("open failed: ".toList ++ Quoting.name path) reason)],
                  rest, task.workplace⟩) { task with arguments }

end Wakeful.Shell.Tool
