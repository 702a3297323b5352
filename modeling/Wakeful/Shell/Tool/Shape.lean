import Wakeful.Shell.Regex
import Wakeful.Shell.Tool.Text

/-! Programs that number, fold and fill lines. -/

namespace Wakeful.Shell.Tool

/-- Writes lines with numbers before them. -/
def nl : Task → Result :=
  -- Usually only lines with letters have numbers.
  withChoices ⟨"p", "bdfhilnsvw",
    [("body-numbering", 'b'), ("number-width", 'w'), ("number-separator", 's'),
      ("starting-line-number", 'v'), ("line-increment", 'i'), ("number-format", 'n')],
      true⟩ 1 fun task choices =>
    let number (letter : Char) (usual : Int) := ((choices.value? letter).bind integer?).getD usual
    let width := (number 'w' 6).toNat
    let separator := (choices.value? 's').getD ['\t']
    let style := (choices.value? 'b').getD ['t']
    let counts (line : Letters) : Bool := match style with
      | 'p' :: pattern => ((Regex.read .basic pattern).toOption.bind (·.first? line)).isSome
      | _ => style = ['a'] || style ≠ ['n'] && !line.isEmpty
    let aligned (digits : Letters) : Letters :=
      match String.ofList ((choices.value? 'n').getD ['r', 'n']) with
      | "ln" => digits ++ List.replicate (width - digits.length) ' '
      | "rz" =>
        if digits.head? = some '-' then
          '-' :: List.replicate (width - digits.length) '0' ++ digits.drop 1
        else List.replicate (width - digits.length) '0' ++ digits
      | _ => rightAligned width digits
    task.gathering choices.operands 1 fun text =>
      let (written, _) := (lines text).foldl (fun (written, next) line =>
        if counts line then
          ((aligned (digitsOf next) ++ separator ++ line ++ ['\n']) :: written, next + number 'i' 1)
        else ((List.replicate (width + separator.length) ' ' ++ line ++ ['\n']) :: written, next))
        (([] : List Letters), number 'v' 1)
      written.reverse.flatten

/-- The column after a letter in a line. -/
def columnAfter (column : Nat) (letter : Char) : Nat :=
  -- Some letters lead to the next stop, back, or to the beginning.
  if letter = '\t' then (column / 8 + 1) * 8
  else if letter = '\x08' then column - 1
  else if letter = '\x0d' then 0
  else column + 1

/-- The width of a line. -/
def columnsOf (line : Letters) : Nat := line.foldl columnAfter 0

/-- A line broken into lines of at most so many columns, possibly after blanks. -/
def folded (width : Nat) (atBlanks byOctets : Bool) :
    (fuel : Nat) → (present : Letters) → Letters → List Letters
  -- What is longer than a line by itself stays whole.
  | 0, present, _ => [present.reverse]
  | _ + 1, present, [] => [present.reverse]
  | fuel + 1, present, letter :: rest =>
    let size := if byOctets then present.length + 1 else columnsOf (letter :: present).reverse
    if width < size && !present.isEmpty then
      let tail := if atBlanks && present.any isBlank then present.takeWhile (!isBlank ·) else []
      (present.drop tail.length).reverse :: folded width atBlanks byOctets fuel tail
      (letter :: rest)
    else folded width atBlanks byOctets fuel (letter :: present) rest

/-- Breaks lines that are too long. -/
def fold : Task → Result :=
  -- A number right after the sign is the width too.
  withChoices ⟨"bs0123456789", "w", [("width", 'w'), ("spaces", 's'), ("bytes", 'b')],
    true⟩ 1 fun task choices =>
    let digits := (choices.chosen.map (·.1)).filter Char.isDigit
    let width := (((choices.value? 'w').bind number?).or (number? digits)).getD 80
    task.gathering choices.operands 1 fun text => (endedLines text).flatMap fun line =>
      let ending := line.filter (· = '\n')
      let parts := folded width (choices.has 's') (choices.has 'b') (3 * line.length + 3) []
        (line.filter (· ≠ '\n'))
      List.intercalate ['\n'] parts ++ ending

/-- Writes blanks in the stead of stops. -/
def expand : Task → Result :=
  -- Stops lie at equal distances.
  withChoices ⟨"i0123456789", "t", [("tabs", 't'), ("initial", 'i')], true⟩ 1 fun task choices =>
    let digits := (choices.chosen.map (·.1)).filter Char.isDigit
    let distance := max 1 ((((choices.value? 't').bind number?).or (number? digits)).getD 8)
    task.gathering choices.operands 1 fun text =>
      let (written, _, _) := text.foldl (fun (written, column, isFresh) letter =>
        if letter = '\n' then (letter :: written, 0, true)
        else if letter = '\t' && (isFresh || !choices.has 'i') then
          let count := distance - column % distance
          (List.replicate count ' ' ++ written, column + count, isFresh)
        else
          (letter :: written, columnAfter column letter,
            isFresh && isBlank letter)) (([] : Letters), 0, true)
      written.reverse

/-- Writes its arguments again and again. -/
def yes (task : Task) : Result :=
  -- Nobody reads more than this.
  let words := if task.arguments.head? = some ['-', '-'] then task.arguments.drop 1
    else task.arguments
  let line := (if words.isEmpty then ['y'] else List.intercalate [' '] words) ++ ['\n']
  task.saying 0 (List.replicate 8192 line).flatten

/-- The factors of a number from a possible one on. -/
def factorsFrom : (fuel : Nat) → (least value : Nat) → List Nat
  -- A number that no smaller one divides is a factor itself.
  | 0, _, value => [value]
  | fuel + 1, least, value =>
    if value ≤ 1 then []
    else if value < least * least then [value]
    else if value % least = 0 then least :: factorsFrom fuel least (value / least)
    else factorsFrom fuel (if least = 2 then 3 else least + 2) value

/-- Writes the factors of numbers. -/
def factor : Task → Result :=
  -- Without arguments the numbers are read.
  withChoices ⟨"h", "", [("exponents", 'h')], true⟩ 1 fun task choices =>
    let words :=
      if choices.operands.isEmpty then
        ((task.input.splitBy fun left right => isBlank left == isBlank right).filter
        fun word => word.head?.any (!isBlank ·)) else choices.operands
    let written := words.map fun word => match number? word with
      | some value =>
        (1, digitsOf (value : Nat) ++ ':' :: ((factorsFrom 2000000 2 value).flatMap fun part =>
          ' ' :: digitsOf (part : Nat)) ++ ['\n'])
      | none => (2, task.complaint (['\''] ++ word ++ "' is not a valid positive integer".toList))
    ⟨if written.all (·.1 = 1) then 0 else 1, written,
      if choices.operands.isEmpty then [] else task.input, task.workplace⟩

end Wakeful.Shell.Tool
