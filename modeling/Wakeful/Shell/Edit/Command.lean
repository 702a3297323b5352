import Wakeful.Shell.Regex

/-! The commands by which texts are changed line by line. -/

namespace Wakeful.Shell.Edit

/-- How a line is addressed. -/
inductive Address where
  /-- By its number. -/
  | line (number : Nat)
  /-- As the last one. -/
  | last
  /-- By a number from which on every so manieth line is meant. -/
  | every (first step : Nat)
  /--
  By an expression that it matches, where capital and small
  letters may count alike, or by the last that was used.
  -/
  | matching (regex : Option Regex) (isSmall : Bool)
  deriving DecidableEq, Repr

/-- Where a range of lines ends. -/
inductive Bound where
  /-- At the next line with an address. -/
  | address (address : Address)
  /-- After so many lines more. -/
  | count (number : Nat)
  /-- At the next line whose number is a multiple. -/
  | multiple (number : Nat)
  deriving DecidableEq, Repr

/-- The lines that a command is for. -/
structure Range where
  /-- The first line, if not all are meant. -/
  first : Option Address
  /-- Where the lines end, if there are several. -/
  bound : Option Bound
  /-- Whether all other lines are meant. -/
  isOpposite : Bool
  deriving DecidableEq, Repr

/-- A piece of what takes the place of a match. -/
inductive Piece where
  /-- Letters. -/
  | letters (value : Letters)
  /-- What a group has matched, where nought stands for the whole match. -/
  | group (number : Nat)
  /-- From here on letters become capital or small ones. -/
  | turn (sign : Char)
  deriving DecidableEq, Repr

/-- What takes the place of matches. -/
structure Exchange where
  /-- The expression, or none for the last that was used. -/
  regex : Option Regex
  /-- Whether capital and small letters count alike. -/
  isSmall : Bool
  /-- What takes its place. -/
  pieces : List Piece
  /-- Which match is the first to be replaced. -/
  start : Nat
  /-- Whether all after it are replaced too. -/
  goesOn : Bool
  /-- Whether a changed line is shown. -/
  isShown : Bool
  /-- The file to which a changed line is written. -/
  target : Option Letters
  deriving DecidableEq, Repr

/-- When a jump is made. -/
inductive Chance where
  /-- Always. -/
  | always
  /-- If something has been replaced in this line. -/
  | changed
  /-- If nothing has been replaced in this line. -/
  | unchanged
  deriving DecidableEq, Repr

/-- What a command does. -/
inductive Deed where
  /-- The commands up to the brace that closes them are for its lines only. -/
  | opening
  /-- A brace is closed. -/
  | closing
  /-- A place to which jumps lead. -/
  | label (name : Letters)
  /-- A jump. -/
  | jump (chance : Chance) (name : Letters)
  /-- Matches are replaced. -/
  | exchange (exchange : Exchange)
  /-- Letters are exchanged for others. -/
  | translate (letters : List (Char × Char))
  /-- A text is written before the line. -/
  | before (text : Letters)
  /-- A text is written after the line. -/
  | after (text : Letters)
  /-- A text takes the place of the lines. -/
  | change (text : Letters)
  /-- A file is written after the line, or only its next line. -/
  | file (path : Letters) (isByLine : Bool)
  /-- What is at work is written to a file, or only its first line. -/
  | write (path : Letters) (isByLine : Bool)
  /-- The line is shown so that all its letters can be seen, in lines of some width. -/
  | unfold (width : Option Nat)
  /-- The program ends with a code, after or without writing the line. -/
  | quit (isSilent : Bool) (code : Nat)
  /-- Something that a single letter tells. -/
  | plain (letter : Char)
  deriving DecidableEq, Repr

/-- A command. -/
structure Command where
  /-- The lines that it is for. -/
  range : Range
  /-- What it does. -/
  deed : Deed
  deriving DecidableEq, Repr

/-- Why commands cannot be read. -/
inductive Fault where
  /-- Something is wrong in front of the letters that are left. -/
  | within (left : Nat) (words : Letters)
  /-- Something is wrong with the commands as a whole. -/
  | whole (words : Letters)
  /-- Something is wrong that has no place. -/
  | placeless (words : Letters)
  deriving DecidableEq, Repr

/-- A text of commands, and the file in which it was found if it was not given as an argument. -/
structure ScriptPart where
  /-- The file. -/
  path : Option Letters
  /-- The commands. -/
  text : Letters

/-- The text of several sources. -/
def ScriptPart.joined (sources : List ScriptPart) : Letters :=
  -- Each begins in a line of its own.
  List.intercalate ['\n'] (sources.map (·.text))

/--
The source with the letter before so many passed ones, how often
arguments came before, and how many letters are passed in it.
-/
def ScriptPart.locate : List ScriptPart → (number passed : Nat) → Option (ScriptPart × Nat × Nat)
  -- Line ends between sources are passed too.
  | [], _, _ => none
  | source :: rest, number, passed =>
    let own := if source.path.isNone then number + 1 else number
    if passed ≤ source.text.length || rest.isEmpty then some (source, own, passed)
    else locate rest own (passed - source.text.length - 1)

/-- The words for a fault in sources. -/
def Fault.message (sources : List ScriptPart) : Fault → Letters
  -- They tell where the fault lies.
  | .placeless words => words
  | .whole words => "-e expression #1, char 0: ".toList ++ words
  | .within left words =>
    match ScriptPart.locate sources 0 ((ScriptPart.joined sources).length - left) with
    | none => words
    | some (⟨some path, text⟩, _, passed) =>
      let line := ((text.take passed).filter (· = '\n')).length + 1
      "file ".toList ++ path ++ " line ".toList ++ digitsOf (line : Nat) ++ ": ".toList ++ words
    | some (_, number, passed) =>
      "-e expression #".toList ++ digitsOf (number : Nat) ++ ", char ".toList ++
        digitsOf (passed : Nat) ++ ": ".toList ++ words

end Wakeful.Shell.Edit
