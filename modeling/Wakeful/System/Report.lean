/-! A report of a failure names what was attempted and then, cause by cause, why it failed. -/

namespace Wakeful

/-- What went wrong, outermost first, and the causes behind it. -/
structure Report where
  /-- What was attempted. -/
  headline : String
  /-- The causes, each one behind the one before it. -/
  causes : List String
  deriving DecidableEq, Repr

namespace Report

/-- A report with nothing behind its headline. -/
def ofText (headline : String) : Report :=
  -- There is no further cause.
  ⟨headline, []⟩

/-- The same failure seen as part of a larger attempt. -/
def within (report : Report) (attempt : String) : Report :=
  -- The former headline becomes the first cause.
  ⟨attempt, report.headline :: report.causes⟩

/-- The whole report in one line. -/
def line (report : Report) : String :=
  -- Headline and causes are parted by colons.
  String.intercalate ": " (report.headline :: report.causes)

/-- The lines of a text, which has one more of them than line ends. -/
def linesOf (text : String) : List (List Char) :=
  -- Characters are collected from the end, and every line end opens a new line.
  text.toList.foldr (fun character lines =>
    if character = '\n' then [] :: lines
    else match lines with
      | [] => [[character]]
      | first :: rest => (character :: first) :: rest) [[]]

/-- A cause with a mark before its first line and a margin before the others. -/
def indented (mark margin cause : String) : String :=
  -- Only line ends within the cause open further lines.
  mark ++ String.intercalate ("\n" ++ margin) ((linesOf cause).map String.ofList)

/-- A number set to the right of a column five characters wide. -/
def numbered (index : Nat) : String :=
  -- Longer numbers simply widen the column.
  let digits := toString index
  String.ofList (List.replicate (5 - digits.length) ' ') ++ digits ++ ": "

/-- The causes as a numbered list. -/
def causeList (causes : List String) : String :=
  -- Counting starts at zero.
  String.join (causes.zipIdx.map fun cause =>
    "\n" ++ indented (numbered cause.2) "       " cause.1)

/-- The report over several lines, with its causes listed below the headline. -/
def detailed (report : Report) : String :=
  -- A single cause stands without a number.
  match report.causes with
  | [] => report.headline
  | [cause] => report.headline ++ "\n\nCaused by:\n" ++ indented "    " "    " cause
  | causes => report.headline ++ "\n\nCaused by:" ++ causeList causes

end Report

end Wakeful
