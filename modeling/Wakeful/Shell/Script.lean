import Wakeful.Shell.Letters

/-! Scripts: commands made of words, joined by pipes, conditions, loops and sequences. -/

namespace Wakeful.Shell

/-- How a file is opened. -/
inductive Access where
  /-- To be read. -/
  | reading
  /-- To be written from the beginning. -/
  | writing
  /-- To be written from the beginning, even if files are to be kept. -/
  | replacing
  /-- To be written from its end on. -/
  | appending
  /-- To be read and written as it is. -/
  | both
  deriving DecidableEq, Repr

/-- The shell's own commands whose failures end it. -/
def specialCommands : List String :=
  -- What is set before them stays set.
  [".", ":", "break", "continue", "eval", "exec", "exit", "export", "local", "readonly", "return",
    "set", "shift", "times", "trap", "unset"]

mutual

/-- A part of a word. -/
inductive Part where
  /-- Letters that stand for themselves, between quotes or not. -/
  | letters (value : Letters) (quoted : Bool)
  /-- The home directory. -/
  | home
  /-- What is made of a parameter. -/
  | parameter (name : String) (use : Use) (quoted : Bool)
  /-- What a script writes. -/
  | output (script : Script) (quoted : Bool)
  /-- The value of a calculation. -/
  | sum (expression : List Part) (quoted : Bool)

/-- What is made of a parameter. -/
inductive Use where
  /-- Its value. -/
  | value
  /-- The length of its value. -/
  | length
  /-- Another word in the stead of a missing value. -/
  | otherwise (emptyIsMissing : Bool) (word : List Part)
  /-- Another word in the stead of a missing value, which the parameter keeps. -/
  | assigned (emptyIsMissing : Bool) (word : List Part)
  /-- A complaint about a missing value. -/
  | required (emptyIsMissing : Bool) (word : List Part)
  /-- Another word unless the value is missing. -/
  | replaced (emptyIsMissing : Bool) (word : List Part)
  /-- The value without what matches a pattern at one end. -/
  | trimmed (atEnd longest : Bool) (pattern : List Part)
  /-- Nothing that could be understood. -/
  | unknown

/-- A change of what a command reads or where it writes, for the descriptor with a number. -/
inductive Redirection where
  /-- A file takes the place of what was there. -/
  | file (descriptor : Nat) (access : Access) (path : List Part)
  /-- Another descriptor is copied, or the descriptor is closed. -/
  | copy (descriptor : Nat) (source : List Part)
  /-- A text that stands in the script is read. -/
  | document (descriptor number : Nat)

/-- A script. -/
inductive Script where
  /-- Nothing at all. -/
  | nothing
  /-- A command in a line, with settings before its words and with redirections. -/
  | simple (line : Nat) (settings : List (String × List Part)) (words : List (List Part))
      (redirections : List Redirection)
  /-- A script in a line with redirections for all of it. -/
  | redirected (line : Nat) (script : Script) (redirections : List Redirection)
  /-- One script after another. -/
  | sequence (first second : Script)
  /-- A script that goes on by itself. -/
  | background (script : Script)
  /-- A second script only if the first succeeds. -/
  | both (first second : Script)
  /-- A second script only if the first fails. -/
  | either (first second : Script)
  /-- Two scripts of which the second reads what the first writes. -/
  | pipe (first second : Script)
  /-- A script whose failure counts as success. -/
  | invert (script : Script)
  /-- A script that leaves no traces in the shell. -/
  | aside (script : Script)
  /-- One of two scripts, as a condition decides. -/
  | choice (condition first second : Script)
  /-- A script again and again for as long as a condition succeeds, or until it does. -/
  | loop (endsOnSuccess : Bool) (condition body : Script)
  /-- A script in a line for each of several words, or for each argument. -/
  | each (line : Nat) (name : String) (words : Option (List (List Part))) (body : Script)
  /-- The first of several scripts of which a pattern matches a word in a line. -/
  | cases (line : Nat) (word : List Part) (branches : List (List (List Part) × Script))
  /-- The meaning of a name for a script. -/
  | define (name : String) (body : Script)

end

instance : Inhabited Script := ⟨.nothing⟩

namespace Script

/-- Letters that end a word outside quotes. -/
def endsWord (letter : Char) : Bool :=
  -- Blanks and operators do.
  letter ∈ [' ', '\t', '\n', ';', '&', '|', '<', '>', '(', ')']

/-- Whether a letter may begin the name of a variable. -/
def beginsName (letter : Char) : Bool := letter.isAlpha || letter = '_'

/-- Whether a letter may go on with the name of a variable. -/
def continuesName (letter : Char) : Bool := letter.isAlphanum || letter = '_'

/-- Whether letters make a name of a variable. -/
def isName (letters : Letters) : Bool :=
  -- A name has a first letter.
  letters.head?.any beginsName && letters.all continuesName

/-- The name at the beginning of letters, and what follows it. -/
def readName (letters : Letters) : String × Letters :=
  -- The longest name counts.
  (String.ofList (letters.takeWhile continuesName), letters.dropWhile continuesName)

/-- The home directory that a name stands for, if it is known. -/
def homeOf? (name : Letters) : Option Part :=
  -- No name at all is that of the present user.
  if name.isEmpty then some .home
  else if name = "root".toList then some (.letters "/root".toList true)
  else none

/--
Letters with the sign for a home directory at their beginning
carried out, if they are all that belongs to it.
-/
def withHomeIn (isWhole : Bool) (letters : Letters) : List Part :=
  -- The name ends at a separator.
  match letters with
  | '~' :: after =>
    let name := after.takeWhile (· != '/')
    let rest := after.drop name.length
    match if rest.isEmpty && !isWhole then none else homeOf? name with
    | some part => if rest.isEmpty then [part] else [part, .letters rest false]
    | none => [.letters letters false]
  | _ => [.letters letters false]

/-- A word with the sign for a home directory at its beginning carried out. -/
def withHome : List Part → List Part
  -- The sign may not be quoted.
  | .letters letters false :: rest => withHomeIn rest.isEmpty letters ++ rest
  | word => word

/--
A value with the signs for home directories carried out, at its beginning and after each colon.
-/
def withHomes : (isStart : Bool) → List Part → List Part
  -- What stands between colons is looked at by itself.
  | _, [] => []
  | isStart, .letters letters false :: rest =>
    let colon : List Part := [.letters [':'] false]
    let rec pieces : (isStart : Bool) → Letters → (fuel : Nat) → List Part
      | _, _, 0 => []
      | isStart, letters, fuel + 1 =>
        let piece := letters.takeWhile (· != ':')
        let after := letters.drop piece.length
        let made := if isStart then withHomeIn (!after.isEmpty || rest.isEmpty) piece
          else [.letters piece false]
        if after.isEmpty then made else made ++ colon ++ pieces true (after.drop 1) fuel
    pieces isStart letters (letters.length + 1) ++ withHomes false rest
  | _, part :: rest => part :: withHomes false rest

/-- A setting that a word spells, if it begins with a name and a sign of equality. -/
def setting? : List Part → Option (String × List Part)
  -- The name may not be quoted.
  | .letters value false :: rest =>
    let (name, after) := readName value
    match after with
    | '=' :: inner =>
      if isName name.toList then
        some (name, withHomes true (.letters inner false :: rest))
      else
        none
    | _ => none
  | _ => none

/-- The text of a word that holds nothing but letters. -/
def plain? (word : List Part) : Option Letters :=
  -- Quotes do not matter.
  (word.mapM fun (part : Part) => match part with
    | .letters value _ => some value
    | _ => none).map List.flatten

/-- Whether something in a word stands between quotes. -/
def isQuoted (word : List Part) : Bool :=
  -- Only letters are looked at.
  word.any fun part => match part with
    | .letters _ quoted => quoted
    | _ => false

/-- A part in front of others, where plain letters that stand side by side are joined. -/
def push (part : Part) (parts : List Part) : List Part :=
  -- Quoted letters are kept apart from the others.
  match part, parts with
  | .letters first false, .letters second false :: rest => .letters (first ++ second) false :: rest
  | .letters [] false, rest => rest
  | _, _ => part :: parts

end Script

end Wakeful.Shell
