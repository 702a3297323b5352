/-! Readers of a document take what they accept from the front of the characters that are left. -/

namespace Wakeful.Toml

/-- A reader gives a result and what is left, or refuses. -/
abbrev Reader (α : Type) := List Char → Option (α × List Char)

/-- Whether a character is a blank. -/
def isBlank (character : Char) : Bool :=
  -- Only spaces and tabs do not end a line.
  character = ' ' || character = '\t'

/-- What is left after blanks. -/
def skipBlanks (characters : List Char) : List Char :=
  -- Blanks are always optional.
  characters.dropWhile isBlank

/-- Takes a line end. -/
def lineEnd? : List Char → Option (List Char)
  -- A return counts only together with a line feed.
  | '\n' :: rest => some rest
  | '\r' :: '\n' :: rest => some rest
  | _ => none

/-- Whether a character is beyond the seven-bit ones. -/
def isBeyondAscii (character : Char) : Bool :=
  -- No further distinction is made among them.
  0x80 ≤ character.toNat

/-- Whether a character may stand in a comment. -/
def isCommentCharacter (character : Char) : Bool :=
  -- Tabs are the only control characters that may.
  character = '\t' || (0x20 ≤ character.toNat && character.toNat ≤ 0x7E) || isBeyondAscii character

/-- What is left after a comment, if there is one. -/
def skipComment : List Char → List Char
  -- A comment runs up to the first character that may not stand in it.
  | '#' :: rest => rest.dropWhile isCommentCharacter
  | characters => characters

/-- What is left after the end of a statement, which is the end of a line or of the document. -/
def statementEnd? (characters : List Char) : Option (List Char) :=
  -- Blanks and a comment may come first.
  match skipComment (skipBlanks characters) with
  | [] => some []
  | rest => lineEnd? rest

/--
What is left after blanks, comments and line ends in any
number, if every comment is closed by a line end.
-/
def skipLines : (fuel : Nat) → List Char → Option (List Char)
  -- Each turn takes at least a line end.
  | 0, characters => some characters
  | fuel + 1, characters =>
    let rest := skipBlanks characters
    match rest with
    | '#' :: _ =>
      match lineEnd? (skipComment rest) with
      | some rest => skipLines fuel rest
      | none => none
    | '\n' :: _ | '\r' :: _ =>
      match lineEnd? rest with
      | some rest => skipLines fuel rest
      | none => none
    | _ => some rest

/-- What is left after blanks, comments and line ends. -/
def skipSpace (characters : List Char) : Option (List Char) :=
  -- There are no more lines than characters.
  skipLines characters.length characters

/-- The value of a hexadecimal digit. -/
def hexDigit? (character : Char) : Option Nat :=
  -- Both cases of letters count.
  if '0' ≤ character ∧ character ≤ '9' then some (character.toNat - 48)
  else if 'a' ≤ character ∧ character ≤ 'f' then some (character.toNat - 87)
  else if 'A' ≤ character ∧ character ≤ 'F' then some (character.toNat - 55)
  else none

/-- The number that hexadecimal digits spell. -/
def hexNumber? (digits : List Char) : Option Nat :=
  -- Every digit has to be one.
  digits.foldlM (fun value digit => (hexDigit? digit).map (value * 16 + ·)) 0

/-- The character with a number, if there is one. -/
def characterOf? (number : Nat) : Option Char :=
  -- Surrogates and numbers past the last character name none.
  if number.isValidChar then some (Char.ofNat number) else none

end Wakeful.Toml
