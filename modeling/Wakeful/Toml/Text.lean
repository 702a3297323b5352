import Wakeful.Toml.Reader

/-! Texts are written in one of four ways, on one line or over several, with escapes or without. -/

namespace Wakeful.Toml

/-- Whether a character stands for itself between double quotes. -/
def isBasicCharacter (character : Char) : Bool :=
  -- Quotes and backslashes have a meaning of their own, and tabs are the only control characters.
  character = '\t' || isBeyondAscii character ||
    (0x20 ≤ character.toNat && character.toNat ≤ 0x7E && character ≠ '"' && character ≠ '\\')

/-- Whether a character stands for itself between single quotes. -/
def isLiteralCharacter (character : Char) : Bool :=
  -- There is no way to write the quote itself.
  character = '\t' || isBeyondAscii character ||
    (0x20 ≤ character.toNat && character.toNat ≤ 0x7E && character ≠ '\'')

/-- Reads what follows a backslash. -/
def escape? : Reader Char
  -- Short escapes name common characters, and long ones give a number of four or eight digits.
  | 'b' :: rest => some ('\x08', rest)
  | 't' :: rest => some ('\t', rest)
  | 'n' :: rest => some ('\n', rest)
  | 'f' :: rest => some ('\x0c', rest)
  | 'r' :: rest => some ('\r', rest)
  | '"' :: rest => some ('"', rest)
  | '\\' :: rest => some ('\\', rest)
  | 'u' :: a :: b :: c :: d :: rest => do
    let character ← characterOf? (← hexNumber? [a, b, c, d])
    return (character, rest)
  | 'U' :: a :: b :: c :: d :: e :: f :: g :: h :: rest => do
    let character ← characterOf? (← hexNumber? [a, b, c, d, e, f, g, h])
    return (character, rest)
  | _ => none

/-- Reads the rest of a text in double quotes, with the characters read so far in reverse. -/
def basicRest : (fuel : Nat) → (read : List Char) → Reader String
  -- The text ends at the first quote that is not escaped.
  | 0, _, _ => none
  | _ + 1, _, [] => none
  | fuel + 1, read, character :: rest =>
    if character = '"' then some (String.ofList read.reverse, rest)
    else if character = '\\' then
      match escape? rest with
      | some (escaped, rest) => basicRest fuel (escaped :: read) rest
      | none => none
    else if isBasicCharacter character then basicRest fuel (character :: read) rest
    else none

/-- Reads the rest of a text in single quotes. -/
def literalRest (characters : List Char) : Option (String × List Char) :=
  -- Everything up to the quote stands for itself.
  match characters.dropWhile isLiteralCharacter with
  | '\'' :: rest => some (String.ofList (characters.takeWhile isLiteralCharacter), rest)
  | _ => none

/--
What is left after a run of quotes that ends a text of
several lines, with the quotes that belong to it.
-/
def closingQuotes (quote : Char) (characters : List Char) : Option (Nat × List Char) :=
  -- Three quotes close the text, and up to two before them belong to it.
  let run := (characters.takeWhile (· == quote)).length
  if run < 3 then none
  else
    let own := min (run - 3) 2
    some (own, characters.drop (own + 3))

/-- What is left after a line that a backslash joins to the next one. -/
def joinedLine? (characters : List Char) : Option (List Char) :=
  -- After the line end all further blanks and line ends are dropped too.
  (lineEnd? (skipBlanks characters)).map fun rest => dropBlankLines rest.length rest
where
  /-- What is left after blanks and line ends in any number. -/
  dropBlankLines : (fuel : Nat) → List Char → List Char
    -- Each turn takes at least a line end.
    | 0, characters => characters
    | fuel + 1, characters =>
      match lineEnd? (skipBlanks characters) with
      | some rest => dropBlankLines fuel rest
      | none => skipBlanks characters

/-- Reads the rest of a text in three double quotes, with the characters read so far in reverse. -/
def longBasicRest : (fuel : Nat) → (read : List Char) → Reader String
  -- Line ends count as line feeds, and a run of fewer than three quotes is part of the text.
  | 0, _, _ => none
  | _ + 1, _, [] => none
  | fuel + 1, read, character :: rest =>
    if character = '"' then
      match closingQuotes '"' (character :: rest) with
      | some (own, rest) => some (String.ofList (List.replicate own '"' ++ read).reverse, rest)
      | none => longBasicRest fuel ('"' :: read) rest
    else if character = '\\' then
      match joinedLine? rest with
      | some rest => longBasicRest fuel read rest
      | none =>
        match escape? rest with
        | some (escaped, rest) => longBasicRest fuel (escaped :: read) rest
        | none => none
    else if isBasicCharacter character then longBasicRest fuel (character :: read) rest
    else
      match lineEnd? (character :: rest) with
      | some rest => longBasicRest fuel ('\n' :: read) rest
      | none => none

/-- Reads the rest of a text in three single quotes, with the characters read so far in reverse. -/
def longLiteralRest : (fuel : Nat) → (read : List Char) → Reader String
  -- Nothing is escaped, and line ends count as line feeds.
  | 0, _, _ => none
  | _ + 1, _, [] => none
  | fuel + 1, read, character :: rest =>
    if character = '\'' then
      match closingQuotes '\'' (character :: rest) with
      | some (own, rest) => some (String.ofList (List.replicate own '\'' ++ read).reverse, rest)
      | none => longLiteralRest fuel ('\'' :: read) rest
    else if isLiteralCharacter character then longLiteralRest fuel (character :: read) rest
    else
      match lineEnd? (character :: rest) with
      | some rest => longLiteralRest fuel ('\n' :: read) rest
      | none => none

/-- What is left after a line end right behind opening quotes. -/
def skipFirstLineEnd (characters : List Char) : List Char :=
  -- Such a line end is no part of the text.
  (lineEnd? characters).getD characters

/-- Reads a text on one line. -/
def shortText? : Reader String
  -- The opening quote decides about escapes.
  | '"' :: rest => basicRest (rest.length + 1) [] rest
  | '\'' :: rest => literalRest rest
  | _ => none

/-- Reads a text in any of its four forms. -/
def text? : Reader String
  -- Three quotes always open a text of several lines.
  | '"' :: '"' :: '"' :: rest => longBasicRest (rest.length + 1) [] (skipFirstLineEnd rest)
  | '\'' :: '\'' :: '\'' :: rest => longLiteralRest (rest.length + 1) [] (skipFirstLineEnd rest)
  | characters => shortText? characters

end Wakeful.Toml
