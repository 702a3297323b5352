import Wakeful.Shell.Letters

/-! Names between quotes, so that a shell could read them again. -/

namespace Wakeful.Shell.Quoting

/-- Letters that never need quotes and do not mind double ones. -/
def isHarmless (letter : Char) : Bool := letter.isAlphanum || "%+,-./:]_".toList.contains letter

/-- Whether a letter can be shown as it is. -/
def isShown (letter : Char) : Bool := ' ' ≤ letter && letter < '\x7f'

/-- Whether letters could be taken for something else without quotes. -/
def needsQuotes (letters : Letters) : Bool :=
  -- Some letters have a meaning only where they stand alone or first.
  letters.isEmpty || letters = ['\x7b'] || letters = ['\x7d'] || letters.head? = some '#' ||
    letters.head? = some '~'
    || letters.any fun letter =>
      !isShown letter || " !\"$&'()*;<=>?[\\^\x60|".toList.contains letter

/-- Whether letters may stand between double quotes. -/
def takesDoubleQuotes (letters : Letters) : Bool :=
  -- This is done only for the sake of a single quote, and where nothing has a meaning.
  letters.contains '\'' && letters.zipIdx.all fun (letter, place) =>
    isHarmless letter || letter = '\'' || letter = ' ' || letter = '@' || place = 0 &&
      (letter = '#' || letter = '~')

/-- What stands for a letter that cannot be shown. -/
def escape (letter : Char) : Letters :=
  -- A few have letters of their own, and the others are numbers in the base eight.
  match letter with
  | '\x07' => ['\\', 'a']
  | '\x08' => ['\\', 'b']
  | '\t' => ['\\', 't']
  | '\n' => ['\\', 'n']
  | '\x0b' => ['\\', 'v']
  | '\x0c' => ['\\', 'f']
  | '\r' => ['\\', 'r']
  | _ =>
    let digits := Nat.toDigits 8 letter.toNat
    '\\' :: List.replicate (3 - digits.length) '0' ++ digits

/-- Letters between quotes up to the last quote, where the letter before them was escaped or not. -/
def rest : (wasEscaped : Bool) → Letters → Letters
  -- Escapes have quotes of their own.
  | _, [] => ['\'']
  | wasEscaped, letter :: others =>
    if isShown letter then
      (if wasEscaped then ['\'', '\''] else []) ++
        (if letter = '\'' then "'\\''".toList else [letter]) ++ rest false others
    else (if wasEscaped then [] else "'$'".toList) ++ escape letter ++ rest true others

/-- Letters between quotes. -/
def quoted (letters : Letters) : Letters :=
  -- Single quotes are usual.
  if takesDoubleQuotes letters then ['"'] ++ letters ++ ['"'] else '\'' :: rest false letters

/-- Letters with quotes only if they are needed. -/
def word (letters : Letters) : Letters := if needsQuotes letters then quoted letters else letters

/-- A name before a colon, with quotes only if they are needed. -/
def name (letters : Letters) : Letters :=
  if letters.contains ':' then quoted letters else word letters

end Wakeful.Shell.Quoting
