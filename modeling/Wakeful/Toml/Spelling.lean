import Wakeful.Toml.Text
import Wakeful.Toml.Value

/-!
Values and documents are spelled in one way of the many in which they can
be read: on one line, with every text in double quotes.
-/

namespace Wakeful.Toml

/-- A character as it stands between double quotes. -/
def spelledCharacter (character : Char) : List Char :=
  -- Whatever does not stand for itself has a number of at most two digits.
  if isBasicCharacter character then [character]
  else
    ['\\', 'u', '0', '0', Nat.digitChar (character.toNat / 16),
      Nat.digitChar (character.toNat % 16)]

/-- A text in double quotes. -/
def spelledText (text : String) : List Char :=
  '"' :: (text.toList.flatMap spelledCharacter ++ ['"'])

/-- A whole number in decimal digits. -/
def spelledInteger : Int → List Char
  -- Only numbers below zero have a sign.
  | .ofNat magnitude => Nat.toDigits 10 magnitude
  | .negSucc below => '-' :: Nat.toDigits 10 (below + 1)

mutual

/-- A value on one line. -/
def Value.spelled : Value → List Char
  -- Floating-point numbers and moments are left out.
  | .text value => spelledText value
  | .integer value => spelledInteger value
  | .boolean true => ['t', 'r', 'u', 'e']
  | .boolean false => ['f', 'a', 'l', 's', 'e']
  | .array items => '[' :: spelledItems items
  | .table entries => '{' :: spelledPairs entries
  | .number _ | .moment _ => []

/-- Values in a row up to the closing bracket. -/
def spelledItems : List Value → List Char
  -- A comma follows every item, also the last one.
  | [] => [']']
  | value :: rest => value.spelled ++ ',' :: spelledItems rest

/-- Keys with values up to the closing brace. -/
def spelledPairs : List (String × Value) → List Char
  -- No comma may follow the last value.
  | [] => ['}']
  | (key, value) :: rest =>
    spelledText key ++
      '=' :: (value.spelled ++ if rest.isEmpty then ['}'] else ',' :: spelledPairs rest)

end

/-- Keys with values, one of them in every line. -/
def spelledLines : Entries → List Char
  -- Keys are quoted like texts, so that any text can be one.
  | [] => []
  | (key, value) :: rest => spelledText key ++ '=' :: (value.spelled ++ '\n' :: spelledLines rest)

/-- A document with these entries. -/
def spelledDocument (entries : Entries) : String :=
  -- There are no headers, since tables stand within braces.
  String.ofList (spelledLines entries)

end Wakeful.Toml
