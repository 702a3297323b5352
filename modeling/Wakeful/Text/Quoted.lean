import Wakeful.Text.Printable
import Wakeful.Text.Utf8

/-! Text in double quotes, in which everything that could mislead a reader is escaped. -/

namespace Wakeful.Quoted

/-- The sixteen digits of hexadecimal numbers in small letters. -/
def hexDigits (value : Nat) : String :=
  -- The standard digits already use small letters.
  String.ofList (Nat.toDigits 16 value)

/-- The two digits of an octet in capital letters. -/
def octetDigits (octet : UInt8) : String :=
  -- A single digit gets a leading zero.
  let digits := (Nat.toDigits 16 octet.toNat).map Char.toUpper
  String.ofList (if digits.length < 2 then '0' :: digits else digits)

/-- The quoted form of one character. -/
def character (value : Char) : String :=
  -- Quotes and backslashes get a backslash, and what cannot be seen gets a name or a number.
  if value = '\x00' then "\\0"
  else if value = '\t' then "\\t"
  else if value = '\n' then "\\n"
  else if value = '\r' then "\\r"
  else if value = '"' ∨ value = '\\' then String.ofList ['\\', value]
  else if 0x20 ≤ value.toNat ∧ Printable.standsForItself value then value.toString
  else "\\u\x7b" ++ hexDigits value.toNat ++ "\x7d"

/-- A text in double quotes. -/
def text (value : String) : String :=
  -- Each character is escaped by itself.
  "\"" ++ String.join (value.toList.map character) ++ "\""

/-- The quoted form of one piece of a name. -/
def piece : Utf8.Piece → String
  -- In names single quotes are escaped too, and octets that are no text are written by number.
  | .char value => if value = '\'' then "\\'" else character value
  | .broken octets => String.join (octets.map fun octet => "\\x" ++ octetDigits octet)

/-- A name in double quotes. -/
def name (octets : Octets) : String :=
  -- Each piece is escaped by itself.
  "\"" ++ String.join ((Utf8.pieces octets).map piece) ++ "\""

end Wakeful.Quoted
