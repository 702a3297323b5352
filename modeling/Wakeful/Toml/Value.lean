import Wakeful.Decimal.Shortest
import Wakeful.Text.Quoted

/-! The values that a configuration document can hold. -/

namespace Wakeful.Toml

/-- A value of a document. -/
inductive Value where
  /-- A text. -/
  | text (value : String)
  /-- A whole number. -/
  | integer (value : Int)
  /-- A floating-point number. -/
  | number (value : Binary64)
  /-- A truth value. -/
  | boolean (value : Bool)
  /-- A date, a time of day or both, as it was written. -/
  | moment (written : List Char)
  /-- Values in a row. -/
  | array (items : List Value)
  /-- Values by key, in the order in which the keys came. -/
  | table (entries : List (String × Value))
  deriving Repr

/-- The contents of a whole document. -/
abbrev Entries := List (String × Value)

end Wakeful.Toml
