import Wakeful.Proofs.Toml.Composition

/-! Whatever a document says, every whole number in it has 64 bits. -/

namespace Wakeful.Toml

/-- Every whole number in a value is within the bounds. -/
inductive Value.Bounded : Value → Prop where
  /-- A text holds no number. -/
  | text (value : String) : Bounded (.text value)
  /-- A whole number is between the least and the greatest. -/
  | integer {value : Int} (lower : leastInteger ≤ value) (upper : value ≤ greatestInteger) :
      Bounded (.integer value)
  /-- A floating-point number is no whole number. -/
  | number (value : Binary64) : Bounded (.number value)
  /-- A truth value is no number. -/
  | boolean (value : Bool) : Bounded (.boolean value)
  /-- A date or a time of day is no number. -/
  | moment (written : List Char) : Bounded (.moment written)
  /-- Every item of an array is within the bounds. -/
  | array {items : List Value} (each : ∀ item ∈ items, Bounded item) : Bounded (.array items)
  /-- Every value of a table is within the bounds. -/
  | table {entries : Entries} (each : ∀ entry ∈ entries, Bounded entry.2) : Bounded (.table entries)

/-- Plain values are within the bounds, and arrays and tables are if all that they hold is. -/
theorem composes_bounded : Composes Value.Bounded where
  -- Only whole numbers have bounds, and they are read within them.
  plain value plain := by
    cases plain with
    | text value => exact .text value
    | integer lower upper => exact .integer lower upper
    | number value => exact .number value
    | boolean value => exact .boolean value
    | moment written => exact .moment written
  array _ each := .array each
  table _ _ each := .table each

/-- Every whole number in a document has 64 bits. -/
theorem parse_bounded {document : String} {entries : Entries}
    (parsed : parse document = some entries) : ∀ entry ∈ entries, entry.2.Bounded :=
  (parse_composed composes_bounded parsed).2

end Wakeful.Toml
