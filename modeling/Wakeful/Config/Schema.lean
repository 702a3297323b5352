import Wakeful.Config.Basic
import Wakeful.Toml.Value

/-!
A document fits a configuration if it has only known keys and every value is of its key's kind.
-/

namespace Wakeful

open Toml (Value Entries)

/-- What a key asks for. -/
inductive Wanted where
  /-- A text. -/
  | text
  /-- A truth value. -/
  | boolean
  /-- A whole number that is not negative. -/
  | count
  /-- Values in a row. -/
  | row
  /-- The use of the bus. -/
  | bus
  /-- The watchdog. -/
  | watchdog
  deriving DecidableEq, Repr

/-- The words for what a key asks for. -/
def Wanted.words : Wanted → String
  -- Records are called by their type.
  | text => "a string"
  | boolean => "a boolean"
  | count => "u64"
  | row => "a sequence"
  | bus => "struct DbusConfig"
  | watchdog => "struct WatchdogConfig"

/-- Why a document does not fit. -/
inductive Misfit where
  /-- A key that is none of the known ones. -/
  | unknownKey (key : String) (known : List String)
  /-- A value of another kind. -/
  | wrongKind (found : Value) (wanted : Wanted)
  /-- A number out of bounds. -/
  | wrongNumber (found : Int) (wanted : Wanted)

namespace Misfit

/-- A word between backward quotes. -/
def ticked (word : String) : String :=
  -- Nothing is escaped.
  "\x60" ++ word ++ "\x60"

/-- The words for a value that was found. -/
def foundWords : Value → String
  -- Single values are shown, and what holds others is only named.
  | .text value => "string " ++ Quoted.text value
  | .integer value => "integer " ++ ticked (toString value)
  | .number value => "floating point " ++ ticked value.text
  | .boolean value => "boolean " ++ ticked (toString value)
  | .moment _ | .table _ => "map"
  | .array _ => "sequence"

/-- The words for the known keys. -/
def knownWords : List String → String
  -- One or two are simply named.
  | [] => "there are no fields"
  | [only] => "expected " ++ ticked only
  | [first, second] => "expected " ++ ticked first ++ " or " ++ ticked second
  | known => "expected one of " ++ String.intercalate ", " (known.map ticked)

/-- The words for a misfit. -/
def message : Misfit → String
  -- What was found comes before what was wanted.
  | unknownKey key known => "unknown field " ++ ticked key ++ ", " ++ knownWords known
  | wrongKind found wanted => "invalid type: " ++ foundWords found ++ ", expected " ++ wanted.words
  | wrongNumber found wanted =>
    "invalid value: integer " ++ ticked (toString found) ++ ", expected " ++ wanted.words

end Misfit

namespace Schema

/-- A text. -/
def text : Value → Except Misfit String
  | .text value => .ok value
  | found => .error (.wrongKind found .text)

/-- A truth value. -/
def boolean : Value → Except Misfit Bool
  | .boolean value => .ok value
  | found => .error (.wrongKind found .boolean)

/-- A whole number that is not negative. -/
def count : Value → Except Misfit Nat
  | .integer value => if value < 0 then .error (.wrongNumber value .count) else .ok value.toNat
  | found => .error (.wrongKind found .count)

/-- Texts in a row. -/
def texts : Value → Except Misfit (List String)
  | .array items => items.mapM text
  | found => .error (.wrongKind found .row)

/-- A record with named fields, of which each can be set from a value. -/
structure Record (ρ : Type) where
  /-- The names of the fields in order. -/
  fields : List String
  /-- Sets a field. -/
  set : String → Value → ρ → Except Misfit ρ
  /-- The record when nothing is set. -/
  default : ρ

namespace Record

variable {ρ : Type}

/-- Sets a field by its name, which has to be known. -/
def setKnown (record : Record ρ) (state : ρ) (entry : String × Value) : Except Misfit ρ :=
  -- An unknown key is found before its value is looked at.
  if entry.1 ∈ record.fields then record.set entry.1 entry.2 state
  else .error (.unknownKey entry.1 record.fields)

/-- The record that the entries of a table make. -/
def ofEntries (record : Record ρ) (entries : Entries) : Except Misfit ρ :=
  -- The first misfit in the order of the document counts.
  entries.foldlM record.setKnown record.default

/-- The record that values in a row make. -/
def ofRow (record : Record ρ) (items : List Value) : Except Misfit ρ :=
  -- Values are taken for the fields in order, and further ones are not looked at.
  (record.fields.zip items).foldlM record.setKnown record.default

/-- The key under which a date or time appears where a table is wanted. -/
def momentKey : String := "$__toml_private_datetime"

/-- The record that a value makes. -/
def ofValue (record : Record ρ) (wanted : Wanted) : Value → Except Misfit ρ
  -- A table gives fields by name and a row gives them by place.
  | .table entries => record.ofEntries entries
  | .array items => record.ofRow items
  | .moment _ => .error (.unknownKey momentKey record.fields)
  | found => .error (.wrongKind found wanted)

end Record

/-- The fields for the use of the bus. -/
def bus : Record BusConfig where
  fields := ["enabled"]
  set _ value config := do return { config with enabled := ← boolean value }
  default := .default

/-- The fields of the watchdog. -/
def watchdog : Record WatchdogConfig where
  fields := ["enabled", "interval_secs", "program", "args"]
  set key value config := do
    if key = "enabled" then return { config with enabled := ← boolean value }
    else if key = "interval_secs" then return { config with intervalSeconds := ← count value }
    else if key = "program" then return { config with program := ← text value }
    else return { config with arguments := ← texts value }
  default := .default

/-- The fields of a whole configuration. -/
def config : Record Config where
  fields := ["reason", "dbus", "watchdog"]
  set key value config := do
    if key = "reason" then return { config with reason := ← text value }
    else if key = "dbus" then return { config with bus := ← bus.ofValue .bus value }
    else return { config with watchdog := ← watchdog.ofValue .watchdog value }
  default := .default

end Schema

end Wakeful
