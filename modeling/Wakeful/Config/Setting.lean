import Wakeful.Config.Schema
import Wakeful.Toml.Selection
import Wakeful.Toml.Spelling

/-!
The settings of a configuration, the places in a document where
they are written, and what may be written there.
-/

namespace Wakeful

open Toml (Value Entries Selector)

/-- What may be written under a key. -/
inductive Shape where
  /-- A text. -/
  | text
  /-- A truth value. -/
  | boolean
  /-- A whole number that is not negative. -/
  | count
  /-- Texts in a row. -/
  | texts
  /-- A table with some of these keys. -/
  | table (fields : List (String × Shape))

/-- A value has a shape. -/
inductive Shape.Fits : Shape → Value → Prop where
  /-- Every text is a text. -/
  | text (value : String) : Fits .text (.text value)
  /-- Every truth value is one. -/
  | boolean (value : Bool) : Fits .boolean (.boolean value)
  /-- A whole number must not be negative. -/
  | count {value : Int} (positive : 0 ≤ value) : Fits .count (.integer value)
  /-- Every item of a row of texts is a text. -/
  | texts {items : List Value} (each : ∀ item ∈ items, ∃ value, item = .text value) :
      Fits .texts (.array items)
  /-- Every key of a table is known, and what is written under it has the shape for this key. -/
  | table {fields : List (String × Shape)} {entries : Entries}
      (known : ∀ entry ∈ entries, entry.1 ∈ fields.map Prod.fst)
      (each : ∀ entry ∈ entries, ∀ shape, (entry.1, shape) ∈ fields → Fits shape entry.2) :
      Fits (.table fields) (.table entries)

/-- What may be written about the use of the bus. -/
def BusConfig.fields : List (String × Shape) := [("enabled", .boolean)]

/-- What may be written about the watchdog. -/
def WatchdogConfig.fields : List (String × Shape) :=
  [("enabled", .boolean), ("interval_secs", .count), ("program", .text), ("args", .texts)]

/-- What may be written in a document. -/
def Config.fields : List (String × Shape) :=
  [("reason", .text), ("dbus", .table BusConfig.fields), ("watchdog", .table WatchdogConfig.fields)]

/-- What a document says about the bus and the watchdog is written in tables, and not in rows. -/
def Config.InTables (entries : Entries) : Prop :=
  -- What else could stand there does not fit.
  ∀ entry ∈ entries, entry.1 = "dbus" ∨ entry.1 = "watchdog" → ∀ items, entry.2 ≠ .array items

/-- A setting of the use of the bus. -/
inductive BusSetting where
  /-- Whether to connect to the session bus. -/
  | enabled
  deriving DecidableEq, Repr

/-- A setting of the watchdog. -/
inductive WatchdogSetting where
  /-- Whether there is a watchdog. -/
  | enabled
  /-- The seconds between two resets. -/
  | interval
  /-- The program that resets the screensaver. -/
  | program
  /-- The arguments of that program. -/
  | arguments
  deriving DecidableEq, Repr

/-- A setting of a configuration. -/
inductive Setting where
  /-- The reason shown to the desktop. -/
  | reason
  /-- A setting of the use of the bus. -/
  | bus (inner : BusSetting)
  /-- A setting of the watchdog. -/
  | watchdog (inner : WatchdogSetting)
  deriving DecidableEq, Repr

namespace BusSetting

/-- The key of a setting. -/
def key : BusSetting → String
  | enabled => "enabled"

/-- What a setting is set to, as it is written in a document. -/
def value : BusSetting → BusConfig → Value
  | enabled, config => .boolean config.enabled

/-- The setting with a key. -/
def ofKey? (name : String) : Option BusSetting :=
  [enabled].find? (·.key = name)

end BusSetting

namespace WatchdogSetting

/-- The key of a setting. -/
def key : WatchdogSetting → String
  | enabled => "enabled"
  | interval => "interval_secs"
  | program => "program"
  | arguments => "args"

/-- What a setting is set to, as it is written in a document. -/
def value : WatchdogSetting → WatchdogConfig → Value
  | enabled, config => .boolean config.enabled
  | interval, config => .integer config.intervalSeconds
  | program, config => .text config.program
  | arguments, config => .array (config.arguments.map .text)

/-- The setting with a key. -/
def ofKey? (name : String) : Option WatchdogSetting :=
  [enabled, interval, program, arguments].find? (·.key = name)

end WatchdogSetting

namespace Setting

/-- What a setting is set to, as it is written in a document. -/
def value : Setting → Config → Value
  | reason, config => .text config.reason
  | bus inner, config => inner.value config.bus
  | watchdog inner, config => inner.value config.watchdog

/-- The keys under which a setting is written. -/
def place : Setting → List Selector
  | reason => [.key "reason"]
  | bus inner => [.key "dbus", .key inner.key]
  | watchdog inner => [.key "watchdog", .key inner.key]

/--
The setting that selectors lead to, by the key or by the
number of its field, and where they lead within it.
-/
def ofPlace? : List Selector → Option (Setting × List Selector)
  -- The reason is no record's field.
  | .key "reason" :: rest => some (reason, rest)
  | .key "dbus" :: step :: rest =>
    (step.field? Schema.bus.fields).bind fun name => (BusSetting.ofKey? name).map fun inner =>
      (bus inner, rest)
  | .key "watchdog" :: step :: rest =>
    (step.field? Schema.watchdog.fields).bind fun name =>
      (WatchdogSetting.ofKey? name).map fun inner => (watchdog inner, rest)
  | _ => none

end Setting

/-- Every setting of the use of the bus, as it is written in a document. -/
def BusConfig.entries (config : BusConfig) : Entries :=
  [BusSetting.enabled].map fun setting => (setting.key, setting.value config)

/-- Every setting of the watchdog, as it is written in a document. -/
def WatchdogConfig.entries (config : WatchdogConfig) : Entries :=
  [WatchdogSetting.enabled, .interval, .program, .arguments].map fun setting =>
    (setting.key, setting.value config)

/-- Every setting of a configuration, as it is written in a document. -/
def Config.entries (config : Config) : Entries :=
  [("reason", .text config.reason), ("dbus", .table config.bus.entries),
    ("watchdog", .table config.watchdog.entries)]

/-- The document in which every setting of a configuration is written. -/
def Config.document (config : Config) : String :=
  -- Nothing is left to the defaults.
  Toml.spelledDocument config.entries

/-- Selectors lead to or into an item of a record in a row for which the record has no field. -/
def Config.Surplus : List Selector → Prop
  -- Rows stand for the use of the bus and for the watchdog.
  | .key name :: .item index :: _ =>
    name = "dbus" ∧ Schema.bus.fields.length ≤ index ∨ name = "watchdog" ∧
      Schema.watchdog.fields.length ≤ index
  | _ => False

end Wakeful
