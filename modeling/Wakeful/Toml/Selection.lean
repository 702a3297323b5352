import Wakeful.Toml.Value

/-! A value inside another one is found by the keys and numbers on the way to it. -/

namespace Wakeful.Toml

/-- A step from a value to one that it holds. -/
inductive Selector where
  /-- To what a table has under a key. -/
  | key (name : String)
  /-- To an item of an array, counted from zero. -/
  | item (number : Nat)
  deriving DecidableEq, Repr

/--
The field of a record that a step leads to, by its name in a table and by its number in a row.
-/
def Selector.field? (fields : List String) : Selector → Option String
  -- Behind the last field a row has no names.
  | key name => some name
  | item index => fields[index]?

namespace Value

/-- Whether a value holds no others by its kind. -/
def isLeaf : Value → Bool
  -- Even an empty array or table could hold others.
  | array _ | table _ => false
  | _ => true

/-- The value that selectors lead to, if they lead to one. -/
def at? : List Selector → Value → Option Value
  -- Keys lead into tables and numbers into arrays.
  | [], value => some value
  | .key name :: rest, table entries => (entries.lookup name).bind (at? rest)
  | .item index :: rest, array items => items[index]?.bind (at? rest)
  | _ :: _, _ => none

/-- The value with another one in the place that selectors lead to. -/
def put (new : Value) : List Selector → Value → Value
  -- Selectors that lead nowhere change nothing.
  | [], _ => new
  | .key name :: rest, table entries =>
    table (entries.map fun entry => if entry.1 = name then (name, put new rest entry.2) else entry)
  | .item index :: rest, array items => array (items.modify index (put new rest))
  | _ :: _, value => value

end Value

/-- A document says the same as another one, whatever the order of its keys. -/
inductive Value.Alike : Value → Value → Prop where
  /-- A value says the same as itself. -/
  | same (value : Value) : Alike value value
  /-- Tables say the same if they have the same keys with values that say the same. -/
  | table {entries others : Entries}
      (keys : ∀ name, name ∈ entries.map Prod.fst ↔ name ∈ others.map Prod.fst)
      (each : ∀ name value other, (name, value) ∈ entries → (name, other) ∈ others →
        Alike value other) :
      Alike (.table entries) (.table others)

end Wakeful.Toml
