import Wakeful.Toml.Value

/-!
A table under construction remembers how it came to be,
which decides about what may still be added to it.
-/

namespace Wakeful.Toml

mutual

/-- A table under construction. -/
inductive Draft where
  /--
  Whether only longer keys have mentioned it, whether keys
  with dots made it, and its entries in order.
  -/
  | mk (isImplied isDotted : Bool) (entries : List (String × Slot))

/-- What a key of a table under construction stands for. -/
inductive Slot where
  /-- A finished value. -/
  | value (value : Value)
  /-- A table that may still grow. -/
  | table (draft : Draft)
  /-- Tables in a row, of which the last one may still grow. -/
  | tables (earlier : List Draft) (last : Draft)

end

namespace Draft

/-- A table without entries that has been mentioned in its own right. -/
def empty : Draft :=
  -- Headers and braces make such tables.
  .mk false false []

/-- A table without entries that a longer key has made. -/
def implied (byDots : Bool) : Draft :=
  -- Headers and keys with dots make different kinds.
  .mk true byDots []

/-- Whether only longer keys have mentioned the table. -/
def isImplied : Draft → Bool
  | .mk isImplied _ _ => isImplied

/-- Whether keys with dots made the table. -/
def isDotted : Draft → Bool
  | .mk _ isDotted _ => isDotted

/-- The entries in order. -/
def entries : Draft → List (String × Slot)
  | .mk _ _ entries => entries

/-- The same table with other entries. -/
def withEntries : Draft → List (String × Slot) → Draft
  | .mk isImplied isDotted _, entries => .mk isImplied isDotted entries

/-- The same table, now mentioned in its own right. -/
def declared : Draft → Draft
  | .mk _ _ entries => .mk false false entries

/-- What a key stands for. -/
def find? (draft : Draft) (key : String) : Option Slot :=
  -- No key occurs twice.
  draft.entries.lookup key

/-- The table with a key added or its meaning replaced in place. -/
def set (draft : Draft) (key : String) (slot : Slot) : Draft :=
  -- New keys come last.
  if draft.entries.any (·.1 == key) then
    draft.withEntries (draft.entries.map fun entry => if entry.1 == key then (key, slot) else entry)
  else draft.withEntries (draft.entries ++ [(key, slot)])

/-- The table without a key. -/
def erase (draft : Draft) (key : String) : Draft :=
  -- The order of the other keys is kept.
  draft.withEntries (draft.entries.filter (·.1 != key))

/--
Changes the table at the end of a path of keys, making the tables on the way that are not there yet.
-/
def change (byDots : Bool) (update : Draft → Option Draft) : List String → Draft → Option Draft
  -- Keys with dots may only pass through implied tables,
  -- and of tables in a row the last one counts.
  | [], draft => update draft
  | key :: path, draft =>
    match draft.find? key with
    | none =>
      (change byDots update path (implied byDots)).map fun inner => draft.set key (.table inner)
    | some (.value _) => none
    | some (.table inner) =>
      if byDots && !inner.isImplied then none
      else (change byDots update path inner).map fun inner => draft.set key (.table inner)
    | some (.tables earlier last) =>
      (change byDots update path last).map fun last => draft.set key (.tables earlier last)

/-- Adds a value under a key, which may have dots. -/
def add (path : List String) (key : String) (value : Value) (draft : Draft) : Option Draft :=
  -- A table takes keys with dots exactly if such keys made it, and no key twice.
  change true (fun inner =>
    if inner.isDotted == path.isEmpty then none
    else match inner.find? key with
      | some _ => none
      | none => some (inner.set key (.value value))) path draft

/--
Takes out the table that a header is about to declare: an
implied one, or a new one if there is none.
-/
def open? (path : List String) (key : String) (draft : Draft) : Option (Draft × Draft) := do
  -- A table that was declared before, or made by keys with dots, cannot be declared.
  let found ← lookup path draft
  match found with
  | none => return (← change false some path draft, empty)
  | some (.table inner) =>
    if inner.isImplied && !inner.isDotted then
      return (← change false (fun parent => some (parent.erase key)) path draft, inner.declared)
    else none
  | some _ => none
where
  /-- What the header's key stands for, if the path to it can be walked. -/
  lookup : List String → Draft → Option (Option Slot)
    -- The last of tables in a row is the one that a path enters.
    | [], draft => some (draft.find? key)
    | step :: path, draft =>
      match draft.find? step with
      | none => some none
      | some (.value _) => none
      | some (.table inner) => lookup path inner
      | some (.tables _ last) => lookup path last

/-- Puts a declared table into its place, behind the keys that are already there. -/
def close (draft : Draft) (path : List String) (key : String) (table : Draft) : Option Draft :=
  -- Nothing else can have taken the place in the meantime but an implied table.
  change false (fun parent =>
    match parent.find? key with
    | none => some (parent.set key (.table table))
    | some (.table inner) => if inner.isImplied then some (parent.set key (.table table)) else none
    | some _ => none) path draft

/-- Whether a table can be put behind tables in a row. -/
def canPush (path : List String) (key : String) (draft : Draft) : Bool :=
  -- The key has to be free or to stand for tables in a row already.
  (change false (fun parent =>
    match parent.find? key with
    | none => some parent
    | some (.tables _ _) => some parent
    | some _ => none) path draft).isSome

/-- Puts a table behind the tables in a row that a key stands for. -/
def push (draft : Draft) (path : List String) (key : String) (table : Draft) : Option Draft :=
  -- The first table makes the row.
  change false (fun parent =>
    match parent.find? key with
    | none => some (parent.set key (.tables [] table))
    | some (.tables earlier last) => some (parent.set key (.tables (earlier ++ [last]) table))
    | some _ => none) path draft

end Draft

mutual

/-- The finished entries of a table. -/
def Draft.finish : Draft → Entries
  -- How the table came to be no longer matters.
  | .mk _ _ entries => finishEntries entries

/-- The finished value behind a key. -/
def Slot.finish : Slot → Value
  -- Tables in a row are an array of tables.
  | .value value => value
  | .table draft => .table draft.finish
  | .tables earlier last => .array (finishRow earlier ++ [.table last.finish])

/-- The finished form of entries. -/
def finishEntries : List (String × Slot) → Entries
  -- The order is kept.
  | [] => []
  | (key, slot) :: rest => (key, slot.finish) :: finishEntries rest

/-- The finished form of tables in a row. -/
def finishRow : List Draft → List Value
  -- The order is kept.
  | [] => []
  | draft :: rest => .table draft.finish :: finishRow rest

end

end Wakeful.Toml
