import Wakeful.Proofs.Toml.Composition
import Wakeful.Toml.Selection

/-!
No table of a document repeats a key, so that what a key
stands for does not depend on the order of the keys.
-/

namespace Wakeful.Toml

/-- Without a repeated key, a key is looked up exactly where it stands. -/
theorem lookup_eq_some_iff_mem {α : Type} {entries : List (String × α)}
    (keys : (entries.map Prod.fst).Nodup) {name : String} {found : α} :
    entries.lookup name = some found ↔ (name, found) ∈ entries := by
  induction entries with
  | nil => simp
  | cons entry rest ih =>
    obtain ⟨key, value⟩ := entry
    simp only [List.map_cons, List.nodup_cons] at keys
    by_cases same : name = key
    · subst same
      -- The key stands at the front, and nowhere behind it.
      have absent : (name, found) ∉ rest := fun there => keys.1 (List.mem_map_of_mem there)
      simp [absent, eq_comm]
    · simp [List.lookup_cons, beq_false_of_ne same, ih keys.2, same]

/-- What a key stands for changes where the entries with this key are changed. -/
theorem lookup_map_named {α : Type} (entries : List (String × α)) (name : String) (change : α → α) :
    (entries.map fun entry =>
        if entry.1 = name then (name, change entry.2) else entry).lookup name =
      (entries.lookup name).map change := by
  -- By induction on the entries. The first one with the key decides on both sides.
  induction entries with
  | nil => rfl
  | cons entry rest ih =>
    obtain ⟨key, value⟩ := entry
    by_cases same : key = name
    · subst same
      simp
    · have other : (name == key) = false := beq_false_of_ne (Ne.symm same)
      simp [List.lookup_cons, same, other, ih]

/-- No table in a value repeats a key. -/
inductive Value.Distinct : Value → Prop where
  /-- What holds no other value has no keys. -/
  | leaf {value : Value} (single : value.isLeaf = true) : Distinct value
  /-- Every item of an array is free of repeated keys. -/
  | array {items : List Value} (each : ∀ item ∈ items, Distinct item) : Distinct (.array items)
  /-- A table repeats none of its keys, and neither does anything in it. -/
  | table {entries : Entries} (keys : (entries.map Prod.fst).Nodup)
      (each : ∀ entry ∈ entries, Distinct entry.2) : Distinct (.table entries)

/-- Values without repeated keys are what documents are composed of. -/
theorem composes_distinct : Composes Value.Distinct where
  -- A single value has no keys at all.
  plain value plain := by
    cases plain <;> exact .leaf rfl
  array _ each := .array each
  table _ keys each := .table keys each

/-- No table in a document repeats a key. -/
theorem parse_distinct {document : String} {entries : Entries}
    (parsed : parse document = some entries) : (Value.table entries).Distinct := by
  -- Whatever is parsed is composed of such values.
  obtain ⟨keys, each⟩ := parse_composed composes_distinct parsed
  exact .table keys each

namespace Value

variable {value other found new : Value} {place rest : List Selector}

/-- The keys of a table without repeated keys are not repeated. -/
theorem Distinct.keys {entries : Entries} (distinct : (Value.table entries).Distinct) :
    (entries.map Prod.fst).Nodup := by
  -- A table is no single value, so the rule for tables applies.
  cases distinct with
  | leaf single => cases single
  | table keys _ => exact keys

/-- What stands in a table without repeated keys has none either. -/
theorem Distinct.each {entries : Entries} (distinct : (Value.table entries).Distinct) :
    ∀ entry ∈ entries, entry.2.Distinct := by
  -- A table is no single value, so the rule for tables applies.
  cases distinct with
  | leaf single => cases single
  | table _ each => exact each

/-- Nothing stands inside a single value. -/
theorem at?_cons_of_isLeaf (single : value.isLeaf = true) (selector : Selector) :
    value.at? (selector :: rest) = none := by
  -- Only arrays and tables have an inside.
  cases value with
  | array items => cases single
  | table entries => cases single
  | _ => cases selector <;> rfl

/-- What has been put into a place is found there. -/
theorem at?_put (there : value.at? place = some found) :
    (put new place value).at? place = some new := by
  -- The induction is over the selectors, each of which leads into the value that is changed.
  induction place generalizing value with
  | nil => rfl
  | cons selector place ih =>
    cases selector with
    | key name =>
      cases value <;> simp only [at?, reduceCtorEq] at there
      rename_i entries
      obtain ⟨inner, stands, leads⟩ := Option.bind_eq_some_iff.mp there
      simp only [put, at?, lookup_map_named, stands, Option.map_some, Option.bind_some]
      exact ih leads
    | item index =>
      cases value <;> simp only [at?, reduceCtorEq] at there
      rename_i items
      obtain ⟨inner, stands, leads⟩ := Option.bind_eq_some_iff.mp there
      simp only [put, at?, List.getElem?_modify_eq, stands]
      exact ih leads

namespace Alike

/-- To say the same is mutual. -/
theorem symm (alike : value.Alike other) : other.Alike value := by
  -- By induction on how they are alike, with both directions of the keys exchanged.
  induction alike with
  | same value => exact .same value
  | table keys _ ih =>
    exact .table (fun name => (keys name).symm) fun name value other there here =>
      ih name other value here there

/-- Values that say the same have values that say the same under the same keys. -/
theorem under (alike : value.Alike other) (distinct : value.Distinct) (also : other.Distinct)
    {names : List String} (there : value.at? (names.map .key) = some found) :
    ∃ counterpart, other.at? (names.map .key) = some counterpart ∧ found.Alike counterpart := by
  -- The induction is over the keys, each of which leads to values that say the same.
  induction names generalizing value other with
  | nil =>
    cases there
    exact ⟨other, rfl, alike⟩
  | cons name names ih =>
    cases alike with
    | same value => exact ⟨found, there, .same found⟩
    | @table entries others keys each =>
      simp only [List.map_cons, at?, Option.bind_eq_some_iff] at there
      obtain ⟨inner, stands, leads⟩ := there
      have member := (lookup_eq_some_iff_mem distinct.keys).mp stands
      -- The other table has the key too, and what it stands for there says the same.
      obtain ⟨⟨key, across⟩, beside, named⟩ :=
        List.mem_map.mp ((keys name).mp (List.mem_map_of_mem member))
      cases named
      obtain ⟨counterpart, reached, alike⟩ := ih (each _ inner across member beside)
        (distinct.each _ member) (also.each _ beside) leads
      refine ⟨counterpart, ?_, alike⟩
      simp only [List.map_cons, at?, (lookup_eq_some_iff_mem also.keys).mpr beside,
        Option.bind_some]
      exact reached

end Alike

end Value

end Wakeful.Toml
