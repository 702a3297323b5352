import Wakeful.Proofs.Toml.Plain

/-!
What plain values have and arrays and tables without a
repeated key hand on, every value of a document has.
-/

namespace Wakeful.Toml

/--
A property of plain values that arrays and tables without a repeated key have from what they hold.
-/
structure Composes (property : Value → Prop) : Prop where
  /-- Plain values have it. -/
  plain : ∀ value : Value, value.Plain → property value
  /-- An array has it if each of its items has. -/
  array : ∀ items : List Value, (∀ item ∈ items, property item) → property (.array items)
  /-- A table has it if no key is repeated and each of its values has. -/
  table : ∀ entries : Entries, (entries.map Prod.fst).Nodup →
    (∀ entry ∈ entries, property entry.2) →
    property (.table entries)

mutual

/-- A table under construction is composed of values with a property. -/
inductive Draft.Composed (property : Value → Prop) : Draft → Prop where
  /-- No key is repeated, and whatever a key stands for is composed of them. -/
  | mk {isImplied isDotted : Bool} {entries : List (String × Slot)}
      (keys : (entries.map Prod.fst).Nodup) (each : ∀ entry ∈ entries,
        Slot.Composed property entry.2) :
      Draft.Composed property (.mk isImplied isDotted entries)

/-- What a key stands for is composed of values with a property. -/
inductive Slot.Composed (property : Value → Prop) : Slot → Prop where
  /-- A finished value has the property. -/
  | value {value : Value} (has : property value) : Slot.Composed property (.value value)
  /-- A table that may still grow is composed of such values. -/
  | table {draft : Draft} (inner : Draft.Composed property draft) :
      Slot.Composed property (.table draft)
  /-- Each of the tables in a row is composed of such values. -/
  | tables {earlier : List Draft} {last : Draft}
      (each : ∀ draft ∈ earlier, Draft.Composed property draft)
      (final : Draft.Composed property last) : Slot.Composed property (.tables earlier last)

end

variable {property : Value → Prop}

namespace Draft

variable {draft after : Draft} {key : String} {slot : Slot}

/-- A table is composed of such values if no key is repeated and all that its keys stand for is. -/
theorem composed_iff : draft.Composed property ↔
    (draft.entries.map Prod.fst).Nodup ∧ ∀ entry ∈ draft.entries, entry.2.Composed property := by
  -- The one rule asks for just these two.
  constructor
  · rintro ⟨keys, each⟩
    exact ⟨keys, each⟩
  · rintro ⟨keys, each⟩
    cases draft with
    | mk isImplied isDotted entries => exact .mk keys each

/-- A table without entries holds nothing else. -/
theorem Composed.empty : empty.Composed property := .mk (by simp) (by simp)

/-- A table that a longer key has just made holds nothing yet. -/
theorem Composed.implied (byDots : Bool) : (implied byDots).Composed property :=
  .mk (by simp) (by simp)

/-- How a table is mentioned has nothing to do with what it holds. -/
theorem Composed.declared (composed : draft.Composed property) :
    draft.declared.Composed property := by
  -- The marks are no part of what is composed.
  obtain ⟨keys, each⟩ := composed
  exact .mk keys each

/-- Whatever a key stands for is composed as its table is. -/
theorem Composed.find? (composed : draft.Composed property) (found : draft.find? key = some slot) :
    slot.Composed property := by
  -- A key that is found is one of the entries.
  rw [Draft.find?, List.lookup_eq_some_iff] at found
  obtain ⟨before, behind, split, -⟩ := found
  exact (composed_iff.mp composed).2 (key, slot) (by simp [split])

/-- To set a key to something composed of such values keeps the table composed of them. -/
theorem Composed.set (composed : draft.Composed property) (key : String)
    (inner : slot.Composed property) : (draft.set key slot).Composed property := by
  -- The key stands for something else from now on, or is put behind the others.
  obtain ⟨keys, each⟩ := composed
  rename_i isImplied isDotted entries
  unfold Draft.set
  split
  · apply Composed.mk
    · have same : (entries.map fun entry => if entry.1 == key then (key, slot)
        else entry).map Prod.fst =
          entries.map Prod.fst := by
        rw [List.map_map]
        apply List.map_congr_left
        intro entry there
        by_cases named : entry.1 = key <;> simp [named]
      rw [← same] at keys
      exact keys
    · intro entry there
      obtain ⟨before, was, rfl⟩ := List.mem_map.mp there
      split
      · exact inner
      · exact each before was
  · rename_i unset
    apply Composed.mk
    · have new : key ∉ entries.map Prod.fst := by
        simpa [Draft.entries, List.any_eq_true] using unset
      have grown : ((entries ++ [(key, slot)]).map Prod.fst).Nodup := by
        rw [List.map_append, List.nodup_append]
        refine ⟨keys, by simp, ?_⟩
        intro other there last only
        rw [List.mem_singleton.mp only]
        rintro rfl
        exact new there
      exact grown
    · intro entry there
      rcases List.mem_append.mp there with was | new
      · exact each entry was
      · cases List.mem_singleton.mp new
        exact inner

/-- To erase a key keeps the table composed of such values. -/
theorem Composed.erase (composed : draft.Composed property) (key : String) :
    (draft.erase key).Composed property := by
  -- What is left are some of the entries.
  obtain ⟨keys, each⟩ := composed
  exact .mk (keys.sublist (List.filter_sublist.map Prod.fst)) fun entry there =>
    each entry (List.mem_filter.mp there).1

/-- What keeps one table composed of such values keeps it so at the end of a path too. -/
theorem Composed.change {byDots : Bool} {update : Draft → Option Draft}
    (keeps : ∀ inner last,
      inner.Composed property → update inner = some last → last.Composed property)
    {path : List String} (composed : draft.Composed property)
    (changed : Draft.change byDots update path draft = some after) : after.Composed property := by
  -- The induction is over the path, whose first key says which table comes next.
  induction path generalizing draft after with
  | nil => exact keeps draft after composed changed
  | cons key path ih =>
    unfold Draft.change at changed
    split at changed
    · -- The key is new, and a table is made for it.
      obtain ⟨inner, made, rfl⟩ := Option.map_eq_some_iff.mp changed
      exact composed.set key (.table (ih (Composed.implied byDots) made))
    · cases changed
    · rename_i inner found
      split at changed
      · cases changed
      · obtain ⟨last, made, rfl⟩ := Option.map_eq_some_iff.mp changed
        cases composed.find? found with
        | table before => exact composed.set key (.table (ih before made))
    · -- Of a row the last table is changed.
      rename_i earlier last found
      obtain ⟨final, made, rfl⟩ := Option.map_eq_some_iff.mp changed
      cases composed.find? found with
      | tables each before => exact composed.set key (.tables each (ih before made))

/-- A value with the property can be added. -/
theorem Composed.add {path : List String} {value : Value} (composed : draft.Composed property)
    (has : property value) (added : Draft.add path key value draft = some after) :
    after.Composed property := by
  -- The value comes into a table at the end of the path that has no such key.
  refine Composed.change ?_ composed added
  intro inner last before made
  split at made
  · cases made
  · split at made <;> cases made
    exact before.set key (.value has)

/-- What a header's key stands for is composed as the document is. -/
theorem Composed.lookup {path : List String} (composed : draft.Composed property)
    (found : Draft.open?.lookup key path draft = some (some slot)) : slot.Composed property := by
  -- The induction is over the path, of which every table and the last of every row leads on.
  induction path generalizing draft with
  | nil => exact composed.find? (Option.some.inj found)
  | cons step path ih =>
    unfold Draft.open?.lookup at found
    split at found
    · cases found
    · cases found
    · rename_i inner there
      cases composed.find? there with
      | table before => exact ih before found
    · rename_i earlier last there
      cases composed.find? there with
      | tables each before => exact ih before found

/-- A table that is taken out and what it is taken out of are both composed of such values. -/
theorem Composed.open? {path : List String} {table : Draft} (composed : draft.Composed property)
    (opened : Draft.open? path key draft = some (after, table)) :
    after.Composed property ∧ table.Composed property := by
  -- The table is new, or it has been mentioned only in passing and is taken out.
  simp only [Draft.open?, Option.bind_eq_bind, Option.bind_eq_some_iff] at opened
  obtain ⟨found, there, opened⟩ := opened
  split at opened
  · obtain ⟨outside, changed, made⟩ := Option.bind_eq_some_iff.mp opened
    cases made
    refine ⟨Composed.change ?_ composed changed, Composed.empty⟩
    intro inner last before same
    cases same
    exact before
  · rename_i inner
    split at opened
    · obtain ⟨outside, changed, made⟩ := Option.bind_eq_some_iff.mp opened
      cases made
      cases composed.lookup there with
      | table before =>
        refine ⟨Composed.change ?_ composed changed, before.declared⟩
        intro parent last kept erased
        cases erased
        exact kept.erase key
    · cases opened
  · cases opened

/-- A table composed of such values can be put into its place. -/
theorem Composed.close {path : List String} {table : Draft} (composed : draft.Composed property)
    (inner : table.Composed property) (closed : draft.close path key table = some after) :
    after.Composed property := by
  -- The table comes back to where it was taken from, or to a new key.
  refine Composed.change ?_ composed closed
  intro parent last before made
  split at made
  · cases made
    exact before.set key (.table inner)
  · split at made <;> cases made
    exact before.set key (.table inner)
  · cases made

/-- A table composed of such values can be put behind others. -/
theorem Composed.push {path : List String} {table : Draft} (composed : draft.Composed property)
    (inner : table.Composed property) (pushed : draft.push path key table = some after) :
    after.Composed property := by
  -- The table begins a row, or is put behind the last one of its row.
  refine Composed.change ?_ composed pushed
  intro parent last before made
  split at made
  · cases made
    exact before.set key (.tables (by simp) inner)
  · -- The last table of the row so far becomes one of the earlier ones.
    rename_i earlier final there
    cases made
    cases before.find? there with
    | tables each kept =>
      refine before.set key (.tables ?_ inner)
      intro one member
      rcases List.mem_append.mp member with was | new
      · exact each one was
      · rw [List.mem_singleton.mp new]
        exact kept
  · cases made

end Draft

/-- Finished entries have the keys that they had before. -/
theorem finishEntries_keys (entries : List (String × Slot)) :
    (finishEntries entries).map Prod.fst = entries.map Prod.fst := by
  -- By induction on the entries, whose keys are kept one by one.
  induction entries with
  | nil => simp [finishEntries]
  | cons entry rest ih => simp [finishEntries, ih]

mutual

/-- A finished table has no repeated key, and its values have the property. -/
theorem Draft.Composed.finish (composes : Composes property) {draft : Draft}
    (composed : draft.Composed property) :
    (draft.finish.map Prod.fst).Nodup ∧ ∀ entry ∈ draft.finish, property entry.2 := by
  -- The entries are finished under their own keys.
  cases draft with
  | mk isImplied isDotted entries =>
    obtain ⟨keys, each⟩ := Draft.composed_iff.mp composed
    rw [Draft.finish, finishEntries_keys]
    exact ⟨keys, finishEntries_composed composes each⟩

/-- The finished value behind a key has the property. -/
theorem Slot.Composed.finish (composes : Composes property) {slot : Slot}
    (composed : slot.Composed property) : property slot.finish := by
  -- By what the slot holds: a value, a table or a row of tables.
  cases slot with
  | value value =>
    cases composed with
    | value has =>
      rw [Slot.finish]
      exact has
  | table draft =>
    cases composed with
    | table inner =>
      rw [Slot.finish]
      obtain ⟨keys, each⟩ := inner.finish composes
      exact composes.table _ keys each
  | tables earlier last =>
    -- The row is the earlier tables and the one that is still open.
    cases composed with
    | tables each final =>
      rw [Slot.finish]
      apply composes.array
      intro item there
      rcases List.mem_append.mp there with one | only
      · exact finishRow_composed composes each item one
      · rw [List.mem_singleton.mp only]
        obtain ⟨keys, each⟩ := final.finish composes
        exact composes.table _ keys each

/--
The values of finished entries have the property if what
their keys stood for was composed of such values.
-/
theorem finishEntries_composed (composes : Composes property) {entries : List (String × Slot)}
    (each : ∀ entry ∈ entries, entry.2.Composed property) :
    ∀ entry ∈ finishEntries entries, property entry.2 := by
  -- The entries become shorter from one call to the next.
  cases entries with
  | nil =>
    rw [finishEntries]
    simp
  | cons first rest =>
    obtain ⟨key, slot⟩ := first
    rw [finishEntries]
    intro entry there
    rcases List.mem_cons.mp there with rfl | later
    · have composed : slot.Composed property := each (key, slot) List.mem_cons_self
      exact composed.finish composes
    · exact finishEntries_composed composes
        (fun other member => each other (List.mem_cons_of_mem _ member)) entry later

/-- Finished tables in a row have the property if the tables were composed of such values. -/
theorem finishRow_composed (composes : Composes property) {drafts : List Draft}
    (each : ∀ draft ∈ drafts, draft.Composed property) :
    ∀ item ∈ finishRow drafts, property item := by
  -- Every table of a row is finished by itself.
  cases drafts with
  | nil =>
    rw [finishRow]
    simp
  | cons first rest =>
    rw [finishRow]
    intro item there
    rcases List.mem_cons.mp there with rfl | later
    · obtain ⟨keys, each⟩ := (each first List.mem_cons_self).finish composes
      exact composes.table _ keys each
    · exact finishRow_composed composes
        (fun other member => each other (List.mem_cons_of_mem _ member)) item later

end

variable {item : Reader Value}

/-- Values in a row have the property if each of them has. -/
theorem items?_composed (each : ReadsOnly property item) {fuel : Nat} {read values : List Value}
    {characters rest : List Char} (before : ∀ value ∈ read, property value)
    (reads : items? item fuel read characters = some (values, rest)) :
    ∀ value ∈ values, property value := by
  -- The induction is over the turns, each of which adds one value.
  induction fuel generalizing read characters with
  | zero => cases reads
  | succ fuel ih =>
    unfold items? at reads
    have more : ∀ {value : Value} {found left : List Char}, item found = some (value, left) →
        ∀ other ∈ value :: read, property other := by
      intro value found left taken other member
      rcases List.mem_cons.mp member with rfl | earlier
      · exact each found other left taken
      · exact before other earlier
    split at reads
    · cases reads
    · cases reads
      intro value member
      exact before value (List.mem_reverse.mp member)
    · split at reads
      · cases reads
      · rename_i value left taken
        split at reads
        · -- A comma asks for more, and a bracket ends the array.
          exact ih (more taken) reads
        · cases reads
          intro other member
          exact more taken other (List.mem_reverse.mp member)
        · cases reads

/-- Keys with values make a table composed of such values if each value has the property. -/
theorem pairs?_composed (each : ReadsOnly property item) {fuel : Nat} {draft after : Draft}
    {characters rest : List Char} (before : draft.Composed property)
    (reads : pairs? item fuel draft characters = some (after, rest)) : after.Composed property := by
  -- The induction is over the turns, each of which adds one key.
  induction fuel generalizing draft characters with
  | zero => cases reads
  | succ fuel ih =>
    unfold pairs? at reads
    split at reads
    · split at reads
      · cases reads
      · rename_i value left taken
        split at reads
        · rename_i added _
          exact ih (before.add (each _ value left taken) added) reads
        · rename_i added _
          cases reads
          exact before.add (each _ value left taken) added
        · cases reads
    · cases reads

/-- A value has the property, however deep others are nested in it. -/
theorem value?_composed (composes : Composes property) (depth : Nat) :
    ReadsOnly property (value? depth) := by
  -- The induction is over the depth, which every array and table uses up.
  have plain : ReadsOnly property plainValue? :=
    fun characters value rest read =>
      composes.plain value (plainValue?_plain characters value rest read)
  induction depth with
  | zero =>
    intro characters value rest read
    unfold value? at read
    exact plain characters value rest read
  | succ depth ih =>
    intro characters value rest read
    unfold value? at read
    split at read
    · -- The items of an array are read with one level less.
      rename_i nested inside same
      obtain rfl := Nat.succ.inj same
      obtain ⟨⟨items, left⟩, reads, made⟩ := Option.map_eq_some_iff.mp read
      cases made
      exact composes.array items (items?_composed ih (by simp) reads)
    · -- So are the values of a table in braces, which is finished at its end.
      rename_i nested inside same
      obtain rfl := Nat.succ.inj same
      unfold inlineTable? at read
      split at read
      · cases read
        exact composes.table [] (by simp) (by simp)
      · obtain ⟨⟨draft, left⟩, reads, made⟩ := Option.map_eq_some_iff.mp read
        cases made
        obtain ⟨keys, each⟩ := (pairs?_composed ih Draft.Composed.empty reads).finish composes
        exact composes.table _ keys each
    · exact plain _ value rest read

namespace Progress

variable {progress after : Progress}

/-- A document in the middle of its statements is composed of values with a property. -/
structure Composed (property : Value → Prop) (progress : Progress) : Prop where
  /-- So is everything outside the current section. -/
  outside : progress.outside.Composed property
  /-- So is the table of the current section. -/
  current : progress.current.Composed property

/-- A document before its first statement holds nothing yet. -/
theorem Composed.start : start.Composed property := ⟨Draft.Composed.empty, Draft.Composed.empty⟩

/-- The document so far is composed of such values when the current section is closed. -/
theorem Composed.closed (composed : progress.Composed property) {draft : Draft}
    (closed : progress.closed = some draft) : draft.Composed property := by
  -- The current section is the whole document, a table, or one of a row.
  unfold Progress.closed at closed
  split at closed
  · cases closed
    exact composed.current
  · exact composed.outside.close composed.current closed
  · exact composed.outside.push composed.current closed

/-- A value with the property can be added to the current section. -/
theorem Composed.add (composed : progress.Composed property) {path : List String} {key : String}
    {value : Value} (has : property value) (added : progress.add path key value = some after) :
    after.Composed property := by
  -- Only the current section takes the value in.
  obtain ⟨current, taken, rfl⟩ := Option.map_eq_some_iff.mp added
  exact ⟨composed.outside, composed.current.add has taken⟩

/-- A table that begins is composed of such values. -/
theorem Composed.openTable (composed : progress.Composed property) {path : List String}
    {key : String} (opened : progress.openTable path key = some after) :
    after.Composed property := by
  -- The section before is closed, and the new one is taken out of the document.
  simp only [Progress.openTable, Option.bind_eq_bind, Option.bind_eq_some_iff] at opened
  obtain ⟨draft, closed, ⟨outside, current⟩, taken, made⟩ := opened
  cases made
  have both := (composed.closed closed).open? taken
  exact ⟨both.1, both.2⟩

/-- One more table in a row begins without anything in it. -/
theorem Composed.openRow (composed : progress.Composed property) {path : List String} {key : String}
    (opened : progress.openRow path key = some after) : after.Composed property := by
  -- The section before is closed, and the new one is empty.
  simp only [Progress.openRow, Option.bind_eq_bind, Option.bind_eq_some_iff] at opened
  obtain ⟨draft, closed, made⟩ := opened
  split at made <;> cases made
  exact ⟨composed.closed closed, Draft.Composed.empty⟩

end Progress

/-- A header keeps the document composed of such values. -/
theorem header?_composed {progress after : Progress} {characters rest : List Char}
    (composed : progress.Composed property)
    (read : header? progress characters = some (after, rest)) : after.Composed property := by
  -- Two brackets open one more table of a row, and a single one a table.
  unfold header? at read
  split at read
  · simp only [Option.bind_eq_bind, Option.bind_eq_some_iff] at read
    obtain ⟨key, -, read⟩ := read
    split at read
    · simp only [Option.bind_eq_some_iff] at read
      obtain ⟨opened, taken, left, -, made⟩ := read
      cases made
      exact composed.openRow taken
    · cases read
  · simp only [Option.bind_eq_bind, Option.bind_eq_some_iff] at read
    obtain ⟨key, -, read⟩ := read
    split at read
    · simp only [Option.bind_eq_some_iff] at read
      obtain ⟨opened, taken, left, -, made⟩ := read
      cases made
      exact composed.openTable taken
    · cases read

section

variable (composes : Composes property)

include composes

/-- A key with its value keeps the document composed of such values. -/
theorem assignment?_composed {progress after : Progress} {characters rest : List Char}
    (composed : progress.Composed property)
    (read : assignment? progress characters = some (after, rest)) : after.Composed property := by
  -- The value has been read with the property before it is added.
  simp only [assignment?, Option.bind_eq_bind, Option.bind_eq_some_iff] at read
  obtain ⟨key, -, read⟩ := read
  split at read
  · simp only [Option.bind_eq_some_iff] at read
    obtain ⟨⟨value, behind⟩, found, added, taken, left, -, made⟩ := read
    cases made
    exact composed.add (value?_composed composes _ _ value behind found) taken
  · cases read

/-- A statement keeps the document composed of such values. -/
theorem statement?_composed {progress after : Progress} {characters rest : List Char}
    (composed : progress.Composed property)
    (read : statement? progress characters = some (after, rest)) : after.Composed property := by
  -- Blank lines and comments change nothing.
  unfold statement? at read
  split at read
  · obtain ⟨left, -, made⟩ := Option.map_eq_some_iff.mp read
    cases made
    exact composed
  · obtain ⟨left, -, made⟩ := Option.map_eq_some_iff.mp read
    cases made
    exact composed
  · obtain ⟨left, -, made⟩ := Option.map_eq_some_iff.mp read
    cases made
    exact composed
  · exact header?_composed composed read
  · exact assignment?_composed composes composed read

/-- Any number of statements keep the document composed of such values. -/
theorem statements?_composed {fuel : Nat} {progress after : Progress} {characters : List Char}
    (composed : progress.Composed property)
    (read : statements? fuel progress characters = some after) : after.Composed property := by
  -- The induction is over the fuel, of which every statement uses up some.
  induction fuel generalizing progress characters with
  | zero => cases read
  | succ fuel ih =>
    unfold statements? at read
    split at read
    · cases read
      exact composed
    · split at read
      · rename_i taken
        exact ih (statement?_composed composes composed taken) read
      · cases read

/-- A document has no repeated key, and its values have the property. -/
theorem parse_composed {document : String} {entries : Entries}
    (parsed : parse document = some entries) :
    (entries.map Prod.fst).Nodup ∧ ∀ entry ∈ entries, property entry.2 := by
  -- The last section is closed at the end of the document.
  simp only [parse, Option.bind_eq_bind, Option.bind_eq_some_iff] at parsed
  obtain ⟨progress, read, draft, closed, made⟩ := parsed
  cases made
  exact ((statements?_composed composes Progress.Composed.start read).closed closed).finish composes

end

end Wakeful.Toml
