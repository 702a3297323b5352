import Wakeful.Proofs.Config.Settings

/-!
Every single value of an accepted document is a setting or part of one,
unless it stands in a row of fields behind the last field.
-/

namespace Wakeful

open Toml (Value Entries Selector)

/-- A row of fields with the fields' names, and any other value as it is. -/
def Schema.named (fields : List String) : Value → Value
  -- Items behind the last field have no name.
  | .array items => .table (fields.zip items)
  | value => value

/-- What stands under a key of a document, with the names of its fields if it is a record. -/
def Config.namedAt (name : String) (value : Value) : Value :=
  -- Only two keys stand for records.
  if name = "dbus" then Schema.named Schema.bus.fields value
  else if name = "watchdog" then Schema.named Schema.watchdog.fields value
  else value

/-- A document with the names of all fields. -/
def Config.tabled (entries : Entries) : Entries :=
  -- The order and the keys are those of the document.
  entries.map fun entry => (entry.1, namedAt entry.1 entry.2)

namespace Schema

variable {fields : List String} {value found new : Value} {step : Selector} {rest : List Selector}

/-- A record is made of a row of fields as of the table with their names. -/
theorem ofValue_named {ρ : Type} (record : Record ρ) (wanted : Wanted) (value : Value) :
    record.ofValue wanted (named record.fields value) = record.ofValue wanted value := by
  cases value <;> rfl

/-- The keys of a row of fields are the first names of its fields. -/
theorem keys_zip (items : List Value) : ((fields.zip items).map Prod.fst).Sublist fields := by
  -- The induction is over the fields, each of which takes an item.
  induction fields generalizing items with
  | nil => simp
  | cons name fields ih =>
    cases items with
    | nil => simp
    | cons item items => simpa using ih items

/-- To name the fields of a row repeats no key if no name is repeated. -/
theorem distinct_named (names : fields.Nodup) (distinct : value.Distinct) :
    (named fields value).Distinct := by
  -- A named row has its keys from a prefix of the names, and a table keeps its own.
  cases distinct with
  | leaf single =>
    cases value with
    | array items => cases single
    | table entries => cases single
    | _ => exact .leaf rfl
  | @array items each =>
    refine .table (names.sublist (keys_zip items)) ?_
    intro entry there
    exact each entry.2 (List.of_mem_zip there).2
  | table keys each => exact .table keys each

/-- A named row is no row. -/
theorem named_ne_array (fields : List String) (value : Value) (items : List Value) :
    named fields value ≠ .array items := by
  cases value <;> simp [named]

/--
A value inside a record stands under the name of its field, unless it stands behind the last one.
-/
theorem at?_named (names : fields.Nodup) (there : value.at? (step :: rest) = some found)
    (within : ∀ index, step = .item index → index < fields.length) :
    ∃ name inner, step.field? fields = some name ∧
      (named fields value).at? [.key name] = some inner ∧
      inner.at? rest = some found := by
  cases step with
  | key name =>
    -- Keys lead only into tables, which are named already.
    cases value <;> simp only [Value.at?, reduceCtorEq] at there
    rename_i entries
    obtain ⟨inner, stands, leads⟩ := Option.bind_eq_some_iff.mp there
    exact ⟨name, inner, rfl, by simp [named, Value.at?, stands], leads⟩
  | item index =>
    cases value <;> simp only [Value.at?, reduceCtorEq] at there
    rename_i items
    obtain ⟨inner, stands, leads⟩ := Option.bind_eq_some_iff.mp there
    have inside := within index rfl
    have counted := List.getElem?_eq_getElem inside
    refine ⟨fields[index], inner, counted, ?_, leads⟩
    -- The item and the name of its field have the same number.
    have paired : (fields[index], inner) ∈ fields.zip items :=
      List.mem_of_getElem? (List.getElem?_zip_eq_some.mpr ⟨counted, stands⟩)
    have looked := (Toml.lookup_eq_some_iff_mem (names.sublist (keys_zip items))).mpr paired
    simp [named, Value.at?, looked]

/-- Names do not reach what is changed behind the last field. -/
theorem zip_modify {items : List Value} {index : Nat} (behind : fields.length ≤ index)
    (change : Value → Value) : fields.zip (items.modify index change) = fields.zip items := by
  -- The induction is over the fields, which come to their end before the changed item.
  induction fields generalizing items index with
  | nil => simp
  | cons name fields ih =>
    cases items with
    | nil => simp
    | cons item items =>
      cases index with
      | zero => simp at behind
      | succ index =>
        rw [List.modify_succ_cons, List.zip_cons_cons, List.zip_cons_cons]
        rw [ih (by simpa using behind)]

/-- What is put behind the last field of a row makes no difference to the names. -/
theorem named_put {index : Nat} (behind : fields.length ≤ index) :
    named fields (Value.put new (.item index :: rest) value) = named fields value := by
  -- Pairing the names with the items stops before the item that has changed.
  cases value <;> simp only [Value.put, named]
  rw [zip_modify behind]

end Schema

namespace Config

variable {entries others : Entries} {config : Config} {name : String} {value found new : Value}
  {place rest : List Selector}

/-- A configuration is made of a document as of the same one with the names of all fields. -/
theorem ofEntries_tabled (entries : Entries) :
    Schema.config.ofEntries (tabled entries) = Schema.config.ofEntries entries := by
  -- Each entry sets its field in the same way.
  have each (state : Config) (entry : String × Value) :
      Schema.config.setKnown state (entry.1, namedAt entry.1 entry.2) =
        Schema.config.setKnown state entry := by
    obtain ⟨name, value⟩ := entry
    unfold Schema.Record.setKnown namedAt
    by_cases bus : name = "dbus"
    · subst bus
      simp [Schema.config, Schema.ofValue_named]
    · by_cases watchdog : name = "watchdog"
      · subst watchdog
        simp [Schema.config, Schema.ofValue_named]
      · simp [bus, watchdog]
  unfold tabled Schema.Record.ofEntries
  rw [List.foldlM_map]
  simp only [each]

/-- The keys of a document stay the same when its fields are named. -/
theorem keys_tabled : (tabled entries).map Prod.fst = entries.map Prod.fst := by
  simp [tabled, List.map_map, Function.comp_def]

/-- What stands under a key has the names of its fields afterwards. -/
theorem lookup_tabled :
    (tabled entries).lookup name = (entries.lookup name).map (namedAt name) := by
  -- By induction on the entries, whose keys stay as they are.
  induction entries with
  | nil => rfl
  | cons entry rest ih =>
    obtain ⟨key, value⟩ := entry
    by_cases same : name = key
    · subst same
      simp [tabled]
    · have other : (name == key) = false := beq_false_of_ne same
      simpa [tabled, List.lookup_cons, other] using ih

/-- To name the fields of a document repeats no key. -/
theorem distinct_tabled (distinct : (Value.table entries).Distinct) :
    (Value.table (tabled entries)).Distinct := by
  -- The keys stay, and of the values only the two records are named.
  refine .table (by rw [keys_tabled]; exact distinct.keys) ?_
  intro entry there
  obtain ⟨⟨name, value⟩, stands, rfl⟩ := List.mem_map.mp there
  have inner := distinct.each _ stands
  unfold namedAt
  split
  · exact Schema.distinct_named (by decide) inner
  · split
    · exact Schema.distinct_named (by decide) inner
    · exact inner

/-- With the names of all fields a document is written in tables. -/
theorem inTables_tabled : InTables (tabled entries) := by
  -- Naming turns the rows of both records into tables.
  intro entry there record items
  obtain ⟨⟨name, value⟩, stands, rfl⟩ := List.mem_map.mp there
  rcases record with rfl | rfl
  · exact Schema.named_ne_array _ _ _
  · exact Schema.named_ne_array _ _ _

/--
What is put behind the last field of a row makes no
difference to the document with the names of all fields.
-/
theorem tabled_put (surplus : Surplus place)
    (changed : Value.table others = Value.put new place (.table entries)) :
    tabled others = tabled entries := by
  -- Of all places that are surplus only one shape is left: an item of a row under a key.
  match place with
  | .key name :: .item index :: rest =>
    simp only [Value.put, Value.table.injEq] at changed
    rw [changed]
    unfold tabled
    rw [List.map_map]
    apply List.map_congr_left
    rintro ⟨key, value⟩ -
    simp only [Function.comp_apply]
    -- Only the entry under that key has changed.
    split
    · rename_i same
      subst same
      rcases surplus with ⟨rfl, behind⟩ | ⟨rfl, behind⟩
      · simp [namedAt, Schema.named_put behind]
      · simp [namedAt, Schema.named_put behind]
    · rfl
  | [] => exact surplus.elim
  | [.key _] => exact surplus.elim
  | .key _ :: .key _ :: _ => exact surplus.elim
  | .item _ :: _ => exact surplus.elim

/-- The fields for the use of the bus have different names. -/
theorem bus_names : (BusConfig.fields.map Prod.fst).Nodup := by
  decide

/-- The fields of the watchdog have different names. -/
theorem watchdog_names : (WatchdogConfig.fields.map Prod.fst).Nodup := by
  decide

/-- Every field for the use of the bus is a setting. -/
theorem busSetting_of_field {field : String} (known : field ∈ BusConfig.fields.map Prod.fst) :
    ∃ setting, BusSetting.ofKey? field = some setting ∧ setting.key = field := by
  -- There is one such field.
  simp only [BusConfig.fields, List.map_cons, List.map_nil, List.mem_singleton] at known
  subst known
  exact ⟨.enabled, by simp [BusSetting.ofKey?, BusSetting.key], rfl⟩

/-- Every field of the watchdog is a setting. -/
theorem watchdogSetting_of_field {field : String}
    (known : field ∈ WatchdogConfig.fields.map Prod.fst) :
    ∃ setting, WatchdogSetting.ofKey? field = some setting ∧ setting.key = field := by
  -- There are four such fields, each with its own setting.
  simp only [WatchdogConfig.fields, List.map_cons, List.map_nil, List.mem_cons, List.not_mem_nil,
    or_false] at known
  rcases known with rfl | rfl | rfl | rfl
  · exact ⟨.enabled, by simp [WatchdogSetting.ofKey?, WatchdogSetting.key], rfl⟩
  · exact ⟨.interval, by simp [WatchdogSetting.ofKey?, WatchdogSetting.key], rfl⟩
  · exact ⟨.program, by simp [WatchdogSetting.ofKey?, WatchdogSetting.key], rfl⟩
  · exact ⟨.arguments, by simp [WatchdogSetting.ofKey?, WatchdogSetting.key], rfl⟩

/-- A single value inside a record that fits stands in or under one of the record's fields. -/
theorem field_of_at? {fields : List (String × Shape)} (names : (fields.map Prod.fst).Nodup)
    (fits : (Shape.table fields).Fits (Schema.named (fields.map Prod.fst) value))
    (there : value.at? place = some found) (single : found.isLeaf = true)
    (within : ∀ index rest, place = .item index :: rest → index < (fields.map Prod.fst).length) :
    ∃ step rest field inner, place = step :: rest ∧ step.field? (fields.map Prod.fst) = some field ∧
      field ∈ fields.map Prod.fst ∧
      (Schema.named (fields.map Prod.fst) value).at? [.key field] = some inner ∧
      inner.at? rest = some found := by
  cases place with
  | nil =>
    -- The record itself is no single value.
    cases there
    cases value with
    | array items => cases single
    | table entries => cases single
    | _ => cases fits
  | cons step rest =>
    obtain ⟨field, inner, named, stands, leads⟩ :=
      Schema.at?_named names there fun index same => within index rest (by rw [same])
    refine ⟨step, rest, field, inner, rfl, named, ?_, stands, leads⟩
    generalize Schema.named (fields.map Prod.fst) value = table at fits stands
    cases fits with
    | @table _ entries known each =>
      simp only [Value.at?, Option.bind_eq_some_iff] at stands
      obtain ⟨value, looked, -⟩ := stands
      obtain ⟨before, behind, rfl, -⟩ := List.lookup_eq_some_iff.mp looked
      exact known (field, value) (by simp)

section Places

variable
  (values : ∀ setting : Setting,
    setting.value config =
      ((Value.table (tabled entries)).at? setting.place).getD (setting.value .default))
  (stands : (tabled entries).lookup name = some (namedAt name value))
include values stands

/-- A setting has the value that stands under the name of its field in the record under its key. -/
theorem value_of_field {setting : Setting} {field : String} {inner : Value}
    (written : setting.place = [.key name, .key field])
    (named : (namedAt name value).at? [.key field] = some inner) :
    setting.value config = inner := by
  -- A setting is read from the named document, and the
  -- record under its key is the one that is given.
  have found : (Value.table (tabled entries)).at? [.key name, .key field] = some inner := by
    simp only [Value.at?, stands, Option.bind_some] at named ⊢
    exact named
  rw [values setting, written, found, Option.getD_some]

/--
A single value under the key of the bus is its setting, unless it stands behind the last field.
-/
theorem busSetting_of_at? (bus : name = "dbus")
    (fits : (Shape.table BusConfig.fields).Fits (namedAt name value))
    (there : value.at? place = some found) (single : found.isLeaf = true)
    (counted : ¬ Surplus (.key name :: place)) :
    ∃ setting rest, Setting.ofPlace? (.key name :: place) = some (setting, rest) ∧
      (setting.value config).at? rest = some found := by
  -- A value that is not behind the last field stands under one of the names.
  subst bus
  obtain ⟨step, rest, field, inner, rfl, fielded, member, named, leads⟩ :=
    field_of_at? bus_names fits there single fun index rest same => by
      subst same
      exact Nat.lt_of_not_le fun behind => counted (.inl ⟨rfl, behind⟩)
  obtain ⟨setting, keyed, rfl⟩ := busSetting_of_field member
  refine ⟨.bus setting, rest, ?_, ?_⟩
  · -- The step names the field, and the field its setting.
    show (step.field? Schema.bus.fields).bind _ = _
    rw [show step.field? Schema.bus.fields = some setting.key from fielded, Option.bind_some, keyed]
    rfl
  · rw [value_of_field values stands rfl named]
    exact leads

/--
A single value under the key of the watchdog is a setting or
part of one, unless it stands behind the last field.
-/
theorem watchdogSetting_of_at? (watchdog : name = "watchdog")
    (fits : (Shape.table WatchdogConfig.fields).Fits (namedAt name value))
    (there : value.at? place = some found) (single : found.isLeaf = true)
    (counted : ¬ Surplus (.key name :: place)) :
    ∃ setting rest, Setting.ofPlace? (.key name :: place) = some (setting, rest) ∧
      (setting.value config).at? rest = some found := by
  -- As for the bus, with the names of the watchdog.
  subst watchdog
  obtain ⟨step, rest, field, inner, rfl, fielded, member, named, leads⟩ :=
    field_of_at? watchdog_names fits there single fun index rest same => by
      subst same
      exact Nat.lt_of_not_le fun behind => counted (.inr ⟨rfl, behind⟩)
  obtain ⟨setting, keyed, rfl⟩ := watchdogSetting_of_field member
  refine ⟨.watchdog setting, rest, ?_, ?_⟩
  · show (step.field? Schema.watchdog.fields).bind _ = _
    rw [show step.field? Schema.watchdog.fields = some setting.key from fielded, Option.bind_some,
      keyed]
    rfl
  · rw [value_of_field values stands rfl named]
    exact leads

end Places

/--
In an accepted document every single value is a setting or
part of one, unless it stands behind the last field.
-/
theorem setting_of_at? (distinct : (Value.table entries).Distinct)
    (made : Schema.config.ofEntries entries = .ok config)
    (there : (Value.table entries).at? place = some found) (single : found.isLeaf = true)
    (counted : ¬ Surplus place) : ∃ setting rest, Setting.ofPlace? place = some (setting, rest) ∧
      (setting.value config).at? rest = some found := by
  -- With the names of all fields the document is one of
  -- tables, which fits and says what each setting is.
  rw [← ofEntries_tabled] at made
  have fits := (ofEntries_ok_iff inTables_tabled (distinct_tabled distinct)).mp ⟨config, made⟩
  have values := value_of_ofEntries inTables_tabled (distinct_tabled distinct) made
  obtain ⟨known, shaped⟩ := Shape.fits_table_iff.mp fits
  match place with
  | [] =>
    cases there
    cases single
  | .item _ :: _ => cases there
  | .key name :: rest =>
    simp only [Value.at?, Option.bind_eq_some_iff] at there
    obtain ⟨value, looked, leads⟩ := there
    have stands : (tabled entries).lookup name = some (namedAt name value) := by
      rw [lookup_tabled, looked, Option.map_some]
    have among := (Toml.lookup_eq_some_iff_mem (distinct_tabled distinct).keys).mp stands
    have named := known _ among
    simp only [fields, List.map_cons, List.map_nil, List.mem_cons, List.not_mem_nil,
      or_false] at named
    rcases named with rfl | rfl | rfl
    · refine ⟨.reason, rest, rfl, ?_⟩
      have plain : namedAt "reason" value = value := by simp [namedAt]
      have written : (Value.table (tabled entries)).at? Setting.reason.place = some value := by
        simp [Setting.place, Value.at?, stands, plain]
      rw [values .reason, written]
      exact leads
    · have shape := shaped _ among (.table BusConfig.fields) (by simp [fields])
      exact busSetting_of_at? values stands rfl shape leads single counted
    · have shape := shaped _ among (.table WatchdogConfig.fields) (by simp [fields])
      exact watchdogSetting_of_at? values stands rfl shape leads single counted

/--
A single value of an accepted document counts exactly if it
does not stand behind the last field of a row.

Where it counts, its place says which setting it is or is part of, and another single value in its
place, if it is accepted, gives another configuration. Behind the last
field of a row any other value gives the same configuration.
-/
theorem value_counts_iff {document : String} (parsed : Toml.parse document = some entries)
    (loaded : ofDocument document = .ok config)
    (written : (Value.table entries).at? place = some found) (single : found.isLeaf = true) :
    (¬ Surplus place →
      (∃ setting rest, Setting.ofPlace? place = some (setting, rest) ∧
        (setting.value config).at? rest = some found) ∧
      ∀ other others new config', Toml.parse other = some others →
        Value.table others = Value.put new place (.table entries) → new.isLeaf = true →
        new ≠ found → ofDocument other = .ok config' → config' ≠ config) ∧
    (Surplus place → ∀ other others new, Toml.parse other = some others →
      Value.table others = Value.put new place (.table entries) →
        ofDocument other = .ok config) := by
  have made := (ofDocument_eq_ok_iff parsed).mp loaded
  constructor
  · intro counted
    obtain ⟨setting, rest, leads, shows⟩ :=
      setting_of_at? (Toml.parse_distinct parsed) made written single counted
    refine ⟨⟨setting, rest, leads, shows⟩, ?_⟩
    rintro other others new config' parsedOther changed singleNew differs loadedOther rfl
    -- The other document shows the other value in the same setting.
    have put : (Value.table others).at? place = some new := by
      rw [changed]
      exact Value.at?_put written
    obtain ⟨setting', rest', leads', shows'⟩ := setting_of_at? (Toml.parse_distinct parsedOther)
      ((ofDocument_eq_ok_iff parsedOther).mp loadedOther) put singleNew counted
    rw [leads] at leads'
    cases leads'
    rw [shows] at shows'
    exact differs (Option.some.inj shows').symm
  · intro surplus other others new parsedOther changed
    rw [ofDocument_eq_ok_iff parsedOther, ← ofEntries_tabled, tabled_put surplus changed,
      ofEntries_tabled]
    exact made

/-- A document with a row of all fields of the watchdog. -/
def rowDocument : String := "watchdog=[true,5,'x',['a']]"

/-- What that document says. -/
def rowEntries : Entries :=
  [("watchdog", .array [.boolean true, .integer 5, .text "x", .array [.text "a"]])]

/-- The same with another argument. -/
def otherRowDocument : String := "watchdog=[true,5,'x',['b']]"

/-- What that document says. -/
def otherRowEntries : Entries :=
  [("watchdog", .array [.boolean true, .integer 5, .text "x", .array [.text "b"]])]

/--
An argument in a row of fields is part of a setting, and
another one in its place gives another configuration.
-/
theorem argument_counts :
    ∃ config, ofDocument rowDocument = .ok config ∧
      (∃ setting rest, Setting.ofPlace? [.key "watchdog", .item 3, .item 0] = some (setting, rest) ∧
        (setting.value config).at? rest = some (.text "a")) ∧
      ∃ config', ofDocument otherRowDocument = .ok config' ∧ config' ≠ config := by
  -- Both documents are read, and they differ in one argument only.
  have parsed : Toml.parse rowDocument = some rowEntries := by cbv
  have parsedOther : Toml.parse otherRowDocument = some otherRowEntries := by cbv
  have loaded : ofDocument rowDocument =
      .ok { Config.default with watchdog := ⟨true, 5, "x", ["a"]⟩ } := by cbv
  have loadedOther :
      ofDocument otherRowDocument =
        .ok { Config.default with watchdog := ⟨true, 5, "x", ["b"]⟩ } := by cbv
  have written :
      (Value.table rowEntries).at? [.key "watchdog", .item 3, .item 0] = some (.text "a") := rfl
  have counted : ¬ Surplus [.key "watchdog", .item 3, .item 0] := by
    simp [Surplus, show Schema.watchdog.fields.length = 4 from rfl]
  obtain ⟨part, differs⟩ := (value_counts_iff parsed loaded written rfl).1 counted
  exact ⟨_, loaded, part, _, loadedOther,
    differs _ _ (.text "b") _ parsedOther rfl rfl (by simp) loadedOther⟩

/--
Of a row with one item too many the last one is no setting,
and no other value in its place makes a difference.
-/
theorem behind_row_ignored :
    Toml.parse "dbus=[true,false]" = some [("dbus", .array [.boolean true, .boolean false])] ∧
    ofDocument "dbus=[true,false]" = .ok .default ∧
    (∀ (setting : Setting) (rest : List Selector),
      (setting.value .default).at? rest ≠ some (.boolean false)) ∧
    Toml.parse "dbus=[true,true]" = some [("dbus", .array [.boolean true, .boolean true])] ∧
    ofDocument "dbus=[true,true]" = .ok .default := by
  refine ⟨by cbv, by cbv, ?_, by cbv, by cbv⟩
  intro setting rest there
  rcases setting with - | ⟨⟨⟩⟩ | ⟨_ | _ | _ | _⟩
  case watchdog.arguments =>
    -- The arguments are a single text.
    rcases rest with - | ⟨_ | ⟨_ | number⟩, tail⟩
    · cases there
    · cases there
    · cases tail with
      | nil =>
        simp [Setting.value, WatchdogSetting.value, Config.default, WatchdogConfig.default,
          Value.at?] at there
      | cons selector _ => cases (Value.at?_cons_of_isLeaf rfl selector).symm.trans there
    · cases there
  -- None of the other defaults is that value, and none has parts.
  all_goals
    cases rest with
    | nil =>
      simp [Setting.value, BusSetting.value, WatchdogSetting.value, Value.at?, Config.default,
        BusConfig.default, WatchdogConfig.default] at there
    | cons selector _ => cases (Value.at?_cons_of_isLeaf rfl selector).symm.trans there

end Config

end Wakeful
