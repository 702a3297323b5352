import Mathlib
import Wakeful.Proofs.Config.Reading

/-!
A configuration takes each of its settings from the place in the document
where it is written, and from the defaults if it is not.
-/

namespace Wakeful

open Toml (Value Entries Selector)

namespace Schema

namespace Record.Reads

variable {ρ ι : Type} {record : Record ρ} {fields : List (String × Shape)} {key : ι → String}
  {rest : ι → List Selector} {shown : ι → ρ → Value} {value : Value} {wanted : Wanted} {after : ρ}

/-- A record can be made of a value that is no array if the value is a table of the right shape. -/
theorem ofValue_ok_iff (reads : record.Reads fields (fun _ _ => True) key rest shown)
    (single : ∀ items, value ≠ .array items) :
    (∃ after, record.ofValue wanted value = .ok after) ↔ (Shape.table fields).Fits value := by
  cases value with
  | table entries => exact reads.foldlM_ok_iff fun _ _ => trivial
  | array items => exact absurd rfl (single items)
  | _ =>
    -- Nothing else is accepted or has the shape of a table.
    constructor
    · rintro ⟨after, made⟩
      cases made
    · intro fits
      cases fits

/-- A record that is made of a value shows every setting as it is written there, or the default. -/
theorem shown_ofValue (reads : record.Reads fields (fun _ _ => True) key rest shown)
    (distinct : value.Distinct) (single : ∀ items, value ≠ .array items)
    (made : record.ofValue wanted value = .ok after) (setting : ι) : shown setting after =
      (value.at? (.key (key setting) :: rest setting)).getD (shown setting record.default) := by
  -- Only a table makes such a record, and its fields are read one by one.
  cases value with
  | table entries => exact reads.shown_ofEntries distinct.keys (fun _ _ => trivial) made setting
  | array items => exact absurd rfl (single items)
  | _ => cases made

end Record.Reads

/-- The use of the bus is read field by field. -/
theorem bus_reads :
    bus.Reads BusConfig.fields (fun _ _ => True) BusSetting.key (fun _ => []) BusSetting.value where
  -- There is one field, and setting it changes the one setting.
  names := rfl
  fits before among _ := by
    cases List.mem_singleton.mp among
    rw [fits_boolean_iff]
    exact exists_bind_ok_iff
  sets known _ set setting := by
    cases List.mem_singleton.mp known
    obtain ⟨enabled, taken, made⟩ := ok_of_bind set
    cases made
    cases setting
    simp [BusSetting.key, BusSetting.value, Value.at?, boolean_eq_ok_iff.mp taken]

/-- The watchdog is read field by field. -/
theorem watchdog_reads :
    watchdog.Reads WatchdogConfig.fields (fun _ _ => True) WatchdogSetting.key (fun _ => [])
      WatchdogSetting.value where
  names := rfl
  fits before among _ := by
    simp only [WatchdogConfig.fields, List.mem_cons, Prod.mk.injEq, List.not_mem_nil,
      or_false] at among
    rcases among with ⟨rfl, rfl⟩ | ⟨rfl, rfl⟩ | ⟨rfl, rfl⟩ | ⟨rfl, rfl⟩
    · rw [fits_boolean_iff]
      exact exists_bind_ok_iff
    · rw [fits_count_iff]
      exact exists_bind_ok_iff
    · rw [fits_text_iff]
      exact exists_bind_ok_iff
    · rw [fits_texts_iff]
      exact exists_bind_ok_iff
  sets known _ set setting := by
    -- The field that is set shows what has been read, and each
    -- of the other three what it showed before.
    simp only [watchdog, List.mem_cons, List.not_mem_nil, or_false] at known
    rcases known with rfl | rfl | rfl | rfl <;> obtain ⟨read, taken, made⟩ :=
      ok_of_bind set <;> cases made
    · cases setting <;>
        simp [WatchdogSetting.key, WatchdogSetting.value, Value.at?, boolean_eq_ok_iff.mp taken]
    · cases setting <;>
        simp [WatchdogSetting.key, WatchdogSetting.value, Value.at?, count_eq_ok_iff.mp taken]
    · cases setting <;>
        simp [WatchdogSetting.key, WatchdogSetting.value, Value.at?, text_eq_ok_iff.mp taken]
    · cases setting <;>
        simp [WatchdogSetting.key, WatchdogSetting.value, Value.at?, texts_eq_ok_iff.mp taken]

/-- What may be written under a key for the records to be tables without repeated keys. -/
def Tabular (name : String) (value : Value) : Prop :=
  value.Distinct ∧ (name = "dbus" ∨ name = "watchdog" → ∀ items, value ≠ .array items)

/-- The key under which a setting is written in the document itself. -/
def outerKey : Setting → String
  | .reason => "reason"
  | .bus _ => "dbus"
  | .watchdog _ => "watchdog"

/-- The keys under which a setting is written from there. -/
def innerPlace : Setting → List Selector
  | .reason => []
  | .bus inner => [.key inner.key]
  | .watchdog inner => [.key inner.key]

/-- The place of a setting begins with its outer key. -/
theorem place_eq (setting : Setting) :
    setting.place = .key (outerKey setting) :: innerPlace setting := by
  cases setting <;> rfl

/-- A configuration of tables is read field by field. -/
theorem config_reads : config.Reads Config.fields Tabular outerKey innerPlace Setting.value where
  names := rfl
  fits before among admitted := by
    simp only [Config.fields, List.mem_cons, Prod.mk.injEq, List.not_mem_nil, or_false] at among
    rcases among with ⟨rfl, rfl⟩ | ⟨rfl, rfl⟩ | ⟨rfl, rfl⟩
    · rw [fits_text_iff]
      exact exists_bind_ok_iff
    · rw [← bus_reads.ofValue_ok_iff (admitted.2 (.inl rfl))]
      exact exists_bind_ok_iff
    · rw [← watchdog_reads.ofValue_ok_iff (admitted.2 (.inr rfl))]
      exact exists_bind_ok_iff
  sets known admitted set setting := by
    -- A record is made anew from its own defaults, and the settings outside it stay as they are.
    simp only [config, List.mem_cons, List.not_mem_nil, or_false] at known
    rcases known with rfl | rfl | rfl <;> obtain ⟨read, taken, made⟩ :=
      ok_of_bind set <;> cases made
    · cases setting <;>
        simp [outerKey, innerPlace, Setting.value, Value.at?, text_eq_ok_iff.mp taken]
    · have inner := bus_reads.shown_ofValue admitted.1 (admitted.2 (.inl rfl)) taken
      cases setting <;>
        simp [outerKey, innerPlace, Setting.value, inner, config, Config.default, bus]
    · have inner := watchdog_reads.shown_ofValue admitted.1 (admitted.2 (.inr rfl)) taken
      cases setting <;>
        simp [outerKey, innerPlace, Setting.value, inner, config, Config.default, watchdog]

end Schema

/-- Configurations with the same settings are the same. -/
theorem Config.eq_of_settings {config other : Config}
    (same : ∀ setting : Setting, setting.value config = setting.value other) : config = other := by
  -- Each setting wraps one part of the configuration, and the wrappings are injective.
  have texts : config.watchdog.arguments = other.watchdog.arguments := by
    have row := Value.array.inj (same (.watchdog .arguments))
    exact (List.map_inj_right fun _ _ equal => Value.text.inj equal).mp row
  have reason := Value.text.inj (same .reason)
  have used := Value.boolean.inj (same (.bus .enabled))
  have enabled := Value.boolean.inj (same (.watchdog .enabled))
  have interval := Int.ofNat.inj (Value.integer.inj (same (.watchdog .interval)))
  have program := Value.text.inj (same (.watchdog .program))
  obtain ⟨reason, ⟨used⟩, ⟨enabled, interval, program, arguments⟩⟩ := config
  obtain ⟨reason', ⟨used'⟩, ⟨enabled', interval', program', arguments'⟩⟩ := other
  simp_all

namespace Config

variable {document : String} {entries : Entries} {config : Config}

/-- Entries that are written as tables can be read field by field. -/
theorem InTables.tabular (inTables : InTables entries) (distinct : (Value.table entries).Distinct) :
    ∀ entry ∈ entries, Schema.Tabular entry.1 entry.2 :=
  fun entry there => ⟨distinct.each entry there, inTables entry there⟩

/-- Entries that are written as tables make a configuration if they have the shape of one. -/
theorem ofEntries_ok_iff (inTables : InTables entries) (distinct : (Value.table entries).Distinct) :
    (∃ config, Schema.config.ofEntries entries = .ok config) ↔
      (Shape.table fields).Fits (.table entries) :=
  Schema.config_reads.foldlM_ok_iff (inTables.tabular distinct)

/--
In a configuration that such entries make, every setting is as it is written there, or the default.
-/
theorem value_of_ofEntries (inTables : InTables entries) (distinct : (Value.table entries).Distinct)
    (made : Schema.config.ofEntries entries = .ok config) (setting : Setting) :
    setting.value config =
      ((Value.table entries).at? setting.place).getD (setting.value .default) := by
  -- The records are tables without repeated keys, as the schema asks for.
  rw [Schema.place_eq]
  exact Schema.config_reads.shown_ofEntries distinct.keys (inTables.tabular distinct) made setting

/-- A document is accepted with the configuration that its entries make. -/
theorem ofDocument_eq_ok_iff (parsed : Toml.parse document = some entries) :
    ofDocument document = .ok config ↔ Schema.config.ofEntries entries = .ok config := by
  simp only [ofDocument, parsed, mapError_eq_ok_iff]

/-- A document of tables is accepted if it has the shape of a configuration. -/
theorem ofDocument_ok_iff (parsed : Toml.parse document = some entries)
    (inTables : InTables entries) :
    (∃ config, ofDocument document = .ok config) ↔ (Shape.table fields).Fits (.table entries) := by
  -- What has been parsed repeats no key, so only the shape is left to ask for.
  simp only [ofDocument_eq_ok_iff parsed]
  exact ofEntries_ok_iff inTables (Toml.parse_distinct parsed)

/-- In an accepted document of tables every setting is as it is written there, or the default. -/
theorem value_of_ofDocument (parsed : Toml.parse document = some entries)
    (inTables : InTables entries) (loaded : ofDocument document = .ok config) (setting : Setting) :
    setting.value config =
      ((Value.table entries).at? setting.place).getD (setting.value .default) :=
  value_of_ofEntries inTables (Toml.parse_distinct parsed)
    ((ofDocument_eq_ok_iff parsed).mp loaded) setting

/-- What a setting is set to is no table. -/
theorem value_ne_table (setting : Setting) (config : Config) (entries : Entries) :
    setting.value config ≠ .table entries := by
  -- Every setting is shown as a single value or as a row.
  cases setting with
  | reason => simp [Setting.value]
  | bus inner => cases inner; simp [Setting.value, BusSetting.value]
  | watchdog inner => cases inner <;> simp [Setting.value, WatchdogSetting.value]

/-- Where one of two documents that say the same has a setting, the other has the same. -/
theorem at?_of_alike {others : Entries} (distinct : (Value.table entries).Distinct)
    (also : (Value.table others).Distinct) (alike : (Value.table entries).Alike (.table others))
    (setting : Setting)
    (there : (Value.table entries).at? setting.place = some (setting.value config)) :
    (Value.table others).at? setting.place = some (setting.value config) := by
  have named : ∃ names : List String, setting.place = names.map .key := by
    cases setting with
    | reason => exact ⟨["reason"], rfl⟩
    | bus inner => exact ⟨["dbus", inner.key], rfl⟩
    | watchdog inner => exact ⟨["watchdog", inner.key], rfl⟩
  obtain ⟨names, named⟩ := named
  rw [named] at there ⊢
  obtain ⟨counterpart, reached, same⟩ := alike.under distinct also there
  -- Only tables can be written in several orders.
  generalize spelled : setting.value config = value at same ⊢
  cases same with
  | same => exact reached
  | table _ _ => exact absurd spelled (value_ne_table setting config _)

/-- What has the shape of a configuration is written as tables. -/
theorem inTables_of_fits (fits : (Shape.table fields).Fits (.table entries)) :
    InTables entries := by
  -- The shape asks for tables under both keys.
  obtain ⟨-, each⟩ := Shape.fits_table_iff.mp fits
  rintro ⟨name, value⟩ there (rfl | rfl) items rfl
  · cases each _ there (.table BusConfig.fields) (by simp [fields])
  · cases each _ there (.table WatchdogConfig.fields) (by simp [fields])

/--
Documents of tables that say the same give the same configuration, whatever the order of their keys.
-/
theorem ofDocument_of_alike {other : String} {others : Entries}
    (parsed : Toml.parse document = some entries) (inTables : InTables entries)
    (loaded : ofDocument document = .ok config) (parsedOther : Toml.parse other = some others)
    (alike : (Value.table entries).Alike (.table others)) : ofDocument other = .ok config := by
  -- The other document has the same shape, and so the same settings.
  have fits := ((ofDocument_ok_iff parsed inTables).mp ⟨config, loaded⟩).alike alike
  have inTablesToo := inTables_of_fits fits
  obtain ⟨config', loadedOther⟩ := (ofDocument_ok_iff parsedOther inTablesToo).mpr fits
  have distinct := Toml.parse_distinct parsed
  have also := Toml.parse_distinct parsedOther
  have same : config' = config := by
    apply eq_of_settings
    intro setting
    have here := value_of_ofDocument parsed inTables loaded setting
    have there := value_of_ofDocument parsedOther inTablesToo loadedOther setting
    cases written : (Value.table entries).at? setting.place with
    | some value =>
      rw [written, Option.getD_some] at here
      rw [← here] at written
      rw [there, at?_of_alike distinct also alike setting written, Option.getD_some]
    | none =>
      cases beside : (Value.table others).at? setting.place with
      | some value =>
        rw [beside, Option.getD_some] at there
        rw [← there] at beside
        rw [at?_of_alike also distinct alike.symm setting beside] at written
        cases written
      | none => rw [there, beside, here, written]
  rw [loadedOther, same]

/-- The contents of a file are read as the document that they spell. -/
theorem ofReading_eq_ofDocument {contents : Octets}
    (spelled : Octets.text? contents = some document) :
    ofReading (.ok contents) = ofDocument document := by
  simp only [ofReading, spelled]

/--
A file that is not there gives the defaults, and one that
cannot be read or is no text gives a failure.

A document that is written with tables is accepted exactly if all its keys are known and
all its values are of their keys' kinds. Each setting is then as it is written, or else
its own default, and the order of keys and tables makes no difference.
-/
theorem loaded_iff_fits :
    ofReading (.error (.refused .notFound)) = .ok .default ∧
    (∀ reason, reason ≠ .refused .notFound →
      ofReading (.error reason) = .error (.unreadable reason)) ∧
    (∀ contents, Octets.text? contents = none →
      ofReading (.ok contents) = .error (.unreadable .notText)) ∧
    ∀ contents document entries, Octets.text? contents = some document →
      Toml.parse document = some entries →
      InTables entries →
      ((∃ config, ofReading (.ok contents) = .ok config) ↔
        (Shape.table fields).Fits (.table entries)) ∧
      ∀ config, ofReading (.ok contents) = .ok config →
        (∀ setting : Setting,
          setting.value config =
            ((Value.table entries).at? setting.place).getD (setting.value .default)) ∧
        ∀ reordered other others, Octets.text? reordered = some other →
          Toml.parse other = some others →
          (Value.table entries).Alike (.table others) → ofReading (.ok reordered) = .ok config := by
  -- A file that cannot be read, or not as text, never gets as far as the document.
  refine ⟨rfl, ?_, ?_, ?_⟩
  · intro reason otherwise
    unfold ofReading
    split
    · rename_i same
      cases same
      exact absurd rfl otherwise
    · rename_i same
      cases same
      rfl
    · rename_i impossible
      cases impossible
  · intro contents noText
    simp only [ofReading, noText]
  · -- From here on everything is about the entries of the document.
    intro contents document entries spelled parsed inTables
    rw [ofReading_eq_ofDocument spelled]
    refine ⟨ofDocument_ok_iff parsed inTables, ?_⟩
    intro config loaded
    refine ⟨value_of_ofDocument parsed inTables loaded, ?_⟩
    intro reordered other others spelledOther parsedOther alike
    rw [ofReading_eq_ofDocument spelledOther]
    exact ofDocument_of_alike parsed inTables loaded parsedOther alike

/-- A document that mentions the watchdog before the bus, and neither reason nor program. -/
def shortDocument : String := "watchdog.interval_secs=5\n[dbus]\nenabled=false"

/-- What that document says. -/
def shortEntries : Entries :=
  [("watchdog", .table [("interval_secs", .integer 5)]),
    ("dbus", .table [("enabled", .boolean false)])]

/-- The same with the keys in another order and written in other ways. -/
def turnedDocument : String := "dbus={enabled=false}\n[watchdog]\ninterval_secs=0x5"

/--
A document with two keys in two tables is accepted, with every
other setting at its default and in either order.
-/
theorem loaded_short :
    Toml.parse shortDocument = some shortEntries ∧ InTables shortEntries ∧
    ((∃ config, ofReading (.ok (Octets.ofText shortDocument)) = .ok config) ↔
      (Shape.table fields).Fits (.table shortEntries)) ∧
    ∃ config, ofReading (.ok (Octets.ofText shortDocument)) = .ok config ∧
      (∀ setting : Setting,
        setting.value config =
          ((Value.table shortEntries).at? setting.place).getD (setting.value .default)) ∧
      ofReading (.ok (Octets.ofText turnedDocument)) = .ok config := by
  -- The entries and their reverse are parsed, and both orders have the same settings.
  have parsed : Toml.parse shortDocument = some shortEntries := by cbv
  have turned : Toml.parse turnedDocument = some shortEntries.reverse := by cbv
  have inTables : InTables shortEntries := by
    simp [InTables, shortEntries]
  have alike : (Value.table shortEntries).Alike (.table shortEntries.reverse) := by
    refine .table (by simp [shortEntries, or_comm]) ?_
    intro name value other there beside
    simp only [shortEntries, List.reverse_cons, List.reverse_nil, List.nil_append, List.cons_append,
      List.mem_cons, Prod.mk.injEq, List.not_mem_nil, or_false] at there beside
    rcases there with ⟨rfl, rfl⟩ | ⟨rfl, rfl⟩ <;> simp at beside <;> subst beside <;> exact .same _
  obtain ⟨-, -, -, every⟩ := loaded_iff_fits
  obtain ⟨accepted, settings⟩ := every _ _ _ (Octets.text?_ofText _) parsed inTables
  obtain ⟨config, loaded⟩ : ∃ config,
      ofReading (.ok (Octets.ofText shortDocument)) = .ok config := by
    rw [ofReading_eq_ofDocument (Octets.text?_ofText _)]
    exact ⟨{ Config.default with
      bus := ⟨false⟩, watchdog := { WatchdogConfig.default with intervalSeconds := 5 } }, by cbv⟩
  obtain ⟨values, orders⟩ := settings config loaded
  exact ⟨parsed, inTables, accepted, config, loaded, values,
    orders _ _ _ (Octets.text?_ofText _) turned alike⟩

end Config

end Wakeful
