import Wakeful.Proofs.Config.Record
import Wakeful.Proofs.Config.Reading
import Wakeful.Proofs.Toml.Spelling

/-!
Every configuration can be written down, unless its interval is
greater than any number that a document can hold.
-/

namespace Wakeful

open Toml (Value)

namespace Config

variable {config : Config}

/-- No key is written twice in a configuration. -/
theorem keys_entries (config : Config) : (config.entries.map Prod.fst).Nodup := by
  simp [entries]

/-- Every setting can be spelled if the interval has 63 bits. -/
theorem writable_entries (fits : config.watchdog.intervalSeconds < 0x8000000000000000) :
    ∀ entry ∈ config.entries, entry.2.Writable Toml.nestingLimit := by
  -- Of all settings only the interval can be too large to be spelled.
  have bounded : Toml.leastInteger ≤ (config.watchdog.intervalSeconds : Int) ∧
      (config.watchdog.intervalSeconds : Int) ≤ Toml.greatestInteger := by
    simp only [Toml.leastInteger, Toml.greatestInteger]
    omega
  have bus : (Value.table config.bus.entries).Writable Toml.nestingLimit := by
    refine .table (by simp [BusConfig.entries]) ?_
    simp only [BusConfig.entries, List.map_cons, List.map_nil, List.forall_mem_cons]
    exact ⟨.boolean _, by simp⟩
  have arguments : (Value.array (config.watchdog.arguments.map .text)).Writable 78 := by
    refine .array fun item among => ?_
    obtain ⟨argument, -, rfl⟩ := List.mem_map.mp among
    exact .text argument
  have watchdog : (Value.table config.watchdog.entries).Writable Toml.nestingLimit := by
    refine .table (by simp [WatchdogConfig.entries, WatchdogSetting.key]) ?_
    simp only [WatchdogConfig.entries, List.map_cons, List.map_nil, List.forall_mem_cons]
    exact ⟨.boolean _, .integer bounded, .text _, arguments, by simp⟩
  simp only [entries, List.forall_mem_cons]
  exact ⟨.text _, bus, watchdog, by simp⟩

/-- What is written for the use of the bus is read as the same use. -/
theorem ofValue_bus (config : BusConfig) :
    Schema.bus.ofValue .bus (.table config.entries) = .ok config := rfl

/-- What is written for the watchdog is read as the same watchdog. -/
theorem ofValue_watchdog (config : WatchdogConfig) :
    Schema.watchdog.ofValue .watchdog (.table config.entries) = .ok config := by
  -- All four fields are there, and each is read back.
  have count : Schema.count (.integer config.intervalSeconds) = .ok config.intervalSeconds :=
    Schema.count_eq_ok_iff.mpr rfl
  have texts : Schema.texts (.array (config.arguments.map .text)) = .ok config.arguments :=
    Schema.texts_eq_ok_iff.mpr rfl
  simp [Schema.Record.ofValue, Schema.Record.ofEntries, Schema.Record.setKnown,
    WatchdogConfig.entries, WatchdogSetting.key, WatchdogSetting.value, Schema.watchdog,
    Schema.boolean, Schema.text, count, texts]

/-- What is written for a configuration is read as the same configuration. -/
theorem ofEntries_entries (config : Config) :
    Schema.config.ofEntries config.entries = .ok config := by
  -- The reason is read at once, and the two records by themselves.
  have bus := ofValue_bus config.bus
  have watchdog := ofValue_watchdog config.watchdog
  simp [Schema.Record.ofEntries, Schema.Record.setKnown, entries, Schema.config, Schema.text, bus,
    watchdog]

/-- The document of a configuration spells this configuration if the interval has 63 bits. -/
theorem ofDocument_document (fits : config.watchdog.intervalSeconds < 0x8000000000000000) :
    ofDocument config.document = .ok config := by
  -- What is spelled is parsed as the entries, and these are read as the configuration.
  have parsed := Toml.parse_spelledDocument config.keys_entries (writable_entries fits)
  simp only [ofDocument, document, parsed, ofEntries_entries]
  rfl

/--
Every configuration can be written down, and one with too long an interval cannot.

Its document is loaded as exactly this configuration, whatever the texts hold and however many
arguments there are, if and only if the interval is less than the least number with 64 bits. An
interval from there on comes out of no attempt to read a file at all, be it missing.
-/
theorem expressible_iff (config : Config) :
    (ofReading (.ok (Octets.ofText config.document)) = .ok config ↔
      config.watchdog.intervalSeconds < 0x8000000000000000) ∧
    ((∃ reading, ofReading reading = .ok config) ↔
      config.watchdog.intervalSeconds < 0x8000000000000000) := by
  -- No reading gives an interval beyond what a document can hold, and the
  -- own document of a configuration gives every other one.
  have bounded {reading : Except IoError Octets} (loaded : ofReading reading = .ok config) :
      config.watchdog.intervalSeconds < 0x8000000000000000 := by
    have least := ofReading_le loaded
    simp only [greatestSigned] at least
    omega
  have loads (fits : config.watchdog.intervalSeconds < 0x8000000000000000) :
      ofReading (.ok (Octets.ofText config.document)) = .ok config := by
    simp only [ofReading, Octets.text?_ofText, ofDocument_document fits]
  exact ⟨⟨bounded, loads⟩, fun ⟨_, loaded⟩ => bounded loaded, fun fits => ⟨_, loads fits⟩⟩

end Config

end Wakeful
