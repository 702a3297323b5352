import Wakeful.Config.Load
import Wakeful.Meter.Word
import Wakeful.Proofs.Toml.Bounds

/-!
What every value of a document is like, the configuration is
like too: its interval is a signed word.
-/

namespace Wakeful

open Toml (Value Entries)

namespace Schema

namespace Record

variable {ρ : Type} {record : Record ρ} {state after : ρ}

/-- What every field preserves, any number of entries preserve. -/
theorem foldlM_preserves (property : ρ → Prop)
    (keeps : ∀ key value before last,
      value.Bounded → property before → record.set key value before = .ok last →
      property last)
    {entries : List (String × Value)} (each : ∀ entry ∈ entries, entry.2.Bounded)
    (holds : property state) (made : entries.foldlM record.setKnown state = .ok after) :
    property after := by
  -- The induction is over the entries, each of which sets one field.
  induction entries generalizing state with
  | nil =>
    cases made
    exact holds
  | cons entry rest ih =>
    rw [List.foldlM_cons] at made
    cases set : record.setKnown state entry with
    | error misfit =>
      rw [set] at made
      cases made
    | ok next =>
      rw [set] at made
      refine ih (fun other member => each other (List.mem_cons_of_mem _ member)) ?_ made
      unfold setKnown at set
      split at set
      · exact keeps _ _ state next (each entry List.mem_cons_self) holds set
      · cases set

/--
What every field preserves, a value within the bounds
preserves in whichever way it spells the record.
-/
theorem ofValue_preserves (property : ρ → Prop)
    (keeps : ∀ key value before last,
      value.Bounded → property before → record.set key value before = .ok last →
      property last)
    (holds : property record.default) {wanted : Wanted} {value : Value} (whole : value.Bounded)
    (made : record.ofValue wanted value = .ok after) : property after := by
  -- A record is spelled as a table, or as an array whose items are paired with its keys.
  cases whole with
  | table each => exact foldlM_preserves property keeps each holds made
  | @array items each =>
    refine foldlM_preserves property keeps ?_ holds made
    intro entry member
    exact each entry.2 (List.of_mem_zip member).2
  | _ => cases made

end Record

/-- A whole number that is not negative is a signed word. -/
theorem count_le {value : Value} {number : Nat} (whole : value.Bounded)
    (made : count value = .ok number) : (number : Int) ≤ greatestSigned := by
  -- The bounds of a document are those of a signed word.
  cases whole with
  | integer lower upper =>
    simp only [count] at made
    split at made
    · cases made
    · rename_i positive
      cases made
      have same : Toml.greatestInteger = greatestSigned := rfl
      omega
  | _ => cases made

/-- Every field of the watchdog keeps its interval a signed word. -/
theorem watchdog_set_le {key : String} {value : Value} {before last : WatchdogConfig}
    (whole : value.Bounded) (holds : (before.intervalSeconds : Int) ≤ greatestSigned)
    (made : watchdog.set key value before = .ok last) :
    (last.intervalSeconds : Int) ≤ greatestSigned := by
  -- Only one of the four fields is the interval.
  simp only [watchdog] at made
  split at made
  · cases set : boolean value <;> rw [set] at made <;> cases made
    exact holds
  · split at made
    · cases set : count value <;> rw [set] at made <;> cases made
      exact count_le whole set
    · split at made
      · cases set : text value <;> rw [set] at made <;> cases made
        exact holds
      · cases set : texts value <;> rw [set] at made <;> cases made
        exact holds

/-- Every field of a configuration keeps its watchdog's interval a signed word. -/
theorem config_set_le {key : String} {value : Value} {before last : Config} (whole : value.Bounded)
    (holds : (before.watchdog.intervalSeconds : Int) ≤ greatestSigned)
    (made : config.set key value before = .ok last) :
    (last.watchdog.intervalSeconds : Int) ≤ greatestSigned := by
  -- Only the record inside the record has an interval, and it starts from its own default.
  simp only [config] at made
  split at made
  · cases set : text value <;> rw [set] at made <;> cases made
    exact holds
  · split at made
    · cases set : bus.ofValue .bus value <;> rw [set] at made <;> cases made
      exact holds
    · cases set : watchdog.ofValue .watchdog value <;> rw [set] at made <;> cases made
      rename_i inner
      have usual : (watchdog.default.intervalSeconds : Int) ≤ greatestSigned := by decide
      exact Record.ofValue_preserves (fun inner => (inner.intervalSeconds : Int) ≤ greatestSigned)
        (fun _ _ _ _ whole holds made => watchdog_set_le whole holds made) usual whole set

end Schema

namespace Config

/-- The interval of a configuration that is spelled by a document is a signed word. -/
theorem ofDocument_le {document : String} {config : Config}
    (loaded : ofDocument document = .ok config) :
    (config.watchdog.intervalSeconds : Int) ≤ greatestSigned := by
  -- The default is within the bounds, and every entry of the document keeps the interval there.
  unfold ofDocument at loaded
  split at loaded
  · cases loaded
  · rename_i entries parsed
    have usual : (Schema.config.default.watchdog.intervalSeconds : Int) ≤ greatestSigned := by
      decide
    cases made : Schema.config.ofEntries entries with
    | error misfit =>
      rw [made] at loaded
      cases loaded
    | ok spelled =>
      rw [made] at loaded
      cases loaded
      exact Schema.Record.foldlM_preserves
        (fun spelled => (spelled.watchdog.intervalSeconds : Int) ≤ greatestSigned)
        (fun _ _ _ _ whole holds set => Schema.config_set_le whole holds set)
        (Toml.parse_bounded parsed) usual made

/--
The interval of a configuration is a signed word, whatever came out of the attempt to read its file.
-/
theorem ofReading_le {reading : Except IoError Octets} {config : Config}
    (loaded : ofReading reading = .ok config) :
    (config.watchdog.intervalSeconds : Int) ≤ greatestSigned := by
  -- A file that is not there leaves the default.
  unfold ofReading at loaded
  split at loaded
  · cases loaded
    decide
  · cases loaded
  · split at loaded
    · cases loaded
    · exact ofDocument_le loaded

end Config

end Wakeful
