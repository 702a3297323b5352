import Wakeful.Config.Load
import Wakeful.Config.Setting
import Wakeful.Proofs.Attempt
import Wakeful.Proofs.Toml.Distinct

/-!
A document of tables is accepted if it has the right shape, and then
every setting is as it is written there, or the default.
-/

namespace Wakeful

open Toml (Value Entries Selector)

/--
A table has the shape of a table if its keys are known and
its values have the shapes for their keys.
-/
theorem Shape.fits_table_iff {fields : List (String × Shape)} {entries : Entries} :
    (Shape.table fields).Fits (.table entries) ↔
      (∀ entry ∈ entries, entry.1 ∈ fields.map Prod.fst) ∧
      ∀ entry ∈ entries, ∀ shape, (entry.1, shape) ∈ fields → shape.Fits entry.2 := by
  -- Only one rule gives a table its shape.
  constructor
  · intro fits
    cases fits with
    | table known each => exact ⟨known, each⟩
  · rintro ⟨known, each⟩
    exact .table known each

/-- A value has every shape that a value has which says the same. -/
theorem Shape.Fits.alike {shape : Shape} {value other : Value} (alike : value.Alike other)
    (fits : shape.Fits value) : shape.Fits other := by
  induction alike generalizing shape with
  | same value => exact fits
  | @table entries others keys each ih =>
    cases fits with
    | @table fields _ known shaped =>
      -- Every entry of the other table has a counterpart with the same key.
      have counterpart : ∀ entry ∈ others, ∃ value, (entry.1, value) ∈ entries := by
        intro entry beside
        obtain ⟨⟨name, value⟩, there, same⟩ :=
          List.mem_map.mp ((keys entry.1).mpr (List.mem_map_of_mem beside))
        exact ⟨value, by rw [← same]; exact there⟩
      refine .table ?_ ?_
      · intro entry beside
        obtain ⟨value, there⟩ := counterpart entry beside
        exact known (entry.1, value) there
      · intro entry beside shape named
        obtain ⟨value, there⟩ := counterpart entry beside
        exact ih entry.1 value entry.2 there beside (shaped _ there shape named)

namespace Schema

variable {value : Value}

/-- A text is read from a text. -/
theorem text_eq_ok_iff {read : String} : text value = .ok read ↔ value = .text read := by
  cases value <;> simp [text]

/-- A truth value is read from a truth value. -/
theorem boolean_eq_ok_iff {read : Bool} : boolean value = .ok read ↔ value = .boolean read := by
  cases value <;> simp [boolean]

/-- A count is read from a whole number that is not negative. -/
theorem count_eq_ok_iff {read : Nat} : count value = .ok read ↔ value = .integer read := by
  -- The sign decides, and a number that is not negative is a count as it stands.
  cases value with
  | integer number =>
    by_cases negative : number < 0 <;> simp [count, negative] <;> omega
  | _ => simp [count]

/-- Texts in a row are read from an array of texts. -/
theorem texts_eq_ok_iff {read : List String} :
    texts value = .ok read ↔ value = .array (read.map .text) := by
  -- The induction is over the items, each of which is read by itself.
  have row : ∀ (items : List Value) (read : List String), items.mapM text = .ok read ↔
      items = read.map .text := by
    intro items
    induction items with
    | nil => intro read; cases read <;> simp
    | cons item items ih =>
      intro read
      rw [List.mapM_cons]
      constructor
      · intro whole
        obtain ⟨first, taken, whole⟩ := ok_of_bind whole
        obtain ⟨others, more, whole⟩ := ok_of_bind whole
        cases whole
        rw [text_eq_ok_iff.mp taken, (ih others).mp more]
        rfl
      · intro spelled
        cases read with
        | nil => cases spelled
        | cons first others =>
          obtain ⟨rfl, rfl⟩ := List.cons.inj spelled
          rw [text_eq_ok_iff.mpr rfl, ok_bind, (ih others).mpr rfl]
          rfl
  cases value <;> simp [texts, row]

/-- A value has the shape of a text if it is one. -/
theorem fits_text_iff : Shape.text.Fits value ↔ ∃ read, text value = .ok read := by
  -- Both have one rule, and it is about texts.
  simp only [text_eq_ok_iff]
  constructor
  · rintro ⟨⟩
    exact ⟨_, rfl⟩
  · rintro ⟨read, rfl⟩
    exact .text read

/-- A value has the shape of a truth value if it is one. -/
theorem fits_boolean_iff : Shape.boolean.Fits value ↔ ∃ read, boolean value = .ok read := by
  -- Both have one rule, and it is about truth values.
  simp only [boolean_eq_ok_iff]
  constructor
  · rintro ⟨⟩
    exact ⟨_, rfl⟩
  · rintro ⟨read, rfl⟩
    exact .boolean read

/-- A value has the shape of a count if it is a whole number that is not negative. -/
theorem fits_count_iff : Shape.count.Fits value ↔ ∃ read, count value = .ok read := by
  -- Being a count in shape and reading as one both ask for the sign.
  simp only [count_eq_ok_iff]
  constructor
  · intro fits
    cases fits with
    | @count number positive => exact ⟨number.toNat, by rw [Int.toNat_of_nonneg positive]⟩
  · rintro ⟨read, rfl⟩
    exact .count (Int.natCast_nonneg read)

/-- A value has the shape of texts in a row if it is an array of texts. -/
theorem fits_texts_iff : Shape.texts.Fits value ↔ ∃ read, texts value = .ok read := by
  simp only [texts_eq_ok_iff]
  constructor
  · intro fits
    cases fits with
    | @texts items each =>
      -- The induction is over the items, of which each is some text.
      suffices ∃ read, items = List.map Value.text read by
        obtain ⟨read, rfl⟩ := this
        exact ⟨read, rfl⟩
      induction items with
      | nil => exact ⟨[], rfl⟩
      | cons item items ih =>
        obtain ⟨first, rfl⟩ := each item List.mem_cons_self
        obtain ⟨read, rfl⟩ := ih fun other there => each other (List.mem_cons_of_mem _ there)
        exact ⟨first :: read, rfl⟩
  · rintro ⟨read, rfl⟩
    refine .texts ?_
    intro item there
    obtain ⟨text, -, rfl⟩ := List.mem_map.mp there
    exact ⟨text, rfl⟩

/--
A record is read field by field: which values a field takes is its
shape, and a field that has been set shows what was written there in
each of the settings under its key, and changes no other setting.
-/
structure Record.Reads {ρ ι : Type} (record : Record ρ) (fields : List (String × Shape))
    (admits : String → Value → Prop) (key : ι → String) (rest : ι → List Selector)
    (shown : ι → ρ → Value) : Prop where
  /-- The fields are the known keys. -/
  names : record.fields = fields.map Prod.fst
  /-- A field can be set to the values of its shape. -/
  fits : ∀ {name shape value} (before : ρ), (name, shape) ∈ fields → admits name value →
    ((∃ after, record.set name value before = .ok after) ↔ shape.Fits value)
  /-- A field that has been set shows what was written there, or the default where nothing was. -/
  sets : ∀ {name value before after}, name ∈ record.fields → admits name value →
    record.set name value before = .ok after → ∀ setting, shown setting after =
      if key setting = name then (value.at? (rest setting)).getD (shown setting record.default)
      else shown setting before

namespace Record.Reads

variable {ρ ι : Type} {record : Record ρ} {fields : List (String × Shape)}
  {admits : String → Value → Prop} {key : ι → String} {rest : ι → List Selector}
  {shown : ι → ρ → Value} {entries : Entries} {before after : ρ}

/-- An entry can be set if its key is known and its value has the shape for it. -/
theorem setKnown_ok_iff (reads : record.Reads fields admits key rest shown) (before : ρ)
    {entry : String × Value} (admitted : admits entry.1 entry.2) :
    (∃ after, record.setKnown before entry = .ok after) ↔
      entry.1 ∈ fields.map Prod.fst ∧ ∀ shape, (entry.1, shape) ∈ fields → shape.Fits entry.2 := by
  -- A key that is not known is refused before its value is looked at.
  unfold setKnown
  by_cases known : entry.1 ∈ record.fields
  · rw [if_pos known]
    rw [reads.names] at known
    obtain ⟨⟨name, shape⟩, member, named⟩ := List.mem_map.mp known
    cases named
    -- A known key has one shape, and its value is read exactly if it has that.
    constructor
    · intro made
      exact ⟨known, fun shape among => (reads.fits before among admitted).mp made⟩
    · rintro ⟨-, shaped⟩
      exact (reads.fits before member admitted).mpr (shaped shape member)
  · rw [if_neg known]
    rw [reads.names] at known
    simp [known]

/-- Entries can be set one after the other if they make a table of the right shape. -/
theorem foldlM_ok_iff (reads : record.Reads fields admits key rest shown)
    (each : ∀ entry ∈ entries, admits entry.1 entry.2) :
    (∃ after, entries.foldlM record.setKnown before = .ok after) ↔
      (Shape.table fields).Fits (.table entries) := by
  -- The induction is over the entries, of which each can be set whatever has been set before.
  rw [Shape.fits_table_iff]
  induction entries generalizing before with
  | nil => simp
  | cons entry others ih =>
    have first := reads.setKnown_ok_iff before (each entry List.mem_cons_self)
    have later (next : ρ) : (∃ after, others.foldlM record.setKnown next = .ok after) ↔ _ :=
      ih fun other there => each other (List.mem_cons_of_mem _ there)
    rw [List.foldlM_cons]
    simp only [List.forall_mem_cons]
    constructor
    · rintro ⟨after, whole⟩
      obtain ⟨next, set, whole⟩ := ok_of_bind whole
      obtain ⟨known, shaped⟩ := first.mp ⟨next, set⟩
      obtain ⟨knownLater, shapedLater⟩ := (later next).mp ⟨after, whole⟩
      exact ⟨⟨known, knownLater⟩, shaped, shapedLater⟩
    · rintro ⟨⟨known, knownLater⟩, shaped, shapedLater⟩
      obtain ⟨next, set⟩ := first.mpr ⟨known, shaped⟩
      rw [set, ok_bind]
      exact (later next).mpr ⟨knownLater, shapedLater⟩

/--
Entries without a repeated key leave each setting as it is
written under its key, if it is written at all.
-/
theorem shown_foldlM (reads : record.Reads fields admits key rest shown)
    (keys : (entries.map Prod.fst).Nodup) (each : ∀ entry ∈ entries, admits entry.1 entry.2)
    (made : entries.foldlM record.setKnown before = .ok after) (setting : ι) :
    shown setting after = match entries.lookup (key setting) with
      | some value => (value.at? (rest setting)).getD (shown setting record.default)
      | none => shown setting before := by
  -- The induction is over the entries, of which only the one with the key of the setting matters.
  induction entries generalizing before with
  | nil =>
    cases made
    rfl
  | cons entry others ih =>
    rw [List.foldlM_cons] at made
    obtain ⟨next, set, made⟩ := ok_of_bind made
    simp only [List.map_cons, List.nodup_cons] at keys
    have later := ih keys.2 (fun other there => each other (List.mem_cons_of_mem _ there)) made
    have now : shown setting next = if key setting = entry.1 then
        (entry.2.at? (rest setting)).getD (shown setting record.default)
          else shown setting before := by
      unfold setKnown at set
      split at set
      · rename_i known
        exact reads.sets known (each entry List.mem_cons_self) set setting
      · cases set
    obtain ⟨name, value⟩ := entry
    by_cases same : key setting = name
    · -- The key does not come again.
      have absent : others.lookup (key setting) = none := by
        rw [List.lookup_eq_none_iff]
        intro other there
        have differs : other.1 ≠ key setting := by
          intro repeated
          have again : other.1 ∈ others.map Prod.fst := List.mem_map_of_mem there
          rw [repeated, same] at again
          exact keys.1 again
        simpa using Ne.symm differs
      rw [later, absent, now]
      simp [same]
    · have other : (key setting == name) = false := beq_false_of_ne same
      rw [later, now]
      simp [List.lookup_cons, other, same]

/--
A record that the entries of a table make shows every
setting as it is written there, or the default.
-/
theorem shown_ofEntries (reads : record.Reads fields admits key rest shown)
    (keys : (entries.map Prod.fst).Nodup) (each : ∀ entry ∈ entries, admits entry.1 entry.2)
    (made : record.ofEntries entries = .ok after) (setting : ι) :
    shown setting after =
      ((Value.table entries).at? (.key (key setting) :: rest setting)).getD
      (shown setting record.default) := by
  -- The entries are set one after the other, starting with the default.
  rw [reads.shown_foldlM keys each made setting]
  simp only [Value.at?]
  cases entries.lookup (key setting) <;> rfl

end Record.Reads

end Schema

end Wakeful
