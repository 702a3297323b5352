import Wakeful.Toml.Document

/-!
Values that hold no others are texts, numbers, truth values and
moments, and the whole numbers among them have 64 bits.
-/

namespace Wakeful.Toml

/-- A value that holds no others, with a whole number that is within the bounds if it is one. -/
inductive Value.Plain : Value → Prop where
  /-- A text holds no other value. -/
  | text (value : String) : Plain (.text value)
  /-- A whole number is between the least and the greatest. -/
  | integer {value : Int} (lower : leastInteger ≤ value) (upper : value ≤ greatestInteger) :
      Plain (.integer value)
  /-- A floating-point number has no such bounds. -/
  | number (value : Binary64) : Plain (.number value)
  /-- A truth value holds no other value. -/
  | boolean (value : Bool) : Plain (.boolean value)
  /-- A date or a time of day is kept as it was written. -/
  | moment (written : List Char) : Plain (.moment written)

/-- A reader gives only values with a property. -/
def ReadsOnly (property : Value → Prop) (item : Reader Value) : Prop :=
  -- What is left after them does not matter.
  ∀ characters value rest, item characters = some (value, rest) → property value

/-- A whole number is only taken within the bounds. -/
theorem boundedInteger_plain {number : Int} {value : Value}
    (taken : boundedInteger number = some value) : value.Plain := by
  -- The bounds are looked at when a number is taken.
  unfold boundedInteger at taken
  split at taken
  · rename_i within
    cases taken
    exact .integer within.1 within.2
  · cases taken

/-- A whole number in any base is a plain value. -/
theorem basedInteger?_plain (base : Nat) : ReadsOnly Value.Plain (basedInteger? base) := by
  -- The digits are read first, and then the number is taken.
  intro characters value rest read
  simp only [basedInteger?, Option.bind_eq_bind, Option.bind_eq_some_iff] at read
  obtain ⟨⟨digits, left⟩, -, number, taken, made⟩ := read
  cases made
  exact boundedInteger_plain taken

/-- A whole number is a plain value. -/
theorem integer?_plain : ReadsOnly Value.Plain integer? := by
  -- The prefix decides about the base.
  intro characters value rest read
  unfold integer? at read
  split at read
  · exact basedInteger?_plain 16 _ value rest read
  · exact basedInteger?_plain 8 _ value rest read
  · exact basedInteger?_plain 2 _ value rest read
  · simp only [Option.bind_eq_bind, Option.bind_eq_some_iff] at read
    obtain ⟨⟨digits, left⟩, -, number, taken, made⟩ := read
    cases made
    exact boundedInteger_plain taken

/-- A number that is written with digits and a fraction or an exponent is a plain value. -/
theorem decimalNumber?_plain : ReadsOnly Value.Plain decimalNumber? := by
  -- Whatever the digits are, the value is a floating-point number.
  intro characters value rest read
  unfold decimalNumber? at read
  rcases sign characters with ⟨negative, unsigned⟩
  simp only [Option.bind_eq_bind, Option.bind_eq_some_iff] at read
  obtain ⟨whole, -, ⟨tail, left⟩, -, number, taken, made⟩ := read
  cases made
  unfold boundedNumber at taken
  split at taken <;> cases taken
  exact .number _

/-- A number that is written as a word is a plain value. -/
theorem specialNumber?_plain : ReadsOnly Value.Plain specialNumber? := by
  -- Every word that is known stands for a number.
  intro characters value rest read
  unfold specialNumber? at read
  split at read <;> cases read <;> exact .number _

/-- A number of either kind is a plain value. -/
theorem number?_plain : ReadsOnly Value.Plain number? := by
  intro characters value rest read
  unfold number? at read
  simp only at read
  -- What comes behind the first digits decides about the kind.
  split at read <;> simp only [if_true, Bool.false_eq_true, if_false] at read
  · exact decimalNumber?_plain characters value rest read
  · exact decimalNumber?_plain characters value rest read
  · exact decimalNumber?_plain characters value rest read
  · rcases Option.or_eq_some_iff.mp read with special | ⟨-, whole⟩
    · exact specialNumber?_plain characters value rest special
    · exact integer?_plain characters value rest whole

/-- A date or a time of day is a plain value. -/
theorem moment?_plain : ReadsOnly Value.Plain moment? := by
  -- There are dates with or without a time, and times alone.
  intro characters value rest read
  unfold moment? at read
  split at read
  · simp only [Option.bind_eq_bind, Option.bind_eq_some_iff] at read
    obtain ⟨left, -, made⟩ := read
    cases made
    exact .moment _
  · simp only [Option.bind_eq_bind, Option.bind_eq_some_iff] at read
    obtain ⟨left, -, made⟩ := read
    cases made
    exact .moment _

/-- What is read as a value that holds no others is a plain value. -/
theorem plainValue?_plain : ReadsOnly Value.Plain plainValue? := by
  -- The first character decides about the kind.
  intro characters value rest read
  unfold plainValue? at read
  split at read
  · obtain ⟨⟨written, left⟩, -, made⟩ := Option.map_eq_some_iff.mp read
    cases made
    exact .text written
  · obtain ⟨⟨written, left⟩, -, made⟩ := Option.map_eq_some_iff.mp read
    cases made
    exact .text written
  · cases read
    exact .boolean true
  · cases read
    exact .boolean false
  · split at read
    · exact moment?_plain characters value rest read
    · exact number?_plain characters value rest read

end Wakeful.Toml
