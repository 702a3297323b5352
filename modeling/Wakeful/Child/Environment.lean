import Wakeful.Text.Octets

/-! The variables that a program hands to its children, each with one value. -/

namespace Wakeful

/-- Variables with their values. -/
structure Environment where
  /-- The variables in the order in which they came up, each with its value. -/
  bindings : List (Octets × Octets)
  deriving DecidableEq, Repr

namespace Environment

/-- An environment without variables. -/
def empty : Environment :=
  -- Nothing is set.
  ⟨[]⟩

/-- The value of a variable, if it is set. -/
def get? (environment : Environment) (name : Octets) : Option Octets :=
  -- An empty value is a value.
  environment.bindings.lookup name

/-- The environment without a variable. -/
def remove (environment : Environment) (name : Octets) : Environment :=
  -- The other variables stay as they are.
  ⟨environment.bindings.filter (·.1 != name)⟩

/-- The environment with a variable set to a value. -/
def set (environment : Environment) (name value : Octets) : Environment :=
  -- A former value is given up.
  ⟨(environment.remove name).bindings ++ [(name, value)]⟩

/-- The environment with several variables set in turn. -/
def setAll (environment : Environment) (pairs : List (Octets × Octets)) : Environment :=
  -- The last value of a variable counts.
  pairs.foldl (fun environment pair => environment.set pair.1 pair.2) environment

/-- The environment that pairs describe. -/
def ofPairs (pairs : List (Octets × Octets)) : Environment :=
  -- Nothing else is set.
  empty.setAll pairs

/-- The sign between a name and its value. -/
def equals : UInt8 := 0x3D

/-- The lines in which variables are handed to a child, sorted by their names. -/
def entries (environment : Environment) : List Octets :=
  -- Every variable makes a line, whatever its name is.
  (environment.bindings.mergeSort fun left right =>
    !Octets.before right.1 left.1).map fun (name, value) =>
    name ++ equals :: value

/-- A variable that has just been set has its value. -/
theorem get?_set_self (environment : Environment) (name value : Octets) :
    (environment.set name value).get? name = some value := by
  -- No former entry for the name is left in front of the new one.
  simp only [get?, set, remove]
  induction environment.bindings with
  | nil => simp
  | cons entry rest ih =>
    obtain ⟨key, held⟩ := entry
    by_cases same : key = name
    · simpa [same] using ih
    · have apart : (name == key) = false := by simpa using fun equal => same (Eq.symm equal)
      simpa [same, List.lookup_cons, apart] using ih

/-- Setting a variable leaves the others alone. -/
theorem get?_set_of_ne (environment : Environment) {name other : Octets} (value : Octets)
    (different : other ≠ name) :
    (environment.set name value).get? other = environment.get? other := by
  -- Neither the removed entry nor the new one is the one looked for.
  have differs : (other == name) = false := by simpa using different
  simp only [get?, set, remove]
  induction environment.bindings with
  | nil => simp [List.lookup_cons, differs]
  | cons entry rest ih =>
    obtain ⟨key, held⟩ := entry
    by_cases same : key = name
    · simp only [same, bne_self_eq_false, Bool.false_eq_true, not_false_eq_true,
        List.filter_cons_of_neg]
      rw [ih]
      simp [List.lookup_cons, differs]
    · have kept : (key != name) = true := by simpa using same
      simp only [List.filter_cons, kept, if_true, List.cons_append, List.lookup_cons, ih]

end Environment

end Wakeful
