/-!
Whole numbers as the machine holds them, where a result that does not fit is a fault of its own.
-/

namespace Wakeful

/-- An arithmetic operation whose result may not fit. -/
inductive Overflow where
  /-- An addition. -/
  | addition
  /-- A subtraction. -/
  | subtraction
  /-- A multiplication. -/
  | multiplication
  /-- The addition of a span to a moment. -/
  | moment
  deriving DecidableEq, Repr

namespace Overflow

/-- The words for a result that does not fit. -/
def message : Overflow → String
  -- The operation is named, not its operands.
  | addition => "attempt to add with overflow"
  | subtraction => "attempt to subtract with overflow"
  | multiplication => "attempt to multiply with overflow"
  | moment => "overflow when adding duration to instant"

end Overflow

/-- The least number that a signed word holds. -/
def leastSigned : Int := -0x8000000000000000

/-- The greatest number that a signed word holds. -/
def greatestSigned : Int := 0x7FFFFFFFFFFFFFFF

/-- The number of values of an unsigned word. -/
def unsignedRange : Nat := 0x10000000000000000

/-- A result that has to fit into a signed word. -/
def signedResult (operation : Overflow) (value : Int) : Except Overflow Int :=
  -- Both bounds are within the word.
  if leastSigned ≤ value ∧ value ≤ greatestSigned then .ok value else .error operation

/-- A result that has to fit into an unsigned word. -/
def unsignedResult (operation : Overflow) (value : Nat) : Except Overflow Nat :=
  -- The range itself is the first number too large.
  if value < unsignedRange then .ok value else .error operation

/-- The difference of two unsigned words, which has to be one too. -/
def unsignedDifference (left right : Nat) : Except Overflow Nat :=
  -- There is no unsigned word below zero.
  if right ≤ left then .ok (left - right) else .error .subtraction

/-- A signed word read as an unsigned one. -/
def unsignedReading (value : Int) : Nat :=
  -- Negative numbers take the upper half of the range.
  (value % (unsignedRange : Int)).toNat

end Wakeful
