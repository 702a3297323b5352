import Wakeful.Child.Environment

/-!
The variables of a running program, where the block that it
was started with may name one of them repeatedly.
-/

namespace Wakeful

/-- The variables with which a program runs. -/
structure Block where
  /-- The names with their values, in order. -/
  entries : List (Octets × Octets)
  deriving DecidableEq, Repr

namespace Block

/-- Pairs of which the first one with a name has got another value. -/
def setIn (name value : Octets) : List (Octets × Octets) → List (Octets × Octets)
  -- A name that is missing comes last.
  | [] => [(name, value)]
  | (key, held) :: others =>
    if key = name then (key, value) :: others else (key, held) :: setIn name value others

/-- The block with a variable set to a value. -/
def set (block : Block) (name value : Octets) : Block :=
  -- Further values of the variable stay as they are.
  ⟨setIn name value block.entries⟩

/-- The block without a variable. -/
def remove (block : Block) (name : Octets) : Block :=
  -- All values of the variable are given up.
  ⟨block.entries.filter (·.1 != name)⟩

/-- The environment that a block makes for a child. -/
def environment (block : Block) : Environment :=
  -- The last value of a variable counts.
  .ofPairs block.entries

end Block

end Wakeful
