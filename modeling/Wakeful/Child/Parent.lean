import Wakeful.Child.Block
import Wakeful.Child.Spawn

/-!
A program that changes its own variables while it prepares
children, changes what is prepared, and runs it.
-/

namespace Wakeful

/-- A child that has been run. -/
structure Child where
  /-- What it got. -/
  launch : Launch
  /-- What came of it. -/
  outcome : Except IoError (ExitStatus × Octets)

/-- A program with all that it holds. -/
structure Parent where
  /-- Its variables. -/
  block : Block
  /-- What each of its holders has prepared for being run, if anything. -/
  launches : Nat → Option Launch
  /-- The children that it has run so far, in order. -/
  children : List Child

/-- Something that the program does. -/
inductive ParentStep where
  /-- Sets a variable of its own. -/
  | set (name value : Octets)
  /-- Removes a variable of its own. -/
  | remove (name : Octets)
  /-- Prepares a program with arguments. -/
  | prepare (holder : Nat) (program : Octets) (arguments : List Octets)
  /-- Gives another environment to what is prepared. -/
  | refit (holder : Nat) (pairs : List (Octets × Octets))
  /-- Copies what is prepared. -/
  | copy (source target : Nat)
  /-- Runs what is prepared, in a workplace as it is at that time. -/
  | run (holder : Nat) (workplace : Workplace)

/-- Whether a program can give a value to a variable of its own. -/
def Environment.admits (name value : Octets) : Bool :=
  -- A name must be one on its own line, and a nought would end the line.
  !name.isEmpty && !name.contains equals && !name.contains 0 && !value.contains 0

namespace Parent

/-- A program that has been started with certain variables. -/
def new (start : List (Octets × Octets)) : Parent :=
  -- Nothing is prepared.
  ⟨⟨start⟩, fun _ => none, []⟩

/-- The program with something prepared in a holder. -/
def hold (parent : Parent) (holder : Nat) (launch : Launch) : Parent :=
  -- What the holder had before is given up.
  { parent with
    launches := fun other => if other = holder then some launch else parent.launches other }

/-- The program after it has run a child. -/
def spawn (execute : Executor) (parent : Parent) (launch : Launch)
    (workplace : Workplace) : Parent :=
  -- The parent's variables of this moment are offered to the child.
  let handed := launch.spawn.handed parent.block.environment
  { parent with children := parent.children ++ [⟨handed, handed.run execute workplace⟩] }

/-- The program after a step, if it can take it. -/
def step (execute : Executor) (parent : Parent) : ParentStep → Option Parent
  -- Only a holder that has something can be used.
  | .set name value =>
    if Environment.admits name value then
      some { parent with block := parent.block.set name value }
    else
      none
  | .remove name =>
    if Environment.admits name [] then
      some { parent with block := parent.block.remove name }
    else
      none
  | .prepare holder program arguments =>
    some (parent.hold holder (.new program arguments parent.block.environment))
  | .refit holder pairs =>
    (parent.launches holder).map fun launch => parent.hold holder (launch.withEnvironment pairs)
  | .copy source target => (parent.launches source).map (parent.hold target)
  | .run holder workplace => (parent.launches holder).map (parent.spawn execute · workplace)

/-- The program after several steps, if it can take all of them. -/
def run (execute : Executor) (parent : Parent) (steps : List ParentStep) : Option Parent :=
  -- Whatever cannot be done ends the program.
  steps.foldlM (step execute) parent

end Parent

end Wakeful
