import Wakeful.Child.Launch

/-!
What a program has to say so that a child of its own is started, and what the child gets then.
-/

namespace Wakeful

/-- A child that is about to be started. -/
structure Spawn where
  /-- The name or the path of its program. -/
  program : Octets
  /-- Its arguments. -/
  arguments : List Octets
  /-- Whether it is to have none of the variables of its parent. -/
  cleared : Bool
  /-- The variables that are set for it. -/
  changes : Environment
  deriving DecidableEq, Repr

namespace Spawn

/-- A child without arguments that gets the variables of its parent. -/
def new (program : Octets) : Spawn :=
  -- Nothing is kept from it and nothing is set for it.
  ⟨program, [], false, .empty⟩

/-- The same child with further arguments. -/
def withArguments (spawn : Spawn) (arguments : List Octets) : Spawn :=
  -- They come behind those that it has already.
  { spawn with arguments := spawn.arguments ++ arguments }

/-- The same child without the variables of its parent. -/
def clear (spawn : Spawn) : Spawn :=
  -- What has been set for it so far is given up too.
  { spawn with cleared := true, changes := .empty }

/-- The same child with several variables set in turn. -/
def setAll (spawn : Spawn) (pairs : List (Octets × Octets)) : Spawn :=
  -- The last value of a variable counts.
  { spawn with changes := spawn.changes.setAll pairs }

/-- What the child gets when a parent with certain variables starts it. -/
def handed (spawn : Spawn) (parent : Environment) : Launch :=
  -- What is set for the child takes the place of what its parent has.
  ⟨spawn.program, spawn.arguments,
    (if spawn.cleared then .empty else parent).setAll spawn.changes.bindings⟩

end Spawn

/-- The child that is started for a program with its own arguments and environment. -/
def Launch.spawn (launch : Launch) : Spawn :=
  -- The parent's variables are kept from it before its own are set.
  (((Spawn.new launch.program).withArguments launch.arguments).clear).setAll
  launch.environment.bindings

end Wakeful
