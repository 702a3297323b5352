import Wakeful.Child.Search
import Wakeful.Child.Status
import Wakeful.System.Log
import Wakeful.Text.Quoted

/-! A program that can be run again and again with the same arguments and environment. -/

namespace Wakeful

/-- A program with all that it needs to run. -/
structure Launch where
  /-- Its name or its path. -/
  program : Octets
  /-- Its arguments. -/
  arguments : List Octets
  /-- Its environment. -/
  environment : Environment
  deriving DecidableEq, Repr

/--
What comes of the program at a path being executed in a workplace.

It gets the name by which it is called, its arguments and the lines of its environment.
Either it ends and has written something, or it cannot be executed.
-/
abbrev Executor := Workplace → (path name : Octets) → (arguments lines : List Octets) →
  Except Errno (ExitStatus × Octets)

namespace Launch

/-- A program with arguments that gets the environment of the moment. -/
def new (program : Octets) (arguments : List Octets) (current : Environment) : Launch :=
  -- Later changes of the environment are not seen.
  ⟨program, arguments, current⟩

/-- The program that pushes the screensaver back. -/
def screensaverReset (current : Environment) : Launch :=
  -- It is the usual tool for all desktops.
  new (Octets.ofText "xdg-screensaver") [Octets.ofText "reset"] current

/-- The same program with another environment. -/
def withEnvironment (launch : Launch) (pairs : List (Octets × Octets)) : Launch :=
  -- Nothing of the former one is kept.
  { launch with environment := .ofPairs pairs }

/-- All that has to be handed over as texts that a nought ends. -/
def texts (launch : Launch) : List Octets :=
  -- Names and values of variables are handed over too.
  launch.program :: launch.arguments ++ launch.environment.entries

/-- Starts the program at a path, and gives how it ended and what it wrote. -/
def attempt (launch : Launch) (execute : Executor) (workplace : Workplace) (path : Octets) :
    Except Errno (ExitStatus × Octets) := do
  -- The program gets the name by which it is called, and not the path at which it is.
  workplace.checkProgram path
  execute workplace path launch.program launch.arguments launch.environment.entries

/-- Runs a program to its end, and gives how it ended and what it wrote. -/
def run (launch : Launch) (execute : Executor) (workplace : Workplace) :
    Except IoError (ExitStatus × Octets) :=
  -- A nought within a text is noticed before the program is looked for.
  if launch.texts.any (·.contains 0) then .error .nulInData
  else
    (tryNamed (launch.attempt execute workplace) launch.environment.entries launch.program).mapError
    .refused

/-- The event of a screensaver that would not be pushed back. -/
def unsuccessful (launch : Launch) (status : ExitStatus) : LogEvent :=
  -- It is only of interest to those who look for a fault.
  ⟨.debug, .child, "Screensaver reset exited unsuccessfully",
    [("program", Quoted.name launch.program), ("status", status.text)]⟩

/-- Pushes the screensaver back by running a program, with what it wrote. -/
def reset (launch : Launch) (execute : Executor) (workplace : Workplace) :
    Except IoError Octets × List LogEvent :=
  -- How the program ended is only reported.
  match launch.run execute workplace with
  | .error fault => (.error fault, [])
  | .ok (status, output) =>
    (.ok output, if status.success then [] else [launch.unsuccessful status])

/-- Pushing the screensaver back fails only if the program cannot be run. -/
theorem reset_isOk_iff (launch : Launch) (execute : Executor) (workplace : Workplace) :
    (launch.reset execute workplace).1.isOk = (launch.run execute workplace).isOk := by
  -- Whatever the program comes to, the push has been made.
  unfold reset
  cases launch.run execute workplace <;> rfl

/-- Pushing the screensaver back is reported exactly when the program ran and did not end well. -/
theorem reset_log_eq_nil_iff (launch : Launch) (execute : Executor) (workplace : Workplace) :
    (launch.reset execute workplace).2 = [] ↔
      ∀ status output, launch.run execute workplace = .ok (status, output) →
        status.success = true := by
  -- The only event there is belongs to a program that has run.
  unfold reset
  cases result : launch.run execute workplace with
  | error fault => simp
  | ok ended =>
    rcases ended with ⟨status, output⟩
    cases good : status.success <;> simp [good]

end Launch

end Wakeful
