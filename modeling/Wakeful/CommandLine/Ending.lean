import Wakeful.CommandLine.Fault
import Wakeful.System.Report

/-! How a program ends: what it has written and the code that it leaves behind. -/

namespace Wakeful

/-- How a program ends. -/
structure Ending where
  /-- Its exit code. -/
  code : Nat
  /-- What it has written for the user. -/
  output : String
  /-- What it has written about failures. -/
  errors : String
  deriving DecidableEq, Repr

namespace Ending

/-- A success that says something. -/
def success (output : String) : Ending :=
  -- Nothing failed.
  ⟨0, output, ""⟩

/-- A failure that says something. -/
def failure (errors : String) : Ending :=
  -- Ordinary failures share one code.
  ⟨1, "", errors⟩

/-- A failure that is reported with all its causes. -/
def ofReport (report : Report) : Ending :=
  -- The report is marked as an error.
  failure ("Error: " ++ report.detailed ++ "\n")

/-- The end of a program whose command line is not carried out. -/
def ofRefusal (release : CommandLine.Release) (refusal : CommandLine.Refusal) : Ending :=
  -- A page that was asked for is no failure, and a wrong command line has a code of its own.
  let text := refusal.fault.text release refusal.command
  if refusal.fault.isAnswer then success text else ⟨2, "", text⟩

end Ending

end Wakeful
