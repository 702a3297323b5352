/-! How a program has ended: with a code, or by a signal. -/

namespace Wakeful

/-- How a program has ended. -/
inductive ExitStatus where
  /-- It has left with a code. -/
  | exited (code : Nat)
  /-- A signal has ended it. -/
  | killed (signal : Nat)
  deriving DecidableEq, Repr

namespace ExitStatus

/-- The names of the signals, from the first one on. -/
def signalNames : List String :=
  -- The order is that of their numbers.
  ["HUP", "INT", "QUIT", "ILL", "TRAP", "ABRT", "BUS", "FPE", "KILL", "USR1", "SEGV", "USR2",
    "PIPE", "ALRM", "TERM", "STKFLT", "CHLD", "CONT", "STOP", "TSTP", "TTIN", "TTOU", "URG", "XCPU",
    "XFSZ", "VTALRM", "PROF", "WINCH", "IO", "PWR", "SYS"]

/-- The name of a signal, if it has one. -/
def signalName? (signal : Nat) : Option String :=
  -- No signal has the number zero.
  if signal = 0 then none else signalNames[signal - 1]?

/-- Whether a program has ended well. -/
def success (status : ExitStatus) : Bool :=
  -- Only the code zero means success.
  status == .exited 0

/-- The code, if a program has left with one. -/
def code? : ExitStatus → Option Nat
  | exited code => some code
  | killed _ => none

/-- The signal, if one has ended a program. -/
def signal? : ExitStatus → Option Nat
  | exited _ => none
  | killed signal => some signal

/-- The words for the end of a program. -/
def text : ExitStatus → String
  -- A signal is shown with its name if it has one.
  | exited code => "exit status: " ++ toString code
  | killed signal =>
    "signal: " ++ toString signal ++
      ((signalName? signal).elim "" fun name => " (SIG" ++ name ++ ")")

end ExitStatus

end Wakeful
