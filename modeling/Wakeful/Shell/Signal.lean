import Wakeful.Shell.State

/-! Signals: their names, and what becomes of a process that gets one. -/

namespace Wakeful.Shell

namespace Signal

/-- The greatest signal. -/
def greatest : Nat := 64

/-- The signal that a process is asked to end by. -/
def terminate : Nat := 15

/-- The signal that ends a process in any case. -/
def kill : Nat := 9

/-- Signals that do nothing to a process that has made no arrangements. -/
def harmless : List Nat :=
  -- They are the ones about children, about going on, about
  -- urgent data, about windows and about pauses.
  [0, 17, 18, 19, 20, 21, 22, 23, 28]

/-- The name by which a shell knows a signal, or its digits if it has none. -/
def name (signal : Nat) : String :=
  -- The signals beyond the usual ones are named after both ends of their range.
  let unnamed := toString signal
  if signal = 0 then "EXIT"
  else if signal = 16 || signal = 32 || signal = 33 then unnamed
  else if signal < 32 then (ExitStatus.signalName? signal).getD unnamed
  else if signal = 34 then "RTMIN"
  else if signal < 50 then "RTMIN+" ++ toString (signal - 34)
  else if signal < greatest then "RTMAX-" ++ toString (greatest - signal)
  else "RTMAX"

/-- The signal that a word means by its number or by its name. -/
def ofWord? (word : Letters) : Option Nat :=
  -- Capital and small letters count alike.
  match number? word with
  | some signal => if signal ≤ greatest then some signal else none
  | none =>
    (List.range (greatest + 1)).find? fun signal => (name signal).toList = word.map Char.toUpper

/-- The words for the end of a process by a signal. -/
def words (signal : Nat) : String :=
  -- Two of them say nothing.
  match signal with
  | 1 => "Hangup"
  | 2 | 13 => ""
  | 3 => "Quit"
  | 4 => "Illegal instruction"
  | 5 => "Trace/breakpoint trap"
  | 6 => "Aborted"
  | 7 => "Bus error"
  | 8 => "Floating point exception"
  | 9 => "Killed"
  | 10 => "User defined signal 1"
  | 11 => "Segmentation fault"
  | 12 => "User defined signal 2"
  | 14 => "Alarm clock"
  | 15 => "Terminated"
  | 16 => "Stack fault"
  | 24 => "CPU time limit exceeded"
  | 25 => "File size limit exceeded"
  | 26 => "Virtual timer expired"
  | 27 => "Profiling timer expired"
  | 29 => "I/O possible"
  | 30 => "Power failure"
  | 31 => "Bad system call"
  | signal =>
    if signal < 34 then
      "Unknown signal " ++ toString signal
    else
      "Real-time signal " ++ toString (signal - 34)

end Signal

/-- The code that a shell shows for the end of a process. -/
def codeOf : ExitStatus → Nat
  -- Signals have codes above those that programs use themselves.
  | .exited code => code
  | .killed signal => 128 + signal

namespace Action

/-- Sends a signal to this process. -/
def receive (signal : Nat) : Action Unit := do
  -- An arrangement is carried out later, and one signal takes no notice of any.
  let frame ← frame
  match if signal = Signal.kill then none else frame.traps.lookup signal with
  | some [] => return
  | some _ =>
    changeWorld fun world => { world with signals := world.signals ++ [(frame.process, signal)] }
  | none => if signal ∉ Signal.harmless then setFlow (.ended (.killed signal))

/-- Sends a signal to a process, and tells whether there is such a process. -/
def send (signal process : Nat) : Action Bool := do
  -- A process that has not begun yet ends at once.
  let frame ← frame
  let world ← world
  if process = frame.process then receive signal *> pure true
  else match world.jobs.find? (·.frame.process = process) with
    | some job =>
      let isIgnored := signal ≠ Signal.kill && job.frame.traps.lookup signal = some []
      if !isIgnored && signal ∉ Signal.harmless then
        changeWorld fun world => { world with
          jobs := world.jobs.filter (·.frame.process != process)
          finished := (process, .killed signal) :: world.finished }
      return true
    | none =>
      if world.living.contains process then
        if signal ≠ 0 then
          changeWorld fun world => { world with signals := world.signals ++ [(process, signal)] }
        return true
      else return (world.finished.lookup process).isSome

/-- Says by which signal a process has ended. -/
def report (status : ExitStatus) : Action Unit := do
  -- The name of the shell does not come before it.
  match status with
  | .killed signal =>
    let words := (Signal.words signal).toList
    if !words.isEmpty then
      let _ ← write 2 (words ++ ['\n'])
  | .exited _ => return

end Action

end Wakeful.Shell
