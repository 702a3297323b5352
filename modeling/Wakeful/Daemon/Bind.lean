import Wakeful.FileTree.Socket
import Wakeful.System.Log
import Wakeful.System.Report
import Wakeful.Text.Utf8

/-! Taking the daemon's socket, in the place of one that a daemon has left behind. -/

namespace Wakeful.Daemon

/-- The report of a daemon that is there already. -/
def rivalReport : Report :=
  -- The first attempt to take the path is the cause.
  (Report.ofText (IoError.refused .addressInUse).message).within
  "Another daemon is already listening"

/-- The event that a socket left behind is replaced. -/
def replacing (socket : Octets) : LogEvent :=
  -- The path is shown as text.
  ⟨.info, .daemon, "Replacing stale socket", [("socket", Utf8.lossy socket)]⟩

/-- Why something could not be done, without further context. -/
def failure (reason : IoError) : Report :=
  -- There is nothing but the system's words.
  Report.ofText reason.message

/-- Takes a path for listening. -/
def bind (workplace : Workplace) (socket : Octets) :
    Except Report Unit × Workplace × List LogEvent :=
  -- Only if nobody answers at a path that is taken, what has it
  -- is removed, and the path is taken once more.
  match workplace.listen socket with
  | (.ok (), taken) => (.ok (), taken, [])
  | (.error (.refused .addressInUse), _) =>
    if workplace.answers socket then (.error rivalReport, workplace, [])
    else match workplace.unlink socket with
      | (.error reason, after) => (.error (failure reason), after, [replacing socket])
      | (.ok (), cleared) =>
        let (result, after) := cleared.listen socket
        (result.mapError failure, after, [replacing socket])
  | (.error reason, after) => (.error (failure reason), after, [])

end Wakeful.Daemon
