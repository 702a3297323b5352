import Wakeful.Daemon.Answer
import Wakeful.Inhibit.Turn

/-!
The daemon attends to its clients one after the other, while
the watchdog's thread gets on by itself.
-/

namespace Wakeful.Daemon

/-- A connection together with all that happens outside before it is answered. -/
structure Encounter where
  /-- What the watchdog's thread has done since the connection before. -/
  meanwhile : List ThreadStep
  /-- The connection. -/
  connection : Connection
  /-- What happens outside while the inhibitor is asked to change. -/
  circumstances : Circumstances

/-- What the daemon makes of an encounter. -/
def Encounter.answer (encounter : Encounter) (inhibitor : Inhibitor) : Answer :=
  -- The thread has got on before the connection is taken up.
  Daemon.answer (inhibitor.threadSteps encounter.meanwhile) encounter.connection
    encounter.circumstances

/-- What the daemon makes of several encounters in a row, whether or not it is told to stop. -/
def attend (inhibitor : Inhibitor) : List Encounter → List Answer
  -- Each one finds the inhibitor as the one before has left it.
  | [] => []
  | encounter :: rest =>
    let answer := encounter.answer inhibitor
    answer :: attend answer.inhibitor rest

end Wakeful.Daemon
