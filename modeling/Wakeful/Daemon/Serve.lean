import Wakeful.Daemon.Answer
import Wakeful.FileTree.Operations
import Wakeful.Text.Utf8

/-!
The daemon's loop ends with a request to stop or with a signal, and
then the socket is removed and the inhibitor stopped.
-/

namespace Wakeful.Daemon

/-- A signal that ends the daemon. -/
inductive Signal where
  /-- The terminal is gone. -/
  | hangup
  /-- Somebody asks to interrupt. -/
  | interrupt
  /-- Somebody asks to quit. -/
  | quit
  /-- Somebody asks to terminate. -/
  | terminate
  deriving DecidableEq, Repr

/-- What the daemon's loop takes up next. -/
inductive Occurrence where
  /-- A client has connected. -/
  | connection (connection : Connection)
  /-- Accepting a client failed. -/
  | acceptFailed (reason : Errno)
  /-- A signal has come. -/
  | signal (signal : Signal)
  deriving DecidableEq, Repr

/-- The daemon's loop after some occurrences. -/
structure Service where
  /-- Whether the loop goes on. -/
  running : Bool
  /-- The inhibitor. -/
  inhibitor : Inhibitor
  /-- The responses given so far, in order. -/
  responses : List Response
  /-- What happened so far, in order. -/
  log : List LogEvent

/-- A loop at its beginning. -/
def Service.new (inhibitor : Inhibitor) : Service :=
  -- Nobody has connected yet.
  ⟨true, inhibitor, [], []⟩

/-- The event that accepting a client failed. -/
def unaccepted (reason : Errno) : LogEvent :=
  -- The daemon waits for the next one.
  ⟨.warn, .daemon,
    ((Report.ofText (IoError.refused reason).message).within
      "Could not accept connection").detailed, []⟩

/-- The loop after one more occurrence. -/
def Service.step (service : Service) (occurrence : Occurrence)
    (circumstances : Circumstances) : Service :=
  -- A connection is answered to its end before anything else is taken up.
  if !service.running then service
  else match occurrence with
    | .connection connection =>
      let answer := answer service.inhibitor connection circumstances
      ⟨answer.keepRunning, answer.inhibitor, service.responses ++ [answer.response],
        service.log ++ answer.log⟩
    | .acceptFailed reason => { service with log := service.log ++ [unaccepted reason] }
    | .signal _ => { service with running := false }

/-- The loop after several occurrences. -/
def Service.run (service : Service) (occurrences : List (Occurrence × Circumstances)) : Service :=
  -- What comes after the end is not taken up.
  occurrences.foldl (fun service next => service.step next.1 next.2) service

/-- How the daemon stopped. -/
structure Departure where
  /-- Whether everything was put back in order. -/
  success : Bool
  /-- The inhibitor afterwards. -/
  inhibitor : Inhibitor
  /-- The files afterwards. -/
  workplace : Workplace
  /-- What happened. -/
  log : List LogEvent

/-- The event for a step of the departure that failed. -/
def departureFault (report : Report) : LogEvent :=
  -- The daemon goes on stopping.
  ⟨.error, .daemon, report.detailed, []⟩

/-- Removes the socket and stops the inhibitor. -/
def quit (inhibitor : Inhibitor) (workplace : Workplace) (socket : Octets)
    (circumstances : Circumstances) : Departure :=
  -- The inhibitor is stopped whether or not the socket could be removed.
  let (removal, left) := workplace.unlink socket
  let removalLog := match removal with
    | .ok () => []
    | .error reason =>
      [departureFault
        ((Report.ofText reason.message).within
          ("Could not remove socket at " ++ Utf8.lossy socket))]
  let (stop, stopped, stopLog) := inhibitor.setActive false circumstances
  let faultLog := match stop with
    | .ok _ => []
    | .error fault => [departureFault (fault.report.within (attemptWords false))]
  ⟨removal.isOk && stop.isOk, stopped, left, removalLog ++ stopLog ++ faultLog⟩

end Wakeful.Daemon
