import Wakeful.Inhibit.Inhibitor
import Wakeful.Wire.Codec

/-!
The daemon answers one connection after the other, and each
request is one look at the inhibitor or one change of it.
-/

namespace Wakeful.Daemon

/-- How the wait for a request ends. -/
inductive Arrival where
  /-- The client has sent these octets and closed its side. -/
  | received (octets : Octets)
  /-- The client has taken too long. -/
  | timedOut
  /-- The connection broke. -/
  | broken (reason : Errno)
  deriving DecidableEq, Repr

/-- A connection, seen from the daemon. -/
structure Connection where
  /-- How the wait for a request ends. -/
  arrival : Arrival
  /-- Why the response cannot be written, if it cannot. -/
  refusal : Option Errno
  deriving DecidableEq, Repr

/-- What the daemon makes of a connection. -/
structure Answer where
  /-- The response to the client. -/
  response : Response
  /-- Whether the daemon goes on. -/
  keepRunning : Bool
  /-- The inhibitor afterwards. -/
  inhibitor : Inhibitor
  /-- What happened. -/
  log : List LogEvent

/-- The request that a connection brings. -/
def readRequest : Arrival → Except Report Request
  -- Every failure says what was attempted.
  | .timedOut =>
    .error ((Report.ofText "deadline has elapsed").within "Timed out waiting for request")
  | .broken reason =>
    .error ((Report.ofText (IoError.refused reason).message).within "Could not read socket stream")
  | .received octets =>
    (Request.decode octets).mapError fun fault =>
      (Report.ofText fault.message).within "Could not decode message"

/-- What the daemon attempts when it changes the inhibitor. -/
def attemptWords (active : Bool) : String :=
  -- These are the words for a client.
  if active then "Could not inhibit" else "Could not uninhibit"

/-- Changes the inhibitor for a client. -/
def change (inhibitor : Inhibitor) (active : Bool) (circumstances : Circumstances) : Answer :=
  -- The client learns the whole chain of causes.
  match inhibitor.setActive active circumstances with
  | (.ok true, after, log) =>
    ⟨.done, true, after,
      log ++ [⟨.info, .daemon, "Inhibition changed", [("active", toString active)]⟩]⟩
  | (.ok false, after, log) => ⟨.unchanged, true, after, log⟩
  | (.error fault, after, log) =>
    let report := fault.report.within (attemptWords active)
    ⟨.failed report.line, true, after, log ++ [⟨.error, .daemon, report.detailed, []⟩]⟩

/-- Carries out a request. -/
def carryOut (inhibitor : Inhibitor) (request : Request) (circumstances : Circumstances) : Answer :=
  -- Being told to stop does not touch the inhibitor yet.
  match request with
  | .status => ⟨.status inhibitor.active inhibitor.reason, true, inhibitor, []⟩
  | .inhibit => change inhibitor true circumstances
  | .uninhibit => change inhibitor false circumstances
  | .kill => ⟨.done, false, inhibitor, []⟩

/-- What the daemon makes of an arrival before it writes its response. -/
def respond (inhibitor : Inhibitor) (arrival : Arrival) (circumstances : Circumstances) : Answer :=
  -- What is no request changes nothing, and the client is told why.
  match readRequest arrival with
  | .ok request =>
    let answer := carryOut inhibitor request circumstances
    { answer with
      log := ⟨.debug, .daemon, "Received request", [("request", request.name)]⟩ :: answer.log }
  | .error report => ⟨.failed report.line, true, inhibitor, [⟨.warn, .daemon, report.detailed, []⟩]⟩

/-- An answer whose response cannot be written. -/
def Answer.unwritten (answer : Answer) (reason : Errno) : Answer :=
  -- The failure is only reported.
  let report := (Report.ofText (IoError.refused reason).message).within "Could not write response"
  { answer with log := answer.log ++ [⟨.warn, .daemon, report.detailed, []⟩] }

/-- What the daemon makes of a connection. -/
def answer (inhibitor : Inhibitor) (connection : Connection)
    (circumstances : Circumstances) : Answer :=
  -- Whether the response can be written makes no difference to the inhibitor.
  let answer := respond inhibitor connection.arrival circumstances
  connection.refusal.elim answer answer.unwritten

end Wakeful.Daemon
