import Wakeful.Inhibit.Error
import Wakeful.System.Log

/-! Inhibiting through the session bus, where every inhibition has a cookie that releases it. -/

namespace Wakeful

/-- A call on the session bus. -/
inductive BusCall where
  /-- Asks to inhibit, with the names of the application and of the reason. -/
  | inhibit (application reason : String)
  /-- Releases the inhibition that a cookie stands for. -/
  | unInhibit (cookie : Nat)
  deriving DecidableEq, Repr

/-- The side of one application on the session bus. -/
structure BusSession where
  /-- The cookie of the inhibition that is held. -/
  cookie : Option Nat
  /--
  What the bus is going to answer to further requests to
  inhibit: a cookie, or the words of a failure.
  -/
  inhibitReplies : List (Except String Nat)
  /-- What the bus is going to answer to further releases: nothing, or the words of a failure. -/
  releaseReplies : List (Except String Unit)
  /-- The calls made so far, in order. -/
  calls : List BusCall

namespace BusSession

/-- The name under which the application is known on the bus. -/
def application : String := "nodoze"

/-- A session that holds nothing, on a bus that will answer so. -/
def new (inhibitReplies : List (Except String Nat))
    (releaseReplies : List (Except String Unit)) : BusSession :=
  -- No call has been made yet.
  ⟨none, inhibitReplies, releaseReplies, []⟩

/-- The words of the bus for a failure of a service. -/
def failure (words : String) : InhibitError :=
  -- The kind of failure comes first.
  .bus ("org.freedesktop.DBus.Error.Failed: " ++ words)

/-- The character that no text on the bus may hold. -/
def forbidden : Char := '\x00'

/-- The failure of a call that cannot be put into words for the bus. -/
def unsendable : InhibitError :=
  -- It is found out before anything is sent.
  .bus ("invalid value: character \x60" ++ forbidden.toString
    ++ "\x60, expected D-Bus string type must not contain interior null bytes")

/-- The reply of a bus that has nothing else to say. -/
def defaultReply : Except String Nat := .ok 1

/-- Whether an inhibition is held. -/
def isActive (session : BusSession) : Bool :=
  -- Only a cookie tells.
  session.cookie.isSome

/-- Asks the bus to inhibit, unless an inhibition is held. -/
def start (session : BusSession) (reason : String) :
    Except InhibitError Unit × BusSession × List LogEvent :=
  -- The cookie is kept only if the bus gave one.
  match session.cookie with
  | some _ => (.ok (), session, [])
  | none =>
    if reason.toList.contains forbidden then (.error unsendable, session, []) else
    let asked := { session with
      calls := session.calls ++ [.inhibit application reason]
      inhibitReplies := session.inhibitReplies.tail }
    match session.inhibitReplies.head?.getD defaultReply with
    | .error words => (.error (failure words), asked, [])
    | .ok cookie =>
      (.ok (), { asked with cookie := some cookie },
        [⟨.debug, .session, "Inhibiting through D-Bus",
          [("cookie", "Some(" ++ toString cookie ++ ")")]⟩])

/-- Releases the inhibition that is held, if any. -/
def stop (session : BusSession) : Except InhibitError Unit × BusSession × List LogEvent :=
  -- The cookie is given up before the bus is asked, so it is never used twice.
  match session.cookie with
  | none => (.ok (), session, [])
  | some cookie =>
    let asked := { session with
      cookie := none
      calls := session.calls ++ [.unInhibit cookie]
      releaseReplies := session.releaseReplies.tail }
    match session.releaseReplies.head?.getD (.ok ()) with
    | .error words => (.error (failure words), asked, [])
    | .ok () =>
      (.ok (), asked,
        [⟨.debug, .session, "Released D-Bus inhibition", [("cookie", toString cookie)]⟩])

/-- Gives the session up. -/
def drop (session : BusSession) : BusSession × List LogEvent :=
  -- A failure is only reported.
  match session.stop with
  | (.ok (), after, log) => (after, log)
  | (.error fault, after, log) =>
    (after, log ++
      [⟨.debug, .session, "Could not release D-Bus inhibition", [("error", fault.message)]⟩])

end BusSession

/-- A call on a backend. -/
inductive BackendCall where
  /-- Start to inhibit, with a reason. -/
  | start (reason : String)
  /-- Stop to inhibit. -/
  | stop
  deriving DecidableEq, Repr

/-- A backend of which only the answers are known. -/
structure ScriptedBackend where
  /-- What it is going to answer to further starts: nothing, or the words of a failure. -/
  startReplies : List (Except String Unit)
  /-- What it is going to answer to further stops: nothing, or the words of a failure. -/
  stopReplies : List (Except String Unit)
  /-- The calls made so far, in order. -/
  calls : List BackendCall

namespace ScriptedBackend

/-- A backend on which no call has been made, and which will answer so. -/
def new (startReplies stopReplies : List (Except String Unit)) : ScriptedBackend :=
  -- Calls are recorded as they come.
  ⟨startReplies, stopReplies, []⟩

/-- Starts to inhibit. -/
def start (backend : ScriptedBackend) (reason : String) :
    Except InhibitError Unit × ScriptedBackend :=
  -- A backend with nothing else to say succeeds.
  ((backend.startReplies.head?.getD (.ok ())).mapError .bus,
    { backend with
      startReplies := backend.startReplies.tail, calls := backend.calls ++ [.start reason] })

/-- Stops to inhibit. -/
def stop (backend : ScriptedBackend) : Except InhibitError Unit × ScriptedBackend :=
  -- A backend with nothing else to say succeeds.
  ((backend.stopReplies.head?.getD (.ok ())).mapError .bus,
    { backend with stopReplies := backend.stopReplies.tail, calls := backend.calls ++ [.stop] })

end ScriptedBackend

/-- The bus side of an inhibitor. -/
inductive Bus where
  /-- A session on the session bus. -/
  | session (session : BusSession)
  /-- Some other backend. -/
  | scripted (backend : ScriptedBackend)

namespace Bus

/-- Starts to inhibit. -/
def start (bus : Bus) (reason : String) : Except InhibitError Unit × Bus × List LogEvent :=
  -- Only a session has something to report.
  match bus with
  | session inner =>
    let (result, after, log) := inner.start reason
    (result, session after, log)
  | scripted inner =>
    let (result, after) := inner.start reason
    (result, scripted after, [])

/-- Stops to inhibit. -/
def stop (bus : Bus) : Except InhibitError Unit × Bus × List LogEvent :=
  -- Only a session has something to report.
  match bus with
  | session inner =>
    let (result, after, log) := inner.stop
    (result, session after, log)
  | scripted inner =>
    let (result, after) := inner.stop
    (result, scripted after, [])

/-- Gives the bus side up. -/
def drop (bus : Bus) : Bus × List LogEvent :=
  -- A session releases what it still holds.
  match bus with
  | session inner =>
    let (after, log) := inner.drop
    (session after, log)
  | scripted _ => (bus, [])

end Bus

end Wakeful
