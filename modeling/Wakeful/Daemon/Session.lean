import Wakeful.Client.Exchange
import Wakeful.Daemon.Serve
import Wakeful.Daemon.Startup

/-!
A session is the life of one daemon, from its start to its
end, with the clients and rivals that it meets.
-/

namespace Wakeful.Daemon

open Locations (Settings)

/-- A session in which a daemon has started. -/
structure Session where
  /-- The environment of everybody. -/
  settings : Settings
  /-- The files. -/
  workplace : Workplace
  /-- The path of the daemon's socket. -/
  socket : Octets
  /-- The daemon's loop. -/
  service : Service
  /-- How the daemon has ended, if it has. -/
  ending : Option Ending

/-- Circumstances in which nothing particular happens, some time after the clock has started. -/
def ordinary : Circumstances := ⟨⟨1000000000⟩, false⟩

namespace Session

/-- Begins a session, unless the daemon does not start. -/
def ofStart (settings : Settings) (workplace : Workplace) (arguments : List Octets) :
    Except (Ending × Workplace) Session × List LogEvent :=
  -- There is no session bus.
  match start settings workplace arguments (.error "there is no session bus") with
  | (.error ending, after, log) => (.error (ending, after), log)
  | (.ok listener, after, log) =>
    (.ok ⟨settings, after, listener.socket, { Service.new listener.inhibitor with log := log },
      none⟩, log)

/-- Lets a daemon whose loop is over leave. -/
def leave (session : Session) : Session :=
  -- Its listener goes with it, and its inhibitor is given up last.
  let departure := quit session.service.inhibitor session.workplace session.socket ordinary
  let (inhibitor, log) := departure.inhibitor.drop ordinary
  { session with
    workplace := departure.workplace
    service := { session.service with
      inhibitor, log := session.service.log ++ departure.log ++ log }
    ending := some ⟨if departure.success then 0 else 1, "", ""⟩ }

/-- Lets something happen to the daemon's loop. -/
def meet (session : Session) (occurrence : Occurrence) : Session :=
  -- A loop that is over makes the daemon leave once.
  let after := { session with service := session.service.step occurrence ordinary }
  if after.ending.isNone && !after.service.running then after.leave else after

/-- Sends octets to the daemon and reads what comes back. -/
def send (session : Session) (octets : Octets) : Except IoError Response × Session :=
  -- Somebody has to answer at the path.
  match session.workplace.connect session.socket with
  | .error reason => (.error reason, session)
  | .ok () =>
    let answer := answer session.service.inhibitor ⟨.received octets, none⟩ ordinary
    (.ok answer.response, session.meet (.connection ⟨.received octets, none⟩))

/-- Runs a client. -/
def runClient (session : Session) (arguments : List Octets) : Ending × Session :=
  -- A wrong command line is found out before the daemon hears of it.
  match Client.readRequest arguments with
  | .error refusal => (.ofRefusal Client.release refusal, session)
  | .ok request =>
    match session.send request.encode with
    | (.error reason, after) => (Client.unconnected session.socket reason, after)
    | (.ok response, after) => (Client.finish (.ok response.encode), after)

/-- Runs another daemon, which finds out whether the first one is there. -/
def runRival (session : Session) (arguments : List Octets) : Ending × Session :=
  -- The first daemon meets a client that says nothing and is gone at once.
  match prepare session.settings session.workplace arguments with
  | .error ending => (ending, session)
  | .ok _ =>
    let met := if session.workplace.answers session.socket then
        session.meet (.connection ⟨.received [], some .brokenPipe⟩)
      else session
    match start session.settings session.workplace arguments (.error "there is no session bus") with
    | (.error ending, _, _) => (ending, met)
    | (.ok _, _, _) => (.success "", met)

/-- Removes the daemon's socket behind its back, and tells whether it was there. -/
def removeSocket (session : Session) : Bool × Session :=
  -- The daemon does not notice.
  let (result, after) := session.workplace.unlink session.socket
  (result.isOk, { session with workplace := after })

/-- Ends the session, with a signal if the daemon is still there. -/
def finish (session : Session) : Session :=
  -- A daemon that has left is past all signals.
  session.meet (.signal .terminate)

end Session

end Wakeful.Daemon
