import Wakeful.CommandLine.Ending
import Wakeful.Config.Inhibitor
import Wakeful.Config.Load
import Wakeful.Daemon.Arguments
import Wakeful.Daemon.Bind
import Wakeful.Path.Locations

/-!
The daemon starts by reading its command line and its
configuration, taking its socket, and building its inhibitor.
-/

namespace Wakeful.Daemon

open Locations (Settings)

/-- A daemon that listens. -/
structure Listener where
  /-- The path of its socket. -/
  socket : Octets
  /-- Its inhibitor. -/
  inhibitor : Inhibitor

/-- The report of a place for the configuration that could not be determined. -/
def unlocated (fault : Locations.LocationError) : Report :=
  -- The attempt was to find a directory.
  (Report.ofText fault.message).within "Could not resolve config directory"

/-- The path of the configuration to load. -/
def chooseConfig (settings : Settings) (arguments : Arguments) : Except Report Octets :=
  -- The usual path is not even determined if another one is given.
  match arguments.config with
  | some path => .ok path
  | none => settings.daemonConfig.mapError unlocated

/-- The configuration from a path, with another reason if one is given. -/
def configure (workplace : Workplace) (path : Octets) (reason : Option String) :
    Except Report Config := do
  -- The command line has the last word.
  let config ← (Config.ofReading (workplace.contentsOf path)).mapError (LoadError.report path)
  return { config with reason := reason.getD config.reason }

/-- What a daemon does before it touches the socket. -/
def prepare (settings : Settings) (workplace : Workplace) (arguments : List Octets) :
    Except Ending Config := do
  -- Nothing has been changed if this fails.
  let read ← (readArguments arguments).mapError (Ending.ofRefusal release)
  let path ← (chooseConfig settings read).mapError Ending.ofReport
  (configure workplace path read.reason).mapError Ending.ofReport

/-- The event that the daemon is ready. -/
def listening (listener : Listener) : LogEvent :=
  -- It says which sides the inhibitor has.
  ⟨.info, .daemon, "Listening", [("socket", Utf8.lossy listener.socket),
    ("dbus", toString listener.inhibitor.bus.isSome),
    ("watchdog", toString listener.inhibitor.watchdog.isSome)]⟩

/-- Starts a daemon, given how an attempt to connect to the session bus comes out. -/
def start (settings : Settings) (workplace : Workplace) (arguments : List Octets)
    (attempt : Except String BusSession) : Except Ending Listener × Workplace × List LogEvent :=
  -- The inhibitor is built only once the socket is taken.
  match prepare settings workplace arguments with
  | .error ending => (.error ending, workplace, [])
  | .ok config =>
    let socket := settings.socket
    match bind workplace socket with
    | (.error report, after, log) =>
      (.error (.ofReport (report.within ("Failed establishing socket at " ++ Utf8.lossy socket))),
        after, log)
    | (.ok (), after, log) =>
      let (inhibitor, buildLog) := config.inhibitor attempt
      let listener := ⟨socket, inhibitor⟩
      (.ok listener, after, log ++ buildLog ++ [listening listener])

end Wakeful.Daemon
