import Wakeful.Daemon.Session

/-!
A whole session at one terminal: the daemon gets the command line, and
every line that is typed is the command line of a client.
-/

namespace Wakeful.Terminal

open Locations (Settings)

/-- What the environment says about places. -/
def readSettings : IO Settings := do
  -- A variable that is not set says nothing.
  let look (name : String) : IO (Option Octets) := return (← IO.getEnv name).map Octets.ofText
  return ⟨← look "XDG_RUNTIME_DIR", ← look "TMPDIR", ← look "WAYLAND_DISPLAY",
    ← look "XDG_CONFIG_HOME", ← look "HOME"⟩

/-- The path of the configuration that the daemon will ask for, if it gets that far. -/
def configFor (settings : Settings) (arguments : List Octets) : Option Octets := do
  -- The daemon itself reports why there is none.
  let read ← (Daemon.readArguments arguments).toOption
  (Daemon.chooseConfig settings read).toOption

/-- A workplace that has the directory of the socket. -/
def emptyWorkplace (settings : Settings) : Workplace :=
  -- The socket lies directly in that directory.
  ⟨FileTree.empty.withDirectories
    (.ofPath (Locations.runtimeDirectory settings.runtime settings.temporary)), .root, 0o022, []⟩

/-- Puts the configuration, as it is on the disk, into a workplace. -/
def fetchConfig (workplace : Workplace) (path : Option Octets) : IO Workplace := do
  -- A file that cannot be read is left out.
  match path.bind Octets.text? with
  | none => return workplace
  | some name =>
    try
      let contents ← IO.FS.readBinFile name
      return workplace.plant (.ofPath (Octets.ofText name)) (.file 0o644 contents.toList)
    catch _ => return workplace

/-- Shows how a program has ended. -/
def tell (ending : Ending) : IO Unit := do
  -- Failures are kept apart from the rest.
  IO.print ending.output
  IO.eprint ending.errors

/-- Runs a client for every line until there are no more. -/
partial def converse (input : IO.FS.Stream) (session : Daemon.Session) : IO Daemon.Session := do
  -- Blanks stand between the arguments.
  let line ← input.getLine
  if line.isEmpty then return session
  let words := (line.trimAscii.toString.splitOn " ").filter (!·.isEmpty)
  let (ending, after) := session.runClient (words.map Octets.ofText)
  tell ending
  converse input after

/-- Runs a session for the daemon's arguments, and gives the daemon's code. -/
def runSession (arguments : List Octets) : IO UInt32 := do
  -- The log is shown when the daemon has left.
  let settings ← readSettings
  let workplace ← fetchConfig (emptyWorkplace settings) (configFor settings arguments)
  match Daemon.Session.ofStart settings workplace arguments with
  | (.error (ending, _), log) =>
    IO.print (LogEvent.textOf log)
    tell ending
    return UInt32.ofNat ending.code
  | (.ok session, _) =>
    let last := (← converse (← IO.getStdin) session).finish
    IO.print (LogEvent.textOf last.service.log)
    return UInt32.ofNat (last.ending.elim 0 Ending.code)

end Wakeful.Terminal

/-- Runs a session, whose code is that of the daemon. -/
def main (arguments : List String) : IO UInt32 :=
  -- Arguments are octets.
  Wakeful.Terminal.runSession (arguments.map Wakeful.Octets.ofText)
