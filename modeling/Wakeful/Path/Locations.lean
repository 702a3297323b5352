import Wakeful.Path.Basic
import Wakeful.Text.Utf8

/-! Where the configuration and the socket are, as far as the environment decides it. -/

namespace Wakeful.Locations

/-- Why a place could not be determined. -/
inductive LocationError where
  /-- No home directory is known. -/
  | noHome
  deriving DecidableEq, Repr

/-- The words for a place that could not be determined. -/
def LocationError.message : LocationError → String
  -- There is only one reason.
  | noHome => "Could not determine home directory"

/-- The directory under a home that holds configuration. -/
def configDirectory : Octets :=
  -- The name is hidden from ordinary listings.
  Octets.ofText ".config"

/--
The path of a configuration file, under the configured directory or else under the home directory.
-/
def configPath (configured home : Option Octets) (name : Octets) : Except LocationError Octets := do
  -- An empty setting counts as none, and an empty name means the directory itself.
  let base ← match configured.filter (!·.isEmpty), home with
    | some directory, _ => pure directory
    | none, some directory => pure (Path.join directory configDirectory)
    | none, none => throw .noHome
  return if name.isEmpty then base else Path.join base name

/-- The name of the daemon's own configuration file. -/
def daemonConfigName : Octets :=
  -- The file has a directory of its own.
  Octets.ofText "nodoze/config.toml"

/--
The directory for sockets, from the runtime directory or
else from the directory for temporary files.
-/
def runtimeDirectory (runtime temporary : Option Octets) : Octets :=
  -- A setting is taken as it is, even if it is empty.
  runtime.getD (temporary.getD (Octets.ofText "/tmp"))

/-- The display that a session without any other setting has. -/
def defaultDisplay : String := "wayland-0"

/-- The name of a display, which may be given as the path of its socket. -/
def displayName (display : Option Octets) : String :=
  -- Only the last name of a path counts, and octets that are no text are replaced.
  match display.bind Path.lastName with
  | some name => Utf8.lossy name
  | none => defaultDisplay

/-- The name of the daemon's socket for a display. -/
def socketName (display : Option Octets) : Octets :=
  -- Every display has a socket of its own.
  Octets.ofText ("nodoze-" ++ displayName display ++ ".sock")

/-- The path of the daemon's socket. -/
def socketPath (directory : Octets) (display : Option Octets) : Octets :=
  -- The socket lies directly in the directory.
  Path.join directory (socketName display)

/-- What the environment says about places. -/
structure Settings where
  /-- The runtime directory. -/
  runtime : Option Octets
  /-- The directory for temporary files. -/
  temporary : Option Octets
  /-- The display. -/
  display : Option Octets
  /-- The directory for configuration. -/
  configured : Option Octets
  /-- The home directory. -/
  home : Option Octets
  deriving DecidableEq, Repr

/-- The path of the daemon's socket in an environment. -/
def Settings.socket (settings : Settings) : Octets :=
  -- Client and daemon find the same path in the same environment.
  socketPath (runtimeDirectory settings.runtime settings.temporary) settings.display

/-- The path of the daemon's configuration in an environment. -/
def Settings.daemonConfig (settings : Settings) : Except LocationError Octets :=
  -- It is an ordinary configuration file.
  configPath settings.configured settings.home daemonConfigName

end Wakeful.Locations
