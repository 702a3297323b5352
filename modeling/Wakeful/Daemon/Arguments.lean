import Wakeful.CommandLine.Reader

/-! The daemon's command line may name another configuration and another reason. -/

namespace Wakeful.Daemon

open CommandLine (Command Choice Release Refusal)

/-- What the daemon says about its version. -/
def release : Release := ⟨"nodoze-daemon", "0.0.1"⟩

/-- The option for another configuration. -/
def configChoice : Choice :=
  ⟨'c', "config", .path, "Config file, defaults to $XDG_CONFIG_HOME/nodoze/config.toml"⟩

/-- The option for another reason. -/
def reasonChoice : Choice :=
  ⟨'r', "reason", .text, "Reason reported to the desktop, overrides the config file"⟩

/-- The daemon's command. -/
def command : Command where
  name := release.program
  about := "Keep the display awake while something important is running"
  choices := [configChoice, reasonChoice, .help, .version]
  arguments := []
  subcommands := []

/-- What the daemon's command line may set. -/
structure Arguments where
  /-- The path of another configuration. -/
  config : Option Octets
  /-- Another reason. -/
  reason : Option String
  deriving DecidableEq, Repr

/-- What a command line sets. -/
def readArguments (arguments : List Octets) : Except Refusal Arguments := do
  -- Every option is given at most once.
  let (_, settled) ← CommandLine.readAll command arguments
  return ⟨settled.lookup configChoice, (settled.lookup reasonChoice).bind Octets.text?⟩

end Wakeful.Daemon
