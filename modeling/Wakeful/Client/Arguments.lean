import Wakeful.CommandLine.Reader
import Wakeful.Wire.Message

/-! The client's command line names the request. -/

namespace Wakeful.Client

open CommandLine (Command Choice Release Refusal)

/-- What the client says about its version. -/
def release : Release := ⟨"nodoze", "0.0.1"⟩

/-- The requests with their names and what they do. -/
def requests : List (Request × String × String) :=
  -- The order is that of the page of help.
  [(.status, "status", "Report whether inhibition is active"),
    (.inhibit, "inhibit", "Start inhibiting sleep and the screensaver"),
    (.uninhibit, "uninhibit", "Stop inhibiting"),
    (.kill, "kill", "Stop inhibiting and shut the daemon down")]

/-- The client's command. -/
def command : Command where
  name := release.program
  about := "Keep the display awake while something important is running"
  choices := [.help, .version]
  arguments := []
  subcommands := requests.map (·.2) ++ [Command.helpEntry]

/-- The request that a command line names. -/
def readRequest (arguments : List Octets) : Except Refusal Request := do
  -- Only names of requests are left when the reading succeeds.
  let (name, _) ← CommandLine.readAll command arguments
  match requests.find? fun request => some request.2.1 == name with
  | some (request, _) => return request
  | none => throw ⟨command, .nothingAsked⟩

end Wakeful.Client
