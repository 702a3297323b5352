import Wakeful.Client.Arguments
import Wakeful.CommandLine.Ending
import Wakeful.Path.Locations
import Wakeful.System.Errno
import Wakeful.Wire.Codec

/-! The client sends one request, reads one response to its end, and tells the user what it says. -/

namespace Wakeful.Client

/-- The response that the client makes of what it has read. -/
def readResponse (octets : Octets) : Except Report Response :=
  -- What is no response is reported.
  (Response.decode octets).mapError fun fault =>
    (Report.ofText fault.message).within "Could not decode response"

/--
The outcome of an exchange on a connection, given what the
daemon sends back or why the connection failed.
-/
def exchange (reply : Except IoError Octets) : Except Report Response :=
  -- A connection that fails has no further explanation.
  match reply with
  | .ok octets => readResponse octets
  | .error reason => .error (Report.ofText reason.message)

/-- The end of the client after a response. -/
def tell : Response → Ending
  -- Only what the user cannot expect is said.
  | .done => .success ""
  | .unchanged => .success "Already in requested state\n"
  | .status true reason => .success ("Inhibiting: " ++ reason ++ "\n")
  | .status false _ => .success "Not inhibiting\n"
  | .failed message => .failure (message ++ "\n")

/-- The end of a client that cannot connect to a path. -/
def unconnected (socket : Octets) (reason : IoError) : Ending :=
  -- The path is shown as text.
  .ofReport ((Report.ofText reason.message).within
    ("Failed connecting to daemon socket at " ++ Utf8.lossy socket))

/-- The end of a client that has connected. -/
def finish (reply : Except IoError Octets) : Ending :=
  -- The exchange is one attempt for the user.
  match exchange reply with
  | .ok response => tell response
  | .error report => .ofReport (report.within "Failed sending request to daemon")

end Wakeful.Client
