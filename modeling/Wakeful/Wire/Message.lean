/-! The messages that a client and the daemon exchange, one each way on a connection. -/

namespace Wakeful

/-- What a client asks for. -/
inductive Request where
  /-- Report whether inhibition is active. -/
  | status
  /-- Start inhibiting. -/
  | inhibit
  /-- Stop inhibiting. -/
  | uninhibit
  /-- Stop inhibiting and shut the daemon down. -/
  | kill
  deriving DecidableEq, Repr

/-- What the daemon answers. -/
inductive Response where
  /-- The request was carried out. -/
  | done
  /-- The request asked for the state that was already there. -/
  | unchanged
  /-- The state, with the reason that is shown to the desktop. -/
  | status (active : Bool) (reason : String)
  /-- The request failed. -/
  | failed (message : String)
  deriving DecidableEq, Repr

/-- The request's name as it appears in the log. -/
def Request.name : Request → String
  -- Names are capitalised.
  | status => "Status"
  | inhibit => "Inhibit"
  | uninhibit => "Uninhibit"
  | kill => "Kill"

end Wakeful
