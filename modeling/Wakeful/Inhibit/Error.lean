import Wakeful.Inhibit.Moment
import Wakeful.System.Errno
import Wakeful.System.Report

/-! Why starting or stopping to inhibit can fail. -/

namespace Wakeful

/-- Why starting or stopping to inhibit failed. -/
inductive InhibitError where
  /-- The bus refused, in its own words. -/
  | bus (words : String)
  /-- The system did not grant a thread. -/
  | threadRefused (reason : Errno)
  /-- The watchdog's thread broke off. -/
  | watchdogBroken
  deriving DecidableEq, Repr

/-- The words for a failure to start or stop. -/
def InhibitError.message : InhibitError → String
  -- The bus speaks for itself.
  | bus words => words
  | threadRefused _ => "Could not start screensaver watchdog thread"
  | watchdogBroken => "Screensaver watchdog thread panicked"

/-- The report of a failure to start or stop. -/
def InhibitError.report (fault : InhibitError) : Report :=
  -- Only the system has more to say about its refusal.
  match fault with
  | .threadRefused reason => ⟨fault.message, [(IoError.refused reason).message]⟩
  | _ => Report.ofText fault.message

/-- What happens outside while the inhibitor is asked to start or stop. -/
structure Circumstances where
  /-- The moment of the clock. -/
  now : Moment
  /-- Whether the system refuses to grant a thread. -/
  refusesThread : Bool
  deriving DecidableEq, Repr

end Wakeful
