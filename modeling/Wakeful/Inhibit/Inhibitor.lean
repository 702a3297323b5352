import Wakeful.Inhibit.Bus
import Wakeful.Inhibit.Watchdog

/-!
The inhibitor keeps the display awake through the bus and
the watchdog at once, where either may be absent.
-/

namespace Wakeful

/-- An inhibitor. -/
structure Inhibitor where
  /-- The reason shown to the desktop. -/
  reason : String
  /-- The bus side, if there is one. -/
  bus : Option Bus
  /-- The watchdog, if there is one. -/
  watchdog : Option Watchdog
  /-- Whether the display is kept awake. -/
  active : Bool

/-- Where the bus side of an inhibitor comes from. -/
inductive BusChoice where
  /-- It is given, or there is to be none. -/
  | given (bus : Option Bus)
  /-- The attempt to connect to the session bus came out so. -/
  | connected (attempt : Except String BusSession)

namespace Inhibitor

/-- An inhibitor that is not active yet. -/
def build (reason : String) (choice : BusChoice) (watchdog : Option Span) :
    Inhibitor × List LogEvent :=
  -- A bus that is not there now is not tried again.
  let (bus, log) := match choice with
    | .given bus => (bus, [])
    | .connected (.ok session) => (some (.session session), [])
    | .connected (.error words) =>
      (none, [⟨.debug, .inhibitor, "D-Bus inhibition unavailable", [("error", words)]⟩])
  (⟨reason, bus, watchdog.map .new, false⟩, log)

/-- An inhibitor that uses whatever there is, with the usual interval between resets. -/
def new (reason : String) (attempt : Except String BusSession) : Inhibitor × List LogEvent :=
  -- Both sides are wanted.
  build reason (.connected attempt) (some Watchdog.defaultInterval)

/-- Asks the bus side, if there is one, to follow a change. -/
def changeBus (inhibitor : Inhibitor) (active : Bool) : Inhibitor × List LogEvent :=
  -- The bus is a help and never an obstacle, so its failures are only reported.
  match inhibitor.bus with
  | none => (inhibitor, [])
  | some bus =>
    let (result, after, log) := if active then bus.start inhibitor.reason else bus.stop
    let warning : List LogEvent := match result with
      | .ok () => []
      | .error fault =>
        [⟨.warn, .inhibitor, "D-Bus inhibition request failed",
          [("error", fault.message), ("active", toString active)]⟩]
    ({ inhibitor with bus := some after }, log ++ warning)

/-- Takes back what the bus side was asked for in a change that fails. -/
def rollBackBus (inhibitor : Inhibitor) : Inhibitor × List LogEvent :=
  -- A failure of this is only reported too.
  match inhibitor.bus with
  | none => (inhibitor, [])
  | some bus =>
    let (result, after, log) := bus.stop
    let warning : List LogEvent := match result with
      | .ok () => []
      | .error fault =>
        [⟨.warn, .inhibitor, "Could not roll back D-Bus inhibition", [("error", fault.message)]⟩]
    ({ inhibitor with bus := some after }, log ++ warning)

/--
Asks the watchdog, if there is one, to follow a change, which fails only if a thread is refused.
-/
def changeWatchdog (inhibitor : Inhibitor) (active : Bool) (circumstances : Circumstances) :
    Except InhibitError Unit × Inhibitor × List LogEvent :=
  -- A thread that broke off is gone as well as one that ended.
  match inhibitor.watchdog with
  | none => (.ok (), inhibitor, [])
  | some watchdog =>
    let (result, after, log) :=
      if active then watchdog.start circumstances else watchdog.halt circumstances
    let changed := { inhibitor with watchdog := some after }
    match result with
    | .ok () => (.ok (), changed, log)
    | .error (.threadRefused reason) => (.error (.threadRefused reason), changed, log)
    | .error fault =>
      (.ok (), changed,
        log ++ [⟨.warn, .inhibitor, "Screensaver watchdog did not exit cleanly",
          [("error", fault.message)]⟩])

/-- Starts or stops to keep the display awake, and tells whether that changed anything. -/
def setActive (inhibitor : Inhibitor) (active : Bool) (circumstances : Circumstances) :
    Except InhibitError Bool × Inhibitor × List LogEvent :=
  -- If there is to be a watchdog and there is no thread for
  -- it, the bus is asked to forget about it.
  if inhibitor.active = active then (.ok false, inhibitor, [])
  else
    let (asked, busLog) := inhibitor.changeBus active
    match asked.changeWatchdog active circumstances with
    | (.ok (), changed, watchdogLog) =>
      (.ok true, { changed with active := active }, busLog ++ watchdogLog ++
        [⟨.debug, .inhibitor, "Sleep inhibition changed",
          [("active", toString active), ("reason", inhibitor.reason)]⟩])
    | (.error fault, changed, watchdogLog) =>
      let (restored, restoreLog) := changed.rollBackBus
      (.error fault, restored, busLog ++ watchdogLog ++
        [⟨.error, .inhibitor, "Failed to create screensaver inhibitor thread",
          [("error", fault.message)]⟩]
        ++ restoreLog)

/-- Gives the inhibitor up, after which it is not active any more. -/
def drop (inhibitor : Inhibitor) (circumstances : Circumstances) : Inhibitor × List LogEvent :=
  -- Both sides are stopped first and then given up, the bus before the watchdog.
  let (result, stopped, stopLog) := inhibitor.setActive false circumstances
  let warning : List LogEvent := match result with
    | .ok _ => []
    | .error fault =>
      [⟨.warn, .inhibitor, "Could not deactivate sleep inhibitor", [("error", fault.message)]⟩]
  let (bus, busLog) := match stopped.bus with
    | none => (none, [])
    | some bus =>
      let (after, log) := bus.drop
      (some after, log)
  let (watchdog, watchdogLog) := match stopped.watchdog with
    | none => (none, [])
    | some watchdog =>
      let (after, log) := watchdog.drop circumstances
      (some after, log)
  ({ stopped with bus := bus, watchdog := watchdog }, stopLog ++ warning ++ busLog ++ watchdogLog)

end Inhibitor

/-- Starts or stops an inhibitor that may be missing, and tells whether that changed anything. -/
def setActiveIfPresent (inhibitor : Option Inhibitor) (active : Bool)
    (circumstances : Circumstances) : Bool × Option Inhibitor × List LogEvent :=
  -- A missing inhibitor and a failure both count as no change.
  match inhibitor with
  | none => (false, none, [])
  | some present =>
    let (result, after, log) := present.setActive active circumstances
    (result.toOption.getD false, some after, log)

/-- Gives up an inhibitor that may be missing. -/
def destroy (inhibitor : Option Inhibitor) (circumstances : Circumstances) :
    Option Inhibitor × List LogEvent :=
  -- Nothing happens to a missing one.
  match inhibitor with
  | none => (none, [])
  | some present =>
    let (after, log) := present.drop circumstances
    (some after, log)

end Wakeful
