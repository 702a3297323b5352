import Wakeful.System.Span

/-!
What a configuration decides: the reason shown to the desktop, the use of the bus, and the watchdog.
-/

namespace Wakeful

/-- Whether the session bus is used. -/
structure BusConfig where
  /-- Whether to connect to the session bus. -/
  enabled : Bool
  deriving DecidableEq, Repr

/-- How the watchdog works. -/
structure WatchdogConfig where
  /-- Whether there is a watchdog. -/
  enabled : Bool
  /-- The seconds between two resets. -/
  intervalSeconds : Nat
  /-- The program that resets the screensaver. -/
  program : String
  /-- The arguments of that program. -/
  arguments : List String
  deriving DecidableEq, Repr

/-- A whole configuration. -/
structure Config where
  /-- The reason shown to the desktop. -/
  reason : String
  /-- The use of the bus. -/
  bus : BusConfig
  /-- The watchdog. -/
  watchdog : WatchdogConfig
  deriving DecidableEq, Repr

/-- The use of the bus when nothing is configured. -/
def BusConfig.default : BusConfig :=
  -- The bus is used where there is one.
  ⟨true⟩

/-- The watchdog when nothing is configured. -/
def WatchdogConfig.default : WatchdogConfig :=
  -- The screensaver is reset twice a minute.
  ⟨true, 30, "xdg-screensaver", ["reset"]⟩

/-- The configuration when nothing is configured. -/
def Config.default : Config :=
  -- Every part has a default of its own.
  ⟨"Idle inhibitor was enabled", .default, .default⟩

/-- The span between two resets. -/
def WatchdogConfig.interval (config : WatchdogConfig) : Span :=
  -- Resetting without any pause would keep a processor busy.
  Span.ofSeconds (max config.intervalSeconds 1)

end Wakeful
