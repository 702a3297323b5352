import Wakeful.Config.Basic
import Wakeful.Inhibit.Inhibitor

/-! A configuration decides which sides an inhibitor has. -/

namespace Wakeful.Config

/-- Where the bus side comes from, given how an attempt to connect would come out. -/
def busChoice (config : Config) (attempt : Except String BusSession) : BusChoice :=
  -- Without the bus there is no attempt.
  if config.bus.enabled then .connected attempt else .given none

/-- The interval of the watchdog, if there is to be one. -/
def watchdogInterval (config : Config) : Option Span :=
  -- The interval of a watchdog that is switched off does not matter.
  if config.watchdog.enabled then some config.watchdog.interval else none

/-- The inhibitor that a configuration asks for. -/
def inhibitor (config : Config) (attempt : Except String BusSession) : Inhibitor × List LogEvent :=
  -- The reason is the configured one.
  Inhibitor.build config.reason (config.busChoice attempt) config.watchdogInterval

end Wakeful.Config
