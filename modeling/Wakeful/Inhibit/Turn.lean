import Wakeful.Inhibit.Inhibitor

/-!
The life of an inhibitor in turns: it is asked to change, or the thread of its watchdog gets on.
-/

namespace Wakeful

/-- What happens to an inhibitor next. -/
inductive Turn where
  /-- It is asked to start or to stop. -/
  | call (active : Bool) (circumstances : Circumstances)
  /-- The thread of its watchdog takes a step, if it can. -/
  | thread (step : ThreadStep)
  deriving DecidableEq, Repr

namespace Inhibitor

/-- The inhibitor after its watchdog's thread has got on for some steps. -/
def threadSteps (inhibitor : Inhibitor) (steps : List ThreadStep) : Inhibitor :=
  -- The thread sees nothing of the inhibitor but its watchdog.
  { inhibitor with watchdog := inhibitor.watchdog.map (·.threadSteps steps) }

/-- The inhibitor after one more turn. -/
def turn (inhibitor : Inhibitor) : Turn → Inhibitor
  -- The answer to a call does not matter here.
  | .call active circumstances => (inhibitor.setActive active circumstances).2.1
  | .thread step => inhibitor.threadSteps [step]

/-- The inhibitor after several turns. -/
def turns (inhibitor : Inhibitor) (taken : List Turn) : Inhibitor :=
  -- They are taken in order.
  taken.foldl turn inhibitor

/-- The answers to the calls among several turns. -/
def answers (inhibitor : Inhibitor) : List Turn → List (Except InhibitError Bool)
  -- Steps of the thread are not answered.
  | [] => []
  | .call active circumstances :: rest =>
    (inhibitor.setActive active circumstances).1 ::
      answers (inhibitor.turn (.call active circumstances)) rest
  | .thread step :: rest => answers (inhibitor.turn (.thread step)) rest

end Inhibitor

end Wakeful
