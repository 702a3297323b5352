import Wakeful.Inhibit.Crowd
import Wakeful.Inhibit.Watchdog

/-!
The loop of the watchdog's thread in single steps, between which
a clock goes on and others send the stop signal.
-/

namespace Wakeful

namespace Vigil

/-- What the loop is doing between two steps. -/
inductive Stage where
  /-- It has got to this point with its wait for the stop signal. -/
  | waiting (member : Member)
  /-- Its wait has ended with the deadline, and it is about to begin a reset. -/
  | due
  /-- It resets the screensaver. -/
  | resetting
  /-- It has consumed the stop signal and ended. -/
  | ended
  /-- It has broken off. -/
  | broken
  deriving DecidableEq, Repr

namespace Stage

/-- Whether the loop waits. -/
def isAsleep : Stage → Bool
  | waiting member => member.isAsleep
  | _ => false

/-- Whether the loop has stopped waiting and has not looked since. -/
def isRoused : Stage → Bool
  | waiting member => member.isRoused
  | _ => false

/-- Whether the loop is at its end. -/
def isOver : Stage → Bool
  | ended | broken => true
  | _ => false

/-- What the loop is doing after somebody has notified a waiter. -/
def notified : Stage → Stage
  -- It is the only one that waits.
  | waiting (.asleep deadline) => waiting (.roused deadline true)
  | stage => stage

end Stage

/-- What is worth noting. -/
inductive Note where
  /-- The loop has begun. -/
  | opened
  /-- Somebody has made the stop signal pending. -/
  | signaled
  /-- A wait has ended with its deadline. -/
  | timedOut
  /-- A reset has begun. -/
  | begun
  /-- A reset has come back. -/
  | returned (outcome : ResetOutcome)
  /-- The loop has consumed the stop signal and ended. -/
  | stopped
  /-- The clock could not express the deadline of a wait. -/
  | overflowed
  deriving DecidableEq, Repr

/-- Something that has been noted, and when. -/
structure Mark where
  /-- The moment. -/
  moment : Moment
  /-- What has been noted. -/
  note : Note
  deriving DecidableEq, Repr

/-- What can happen next. -/
inductive Tick where
  /-- The clock goes on. -/
  | pass (span : Span)
  /-- Somebody makes the stop signal pending. -/
  | signal
  /-- Somebody who has done so notifies a waiter. -/
  | announce
  /-- The loop computes the deadline of a wait. -/
  | wait
  /-- The loop looks for the signal for the first time. -/
  | arrive
  /-- The loop stops waiting although nobody has notified it. -/
  | rouse
  /-- The loop looks again, and may be told that its deadline has come. -/
  | look (late : Bool)
  /-- The loop begins a reset. -/
  | reset
  /-- The loop comes back from a reset. -/
  | finish (outcome : ResetOutcome)
  deriving DecidableEq, Repr

end Vigil

open Vigil (Stage Note Mark Tick)

/--
The loop of the watchdog's thread, with the clock, those who
send it signals, and what has happened so far.
-/
structure Vigil where
  /-- The span between two resets. -/
  interval : Span
  /-- The signal to stop. -/
  stop : Event
  /-- The present moment. -/
  now : Moment
  /-- What the loop is doing. -/
  stage : Stage
  /-- The number of those who have made the signal pending and have not notified anybody yet. -/
  announcing : Nat
  /-- What has happened so far, in order. -/
  history : List Mark
  deriving DecidableEq, Repr

/-- How the push of a screensaver ended, for whoever asked for it. -/
def ResetOutcome.ofPush {α : Type} : Except IoError α → ResetOutcome
  -- How the program ended that has been run is no matter.
  | .ok _ => succeeded
  | .error _ => failed

namespace Vigil

/-- A loop that begins at a moment, when a signal may be pending already. -/
def new (interval : Span) (pending : Bool) (origin : Moment) : Vigil :=
  -- The thread has the event for itself.
  ⟨interval, { Event.new with pending }, origin, .waiting .idle, 0, [⟨origin, .opened⟩]⟩

/-- The loop with something noted at the present moment. -/
def noting (vigil : Vigil) (note : Note) : Vigil :=
  { vigil with history := vigil.history ++ [⟨vigil.now, note⟩] }

/-- What the loop does next with the event while it waits. -/
def act? (vigil : Vigil) : Tick → Option Act
  -- The clock is read when a deadline is computed and when a deadline may have come.
  | .wait => some (.wait vigil.now vigil.interval)
  | .arrive => some .arrive
  | .rouse => some .rouse
  | .look late => some (.look (if late then some vigil.now else none))
  | _ => none

/-- The loop after a step of its wait. -/
def afterWait (vigil : Vigil) : Member × Event × List Deed → Vigil
  -- Only a wait that has ended with its deadline is followed by a reset.
  | (_, stop, [.wait _ .signaled]) => { vigil.noting .stopped with stop, stage := .ended }
  | (_, stop, [.wait _ .timedOut]) => { vigil.noting .timedOut with stop, stage := .due }
  | (.broken, stop, _) => { vigil.noting .overflowed with stop, stage := .broken }
  | (member, stop, _) => { vigil with stop, stage := .waiting member }

/-- The loop after a step of its own, if it can take it. -/
def ownStep (vigil : Vigil) (tick : Tick) : Option Vigil :=
  -- What a reset comes to is no matter to the loop, unless it breaks the thread off.
  match vigil.stage, tick with
  | .due, .reset => some { vigil.noting .begun with stage := .resetting }
  | .resetting, .finish outcome =>
    some { vigil.noting (.returned outcome) with
      stage := if outcome = .broke then .broken else .waiting .idle }
  | .waiting member, tick =>
    (vigil.act? tick).bind fun act => (member.step 0 vigil.stop act).map vigil.afterWait
  | _, _ => none

/-- The loop after something has happened, if it can. -/
def step (vigil : Vigil) : Tick → Option Vigil
  -- The clock and those who send signals do not ask what the loop is doing.
  | .pass span => some { vigil with now := ⟨vigil.now.nanoseconds + span.nanoseconds⟩ }
  | .signal =>
    some { vigil.noting .signaled with
      stop := vigil.stop.raise, announcing := vigil.announcing + 1 }
  | .announce =>
    if vigil.announcing = 0 then none
    else some { vigil with
      stop := vigil.stop.notify
      stage := vigil.stage.notified
      announcing := vigil.announcing - 1 }
  | tick => vigil.ownStep tick

/-- The loop after several things have happened, of which impossible ones are passed over. -/
def run (vigil : Vigil) (ticks : List Tick) : Vigil :=
  -- Who gets on and how is chosen from outside.
  ticks.foldl (fun vigil tick => (vigil.step tick).getD vigil) vigil

end Vigil

end Wakeful
