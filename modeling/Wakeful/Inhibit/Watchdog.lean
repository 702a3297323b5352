import Wakeful.Inhibit.Error
import Wakeful.Inhibit.Event
import Wakeful.System.Log

/-!
The watchdog resets the screensaver once per interval on a
thread of its own, until it is told to stop.
-/

namespace Wakeful

/-- How a reset ended. -/
inductive ResetOutcome where
  /-- The screensaver was reset. -/
  | succeeded
  /-- It could not be reset, and the next reset is tried all the same. -/
  | failed
  /-- The reset broke the thread off. -/
  | broke
  deriving DecidableEq, Repr

/-- What the watchdog's thread is doing. -/
inductive ThreadPhase where
  /-- It is about to wait. -/
  | ready
  /-- It waits for the stop signal until a deadline. -/
  | waiting (deadline : Moment)
  /-- It resets the screensaver. -/
  | resetting
  /-- It has consumed the stop signal and ended. -/
  | ended
  /-- It has broken off. -/
  | broken
  deriving DecidableEq, Repr

/-- A step of the watchdog's thread. -/
inductive ThreadStep where
  /-- Computes a deadline and begins to wait. -/
  | wait (now : Moment)
  /-- Finds the stop signal and ends. -/
  | stop
  /-- Finds the deadline passed without a signal and begins a reset. -/
  | expire (now : Moment)
  /-- Comes back from a reset. -/
  | finish (outcome : ResetOutcome)
  deriving DecidableEq, Repr

/-- A watchdog. -/
structure Watchdog where
  /-- The span between two resets. -/
  interval : Span
  /-- The signal to stop, which all threads of one watchdog share. -/
  stop : Event
  /-- What the thread is doing, if there is one that has not been waited for. -/
  thread : Option ThreadPhase
  /-- The number of resets begun so far. -/
  resets : Nat
  deriving DecidableEq, Repr

namespace Watchdog

/-- The span between two resets when nothing else is asked for. -/
def defaultInterval : Span := Span.ofSeconds 30

/-- A watchdog without a thread. -/
def new (interval : Span) : Watchdog :=
  -- Nothing has been signaled yet.
  ⟨interval, .new, none, 0⟩

/-- Whether there is a thread that has not been waited for. -/
def isActive (watchdog : Watchdog) : Bool :=
  -- Whether the thread still runs does not matter.
  watchdog.thread.isSome

/-- The watchdog after a step of its thread, if the thread can take that step. -/
def threadStep (watchdog : Watchdog) (step : ThreadStep) : Option Watchdog :=
  -- A deadline that the clock cannot express breaks the thread off.
  match watchdog.thread, step with
  | some .ready, .wait now =>
    match now.after watchdog.interval with
    | .ok deadline => some { watchdog with thread := some (.waiting deadline) }
    | .error _ => some { watchdog with thread := some .broken }
  | some (.waiting _), .stop =>
    if watchdog.stop.pending then
      some { watchdog with thread := some .ended, stop := watchdog.stop.reset }
    else none
  | some (.waiting deadline), .expire now =>
    if !watchdog.stop.pending && deadline.nanoseconds ≤ now.nanoseconds then
      some { watchdog with thread := some .resetting, resets := watchdog.resets + 1 }
    else none
  | some .resetting, .finish outcome =>
    match outcome with
    | .broke => some { watchdog with thread := some .broken }
    | _ => some { watchdog with thread := some .ready }
  | _, _ => none

/-- The watchdog after several steps of its thread, of which impossible ones are passed over. -/
def threadSteps (watchdog : Watchdog) (steps : List ThreadStep) : Watchdog :=
  -- The thread waits where it cannot go on.
  steps.foldl (fun watchdog step => (watchdog.threadStep step).getD watchdog) watchdog

/-- The watchdog after an undisturbed interval and the reset that follows it. -/
def round (watchdog : Watchdog) (outcome : ResetOutcome) (now : Moment) : Watchdog :=
  -- The thread begins to wait if it does not wait yet, passes
  -- its deadline, resets, and begins to wait again.
  let begun := watchdog.threadSteps [.wait now]
  match begun.thread with
  | some (.waiting deadline) =>
    begun.threadSteps [.expire deadline, .finish outcome, .wait deadline]
  | _ => begun

/--
The watchdog after as many undisturbed rounds as it takes to
reach a number of resets, if they are enough.
-/
def rounds (watchdog : Watchdog) (outcome : ResetOutcome) (count : Nat) (now : Moment) : Watchdog :=
  -- A thread that is not there or has broken off stays behind the number.
  (List.range count).foldl (fun watchdog _ =>
    if watchdog.resets < count then watchdog.round outcome now else watchdog) watchdog

/-- The watchdog once its thread has come to an end after a stop signal. -/
def runOut (watchdog : Watchdog) (now : Moment) : Watchdog :=
  -- A reset that is under way is waited for, and then the thread still has to begin one more wait.
  watchdog.threadSteps [.finish .succeeded, .wait now, .stop]

/-- Starts the thread, unless there is one. -/
def start (watchdog : Watchdog) (circumstances : Circumstances) :
    Except InhibitError Unit × Watchdog × List LogEvent :=
  -- A signal that an earlier thread left pending must not stop the new one.
  match watchdog.thread with
  | some _ => (.ok (), watchdog, [])
  | none =>
    let cleared := { watchdog with stop := watchdog.stop.reset }
    if circumstances.refusesThread then (.error (.threadRefused .tryAgain), cleared, [])
    else
      (.ok (), { cleared with thread := some .ready },
        [⟨.debug, .watchdog, "Started screensaver watchdog",
          [("interval", watchdog.interval.text)]⟩])

/-- Signals the thread to stop and waits until it has ended, if there is one. -/
def halt (watchdog : Watchdog) (circumstances : Circumstances) :
    Except InhibitError Unit × Watchdog × List LogEvent :=
  -- The thread is gone afterwards, even if it broke off and left the signal pending.
  match watchdog.thread with
  | none => (.ok (), watchdog, [])
  | some _ =>
    let ran := runOut { watchdog with stop := watchdog.stop.signal } circumstances.now
    let joined := { ran with thread := none }
    match ran.thread with
    | some .broken => (.error .watchdogBroken, joined, [])
    | _ => (.ok (), joined, [⟨.debug, .watchdog, "Stopped screensaver watchdog", []⟩])

/-- Gives the watchdog up. -/
def drop (watchdog : Watchdog) (circumstances : Circumstances) : Watchdog × List LogEvent :=
  -- A failure is only reported.
  match watchdog.halt circumstances with
  | (.ok (), after, log) => (after, log)
  | (.error fault, after, log) =>
    (after, log ++
      [⟨.warn, .watchdog, "Could not stop screensaver watchdog", [("error", fault.message)]⟩])

end Watchdog

end Wakeful
