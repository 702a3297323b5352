import Wakeful.Inhibit.Moment

/-!
An event wakes exactly one waiter per signal, and a signal that finds no waiter stays pending.
-/

namespace Wakeful

/-- How a wait ended. -/
inductive WaitOutcome where
  /-- A signal was consumed. -/
  | signaled
  /-- The deadline came first. -/
  | timedOut
  deriving DecidableEq, Repr

/-- An event that several threads share. -/
structure Event where
  /-- Whether a signal is pending that nobody has consumed. -/
  pending : Bool
  /-- The number of threads that wait and have not been notified. -/
  asleep : Nat
  /-- The number of threads that have been notified and have not yet looked. -/
  notified : Nat
  deriving DecidableEq, Repr

namespace Event

/-- An event nobody has signaled and nobody waits for. -/
def new : Event :=
  -- There is nothing to consume.
  ⟨false, 0, 0⟩

/-- Drops a pending signal that nobody consumed. -/
def reset (event : Event) : Event :=
  -- Waiting threads are not affected.
  { event with pending := false }

/-- Makes a signal pending. -/
def raise (event : Event) : Event :=
  -- Several signals that nobody has consumed are one.
  { event with pending := true }

/-- Notifies one of the waiting threads, if there is any. -/
def notify (event : Event) : Event :=
  -- The notified thread still has to look for itself.
  if event.asleep = 0 then event
  else { event with asleep := event.asleep - 1, notified := event.notified + 1 }

/-- A signal is made pending and then announced to one waiter. -/
def signal (event : Event) : Event :=
  -- The announcement comes after the flag is set.
  event.raise.notify

/-- A look at the flag, which consumes a pending signal. -/
def look (event : Event) : Bool × Event :=
  -- The flag is clear afterwards in either case.
  (event.pending, event.reset)

/-- A new waiter consumes a pending signal at once or falls asleep. -/
def enter (event : Event) : Option WaitOutcome × Event :=
  -- Without a pending signal the wait has no outcome yet.
  if event.pending then (some .signaled, event.reset)
  else (none, { event with asleep := event.asleep + 1 })

/-- A notified waiter looks again. -/
def resume (event : Event) : Option WaitOutcome × Event :=
  -- If someone else took the signal in the meantime, the waiter sleeps on.
  if event.notified = 0 then (none, event)
  else if event.pending then
    (some .signaled, { event with pending := false, notified := event.notified - 1 })
  else (none, { event with notified := event.notified - 1, asleep := event.asleep + 1 })

/-- Every notified waiter looks again, and those that get a signal are counted. -/
def settle (event : Event) : Nat × Event :=
  -- A pending signal is taken by the first one.
  (List.range event.notified).foldl (fun (woken, event) _ =>
    let (outcome, after) := event.resume
    (if outcome = some .signaled then woken + 1 else woken, after)) (0, event)

/-- A sleeping waiter whose deadline has come decides what its wait ends with. -/
def expire (event : Event) : Option WaitOutcome × Event :=
  -- A signal that is pending at the deadline still counts.
  if event.asleep = 0 then (none, event)
  else if event.pending then
    (some .signaled, { event with pending := false, asleep := event.asleep - 1 })
  else (some .timedOut, { event with asleep := event.asleep - 1 })

/-- A whole wait during which nothing else happens. -/
def waitAlone (event : Event) (now : Moment) (timeout : Span) :
    Except Overflow WaitOutcome × Event :=
  -- The deadline is computed before the flag is looked at, so an overflow leaves a signal pending.
  match now.after timeout with
  | .error fault => (.error fault, event)
  | .ok _ => if event.pending then (.ok .signaled, event.reset) else (.ok .timedOut, event)

end Event

end Wakeful
