import Wakeful.Inhibit.Event

/-!
Any number of threads that share an event, in single steps of
which each takes the lock or notifies at most once.
-/

namespace Wakeful

/-- A waiter whose deadline has come looks for the last time. -/
def Event.lastLook (event : Event) : Option WaitOutcome × Event :=
  -- A signal that is pending even now still counts.
  if event.notified = 0 then (none, event)
  else if event.pending then
    (some .signaled, { event with pending := false, notified := event.notified - 1 })
  else (some .timedOut, { event with notified := event.notified - 1 })

/-- What a thread has got to with the event between two steps. -/
inductive Member where
  /-- It is between two calls. -/
  | idle
  /-- It has made a signal pending and is about to notify a waiter. -/
  | announcing
  /-- It has a deadline and is about to look for a signal. -/
  | arriving (deadline : Moment)
  /-- It waits until it is roused or its deadline comes. -/
  | asleep (deadline : Moment)
  /--
  It waits no more, because somebody has notified it or by itself, and is about to look again.
  -/
  | roused (deadline : Moment) (notified : Bool)
  /-- Its deadline was beyond the clock, which broke it off. -/
  | broken
  deriving DecidableEq, Repr

/-- What a thread can do next. -/
inductive Act where
  /-- It makes a signal pending. -/
  | signal
  /-- It notifies one of the waiters, or nobody if there is none. -/
  | announce (sleeper : Option Nat)
  /-- It drops a pending signal. -/
  | reset
  /-- It computes the deadline of a wait. -/
  | wait (now : Moment) (timeout : Span)
  /-- It looks for a signal for the first time. -/
  | arrive
  /-- It stops waiting although nobody has notified it. -/
  | rouse
  /-- It looks again, and may be told that its deadline has come. -/
  | look (late : Option Moment)
  deriving DecidableEq, Repr

/-- What a thread has done to the flag or learned from it. -/
inductive Deed where
  /-- It has made a signal pending. -/
  | signal (member : Nat)
  /-- It has dropped a pending signal. -/
  | reset (member : Nat)
  /-- Its wait has ended. -/
  | wait (member : Nat) (outcome : WaitOutcome)
  deriving DecidableEq, Repr

namespace Member

/-- Whether the thread waits. -/
def isAsleep : Member → Bool
  | asleep _ => true
  | _ => false

/-- Whether the thread has stopped waiting and has not looked since. -/
def isRoused : Member → Bool
  | roused _ _ => true
  | _ => false

/--
Whether the thread is about to notify a waiter, or has been notified and has not looked since.
-/
def isBusy : Member → Bool
  -- To have stopped waiting without a notification does not count.
  | announcing => true
  | roused _ notified => notified
  | _ => false

/-- What a thread does once it has looked for a signal. -/
def afterLook (number : Nat) (deadline : Moment) :
    Option WaitOutcome × Event → Member × Event × List Deed
  -- Without an outcome it goes on waiting.
  | (some outcome, event) => (idle, event, [.wait number outcome])
  | (none, event) => (asleep deadline, event, [])

/--
The thread with a number and the event after a step that
concerns no other thread, if it can be taken.
-/
def step (member : Member) (number : Nat) (event : Event) (act : Act) :
    Option (Member × Event × List Deed) :=
  -- Everything about the flag is decided by the event itself.
  match member, act with
  | idle, .signal => some (announcing, event.raise, [.signal number])
  | idle, .reset => some (idle, event.reset, [.reset number])
  | idle, .wait now timeout =>
    match now.after timeout with
    | .ok deadline => some (arriving deadline, event, [])
    | .error _ => some (broken, event, [])
  | arriving deadline, .arrive => some (afterLook number deadline event.enter)
  | asleep deadline, .rouse => some (roused deadline false, event.notify, [])
  | roused deadline _, .look none => some (afterLook number deadline event.resume)
  | roused deadline _, .look (some now) =>
    if deadline.nanoseconds ≤ now.nanoseconds then
      some (afterLook number deadline event.lastLook)
    else
      none
  | _, _ => none

end Member

/-- Threads that share an event. -/
structure Crowd where
  /-- The event. -/
  event : Event
  /-- What each thread has got to. -/
  members : List Member
  /-- What the threads have done so far, in order. -/
  deeds : List Deed
  deriving DecidableEq, Repr

namespace Crowd

/-- So many threads with an event that none of them has used. -/
def new (size : Nat) : Crowd :=
  -- Nobody has called anything yet.
  ⟨.new, List.replicate size .idle, []⟩

/-- The crowd after a thread has notified a waiter or nobody, if it can do that. -/
def announce (crowd : Crowd) (number : Nat) (sleeper : Option Nat) : Option Crowd :=
  -- Which waiter is notified is nobody's choice, but one is if there is any.
  match crowd.members[number]?, sleeper with
  | some .announcing, none =>
    if crowd.members.any Member.isAsleep then none
    else some { crowd with event := crowd.event.notify, members := crowd.members.set number .idle }
  | some .announcing, some other =>
    match crowd.members[other]? with
    | some (.asleep deadline) =>
      some { crowd with
        event := crowd.event.notify
        members := (crowd.members.set number .idle).set other (.roused deadline true) }
    | _ => none
  | _, _ => none

/-- The crowd after a step of the thread with a number, if that thread can take it. -/
def step (crowd : Crowd) (number : Nat) (act : Act) : Option Crowd :=
  -- Only a notification concerns another thread.
  match act with
  | .announce sleeper => crowd.announce number sleeper
  | act =>
    match crowd.members[number]? with
    | none => none
    | some member =>
      (member.step number crowd.event act).map fun (next, event, deeds) =>
        ⟨event, crowd.members.set number next, crowd.deeds ++ deeds⟩

/-- The crowd after several steps, of which impossible ones are passed over. -/
def run (crowd : Crowd) (steps : List (Nat × Act)) : Crowd :=
  -- Who gets on and how is chosen from outside.
  steps.foldl (fun crowd step => (crowd.step step.1 step.2).getD crowd) crowd

end Crowd

end Wakeful
