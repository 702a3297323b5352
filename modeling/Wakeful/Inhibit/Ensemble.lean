import Wakeful.Inhibit.Inhibitor

/-!
An inhibitor and the threads of its watchdog in single
steps, each at most one look at the stop signal.
-/

namespace Wakeful

/-- What a thread of the watchdog is doing between two steps. -/
inductive Task where
  /-- It is about to compute a deadline, at its beginning or after a reset. -/
  | ready
  /-- It has a deadline and is about to look for the signal. -/
  | arriving (deadline : Moment)
  /-- It sleeps until it is roused or its deadline comes. -/
  | asleep (deadline : Moment)
  /-- It has been roused and is about to look for the signal again. -/
  | roused (deadline : Moment)
  /-- It resets the screensaver. -/
  | resetting
  /-- It has consumed the signal that the halt with this number has sent, and ended. -/
  | ended (halt : Nat)
  /-- It has broken off. -/
  | broken
  deriving DecidableEq, Repr

/-- A step of a thread. -/
inductive TaskStep where
  /-- It computes a deadline. -/
  | wait (now : Moment)
  /-- It looks for the signal for the first time. -/
  | arrive
  /-- It is roused although nobody has notified it. -/
  | rouse
  /-- It looks for the signal again. -/
  | look
  /-- Its deadline has come while it slept. -/
  | expire (now : Moment)
  /-- It comes back from a reset. -/
  | finish (outcome : ResetOutcome)
  deriving DecidableEq, Repr

namespace Task

/-- Whether the thread is at its end. -/
def isOver : Task → Bool
  -- Somebody may still have to wait for it.
  | ended _ | broken => true
  | _ => false

/-- Whether the thread sleeps. -/
def isAsleep : Task → Bool
  | asleep _ => true
  | _ => false

/-- Whether the thread has been roused. -/
def isRoused : Task → Bool
  | roused _ => true
  | _ => false

/-- What a thread does once it has looked for the signal, when so many halts have sent one. -/
def afterLook (deadline : Moment) (halts : Nat) : Option WaitOutcome → Task
  -- The flag remembers no more than the last halt that set it.
  | some .signaled => .ended (halts - 1)
  | some .timedOut => .resetting
  | none => .asleep deadline

/-- The thread and the stop signal after a step, if the thread can take it. -/
def step (task : Task) (interval : Span) (halts : Nat) (stop : Event) (step : TaskStep) :
    Option (Task × Event) :=
  -- Everything about the signal is decided by the signal itself.
  match task, step with
  | ready, .wait now =>
    match now.after interval with
    | .ok deadline => some (arriving deadline, stop)
    | .error _ => some (broken, stop)
  | arriving deadline, .arrive =>
    let (outcome, after) := stop.enter
    some (afterLook deadline halts outcome, after)
  | asleep deadline, .rouse => some (roused deadline, stop.notify)
  | roused deadline, .look =>
    let (outcome, after) := stop.resume
    some (afterLook deadline halts outcome, after)
  | asleep deadline, .expire now =>
    if deadline.nanoseconds ≤ now.nanoseconds then
      let (outcome, after) := stop.expire
      some (afterLook deadline halts outcome, after)
    else none
  | resetting, .finish outcome => some (if outcome = .broke then broken else ready, stop)
  | _, _ => none

end Task

/-- How far the caller has got. -/
inductive CallerStage where
  /-- It is between two calls. -/
  | resting
  /-- A change is due, and it is about to ask the bus. -/
  | asking (active : Bool)
  /-- It is about to drop a signal that is still pending. -/
  | clearing
  /-- It is about to ask the system for a thread. -/
  | spawning
  /-- There was no thread, and it is about to take back what it has asked the bus for. -/
  | undoing
  /-- It has given up its hold of a thread, and is about to set the flag of the signal. -/
  | raising (thread : Nat) (parted : Bool)
  /-- It is about to notify a thread that sleeps. -/
  | announcing (thread : Nat) (parted : Bool)
  /-- It waits for the thread to end. -/
  | joining (thread : Nat) (parted : Bool)
  /-- Both sides have followed the change, and it is about to note the new state. -/
  | settling (active : Bool)
  /-- The inhibitor is given up, and it is about to give up the sides. -/
  | parting
  /-- Nothing is left. -/
  | gone
  deriving DecidableEq, Repr

/-- A step of the caller. -/
inductive CallerStep where
  /-- It asks to start or to stop. -/
  | call (active : Bool)
  /-- It gives the inhibitor up. -/
  | drop
  /-- It does the only thing there is to be done. -/
  | proceed
  /-- It asks for a thread, which the system grants or not. -/
  | spawn (granted : Bool)
  /-- It notifies one of the threads that sleep, or nobody if there is none. -/
  | announce (sleeper : Option Nat)
  deriving DecidableEq, Repr

/-- An inhibitor with a watchdog, its caller, and all threads there have ever been. -/
structure Ensemble where
  /-- The inhibitor without its watchdog. -/
  core : Inhibitor
  /-- The span between two resets. -/
  interval : Span
  /-- The signal to stop, which all threads share. -/
  stop : Event
  /-- The number of the thread that the watchdog has a hold of. -/
  handle : Option Nat
  /-- What the threads are doing, in the order in which they were started. -/
  threads : List Task
  /-- The number of resets begun so far. -/
  resets : Nat
  /-- The threads for which halts have set the flag, in order. -/
  halts : List Nat
  /-- How far the caller has got. -/
  stage : CallerStage
  /-- Whether the inhibitor is being given up. -/
  leaving : Bool
  /-- What has been asked for and what it has come to, in order. -/
  answers : List (Bool × Except InhibitError Bool)

/-- A step of the caller or of a thread. -/
inductive EnsembleStep where
  /-- The caller gets on. -/
  | caller (step : CallerStep)
  /-- A thread gets on. -/
  | thread (number : Nat) (step : TaskStep)
  deriving DecidableEq, Repr

namespace Ensemble

/-- An inhibitor that has just been built. -/
def new (reason : String) (bus : Option Bus) (interval : Span) : Ensemble :=
  -- There has been no thread and no call.
  ⟨⟨reason, bus, none, false⟩, interval, .new, none, [], 0, [], .resting, false, []⟩

/-- The end of a change. -/
def conclude (ensemble : Ensemble) (active : Bool) (answer : Except InhibitError Bool) : Ensemble :=
  -- Giving the inhibitor up goes on with its sides.
  { ensemble with
    answers := ensemble.answers ++ [(active, answer)]
    stage := if ensemble.leaving then .parting else .resting }

/-- The beginning of a change. -/
def begin (ensemble : Ensemble) (active : Bool) : Ensemble :=
  -- A change to the present state ends at once.
  if ensemble.core.active = active then ensemble.conclude active (.ok false)
  else { ensemble with stage := .asking active }

/-- Gives up the hold of the thread in order to halt it, if there is one. -/
def release (ensemble : Ensemble) (parted : Bool) (otherwise : CallerStage) : Ensemble :=
  -- The hold is gone before the signal is sent.
  match ensemble.handle with
  | none => { ensemble with stage := otherwise }
  | some thread => { ensemble with handle := none, stage := .raising thread parted }

/-- The ensemble after a step of its caller, if the caller can take it. -/
def callerStep (ensemble : Ensemble) (step : CallerStep) : Option Ensemble :=
  -- Only the halt of a thread can make the caller wait.
  match ensemble.stage, step with
  | .resting, .call active => some (ensemble.begin active)
  | .resting, .drop => some ({ ensemble with leaving := true }.begin false)
  | .asking true, .proceed =>
    let asked := { ensemble with core := (ensemble.core.changeBus true).1 }
    some { asked with stage := if ensemble.handle.isSome then .settling true else .clearing }
  | .asking false, .proceed =>
    let asked := { ensemble with core := (ensemble.core.changeBus false).1 }
    some (asked.release false (.settling false))
  | .clearing, .proceed => some { ensemble with stop := ensemble.stop.reset, stage := .spawning }
  | .spawning, .spawn true =>
    some { ensemble with
      threads := ensemble.threads ++ [.ready]
      handle := some ensemble.threads.length
      stage := .settling true }
  | .spawning, .spawn false => some { ensemble with stage := .undoing }
  | .undoing, .proceed =>
    some ({ ensemble with core := ensemble.core.rollBackBus.1 }.conclude true
      (.error (.threadRefused .tryAgain)))
  | .raising thread parted, .proceed =>
    some { ensemble with
      stop := ensemble.stop.raise
      halts := ensemble.halts ++ [thread]
      stage := .announcing thread parted }
  | .announcing thread parted, .announce none =>
    if ensemble.threads.any Task.isAsleep then none
    else some { ensemble with stop := ensemble.stop.notify, stage := .joining thread parted }
  | .announcing thread parted, .announce (some sleeper) =>
    match ensemble.threads[sleeper]? with
    | some (.asleep deadline) =>
      some { ensemble with
        stop := ensemble.stop.notify
        threads := ensemble.threads.set sleeper (.roused deadline)
        stage := .joining thread parted }
    | _ => none
  | .joining thread parted, .proceed =>
    match ensemble.threads[thread]? with
    | some task =>
      if task.isOver then
        some { ensemble with stage := if parted then .gone else .settling false }
      else
        none
    | none => none
  | .settling active, .proceed =>
    some ({ ensemble with
      core := { ensemble.core with active := active } }.conclude active (.ok true))
  | .parting, .proceed =>
    let core := { ensemble.core with bus := ensemble.core.bus.map fun (bus : Bus) => bus.drop.1 }
    some ({ ensemble with core := core }.release true .gone)
  | _, _ => none

/-- The ensemble after a step of a thread, if the thread can take it. -/
def threadStep (ensemble : Ensemble) (number : Nat) (step : TaskStep) : Option Ensemble :=
  -- A thread reaches nothing but the signal and the screensaver.
  match ensemble.threads[number]? with
  | none => none
  | some task =>
    (task.step ensemble.interval ensemble.halts.length ensemble.stop step).map fun (next, stop) =>
      { ensemble with
        stop := stop
        threads := ensemble.threads.set number next
        resets := if next = .resetting then ensemble.resets + 1 else ensemble.resets }

/-- The ensemble after a step, if it can be taken. -/
def step (ensemble : Ensemble) : EnsembleStep → Option Ensemble
  -- Whoever is to get on is chosen from outside.
  | .caller step => ensemble.callerStep step
  | .thread number step => ensemble.threadStep number step

/-- The ensemble after several steps, of which impossible ones are passed over. -/
def run (ensemble : Ensemble) (steps : List EnsembleStep) : Ensemble :=
  -- Whoever cannot go on waits.
  steps.foldl (fun ensemble step => (ensemble.step step).getD ensemble) ensemble

/-- The ensemble after several steps of one thread, if the thread can take them all. -/
def threadRun (ensemble : Ensemble) (number : Nat) : List TaskStep → Option Ensemble
  -- They are taken in order, and nobody else gets on.
  | [] => some ensemble
  | step :: rest => (ensemble.threadStep number step).bind fun after => after.threadRun number rest

end Ensemble

end Wakeful
