import Wakeful.Inhibit.Ensemble

/-!
What a thread can do in one step, case by case, and what
that does to the signal that all threads share.
-/

namespace Wakeful.Task

/-- The signal has counted a thread if it sleeps or has been roused. -/
structure Noticed (task : Task) (stop : Event) : Prop where
  /-- A sleeper is one of those that sleep. -/
  asleep : task.isAsleep = true → stop.asleep ≠ 0
  /-- A thread that has been roused is one of those that have been notified. -/
  roused : task.isRoused = true → stop.notified ≠ 0

/-- What one step of a thread comes to, case by case. -/
inductive Moves (interval : Span) (halts : Nat) (stop : Event) :
    Task → TaskStep → Task → Event → Prop where
  /-- It has a deadline. -/
  | waits {now deadline : Moment} (later : now.after interval = .ok deadline) :
      Moves interval halts stop .ready (.wait now) (.arriving deadline) stop
  /-- The clock cannot express its deadline. -/
  | overflows {now : Moment} {fault : Overflow} (beyond : now.after interval = .error fault) :
      Moves interval halts stop .ready (.wait now) .broken stop
  /-- It arrives, consumes the signal and ends. -/
  | heeds {deadline : Moment} (pending : stop.pending = true) :
      Moves interval halts stop (.arriving deadline) .arrive (.ended (halts - 1)) stop.reset
  /-- It arrives and falls asleep. -/
  | rests {deadline : Moment} (quiet : stop.pending = false) :
      Moves interval halts stop (.arriving deadline) .arrive (.asleep deadline)
        ⟨false, stop.asleep + 1, stop.notified⟩
  /-- It is roused. -/
  | rouses {deadline : Moment} :
      Moves interval halts stop (.asleep deadline) .rouse (.roused deadline) stop.notify
  /-- Roused, it consumes the signal and ends. -/
  | wakes {deadline : Moment} (pending : stop.pending = true) :
      Moves interval halts stop (.roused deadline) .look (.ended (halts - 1))
        ⟨false, stop.asleep, stop.notified - 1⟩
  /-- It has been roused for nothing and falls asleep again. -/
  | dozes {deadline : Moment} (quiet : stop.pending = false) :
      Moves interval halts stop (.roused deadline) .look (.asleep deadline)
        ⟨false, stop.asleep + 1, stop.notified - 1⟩
  /-- At its deadline it still consumes the signal and ends. -/
  | stops {deadline now : Moment} (passed : deadline.nanoseconds ≤ now.nanoseconds)
      (pending : stop.pending = true) :
        Moves interval halts stop (.asleep deadline) (.expire now) (.ended (halts - 1))
        ⟨false, stop.asleep - 1, stop.notified⟩
  /-- At its deadline it begins a reset. -/
  | expires {deadline now : Moment} (passed : deadline.nanoseconds ≤ now.nanoseconds)
      (quiet : stop.pending = false) :
        Moves interval halts stop (.asleep deadline) (.expire now) .resetting
        ⟨false, stop.asleep - 1, stop.notified⟩
  /-- The reset breaks it off. -/
  | breaks : Moves interval halts stop .resetting (.finish .broke) .broken stop
  /-- It comes back from the reset. -/
  | returns {outcome : ResetOutcome} (whole : outcome ≠ .broke) :
      Moves interval halts stop .resetting (.finish outcome) .ready stop

variable {task next : Task} {interval : Span} {halts : Nat} {stop after : Event} {step : TaskStep}

/-- A thread that the signal has counted can take a step exactly in these cases. -/
theorem step_eq_some_iff (noticed : Noticed task stop) :
    task.step interval halts stop step = some (next, after) ↔
      Moves interval halts stop task step next after := by
  constructor
  · -- The cases are those of the step, and within the looks those of the flag.
    intro taken
    unfold Task.step at taken
    split at taken
    · rename_i now
      cases later : now.after interval with
      | ok deadline =>
        rw [later] at taken
        cases taken
        exact .waits later
      | error fault =>
        rw [later] at taken
        cases taken
        exact .overflows later
    · rename_i deadline
      cases flag : stop.pending with
      | true =>
        simp only [Event.enter, flag, if_true, afterLook] at taken
        cases taken
        exact .heeds flag
      | false =>
        simp only [Event.enter, flag, Bool.false_eq_true, if_false, afterLook] at taken
        cases taken
        exact .rests flag
    · cases taken
      exact .rouses
    · -- Without the count nobody would look after having been roused.
      rename_i deadline
      have counted := noticed.roused rfl
      cases flag : stop.pending with
      | true =>
        simp only [Event.resume, counted, flag, if_true, if_false, afterLook] at taken
        cases taken
        exact .wakes flag
      | false =>
        simp only [Event.resume, counted, flag, Bool.false_eq_true, if_false, afterLook] at taken
        cases taken
        exact .dozes flag
    · -- Neither would a deadline end anybody's sleep.
      rename_i deadline now
      have counted := noticed.asleep rfl
      split at taken
      · rename_i passed
        cases flag : stop.pending with
        | true =>
          simp only [Event.expire, counted, flag, if_true, if_false, afterLook] at taken
          cases taken
          exact .stops passed flag
        | false =>
          simp only [Event.expire, counted, flag, Bool.false_eq_true, if_false, afterLook] at taken
          cases taken
          exact .expires passed flag
      · cases taken
    · rename_i outcome
      cases outcome <;> cases taken
      · exact .returns (by decide)
      · exact .returns (by decide)
      · exact .breaks
    · cases taken
  · -- Each case fixes the conditions that the step looks at.
    intro moves
    cases moves with
    | waits later => simp [Task.step, later]
    | overflows beyond => simp [Task.step, beyond]
    | heeds pending => simp [Task.step, Event.enter, pending, afterLook]
    | rests quiet => simp [Task.step, Event.enter, quiet, afterLook]
    | rouses => rfl
    | wakes pending => simp [Task.step, Event.resume, noticed.roused rfl, pending, afterLook]
    | dozes quiet => simp [Task.step, Event.resume, noticed.roused rfl, quiet, afterLook]
    | stops passed pending =>
      simp [Task.step, Event.expire, noticed.asleep rfl, passed, pending, afterLook]
    | expires passed quiet =>
      simp [Task.step, Event.expire, noticed.asleep rfl, passed, quiet, afterLook]
    | breaks => rfl
    | returns whole => simp [Task.step, whole]

/-- What a step has made of a thread and of the signal, when so many halts have sent one. -/
structure Effect (task next : Task) (halts : Nat) (stop after : Event) : Prop where
  /-- The thread was not at its end. -/
  alive : task.isOver = false
  /-- It is counted among the sleepers exactly while it sleeps. -/
  asleep : after.asleep + task.isAsleep.toNat = stop.asleep + next.isAsleep.toNat
  /-- It is counted among the notified exactly while it has been roused. -/
  notified : after.notified + task.isRoused.toNat = stop.notified + next.isRoused.toNat
  /--
  It has consumed the signal and ended, or left the signal
  alone without sleeping on one that is pending.
  -/
  flag : (stop.pending = true ∧ after.pending = false ∧ next = .ended (halts - 1)) ∨
    (after.pending = stop.pending ∧ (∀ halt, next ≠ .ended halt) ∧
      (stop.pending = true → next.isAsleep = false))

/-- Every step of a thread that the signal has counted has such an effect. -/
theorem Moves.effect (noticed : Noticed task stop)
    (moves : Moves interval halts stop task step next after) :
    Effect task next halts stop after := by
  -- Only the looks and the awakening change a count, and only a look that ends the thread the flag.
  cases moves with
  | waits later | overflows beyond | breaks | returns whole =>
    constructor <;> simp [isOver, isAsleep, isRoused]
  | heeds pending => constructor <;> simp [isOver, isAsleep, isRoused, Event.reset, pending]
  | rests quiet => constructor <;> simp [isOver, isAsleep, isRoused, quiet]
  | rouses =>
    have counted := noticed.asleep rfl
    constructor <;> simp [isOver, isAsleep, isRoused, Event.notify, counted]
    omega
  | wakes pending =>
    have counted := noticed.roused rfl
    constructor <;> simp [isOver, isAsleep, isRoused, pending]
    omega
  | dozes quiet =>
    have counted := noticed.roused rfl
    constructor <;> simp [isOver, isAsleep, isRoused, quiet]
    omega
  | stops passed pending =>
    have counted := noticed.asleep rfl
    constructor <;> simp [isOver, isAsleep, isRoused, pending]
    omega
  | expires passed quiet =>
    have counted := noticed.asleep rfl
    constructor <;> simp [isOver, isAsleep, isRoused, quiet]
    omega

/-- How many steps a thread still has to take at most once the signal is pending. -/
def remaining : Task → Nat
  -- A reset is waited for, and after it the thread still computes one more deadline.
  | resetting => 3
  | ready | asleep _ => 2
  | arriving _ | roused _ => 1
  | ended _ | broken => 0

/-- With a signal pending every step brings the thread nearer to its end. -/
theorem Moves.remaining_lt (pending : stop.pending = true)
    (moves : Moves interval halts stop task step next after) : next.remaining < task.remaining := by
  -- No look finds the flag clear, so the thread falls asleep no more.
  cases moves with
  | rests quiet | dozes quiet | expires passed quiet =>
    rw [pending] at quiet
    cases quiet
  | _ => simp [remaining]

/-- A thread that is not at its end can always get on. -/
theorem step_possible (interval : Span) (halts : Nat) (stop : Event) (alive : task.isOver = false) :
    ∃ step, (task.step interval halts stop step).isSome = true := by
  -- Nothing that a thread waits for is the only thing that can happen to it.
  cases task with
  | ready =>
    refine ⟨.wait ⟨0⟩, ?_⟩
    simp only [Task.step]
    split <;> rfl
  | arriving deadline => exact ⟨.arrive, rfl⟩
  | asleep deadline => exact ⟨.rouse, rfl⟩
  | roused deadline => exact ⟨.look, rfl⟩
  | resetting => exact ⟨.finish .succeeded, rfl⟩
  | ended halt => cases alive
  | broken => cases alive

/-- A thread at its end takes no step any more. -/
theorem step_isOver (finished : task.isOver = true) :
    task.step interval halts stop step = none := by
  cases task <;> first | rfl | cases finished

end Wakeful.Task
