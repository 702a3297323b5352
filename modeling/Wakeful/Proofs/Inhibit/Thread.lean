import Wakeful.Inhibit.Turn
import Wakeful.Proofs.Inhibit.Event

/-! What the watchdog's thread can do, step by step, and what is left of it after a halt. -/

namespace Wakeful

namespace Watchdog

/-- What one step of the thread comes to, case by case. -/
inductive Moves (watchdog : Watchdog) : ThreadStep → Watchdog → Prop where
  /-- It has a deadline and waits. -/
  | waits {now deadline : Moment} (phase : watchdog.thread = some .ready)
      (later : now.after watchdog.interval = .ok deadline) :
      Moves watchdog (.wait now) { watchdog with thread := some (.waiting deadline) }
  /-- The clock cannot express its deadline. -/
  | overflows {now : Moment} {fault : Overflow} (phase : watchdog.thread = some .ready)
      (beyond : now.after watchdog.interval = .error fault) :
      Moves watchdog (.wait now) { watchdog with thread := some .broken }
  /-- It consumes the signal and ends. -/
  | stops {deadline : Moment} (phase : watchdog.thread = some (.waiting deadline))
      (signaled : watchdog.stop.pending = true) :
      Moves watchdog .stop { watchdog with thread := some .ended, stop := watchdog.stop.reset }
  /-- Its deadline has come, and it begins a reset. -/
  | expires {now deadline : Moment} (phase : watchdog.thread = some (.waiting deadline))
      (quiet : watchdog.stop.pending = false) (passed : deadline.nanoseconds ≤ now.nanoseconds) :
      Moves watchdog (.expire now) { watchdog with
        thread := some .resetting, resets := watchdog.resets + 1 }
  /-- The reset breaks it off. -/
  | breaks (phase : watchdog.thread = some .resetting) :
      Moves watchdog (.finish .broke) { watchdog with thread := some .broken }
  /-- It comes back from the reset. -/
  | returns {outcome : ResetOutcome} (phase : watchdog.thread = some .resetting)
      (whole : outcome ≠ .broke) :
        Moves watchdog (.finish outcome) { watchdog with thread := some .ready }

/-- The thread can take a step exactly in these cases. -/
theorem threadStep_eq_some_iff {watchdog after : Watchdog} {step : ThreadStep} :
    watchdog.threadStep step = some after ↔ watchdog.Moves step after := by
  constructor
  · -- Every branch of the step that gives a watchdog is one of the cases.
    intro taken
    unfold threadStep at taken
    split at taken
    · rename_i now phase
      split at taken
      · rename_i deadline later
        cases taken
        exact .waits phase later
      · rename_i fault beyond
        cases taken
        exact .overflows phase beyond
    · rename_i deadline phase
      split at taken
      · rename_i signaled
        cases taken
        exact .stops phase signaled
      · cases taken
    · rename_i deadline now phase
      split at taken
      · rename_i passed
        simp only [Bool.and_eq_true, Bool.not_eq_true', decide_eq_true_eq] at passed
        cases taken
        exact .expires phase passed.1 passed.2
      · cases taken
    · rename_i outcome phase
      cases outcome <;> cases taken
      · exact .returns phase (by decide)
      · exact .returns phase (by decide)
      · exact .breaks phase
    · cases taken
  · -- Each case fixes the phase and the conditions that the step looks at.
    intro moves
    cases moves with
    | waits phase later => simp [threadStep, phase, later]
    | overflows phase beyond => simp [threadStep, phase, beyond]
    | stops phase signaled => simp [threadStep, phase, signaled]
    | expires phase quiet passed => simp [threadStep, phase, quiet, passed]
    | breaks phase => simp [threadStep, phase]
    | @returns outcome phase whole => cases outcome <;> simp_all [threadStep]

/-- A step of the thread leaves a thread where there was one, and the interval as it is. -/
theorem Moves.keeps {watchdog after : Watchdog} {step : ThreadStep}
    (moves : watchdog.Moves step after) :
    watchdog.isActive = true ∧ after.isActive = true ∧ after.interval = watchdog.interval := by
  -- In every case there is a phase before and a phase after.
  cases moves <;> simp_all [isActive]

@[simp] theorem threadSteps_nil (watchdog : Watchdog) : watchdog.threadSteps [] = watchdog := rfl

theorem threadSteps_cons (watchdog : Watchdog) (step : ThreadStep) (rest : List ThreadStep) :
    watchdog.threadSteps (step :: rest) =
      ((watchdog.threadStep step).getD watchdog).threadSteps rest := rfl

/-- What every step of the thread preserves, any number of steps preserve. -/
theorem threadSteps_induction (property : Watchdog → Prop)
    (single : ∀ watchdog after step, watchdog.Moves step after → property watchdog → property after)
    {watchdog : Watchdog} (steps : List ThreadStep) (holds : property watchdog) :
    property (watchdog.threadSteps steps) := by
  -- A step that cannot be taken changes nothing.
  induction steps generalizing watchdog with
  | nil => exact holds
  | cons step rest ih =>
    rw [threadSteps_cons]
    apply ih
    cases taken : watchdog.threadStep step with
    | none => exact holds
    | some after => exact single _ _ _ (threadStep_eq_some_iff.mp taken) holds

/-- A thread neither comes into being nor disappears by its own steps. -/
@[simp] theorem isActive_threadSteps (watchdog : Watchdog) (steps : List ThreadStep) :
    (watchdog.threadSteps steps).isActive = watchdog.isActive := by
  -- Each step keeps it, and so do all of them.
  apply threadSteps_induction (fun after => after.isActive = watchdog.isActive) _ steps rfl
  intro before after step moves same
  rw [moves.keeps.2.1, ← same, moves.keeps.1]

/-- The interval is the same for the whole life of a watchdog. -/
@[simp] theorem interval_threadSteps (watchdog : Watchdog) (steps : List ThreadStep) :
    (watchdog.threadSteps steps).interval = watchdog.interval := by
  -- Each step keeps it, and so do all of them.
  apply threadSteps_induction (fun after => after.interval = watchdog.interval) _ steps rfl
  intro before after step moves same
  rw [moves.keeps.2.2, same]

/-- Whatever has become of the thread, there is none after a halt. -/
@[simp] theorem halt_thread (watchdog : Watchdog) (circumstances : Circumstances) :
    (watchdog.halt circumstances).2.1.thread = none := by
  -- Either there was none before, or it has been waited for.
  unfold halt
  cases present : watchdog.thread with
  | none => exact present
  | some phase =>
    simp only
    split <;> rfl

/-- A halt fails only because the thread has broken off. -/
theorem halt_result (watchdog : Watchdog) (circumstances : Circumstances) :
    (watchdog.halt circumstances).1 = .ok () ∨
      (watchdog.halt circumstances).1 = .error .watchdogBroken := by
  -- Without a thread there is nothing that could fail.
  unfold halt
  cases watchdog.thread with
  | none => exact Or.inl rfl
  | some phase =>
    simp only
    split
    · exact Or.inr rfl
    · exact Or.inl rfl

end Watchdog

end Wakeful
