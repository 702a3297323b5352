import Wakeful.Proofs.Inhibit.Turnwise

/-! Whoever gets on when, a watchdog has a thread exactly while there is to be one. -/

namespace Wakeful.Ensemble

variable {ensemble after : Ensemble}

/-- The state that is noted between two calls is the one that the last call was answered with. -/
def Settled (ensemble : Ensemble) : Prop :=
  -- A change that has failed leaves the inhibitor inactive.
  ensemble.stage = .resting → ∀ active answer, ensemble.answers.getLast? = some (active, answer) →
    ensemble.core.active = (active && answer.isOk)

/-- A change that ends notes the state that it is answered with. -/
theorem settled_conclude {active : Bool} {answer : Except InhibitError Bool}
    (noted : ensemble.core.active = (active && answer.isOk)) :
    Settled (ensemble.conclude active answer) := by
  -- The last answer is the one that ends the change.
  intro resting asked given last
  simp only [conclude, List.getLast?_concat, Option.some.injEq, Prod.mk.injEq] at last
  obtain ⟨rfl, rfl⟩ := last
  exact noted

/-- Every step keeps the state that is noted in agreement with the answers. -/
theorem Settled.step (orderly : Orderly ensemble) (settled : Settled ensemble) {step : EnsembleStep}
    (moves : ensemble.step step = some after) : Settled after := by
  -- Only the end of a change brings the caller back between two calls.
  cases step with
  | thread number step =>
    -- A thread does not touch the caller.
    obtain ⟨task, next, stop, -, -, rfl⟩ := threadStep_cases moves
    exact settled
  | caller step =>
    have placed := orderly.placed
    cases callerStep_moves moves with
    | calls stage =>
      -- A change to the present state is answered with no change.
      unfold begin
      split
      · rename_i same
        exact settled_conclude (same.trans (by simp [Except.isOk, Except.toBool]))
      · intro resting
        cases resting
    | leaves stage =>
      unfold begin
      split
      · rename_i same
        exact settled_conclude same
      · intro resting
        cases resting
    | undoes stage =>
      -- A start that has failed leaves the inhibitor inactive.
      simp only [Placed, stage] at placed
      refine settled_conclude ?_
      rw [Inhibitor.rollBackBus_active, placed.2.1]
      rfl
    | settles stage => exact settled_conclude (by simp [Except.isOk, Except.toBool])
    -- Any other step leaves the caller somewhere else than between two calls.
    | starts stage =>
      intro resting
      cases held : ensemble.handle <;> simp [held] at resting
    | stops stage | parts stage =>
      intro resting
      cases held : ensemble.handle <;> simp [release, held] at resting
    | @joins thread parted task stage found finished =>
      intro resting
      cases parted <;> cases resting
    | _ =>
      intro resting
      cases resting

/-- The answers agree with the state after any number of steps in any order. -/
theorem Settled.run (orderly : Orderly ensemble) (settled : Settled ensemble)
    (steps : List EnsembleStep) : Settled (ensemble.run steps) :=
  orderly.run_induction Settled (fun _ _ _ inOrder moves before =>
    before.step inOrder moves) steps settled

/-- No thread is alive. -/
def Idle (ensemble : Ensemble) : Prop :=
  -- All there have ever been are at their end.
  ∀ number, ¬ ensemble.Alive number

/-- Between two calls while inactive, and after all, no thread is alive. -/
theorem Orderly.idle (orderly : Orderly ensemble)
    (done : ensemble.stage = .resting ∧ ensemble.core.active = false ∨ ensemble.stage = .gone) :
    Idle ensemble := by
  -- There is no hold of a thread that would have to be waited for.
  have placed := orderly.placed
  intro number alive
  have waited := orderly.single number alive
  rcases done with ⟨stage, inactive⟩ | stage
  · simp only [Placed, stage, inactive] at placed
    simp only [current, held, stage] at waited
    simp [waited] at placed
  · simp only [Placed, stage] at placed
    simp only [current, held, stage, placed.2] at waited
    cases waited

/-- While no thread is alive, none takes a step. -/
theorem Idle.threadStep (idle : Idle ensemble) (number : Nat) (step : TaskStep) :
    ensemble.threadStep number step = none := by
  -- A step would need a thread that is not at its end.
  cases taken : ensemble.threadStep number step with
  | none => rfl
  | some after =>
    obtain ⟨task, next, stop, found, moved, -⟩ := threadStep_cases taken
    cases finished : task.isOver with
    | false => exact absurd ⟨task, found, finished⟩ (idle number)
    | true =>
      rw [Task.step_isOver finished] at moved
      cases moved

/-- While no thread is alive, the caller changes nothing about the threads unless it starts one. -/
theorem Idle.callerStep (idle : Idle ensemble) {step : CallerStep} (other : step ≠ .spawn true)
    (moves : CallerMoves ensemble step after) :
    after.threads = ensemble.threads ∧ after.resets = ensemble.resets := by
  -- Notifying a sleeper is the only other way in which the caller touches a thread.
  cases moves with
  | calls stage | leaves stage =>
    unfold begin conclude
    split <;> exact ⟨rfl, rfl⟩
  | stops stage | parts stage =>
    unfold release
    split <;> exact ⟨rfl, rfl⟩
  | spawns stage => exact absurd rfl other
  -- Nobody sleeps who could be notified.
  | @announces thread sleeper parted deadline stage found =>
    exact absurd ⟨_, found, rfl⟩ (idle sleeper)
  | _ => exact ⟨rfl, rfl⟩

/-- Once no thread is alive, none is alive and no reset begins until one is started. -/
theorem Idle.run (idle : Idle ensemble) {steps : List EnsembleStep}
    (other : .caller (.spawn true) ∉ steps) :
    Idle (ensemble.run steps) ∧ (ensemble.run steps).resets = ensemble.resets := by
  -- The induction is over the steps, which leave the threads and the resets as they are.
  induction steps generalizing ensemble with
  | nil => exact ⟨idle, rfl⟩
  | cons step rest ih =>
    have kept : Idle ((ensemble.step step).getD ensemble) ∧
        ((ensemble.step step).getD ensemble).resets = ensemble.resets := by
      cases step with
      | thread number step =>
        -- There is nobody to take the step.
        have stuck : ensemble.step (.thread number step) = none := idle.threadStep number step
        rw [stuck]
        exact ⟨idle, rfl⟩
      | caller step =>
        cases moves : ensemble.step (.caller step) with
        | none => exact ⟨idle, rfl⟩
        | some after =>
          -- The caller may do anything but start a thread.
          have starts : step ≠ .spawn true := by
            rintro rfl
            exact other List.mem_cons_self
          obtain ⟨threads, resets⟩ := idle.callerStep starts (callerStep_moves moves)
          refine ⟨?_, resets⟩
          rintro number ⟨task, found, alive⟩
          rw [Option.getD_some, threads] at found
          exact idle number ⟨task, found, alive⟩
    obtain ⟨final, resets⟩ := ih kept.1 (fun later => other (List.mem_cons_of_mem _ later))
    rw [run_cons]
    exact ⟨final, resets.trans kept.2⟩

/-- A thread that is waited for is nearer to its end after every step, and never falls asleep. -/
theorem Orderly.ends (orderly : Orderly ensemble) {thread : Nat} {parted : Bool}
    (stage : ensemble.stage = .joining thread parted) {task : Task}
    (found : ensemble.threads[thread]? = some task) {taken : List TaskStep}
    (reached : ensemble.threadRun thread taken = some after) :
    ∃ last, after.threads[thread]? = some last ∧ last.isAsleep = false ∧
      taken.length + last.remaining ≤ task.remaining ∧ after.stage = .joining thread parted ∧
      Orderly after := by
  -- The induction is over the steps, each of which finds the signal pending.
  induction taken generalizing ensemble task with
  | nil =>
    cases reached
    have heard := orderly.heard
    simp only [Heard, stage] at heard
    exact ⟨task, found, heard.2.2 task found, by simp, stage, orderly⟩
  | cons step rest ih =>
    obtain ⟨between, moves, further⟩ := Option.bind_eq_some_iff.mp reached
    have heard := orderly.heard
    simp only [Heard, stage] at heard
    have kept := orderly.threadStep moves
    obtain ⟨before, next, stop, there, moved, rfl⟩ := threadStep_cases moves
    rw [found] at there
    cases there
    have bound := (List.getElem?_eq_some_iff.mp found).1
    have pending := heard.2.1 ⟨task, found, (orderly.effect found moved).alive⟩
    have nearer := (orderly.moves found moved).remaining_lt pending
    obtain ⟨last, final, awake, count, still, inOrder⟩ :=
      ih kept stage (List.getElem?_set_self bound) further
    refine ⟨last, final, awake, ?_, still, inOrder⟩
    rw [List.length_cons]
    omega

/-- No thread has more than three steps left once the signal is pending. -/
theorem remaining_le (task : Task) : task.remaining ≤ 3 := by
  cases task <;> simp [Task.remaining]

/--
A stop that waits for its thread is never left waiting: the
thread gets on by itself, and then the caller does.
-/
theorem Orderly.joins (orderly : Orderly ensemble) {thread : Nat} {parted : Bool}
    (stage : ensemble.stage = .joining thread parted) {taken : List TaskStep}
    (reached : ensemble.threadRun thread taken = some after) :
    taken.length ≤ 3 ∧ ∃ task, after.threads[thread]? = some task ∧ task.isAsleep = false ∧
      if task.isOver then (after.callerStep .proceed).isSome = true
      else ∃ step, (after.threadStep thread step).isSome = true := by
  -- The steps that have been taken come out of the few that were left when the signal was sent.
  have bound := orderly.present thread (by simp only [current, stage])
  obtain ⟨last, final, awake, count, still, -⟩ :=
    orderly.ends stage (List.getElem?_eq_getElem bound) reached
  refine ⟨?_, last, final, awake, ?_⟩
  · have most := remaining_le ensemble.threads[thread]
    omega
  · split
    · rename_i finished
      simp [Ensemble.callerStep, still, final, finished]
    · rename_i alive
      obtain ⟨step, possible⟩ :=
        Task.step_possible after.interval after.halts.length after.stop (Bool.not_eq_true _ ▸ alive)
      exact ⟨step, by simpa [Ensemble.threadStep, final] using possible⟩

/--
There is a thread exactly while the inhibitor is active, whoever gets on when.

Between two calls the watchdog has a hold of a thread exactly if the inhibitor is active, and never
are two threads alive. Once a stop or the end of the inhibitor has been waited for, no thread is
alive and no reset begins until one is started again. A thread that has ended without breaking off
has consumed the signal of the halt that was its own, no two halts are for the same thread, and
a halt that waits is not left waiting, however early or late its signal came. What the steps come
to between two calls and at the end is what whole turns one after another come to, and whole turns
are among the orders in which the steps may be taken.
-/
theorem thread_iff_active (reason : String) (bus : Option Bus) (interval : Span)
    (steps : List EnsembleStep) :
    let origin := (Inhibitor.build reason (.given bus) (some interval)).1
    let reached := (Ensemble.new reason bus interval).run steps
    (reached.stage = .resting → reached.handle.isSome = reached.core.active ∧
      ∀ answer, reached.answers.getLast? = some (false, answer) → reached.core.active = false) ∧
    (∀ first second, reached.Alive first → reached.Alive second → first = second) ∧
    (reached.stage = .resting ∧ reached.core.active = false ∨ reached.stage = .gone →
      ∀ later, .caller (.spawn true) ∉ later →
        Idle (reached.run later) ∧ (reached.run later).resets = reached.resets) ∧
    (∀ number halt,
      reached.threads[number]? = some (Task.ended halt) → reached.halts[halt]? = some number) ∧
    reached.halts.Nodup ∧
    (∀ thread parted,
      reached.stage = .joining thread parted → reached.halts.getLast? = some thread ∧
      ∀ taken after, reached.threadRun thread taken = some after →
        taken.length ≤ 3 ∧ ∃ task, after.threads[thread]? = some task ∧ task.isAsleep = false ∧
          if task.isOver then (after.callerStep .proceed).isSome = true
          else ∃ step, (after.threadStep thread step).isSome = true) ∧
    (reached.stage = .resting → ∃ taken,
      reached.view = origin.turns taken ∧ reached.answers.map Prod.snd = origin.answers taken) ∧
    (reached.stage = .gone → ∃ taken circumstances,
      reached.view = ((origin.turns taken).drop circumstances).1 ∧
      reached.answers.map Prod.snd = origin.answers (taken ++ [.call false circumstances])) ∧
    (∀ taken, ∃ others, let arrived := (Ensemble.new reason bus interval).run others
      arrived.stage = .resting ∧ arrived.view = origin.turns taken ∧
        arrived.answers.map Prod.snd = origin.answers taken) := by
  intro origin reached
  have orderly : Orderly reached := (Orderly.new reason bus interval).run steps
  have settled : Settled reached := by
    refine Settled.run (Orderly.new reason bus interval) ?_ steps
    intro resting active answer last
    cases last
  obtain ⟨resting, gone⟩ := run_serial reason bus interval steps
  -- What is left speaks of one moment between two steps, where the order tells all.
  refine ⟨?_, fun first second => orderly.same, ?_, orderly.counted.signed, orderly.counted.once,
    ?_, resting, gone, turns_reached reason bus interval⟩
  · intro stage
    have placed := orderly.placed
    simp only [Placed, stage] at placed
    exact ⟨placed.2, fun answer last => settled stage false answer last⟩
  · intro done later other
    exact (orderly.idle done).run other
  · intro thread parted stage
    have heard := orderly.heard
    simp only [Heard, stage] at heard
    exact ⟨heard.1, fun taken after reached => orderly.joins stage reached⟩

end Wakeful.Ensemble
