import Wakeful.Proofs.Inhibit.Change
import Wakeful.Proofs.Inhibit.Task

/-!
What is true of an inhibitor and its threads between any two
steps, and stays true when a thread takes one.
-/

namespace Wakeful.Ensemble

/-- Whether the thread with a number has been started and is not at its end. -/
def Alive (ensemble : Ensemble) (number : Nat) : Prop :=
  -- A thread that has broken off is at its end too.
  ∃ task, ensemble.threads[number]? = some task ∧ task.isOver = false

/-- The thread that is still to be halted. -/
def held (ensemble : Ensemble) : Option Nat :=
  -- A halt has given up the hold before it sends the signal.
  match ensemble.stage with
  | .raising thread _ => some thread
  | _ => ensemble.handle

/-- The thread that is still to be waited for. -/
def current (ensemble : Ensemble) : Option Nat :=
  -- It is waited for even after the signal has been sent.
  match ensemble.stage with
  | .announcing thread _ | .joining thread _ => some thread
  | _ => ensemble.held

/-- How far the caller has got fits the state that it has noted and its hold of a thread. -/
def Placed (ensemble : Ensemble) : Prop :=
  -- The state is noted only after both sides have followed.
  match ensemble.stage with
  | .resting => ensemble.leaving = false ∧ ensemble.handle.isSome = ensemble.core.active
  | .asking active =>
    (ensemble.leaving = true → active = false) ∧ ensemble.core.active = !active ∧
      ensemble.handle.isSome = !active
  | .clearing | .spawning | .undoing =>
    ensemble.leaving = false ∧ ensemble.core.active = false ∧ ensemble.handle = none
  | .raising _ parted | .announcing _ parted | .joining _ parted =>
    ensemble.core.active = true ∧ ensemble.handle = none ∧ parted = false
  | .settling active =>
    (ensemble.leaving = true → active = false) ∧ ensemble.core.active = !active ∧
      ensemble.handle.isSome = active
  | .parting | .gone => ensemble.core.active = false ∧ ensemble.handle = none

/-- No thread is alive that could mistake a pending signal for its own. -/
def Quiet (ensemble : Ensemble) : Prop :=
  -- What a broken thread has left pending hurts nobody until the next one starts.
  ∀ number, ensemble.Alive number → ensemble.stop.pending = false

/-- The signal is pending for nobody but the thread that is being halted. -/
def Heard (ensemble : Ensemble) : Prop :=
  -- Between the notification and its end that thread does not sleep either.
  match ensemble.stage with
  | .spawning => ensemble.stop.pending = false
  | .announcing thread _ =>
    ensemble.halts.getLast? = some thread ∧ (ensemble.Alive thread → ensemble.stop.pending = true)
  | .joining thread _ =>
    ensemble.halts.getLast? = some thread ∧ (ensemble.Alive thread → ensemble.stop.pending = true) ∧
      ∀ task, ensemble.threads[thread]? = some task → task.isAsleep = false
  | _ => ensemble.Quiet

/-- The signal has counted the threads, and each that has consumed one has consumed its own. -/
structure Counted (threads : List Task) (stop : Event) (halts : List Nat) : Prop where
  /-- Every sleeper is counted. -/
  asleep : stop.asleep = threads.countP Task.isAsleep
  /-- Every thread that has been roused is counted. -/
  notified : stop.notified = threads.countP Task.isRoused
  /-- A thread has ended by a signal that a halt has sent to it. -/
  signed : ∀ number halt, threads[number]? = some (Task.ended halt) → halts[halt]? = some number
  /-- No thread is halted twice. -/
  once : halts.Nodup
  /-- Only threads that have been started are halted. -/
  started : ∀ number ∈ halts, number < threads.length

/-- What is true of an ensemble between any two steps. -/
structure Orderly (ensemble : Ensemble) : Prop where
  /-- The signal has counted the threads. -/
  counted : Counted ensemble.threads ensemble.stop ensemble.halts
  /-- The caller has got as far as its hold of a thread tells. -/
  placed : ensemble.Placed
  /-- All threads but the one to be waited for are at their end. -/
  single : ∀ number, ensemble.Alive number → ensemble.current = some number
  /-- The thread to be waited for has been started. -/
  present : ∀ number, ensemble.current = some number → number < ensemble.threads.length
  /-- The thread to be halted has not been halted yet. -/
  unhalted : ∀ number, ensemble.held = some number → number ∉ ensemble.halts
  /-- No signal reaches the wrong thread. -/
  heard : ensemble.Heard

/-- A new ensemble is in order. -/
theorem Orderly.new (reason : String) (bus : Option Bus) (interval : Span) :
    Orderly (Ensemble.new reason bus interval) := by
  -- There is no thread that could be alive.
  constructor
  · constructor <;> simp [Ensemble.new, Event.new]
  · exact ⟨rfl, rfl⟩
  · rintro number ⟨task, found, _⟩
    simp [Ensemble.new] at found
  · intro number found
    cases found
  · intro number found
    cases found
  · rintro number ⟨task, found, _⟩
    rfl

variable {ensemble after : Ensemble}

/-- Two threads that are alive are the same. -/
theorem Orderly.same (orderly : Orderly ensemble) {number other : Nat}
    (first : ensemble.Alive number) (second : ensemble.Alive other) : number = other := by
  -- Both are the one that is still to be waited for.
  have together : some number = some other := by
    rw [← orderly.single number first, orderly.single other second]
  exact Option.some.inj together

/-- A thread that finds the signal pending is the one to which the last halt has sent it. -/
theorem Orderly.addressed (orderly : Orderly ensemble) {number : Nat}
    (alive : ensemble.Alive number) (pending : ensemble.stop.pending = true) :
    ensemble.halts.getLast? = some number := by
  -- Anywhere but in a halt the flag would be clear.
  have heard := orderly.heard
  have waited := orderly.single number alive
  unfold Heard at heard
  unfold current at waited
  split at heard
  · rw [heard] at pending
    cases pending
  · rename_i thread parted stage
    rw [stage] at waited
    cases waited
    exact heard.1
  · rename_i thread parted stage
    rw [stage] at waited
    cases waited
    exact heard.1
  · rw [heard number alive] at pending
    cases pending

/-- Where the signal has counted the threads, it has counted each of them. -/
theorem Counted.noticed {threads : List Task} {stop : Event} {halts : List Nat}
    (counted : Counted threads stop halts) {number : Nat} {task : Task}
    (found : threads[number]? = some task) : task.Noticed stop := by
  -- A thread that is asleep or roused is one of those that are counted.
  constructor
  · intro sleeps
    rw [counted.asleep]
    exact countP_ne_zero found sleeps
  · intro rouses
    rw [counted.notified]
    exact countP_ne_zero found rouses

/-- A step of a thread, taken apart. -/
theorem threadStep_cases {number : Nat} {step : TaskStep}
    (taken : ensemble.threadStep number step = some after) :
    ∃ task next stop, ensemble.threads[number]? = some task ∧
      task.step ensemble.interval ensemble.halts.length ensemble.stop step = some (next, stop) ∧
      after = { ensemble with
        stop := stop
        threads := ensemble.threads.set number next
        resets := if next = .resetting then ensemble.resets + 1 else ensemble.resets } := by
  -- The thread has to be there, and it has to be able to take the step.
  unfold threadStep at taken
  split at taken
  · cases taken
  · rename_i task found
    obtain ⟨⟨next, stop⟩, moved, rfl⟩ := Option.map_eq_some_iff.mp taken
    exact ⟨task, next, stop, found, moved, rfl⟩

/-- A step of a thread is one of those that a thread can take which the signal has counted. -/
theorem Orderly.moves (orderly : Orderly ensemble) {number : Nat} {step : TaskStep}
    {task next : Task} {stop : Event} (found : ensemble.threads[number]? = some task)
    (moved : task.step ensemble.interval ensemble.halts.length ensemble.stop step =
      some (next, stop)) :
    Task.Moves ensemble.interval ensemble.halts.length ensemble.stop task step next stop :=
  (Task.step_eq_some_iff (orderly.counted.noticed found)).mp moved

/-- A step of a thread has an effect on the signal that suits the count. -/
theorem Orderly.effect (orderly : Orderly ensemble) {number : Nat} {step : TaskStep}
    {task next : Task} {stop : Event} (found : ensemble.threads[number]? = some task)
    (moved : task.step ensemble.interval ensemble.halts.length ensemble.stop step =
      some (next, stop)) :
    Task.Effect task next ensemble.halts.length ensemble.stop stop :=
  (orderly.moves found moved).effect (orderly.counted.noticed found)

/-- After a step of a thread no other threads are alive than before. -/
theorem alive_of_set {number other : Nat} {task next : Task}
    (found : ensemble.threads[number]? = some task) (alive : task.isOver = false)
    (threads : after.threads = ensemble.threads.set number next) (remains : after.Alive other) :
    ensemble.Alive other := by
  -- Only the entry of the thread that has moved is another one.
  obtain ⟨last, there, living⟩ := remains
  rw [threads] at there
  by_cases same : number = other
  · subst same
    exact ⟨task, found, alive⟩
  · rw [List.getElem?_set_ne same] at there
    exact ⟨last, there, living⟩

/-- A step of a thread keeps the count right. -/
theorem Orderly.counted_threadStep (orderly : Orderly ensemble) {number : Nat} {step : TaskStep}
    {task next : Task} {stop : Event} (found : ensemble.threads[number]? = some task)
    (moved : task.step ensemble.interval ensemble.halts.length ensemble.stop step =
      some (next, stop)) :
    Counted (ensemble.threads.set number next) stop ensemble.halts := by
  -- The effect of the step on the signal is balanced by its effect on the thread.
  have effect := orderly.effect found moved
  have bound : number < ensemble.threads.length := (List.getElem?_eq_some_iff.mp found).1
  constructor
  · -- What the signal counts more or less, the threads do.
    have counts := countP_set_add found next Task.isAsleep
    have before := orderly.counted.asleep
    have changes := effect.asleep
    omega
  · have counts := countP_set_add found next Task.isRoused
    have before := orderly.counted.notified
    have changes := effect.notified
    omega
  · intro other halt ended
    by_cases same : number = other
    · -- The signal it has consumed is the last one, and that was sent to it.
      subst same
      rw [List.getElem?_set_self bound] at ended
      cases ended
      rcases effect.flag with ⟨pending, _, last⟩ | ⟨_, never, _⟩
      · cases last
        rw [← List.getLast?_eq_getElem?]
        exact orderly.addressed ⟨task, found, effect.alive⟩ pending
      · exact absurd rfl (never halt)
    · rw [List.getElem?_set_ne same] at ended
      exact orderly.counted.signed other halt ended
  · exact orderly.counted.once
  · intro other halted
    rw [List.length_set]
    exact orderly.counted.started other halted

/-- A step of a thread lets no signal reach the wrong one. -/
theorem Orderly.heard_threadStep (orderly : Orderly ensemble) {number : Nat} {step : TaskStep}
    {task next : Task} {stop : Event} {resets : Nat} (found : ensemble.threads[number]? = some task)
    (moved : task.step ensemble.interval ensemble.halts.length ensemble.stop step =
      some (next, stop)) :
    Heard { ensemble with
      stop := stop, threads := ensemble.threads.set number next, resets := resets } := by
  -- What has been heard depends on the stage, which a step of a thread does not change.
  have effect := orderly.effect found moved
  have living : ensemble.Alive number := ⟨task, found, effect.alive⟩
  have bound : number < ensemble.threads.length := (List.getElem?_eq_some_iff.mp found).1
  have heard := orderly.heard
  -- A clear flag stays clear.
  have clear : ensemble.stop.pending = false → stop.pending = false := by
    intro quiet
    rcases effect.flag with ⟨pending, _, _⟩ | ⟨same, _, _⟩
    · rw [quiet] at pending
      cases pending
    · rw [same, quiet]
  -- A thread that is alive has not consumed the signal.
  have left : ∀ thread, ensemble.halts.getLast? = some thread →
      (ensemble.Alive thread → ensemble.stop.pending = true) →
      Alive { ensemble with
        stop := stop, threads := ensemble.threads.set number next, resets := resets } thread →
      stop.pending = true := by
    intro thread last pending remains
    have before := alive_of_set found effect.alive rfl remains
    have together := orderly.same before living
    subst together
    rcases effect.flag with ⟨_, _, finished⟩ | ⟨same, _, _⟩
    · obtain ⟨final, there, alive⟩ := remains
      simp only [List.getElem?_set_self bound, Option.some.injEq] at there
      subst there finished
      cases alive
    · rw [same]
      exact pending before
  unfold Heard at heard ⊢
  split at heard
  · -- No thread is there yet for which the flag could be set.
    rename_i stage
    simp only [stage]
    exact clear heard
  · rename_i thread parted stage
    simp only [stage]
    exact ⟨heard.1, left thread heard.1 heard.2⟩
  · rename_i thread parted stage
    simp only [stage]
    refine ⟨heard.1, left thread heard.1 heard.2.1, ?_⟩
    -- A thread that finds the flag set does not fall asleep any more.
    intro final there
    by_cases same : number = thread
    · subst same
      simp only [List.getElem?_set_self bound, Option.some.injEq] at there
      subst there
      rcases effect.flag with ⟨_, _, finished⟩ | ⟨_, _, wakes⟩
      · rw [finished]
        rfl
      · exact wakes (heard.2.1 living)
    · simp only [List.getElem?_set_ne same] at there
      exact heard.2.2 final there
  · -- Elsewhere nobody alive may find the flag set.
    intro other remains
    exact clear (heard other (alive_of_set found effect.alive rfl remains))

/-- A step of a thread keeps the ensemble in order. -/
theorem Orderly.threadStep (orderly : Orderly ensemble) {number : Nat} {step : TaskStep}
    (taken : ensemble.threadStep number step = some after) : Orderly after := by
  -- A step of a thread concerns the count and the flag, and the caller not at all.
  obtain ⟨task, next, stop, found, moved, rfl⟩ := threadStep_cases taken
  have effect := orderly.effect found moved
  constructor
  · exact orderly.counted_threadStep found moved
  · exact orderly.placed
  · intro other remains
    exact orderly.single other (alive_of_set found effect.alive rfl remains)
  · intro other waited
    simp only [List.length_set]
    exact orderly.present other waited
  · exact orderly.unhalted
  · exact orderly.heard_threadStep found moved

end Wakeful.Ensemble
