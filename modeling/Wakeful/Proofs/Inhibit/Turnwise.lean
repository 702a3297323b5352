import Wakeful.Proofs.Inhibit.Serial

/-! Whole turns one after another are among the orders in which single steps may be taken. -/

namespace Wakeful

namespace Task

variable {task : Task} {interval : Span} {halts : Nat} {stop : Event} {deadline : Moment}

/-- A thread that waits can look for the signal, and consumes one that is pending. -/
theorem Noticed.consumes (noticed : Noticed task stop) (waits : task.phase = .waiting deadline)
    (pending : stop.pending = true) :
    ∃ step after, task.step interval halts stop step = some (.ended (halts - 1), after) ∧
      after.pending = false := by
  -- Where it is between two looks decides which look comes next.
  cases task with
  | arriving last => exact ⟨.arrive, _, (step_eq_some_iff noticed).mpr (.heeds pending), rfl⟩
  | asleep last =>
    exact ⟨.expire last, _, (step_eq_some_iff noticed).mpr (.stops (Int.le_refl _) pending), rfl⟩
  | roused last => exact ⟨.look, _, (step_eq_some_iff noticed).mpr (.wakes pending), rfl⟩
  | _ => cases waits

/-- A thread that waits sleeps or can fall asleep, if no signal is pending. -/
theorem Noticed.sleeps (noticed : Noticed task stop) (waits : task.phase = .waiting deadline)
    (quiet : stop.pending = false) :
    task = .asleep deadline ∨
    ∃ step after, task.step interval halts stop step = some (.asleep deadline, after) ∧
      after.pending = false := by
  -- It falls asleep by looking and finding nothing.
  cases task with
  | arriving last =>
    cases waits
    exact Or.inr ⟨.arrive, _, (step_eq_some_iff noticed).mpr (.rests quiet), rfl⟩
  | asleep last =>
    cases waits
    exact Or.inl rfl
  | roused last =>
    cases waits
    exact Or.inr ⟨.look, _, (step_eq_some_iff noticed).mpr (.dozes quiet), rfl⟩
  | _ => cases waits

end Task

namespace Ensemble

/-- An ensemble can come to another one in some number of steps. -/
def Reaches (ensemble after : Ensemble) : Prop :=
  -- Which steps they are does not matter.
  ∃ steps, ensemble.run steps = after

variable {ensemble between after : Ensemble}

/-- Nothing has to happen for an ensemble to stay as it is. -/
theorem Reaches.refl (ensemble : Ensemble) : Reaches ensemble ensemble := ⟨[], rfl⟩

/-- Steps can be followed by more steps. -/
theorem Reaches.trans (first : Reaches ensemble between) (second : Reaches between after) :
    Reaches ensemble after := by
  -- The steps are taken in a row.
  obtain ⟨steps, rfl⟩ := first
  obtain ⟨further, rfl⟩ := second
  exact ⟨steps ++ further, List.foldl_append ..⟩

/-- One step that can be taken is enough. -/
theorem Reaches.single {step : EnsembleStep} (taken : ensemble.step step = some after) :
    Reaches ensemble after := by
  -- It is taken from where the ensemble stands.
  refine ⟨[step], ?_⟩
  rw [run_cons, taken]
  rfl

/-- An ensemble comes only to ensembles that are in order. -/
theorem Reaches.orderly (reaches : Reaches ensemble after) (orderly : Orderly ensemble) :
    Orderly after := by
  -- Order is kept by whatever steps there are.
  obtain ⟨steps, rfl⟩ := reaches
  exact orderly.run steps

/-- An ensemble after one of its threads has got on. -/
def withThread (ensemble : Ensemble) (number : Nat) (task : Task) (stop : Event)
    (resets : Nat) : Ensemble :=
  -- The caller has not moved.
  { ensemble with stop := stop, threads := ensemble.threads.set number task, resets := resets }

/-- What a thread gets on twice, it gets on at once. -/
theorem withThread_withThread (ensemble : Ensemble) (number : Nat) (first second : Task)
    (stop last : Event) (resets final : Nat) :
    (ensemble.withThread number first stop resets).withThread number second last final =
      ensemble.withThread number second last final := by
  simp [withThread, List.set_set]

/-- To put a thread where it is changes nothing. -/
theorem threads_set_self {number : Nat} {task : Task}
    (found : ensemble.threads[number]? = some task) :
    ensemble.threads.set number task = ensemble.threads := by
  -- The entry at the place is the same, and the others are not touched.
  apply List.ext_getElem?
  intro other
  by_cases here : number = other
  · subst here
    rw [List.getElem?_set_self (List.getElem?_eq_some_iff.mp found).1, found]
  · rw [List.getElem?_set_ne here]

/-- A thread that stays what it is changes nothing. -/
theorem withThread_self {number : Nat} {task : Task}
    (found : ensemble.threads[number]? = some task) :
    ensemble.withThread number task ensemble.stop ensemble.resets = ensemble := by
  -- Its place in the list gets what it had.
  unfold withThread
  rw [threads_set_self found]

/-- A thread that can take a step gets on by it. -/
theorem reaches_withThread {number : Nat} {task next : Task} {stop : Event} {step : TaskStep}
    (found : ensemble.threads[number]? = some task)
    (moved : task.step ensemble.interval ensemble.halts.length ensemble.stop step =
      some (next, stop)) :
    Reaches ensemble (ensemble.withThread number next stop
      (if next = .resetting then ensemble.resets + 1 else ensemble.resets)) := by
  -- The step of the thread is one of the ensemble.
  refine Reaches.single (?_ : ensemble.step (.thread number step) = _)
  simp [Ensemble.step, Ensemble.threadStep, found, moved, withThread]

/-- An ensemble whose thread has got on, seen as a watchdog. -/
def seenAs (ensemble : Ensemble) (task : Task) (stop : Event) (resets : Nat) : Watchdog :=
  -- Nothing of the signal can be seen but its flag.
  ⟨ensemble.interval, ⟨stop.pending, 0, 0⟩, some task.phase, resets⟩

/-- Whatever step the watchdog's thread can take, the thread that is seen as it can take too. -/
theorem reaches_moves (orderly : Orderly ensemble) {number : Nat} {task : Task}
    (found : ensemble.threads[number]? = some task) {step : ThreadStep} {final : Watchdog}
    (moves : (ensemble.seenAs task ensemble.stop ensemble.resets).Moves step final) :
    ∃ next stop resets, Reaches ensemble (ensemble.withThread number next stop resets) ∧
      ensemble.seenAs next stop resets = final := by
  -- Each step has a counterpart, and only the one at a deadline may need a step before it.
  have noticed := orderly.counted.noticed found
  have bound := (List.getElem?_eq_some_iff.mp found).1
  cases moves with
  | @waits now deadline phase later =>
    -- Only a thread that is ready computes a deadline.
    have begins : task = .ready := by cases task <;> simp [seenAs, Task.phase] at phase ⊢
    subst begins
    have moved : Task.step .ready ensemble.interval ensemble.halts.length ensemble.stop
        (.wait now) = some (.arriving deadline, ensemble.stop) := by
      simp only [seenAs] at later
      simp [Task.step, later]
    exact ⟨_, _, _, reaches_withThread found moved, rfl⟩
  | @overflows now fault phase beyond =>
    have begins : task = .ready := by cases task <;> simp [seenAs, Task.phase] at phase ⊢
    subst begins
    have moved : Task.step .ready ensemble.interval ensemble.halts.length ensemble.stop
        (.wait now) = some (.broken, ensemble.stop) := by
      simp only [seenAs] at beyond
      simp [Task.step, beyond]
    exact ⟨_, _, _, reaches_withThread found moved, rfl⟩
  | @stops deadline phase signaled =>
    -- Wherever the thread is in its wait, there is a look for it to take.
    obtain ⟨step, after, moved, clear⟩ :=
      noticed.consumes (Option.some.inj phase) signaled
    refine ⟨_, _, _, reaches_withThread found moved, ?_⟩
    simp [seenAs, clear, Task.phase, Event.reset]
  | @expires now deadline phase quiet passed =>
    -- The thread is made to fall asleep first, if it does not sleep yet.
    have asleep : ∃ stop,
        Reaches ensemble (ensemble.withThread number (.asleep deadline) stop ensemble.resets) ∧
        stop.pending = false := by
      rcases noticed.sleeps (Option.some.inj phase) quiet with rfl | ⟨step, stop, moved, clear⟩
      · refine ⟨ensemble.stop, ?_, quiet⟩
        rw [withThread_self found]
        exact Reaches.refl ensemble
      · exact ⟨stop, reaches_withThread found moved, clear⟩
    obtain ⟨stop, reaches, clear⟩ := asleep
    have there :
        (ensemble.withThread number (.asleep deadline) stop ensemble.resets).threads[number]? =
        some (.asleep deadline) := List.getElem?_set_self bound
    have counted := (reaches.orderly orderly).counted.noticed there
    have resets :=
      reaches_withThread there ((Task.step_eq_some_iff counted).mpr (.expires passed clear))
    rw [withThread_withThread] at resets
    refine ⟨_, _, _, reaches.trans resets, ?_⟩
    have clear : ensemble.stop.pending = false := quiet
    simp [seenAs, clear, Task.phase, withThread]
  | breaks phase =>
    have resets : task = .resetting := by cases task <;> simp [seenAs, Task.phase] at phase ⊢
    subst resets
    have moved : Task.step .resetting ensemble.interval ensemble.halts.length ensemble.stop
        (.finish .broke) = some (.broken, ensemble.stop) := rfl
    exact ⟨_, _, _, reaches_withThread found moved, rfl⟩
  | @returns outcome phase whole =>
    have resets : task = .resetting := by cases task <;> simp [seenAs, Task.phase] at phase ⊢
    subst resets
    have moved : Task.step .resetting ensemble.interval ensemble.halts.length ensemble.stop
        (.finish outcome) = some (.ready, ensemble.stop) := by simp [Task.step, whole]
    exact ⟨_, _, _, reaches_withThread found moved, rfl⟩

/-- Whatever steps the watchdog's thread takes, the thread that is seen as it can take too. -/
theorem reaches_threadSteps (orderly : Orderly ensemble) {number : Nat} {task : Task}
    (found : ensemble.threads[number]? = some task) (steps : List ThreadStep) :
    ∃ next stop resets, Reaches ensemble (ensemble.withThread number next stop resets) ∧
      ensemble.seenAs next stop resets =
        (ensemble.seenAs task ensemble.stop ensemble.resets).threadSteps steps := by
  -- The induction is over the steps, and a step that cannot be taken is passed over in both.
  induction steps generalizing ensemble task with
  | nil =>
    refine ⟨task, ensemble.stop, ensemble.resets, ?_, rfl⟩
    rw [withThread_self found]
    exact Reaches.refl ensemble
  | cons step rest ih =>
    rw [Watchdog.threadSteps_cons]
    cases taken : (ensemble.seenAs task ensemble.stop ensemble.resets).threadStep step with
    | none => exact ih orderly found
    | some final =>
      obtain ⟨next, stop, resets, reaches, rfl⟩ :=
        reaches_moves orderly found (Watchdog.threadStep_eq_some_iff.mp taken)
      have there : (ensemble.withThread number next stop resets).threads[number]? = some next :=
        List.getElem?_set_self (List.getElem?_eq_some_iff.mp found).1
      obtain ⟨last, after, count, further, seen⟩ := ih (reaches.orderly orderly) there
      rw [withThread_withThread] at further
      exact ⟨last, after, count, reaches.trans further, seen⟩

/-- A thread that finds the signal pending is at its end when it has run out. -/
theorem runOut_over {watchdog : Watchdog} {phase : ThreadPhase}
    (present : watchdog.thread = some phase) (pending : watchdog.stop.pending = true)
    (now : Moment) :
    (watchdog.runOut now).thread = some .ended ∨ (watchdog.runOut now).thread = some .broken := by
  -- Whether a deadline can be computed matters only where one is still to be computed.
  cases phase <;> cases later : now.after watchdog.interval <;>
    simp [Watchdog.runOut, Watchdog.threadSteps, Watchdog.threadStep, present, pending, later]

/-- A call to change to the present state is over at once. -/
theorem reaches_same (resting : ensemble.stage = .resting) {active : Bool}
    (same : ensemble.core.active = active) :
    Reaches ensemble (ensemble.conclude active (.ok false)) := by
  -- The call is settled as it begins.
  refine Reaches.single (?_ : ensemble.step (.caller (.call active)) = _)
  simp [Ensemble.step, callerStep, resting, Ensemble.begin, same]

/-- A start goes its way until the thread is asked for. -/
theorem reaches_spawning (orderly : Orderly ensemble) (resting : ensemble.stage = .resting)
    (idle : ensemble.core.active = false) :
    Reaches ensemble { ensemble with
      core := (ensemble.core.changeBus true).1
      stop := ensemble.stop.reset
      stage := .spawning } := by
  -- No thread is there while the inhibitor is not active.
  have placed := orderly.placed
  simp only [Placed, resting, idle] at placed
  have released : ensemble.handle = none := by simpa using placed.2
  -- The caller begins, changes the bus and clears the signal.
  refine ⟨[.caller (.call true), .caller .proceed, .caller .proceed], ?_⟩
  simp [run, Ensemble.step, callerStep, resting, Ensemble.begin, idle, released]

/-- A stop goes its way until the thread is to be notified. -/
theorem reaches_announcing (resting : ensemble.stage = .resting)
    (busy : ensemble.core.active = true) {thread : Nat} (present : ensemble.handle = some thread) :
    Reaches ensemble { ensemble with
      core := (ensemble.core.changeBus false).1
      stop := ensemble.stop.raise
      handle := none
      halts := ensemble.halts ++ [thread]
      stage := .announcing thread false } := by
  -- The caller begins, changes the bus and raises the signal.
  refine ⟨[.caller (.call false), .caller .proceed, .caller .proceed], ?_⟩
  simp [run, Ensemble.step, callerStep, resting, Ensemble.begin, busy, release, present]

/-- An ensemble between two calls, after one more turn. -/
structure Follows (ensemble : Ensemble) (turn : Turn) (after : Ensemble) : Prop where
  /-- It can come to this. -/
  reaches : Reaches ensemble after
  /-- The caller rests. -/
  resting : after.stage = .resting
  /-- The inhibitor is what the turn has made of it. -/
  seen : after.view = ensemble.view.turn turn
  /-- A call has been answered. -/
  answered : after.answers.map Prod.snd =
    ensemble.answers.map Prod.snd ++ ensemble.view.answers [turn]

/-- The answer to a change is the last one. -/
theorem answers_conclude (leaving : ensemble.leaving = false) (active : Bool)
    (answer : Except InhibitError Bool) : (ensemble.conclude active answer).stage = .resting ∧
      (ensemble.conclude active answer).answers.map Prod.snd =
        ensemble.answers.map Prod.snd ++ [answer] := by
  simp [conclude, leaving]

/-- A start for which there is a thread can be taken in single steps. -/
theorem follows_granted (orderly : Orderly ensemble) (resting : ensemble.stage = .resting)
    (idle : ensemble.core.active = false) (now : Moment) :
    ∃ after, Follows ensemble (.call true ⟨now, false⟩) after := by
  -- The caller asks the bus, clears the flag, has its thread and notes the new state.
  have placed := orderly.placed
  simp only [Placed, resting, idle] at placed
  have released : ensemble.handle = none := by simpa using placed.2
  have absent := view_of_released released
  have present : ensemble.view.watchdog =
      some (ensemble.watchdogWith ensemble.stop.pending none) := by rw [absent]
  obtain ⟨log, started⟩ := Inhibitor.setActive_granted present idle rfl now
  have last : (ensemble.threads ++ [Task.ready])[ensemble.threads.length]? = some .ready := by simp
  have final : Reaches ensemble (conclude { ensemble with
      core := { (ensemble.core.changeBus true).1 with active := true }
      stop := ensemble.stop.reset
      threads := ensemble.threads ++ [.ready]
      handle := some ensemble.threads.length
      stage := .settling true } true (.ok true)) :=
    (reaches_spawning orderly resting idle).trans ⟨[.caller (.spawn true), .caller .proceed], rfl⟩
  refine ⟨_, final, (answers_conclude ?_ _ _).1, ?_, ?_⟩
  · exact placed.1
  · refine (view_of_handle rfl last).trans ?_
    rw [Inhibitor.turn, started, absent,
      Inhibitor.changeBus_with_watchdog ensemble.core
        (some (ensemble.watchdogWith ensemble.stop.pending none))]
    rfl
  · rw [Inhibitor.answers, started]
    exact (answers_conclude placed.1 _ _).2

/-- A start for which there is no thread can be taken in single steps. -/
theorem follows_refused (orderly : Orderly ensemble) (resting : ensemble.stage = .resting)
    (idle : ensemble.core.active = false) (now : Moment) :
    ∃ after, Follows ensemble (.call true ⟨now, true⟩) after := by
  -- The bus is asked back in the step after the refusal.
  have placed := orderly.placed
  simp only [Placed, resting, idle] at placed
  have released : ensemble.handle = none := by simpa using placed.2
  have absent := view_of_released released
  have present : ensemble.view.watchdog =
      some (ensemble.watchdogWith ensemble.stop.pending none) := by rw [absent]
  obtain ⟨log, refused⟩ := Inhibitor.setActive_refused present idle rfl now
  have final : Reaches ensemble (conclude { ensemble with
      core := (ensemble.core.changeBus true).1.rollBackBus.1
      stop := ensemble.stop.reset
      stage := .undoing } true (.error Inhibitor.refusal)) :=
    (reaches_spawning orderly resting idle).trans ⟨[.caller (.spawn false), .caller .proceed], rfl⟩
  refine ⟨_, final, (answers_conclude ?_ _ _).1, ?_, ?_⟩
  · exact placed.1
  · refine (view_of_released ?_).trans ?_
    · exact released
    · rw [Inhibitor.turn, refused, absent,
        Inhibitor.changeBus_with_watchdog ensemble.core
          (some (ensemble.watchdogWith ensemble.stop.pending none)),
        Inhibitor.rollBackBus_with_watchdog _
          (some (ensemble.watchdogWith ensemble.stop.pending none))]
      rfl
  · rw [Inhibitor.answers, refused]
    exact (answers_conclude placed.1 _ _).2

/-- Somebody who sleeps is notified, and then the thread is waited for. -/
theorem reaches_joining (orderly : Orderly ensemble) {thread : Nat} {task : Task}
    (stage : ensemble.stage = .announcing thread false)
    (found : ensemble.threads[thread]? = some task) :
    ∃ next stop, Reaches ensemble { ensemble.withThread thread next stop ensemble.resets with
        stage := .joining thread false } ∧
      next.phase = task.phase ∧ stop.pending = ensemble.stop.pending := by
  cases sleeps : task.isAsleep with
  | true =>
    obtain ⟨deadline, rfl⟩ : ∃ deadline, task = .asleep deadline := by
      cases task <;> cases sleeps; exact ⟨_, rfl⟩
    refine ⟨.roused deadline, ensemble.stop.notify, ?_, rfl, Event.notify_pending _⟩
    refine Reaches.single (?_ : ensemble.step (.caller (.announce (some thread))) = _)
    simp [Ensemble.step, callerStep, stage, found, withThread]
  | false =>
    -- Whoever slept would be alive, and nobody else is.
    have awake : ensemble.threads.any Task.isAsleep = false := by
      rw [List.any_eq_false]
      intro other there sleeping
      obtain ⟨number, held⟩ := List.getElem?_of_mem there
      have alive : other.isOver = false := by cases other <;> first | rfl | cases sleeping
      have waited := orderly.single number ⟨other, held, alive⟩
      simp only [current, stage, Option.some.injEq] at waited
      subst waited
      rw [found] at held
      cases held
      rw [sleeps] at sleeping
      cases sleeping
    refine ⟨task, ensemble.stop.notify, ?_, rfl, Event.notify_pending _⟩
    refine Reaches.single (?_ : ensemble.step (.caller (.announce none)) = _)
    simp [Ensemble.step, callerStep, stage, awake, withThread, threads_set_self found]

/-- A thread that is at its end is joined, and the change is over. -/
theorem Reaches.joined {before : Ensemble} (reaches : Reaches before ensemble) {thread : Nat}
    {task : Task} (stage : ensemble.stage = .joining thread false)
    (found : ensemble.threads[thread]? = some task) (finished : task.isOver = true) :
    Reaches before (conclude { ensemble with
      core := { ensemble.core with active := false }
      stage := .settling false } false (.ok true)) := by
  -- The caller joins the thread and settles the change.
  refine reaches.trans ⟨[.caller .proceed, .caller .proceed], ?_⟩
  simp [run, Ensemble.step, callerStep, stage, found, finished]

/--
What a halt leaves is what the thread has left when it has run out, and then it is at its end.
-/
theorem halt_ran {watchdog final : Watchdog} {phase : ThreadPhase} {circumstances : Circumstances}
    (present : watchdog.thread = some phase)
    (ran : Watchdog.runOut { watchdog with stop := watchdog.stop.signal } circumstances.now =
      final) :
    (watchdog.halt circumstances).2.1 = { final with thread := none } ∧
      (final.thread = some .ended ∨ final.thread = some .broken) := by
  -- A thread that runs out with a signal pending comes to its end.
  subst ran
  constructor
  · unfold Watchdog.halt
    simp only [present]
    split <;> rfl
  · refine runOut_over (?_ : _ = some phase) ?_ _
    · exact present
    · exact Event.signal_pending _

/-- A stop can be taken in single steps, whatever the thread is doing. -/
theorem follows_halted (orderly : Orderly ensemble) (resting : ensemble.stage = .resting)
    (busy : ensemble.core.active = true) (circumstances : Circumstances) :
    ∃ after, Follows ensemble (.call false circumstances) after := by
  -- The thread takes the steps that a halt lets it take, one after another.
  have placed := orderly.placed
  simp only [Placed, resting, busy] at placed
  obtain ⟨thread, held⟩ := Option.isSome_iff_exists.mp placed.2
  have bound := orderly.present thread (by simp only [current, Ensemble.held, resting, held])
  have found := List.getElem?_eq_getElem bound
  have seen := view_of_handle held found
  have present : ensemble.view.watchdog =
      some (ensemble.watchdogWith ensemble.stop.pending (some ensemble.threads[thread].phase)) := by
        rw [seen]
  obtain ⟨log, halted⟩ := Inhibitor.setActive_halted present busy circumstances
  -- The signal is sent, the thread runs out, and it is joined.
  have first := reaches_announcing resting busy held
  obtain ⟨task, stop, second, phase, pending⟩ := reaches_joining (first.orderly orderly) rfl found
  have sent := first.trans second
  have there := List.getElem?_set_self (a := task) bound
  obtain ⟨next, after, resets, third, ran⟩ :=
    reaches_threadSteps (sent.orderly orderly) there [.finish .succeeded, .wait circumstances.now,
      .stop]
  have runs : Watchdog.runOut
      { ensemble.watchdogWith ensemble.stop.pending (some ensemble.threads[thread].phase) with
        stop :=
          (ensemble.watchdogWith ensemble.stop.pending
            (some ensemble.threads[thread].phase)).stop.signal }
      circumstances.now = ⟨ensemble.interval, ⟨after.pending, 0, 0⟩, some next.phase, resets⟩ := by
    refine Eq.trans ?_ ran.symm
    simp only [seenAs, withThread, phase, pending]
    rfl
  -- Whatever it was doing, it is at its end now, as the whole halt has it.
  obtain ⟨left, ended⟩ := halt_ran rfl runs
  have finished : next.isOver = true := by
    cases next <;> simp [Task.phase, Task.isOver] at ended ⊢
  have last := (sent.trans third).joined rfl
    (List.getElem?_set_self (by simpa [withThread] using bound)) finished
  refine ⟨_, last, (answers_conclude ?_ _ _).1, ?_, ?_⟩
  · exact placed.1
  · refine (view_of_released ?_).trans ?_
    · rfl
    · rw [Inhibitor.turn, halted, left, seen, Inhibitor.changeBus_with_watchdog ensemble.core
        (some (ensemble.watchdogWith ensemble.stop.pending (some ensemble.threads[thread].phase)))]
      rfl
  · rw [Inhibitor.answers, halted]
    exact (answers_conclude placed.1 _ _).2

/-- A call can be taken in single steps. -/
theorem follows_call (orderly : Orderly ensemble) (resting : ensemble.stage = .resting)
    (active : Bool) (circumstances : Circumstances) :
    ∃ after, Follows ensemble (.call active circumstances) after := by
  -- A change to the present state takes one step, and the others are those above.
  have placed := orderly.placed
  simp only [Placed, resting] at placed
  by_cases same : ensemble.core.active = active
  · have noted : ensemble.view.active = active := same
    have unchanged := Inhibitor.setActive_same noted circumstances
    refine ⟨_, reaches_same resting same, (answers_conclude placed.1 _ _).1, ?_, ?_⟩
    · rw [Inhibitor.turn, unchanged]
      rfl
    · rw [Inhibitor.answers, unchanged]
      exact (answers_conclude placed.1 _ _).2
  · have other : ensemble.core.active = !active := Bool.eq_not.mpr same
    obtain ⟨now, refuses⟩ := circumstances
    cases active with
    | false => exact follows_halted orderly resting other ⟨now, refuses⟩
    | true =>
      cases refuses with
      | false => exact follows_granted orderly resting other now
      | true => exact follows_refused orderly resting other now

/-- A step of the watchdog's thread can be taken in single steps. -/
theorem follows_thread (orderly : Orderly ensemble) (resting : ensemble.stage = .resting)
    (step : ThreadStep) : ∃ after, Follows ensemble (.thread step) after := by
  -- The thread that is seen is the one that the watchdog has a hold of.
  have placed := orderly.placed
  simp only [Placed, resting] at placed
  cases held : ensemble.handle with
  | none =>
    -- Without a thread there is no step.
    refine ⟨ensemble, Reaches.refl ensemble, resting, ?_, by simp [Inhibitor.answers]⟩
    rw [view_of_released held]
    rfl
  | some thread =>
    have bound := orderly.present thread (by simp only [current, Ensemble.held, resting, held])
    have found := List.getElem?_eq_getElem bound
    obtain ⟨next, stop, resets, reaches, ran⟩ := reaches_threadSteps orderly found [step]
    refine ⟨_, reaches, resting, ?_, by simp [Inhibitor.answers, withThread]⟩
    have there : (ensemble.withThread thread next stop resets).threads[thread]? = some next :=
      List.getElem?_set_self bound
    have kept : (ensemble.withThread thread next stop resets).handle = some thread := held
    rw [view_of_handle held found, view_of_handle kept there]
    exact congrArg (fun watchdog => { ensemble.core with watchdog := some watchdog }) ran

/-- Whatever turns an inhibitor takes between two calls, they can be taken in single steps. -/
theorem reaches_turns (orderly : Orderly ensemble) (resting : ensemble.stage = .resting)
    (taken : List Turn) :
    ∃ after, Reaches ensemble after ∧ after.stage = .resting ∧
      after.view = ensemble.view.turns taken ∧
      after.answers.map Prod.snd =
        ensemble.answers.map Prod.snd ++ ensemble.view.answers taken := by
  -- The induction is over the turns, each of which begins where the one before has ended.
  induction taken generalizing ensemble with
  | nil => exact ⟨ensemble, Reaches.refl ensemble, resting, rfl, by simp [Inhibitor.answers]⟩
  | cons next rest ih =>
    obtain ⟨between, follows⟩ : ∃ between, Follows ensemble next between := by
      cases next with
      | call active circumstances => exact follows_call orderly resting active circumstances
      | thread step => exact follows_thread orderly resting step
    obtain ⟨after, reaches, still, seen, answered⟩ :=
      ih (follows.reaches.orderly orderly) follows.resting
    refine ⟨after, follows.reaches.trans reaches, still, ?_, ?_⟩
    · rw [seen, follows.seen]
      rfl
    · have split := Inhibitor.answers_append ensemble.view [next] rest
      rw [answered, follows.answered, follows.seen, List.append_assoc]
      exact congrArg _ split.symm

/--
Whatever turns a new inhibitor takes, they can be taken in single steps, with the same answers.
-/
theorem turns_reached (reason : String) (bus : Option Bus) (interval : Span) (taken : List Turn) :
    let origin := (Inhibitor.build reason (.given bus) (some interval)).1
    ∃ steps, let reached := (Ensemble.new reason bus interval).run steps
      reached.stage = .resting ∧ reached.view = origin.turns taken ∧
        reached.answers.map Prod.snd = origin.answers taken := by
  -- A new ensemble is in order and rests.
  intro origin
  obtain ⟨after, ⟨steps, rfl⟩, resting, seen, answered⟩ :=
    reaches_turns (Orderly.new reason bus interval) rfl taken
  exact ⟨steps, resting, seen, answered⟩

end Ensemble

end Wakeful
