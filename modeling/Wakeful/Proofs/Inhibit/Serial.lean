import Wakeful.Proofs.Inhibit.OrderlyCaller
import Wakeful.Proofs.Inhibit.Turn

/-! Single steps in any order come to the same as whole turns one after another. -/

namespace Wakeful

namespace Task

/-- What a thread is doing, apart from its looks at the signal. -/
def phase : Task → ThreadPhase
  -- Between two looks it waits.
  | ready => .ready
  | arriving deadline | asleep deadline | roused deadline => .waiting deadline
  | resetting => .resetting
  | ended _ => .ended
  | broken => .broken

variable {task next : Task} {interval : Span} {halts : Nat} {stop after : Event} {step : TaskStep}

/--
As long as no signal is pending, a step of a thread comes to
at most one step of the watchdog's thread.
-/
theorem Moves.quiet (quiet : stop.pending = false)
    (moves : Moves interval halts stop task step next after) (resets : Nat) :
    ∃ steps, (Watchdog.mk interval ⟨false, 0, 0⟩ (some task.phase) resets).threadSteps steps =
      ⟨interval, ⟨false, 0, 0⟩, some next.phase,
        if next = .resetting then resets + 1 else resets⟩ := by
  -- Whoever looks and finds nothing goes on waiting.
  cases moves with
  | @waits now deadline later =>
    exact ⟨[.wait now], by simp [Watchdog.threadSteps, Watchdog.threadStep, phase, later]⟩
  | @overflows now fault beyond =>
    exact ⟨[.wait now], by simp [Watchdog.threadSteps, Watchdog.threadStep, phase, beyond]⟩
  | rests | rouses | dozes => exact ⟨[], by simp [phase]⟩
  | heeds pending | wakes pending | stops passed pending =>
    rw [quiet] at pending
    cases pending
  | @expires deadline now passed =>
    exact ⟨[.expire now], by simp [Watchdog.threadSteps, Watchdog.threadStep, phase, passed]⟩
  | breaks => exact ⟨[.finish .broke], by simp [Watchdog.threadSteps, Watchdog.threadStep, phase]⟩
  | @returns outcome whole =>
    exact ⟨[.finish outcome], by simp [Watchdog.threadSteps, Watchdog.threadStep, phase]⟩

/--
With a signal pending, a step that does not consume it is one
that the watchdog's thread can take without it.
-/
theorem Moves.signaled (pending : stop.pending = true)
    (moves : Moves interval halts stop task step next after) :
    (∃ halt deadline, next = .ended halt ∧ task.phase = .waiting deadline) ∨
      (next ≠ .resetting ∧ (∀ halt, next ≠ .ended halt) ∧ ∀ resets flag, ∃ steps,
        (Watchdog.mk interval ⟨flag, 0, 0⟩ (some task.phase) resets).threadSteps steps =
          ⟨interval, ⟨flag, 0, 0⟩, some next.phase, resets⟩) := by
  -- Every look consumes the signal, and anything else does not depend on it.
  cases moves with
  | heeds | wakes | stops => exact Or.inl ⟨_, _, rfl, rfl⟩
  | rests quiet | dozes quiet | expires passed quiet =>
    rw [pending] at quiet
    cases quiet
  | rouses => exact Or.inr ⟨by simp, by simp, fun resets flag => ⟨[], by simp [phase]⟩⟩
  | @waits now deadline later =>
    refine Or.inr ⟨by simp, by simp, fun resets flag => ⟨[.wait now], ?_⟩⟩
    simp [Watchdog.threadSteps, Watchdog.threadStep, phase, later]
  | @overflows now fault beyond =>
    refine Or.inr ⟨by simp, by simp, fun resets flag => ⟨[.wait now], ?_⟩⟩
    simp [Watchdog.threadSteps, Watchdog.threadStep, phase, beyond]
  | breaks =>
    refine Or.inr ⟨by simp, by simp, fun resets flag => ⟨[.finish .broke], ?_⟩⟩
    simp [Watchdog.threadSteps, Watchdog.threadStep, phase]
  | @returns outcome whole =>
    refine Or.inr ⟨by simp, by simp, fun resets flag => ⟨[.finish outcome], ?_⟩⟩
    simp [Watchdog.threadSteps, Watchdog.threadStep, phase]

end Task

namespace Ensemble

/-- The watchdog of an ensemble, seen with a flag and a thread. -/
def watchdogWith (ensemble : Ensemble) (pending : Bool) (thread : Option ThreadPhase) : Watchdog :=
  -- Nobody waits for the signal any longer than it takes to look at it.
  ⟨ensemble.interval, ⟨pending, 0, 0⟩, thread, ensemble.resets⟩

/-- The inhibitor of an ensemble, seen with its watchdog. -/
def view (ensemble : Ensemble) : Inhibitor :=
  -- The only thread to be seen is the one that it has a hold of.
  { ensemble.core with
    watchdog := some (ensemble.watchdogWith ensemble.stop.pending
      (ensemble.handle.bind fun number => ensemble.threads[number]?.map Task.phase)) }

/-- A thread that is being halted can be seen as one that is still to be halted. -/
def Halting (pending : Bool) (task : Task) (phase : ThreadPhase) : Prop :=
  -- Only the signal is left for the halt, as all that the thread does without it may come before.
  (pending = true ∧ phase = task.phase ∧ ∀ halt, task ≠ .ended halt) ∨
    (pending = false ∧ ∃ halt deadline, task = .ended halt ∧ phase = .waiting deadline)

/--
Some turns have led to where a change begins of which the bus alone has heard, with such a watchdog.
-/
def Halfway (origin : Inhibitor) (ensemble : Ensemble) (taken : List Turn) (active : Bool)
    (watchdog : Watchdog) : Prop :=
  -- The change has not been answered yet.
  ∃ core : Inhibitor, ensemble.core = (core.changeBus active).1 ∧
    origin.turns taken = { core with watchdog := some watchdog } ∧
    origin.answers taken = ensemble.answers.map Prod.snd

/--
An ensemble has come as far as some whole turns, where a change counts once its thread is settled.
-/
def Serial (origin : Inhibitor) (ensemble : Ensemble) (taken : List Turn) : Prop :=
  -- Giving the inhibitor up ends with a change of its own.
  match ensemble.stage with
  | .resting | .asking _ =>
    origin.turns taken = ensemble.view ∧ origin.answers taken = ensemble.answers.map Prod.snd
  | .clearing | .spawning =>
    ∃ pending, Halfway origin ensemble taken true (ensemble.watchdogWith pending none)
  | .undoing =>
    ensemble.stop.pending = false ∧
      ∃ pending, Halfway origin ensemble taken true (ensemble.watchdogWith pending none)
  | .raising thread _ =>
    ∃ task, ensemble.threads[thread]? = some task ∧
      Halfway origin ensemble taken false
        (ensemble.watchdogWith ensemble.stop.pending (some task.phase))
  | .announcing thread _ | .joining thread _ =>
    ∃ task pending phase,
      ensemble.threads[thread]? = some task ∧ Halting ensemble.stop.pending task phase ∧
      Halfway origin ensemble taken false (ensemble.watchdogWith pending (some phase))
  | .settling active =>
    origin.turns taken = { ensemble.view with active := active } ∧
      origin.answers taken = ensemble.answers.map Prod.snd ++ [.ok true] ∧
      (active = false → ∃ earlier circumstances, taken = earlier ++ [.call false circumstances])
  | .parting =>
    origin.turns taken = ensemble.view ∧ origin.answers taken = ensemble.answers.map Prod.snd ∧
      ∃ earlier circumstances, taken = earlier ++ [.call false circumstances]
  | .gone =>
    origin.answers taken = ensemble.answers.map Prod.snd ∧
      ∃ earlier circumstances, taken = earlier ++ [.call false circumstances] ∧
        ensemble.view = ((origin.turns earlier).drop circumstances).1

variable {origin : Inhibitor} {ensemble after : Ensemble} {taken : List Turn}

/-- Steps of the thread follow the turns before them and are not answered. -/
theorem taken_thread (origin : Inhibitor) (taken : List Turn) (steps : List ThreadStep) :
    origin.turns (taken ++ steps.map .thread) = (origin.turns taken).threadSteps steps ∧
      origin.answers (taken ++ steps.map .thread) = origin.answers taken := by
  -- Turns of the thread change the watchdog and are not answered.
  rw [Inhibitor.turns_append, Inhibitor.turns_thread, Inhibitor.answers_append,
    Inhibitor.answers_thread, List.append_nil]
  exact ⟨rfl, rfl⟩

/-- The thread to be seen is the one that the watchdog has a hold of. -/
theorem view_of_handle {number : Nat} {task : Task} (handle : ensemble.handle = some number)
    (found : ensemble.threads[number]? = some task) :
    ensemble.view = { ensemble.core with
      watchdog := some (ensemble.watchdogWith ensemble.stop.pending (some task.phase)) } := by
  simp [view, handle, found]

/-- Without a hold of a thread there is none to be seen. -/
theorem view_of_released (handle : ensemble.handle = none) :
    ensemble.view = { ensemble.core with
      watchdog := some (ensemble.watchdogWith ensemble.stop.pending none) } := by
  simp [view, handle]

/-- While no signal is pending, a step of a thread can be seen as steps of the watchdog's thread. -/
theorem quiet_threadStep (orderly : Orderly ensemble) {number : Nat} {step : TaskStep}
    {task next : Task} {stop : Event} (found : ensemble.threads[number]? = some task)
    (moved : task.step ensemble.interval ensemble.halts.length ensemble.stop step =
      some (next, stop))
    (quiet : ensemble.stop.pending = false) :
    stop.pending = false ∧ ∃ steps,
      (ensemble.watchdogWith ensemble.stop.pending (some task.phase)).threadSteps steps =
        ⟨ensemble.interval, ⟨stop.pending, 0, 0⟩, some next.phase,
          if next = .resetting then ensemble.resets + 1 else ensemble.resets⟩ := by
  -- With the flag clear, every step has a counterpart that leaves it clear.
  have effect := orderly.effect found moved
  have clear : stop.pending = false := by
    rcases effect.flag with ⟨pending, _, _⟩ | ⟨same, _, _⟩
    · rw [quiet] at pending
      cases pending
    · rw [same, quiet]
  obtain ⟨steps, reached⟩ := (orderly.moves found moved).quiet quiet ensemble.resets
  refine ⟨clear, steps, ?_⟩
  rw [clear, ← reached, watchdogWith, quiet]

/-- While the caller is calm, a step of a thread can be seen as steps of the watchdog's thread. -/
theorem view_threadStep (orderly : Orderly ensemble) (still : calm ensemble.stage = true)
    {number : Nat} {step : TaskStep} (moves : ensemble.threadStep number step = some after) :
    ensemble.handle = some number ∧ ∃ steps, ensemble.view.threadSteps steps = after.view := by
  -- A calm caller has a hold of the only thread that can move, and no signal is pending for it.
  obtain ⟨task, next, stop, found, moved, made⟩ := threadStep_cases moves
  have bound : number < ensemble.threads.length := (List.getElem?_eq_some_iff.mp found).1
  have alive : ensemble.Alive number := ⟨task, found, (orderly.effect found moved).alive⟩
  have handle : ensemble.handle = some number :=
    (current_of_calm still).symm.trans (orderly.single number alive)
  have quiet := (heard_of_calm still).mp orderly.heard number alive
  obtain ⟨-, steps, reached⟩ := quiet_threadStep orderly found moved quiet
  have kept : after.handle = some number := by rw [made]; exact handle
  have there : after.threads[number]? = some next := by
    rw [made]; exact List.getElem?_set_self bound
  refine ⟨handle, steps, ?_⟩
  rw [view_of_handle handle found, view_of_handle kept there, made]
  simp only [Inhibitor.threadSteps, Option.map_some, reached]
  rfl

/-- In the middle of a change too, steps of the watchdog's thread follow the turns before them. -/
theorem Halfway.threadSteps {active : Bool} {watchdog final : Watchdog}
    (halfway : Halfway origin ensemble taken active watchdog) (core : after.core = ensemble.core)
    (answers : after.answers = ensemble.answers) {steps : List ThreadStep}
    (reached : watchdog.threadSteps steps = final) :
    Halfway origin after (taken ++ steps.map .thread) active final := by
  -- The bus has heard of the change already, but no turn has been taken for it.
  obtain ⟨before, asked, turned, answered⟩ := halfway
  obtain ⟨turns, unanswered⟩ := taken_thread origin taken steps
  refine ⟨before, core.trans asked, ?_, ?_⟩
  · rw [turns, turned, ← reached]
    rfl
  · rw [unanswered, answered, answers]

/--
After the signal has been sent, the thread to be waited for
goes on as if it had not, until it consumes it.
-/
theorem Halfway.halting (orderly : Orderly ensemble) {thread number : Nat} {step : TaskStep}
    {task : Task} {flag : Bool} {phase : ThreadPhase} (waited : ensemble.current = some thread)
    (pending : ensemble.Alive thread → ensemble.stop.pending = true)
    (there : ensemble.threads[thread]? = some task)
    (halting : Halting ensemble.stop.pending task phase)
    (halfway : Halfway origin ensemble taken false (ensemble.watchdogWith flag (some phase)))
    (moves : ensemble.threadStep number step = some after) :
    ∃ further last phase,
    after.threads[thread]? = some last ∧ Halting after.stop.pending last phase ∧
      Halfway origin after (taken ++ further) false (after.watchdogWith flag (some phase)) := by
  -- Everything up to the look that consumes the signal is put before the halt.
  obtain ⟨mover, next, stop, found, moved, rfl⟩ := threadStep_cases moves
  have effect := orderly.effect found moved
  have bound : number < ensemble.threads.length := (List.getElem?_eq_some_iff.mp found).1
  have alive : ensemble.Alive number := ⟨mover, found, effect.alive⟩
  -- There is nobody else who could have taken the step.
  have same : thread = number := Option.some.inj (waited.symm.trans (orderly.single number alive))
  subst same
  rw [found] at there
  cases there
  have raised := pending alive
  have follows : phase = task.phase := by
    rcases halting with ⟨-, seen, -⟩ | ⟨lowered, -⟩
    · exact seen
    · rw [raised] at lowered
      cases lowered
  subst follows
  rcases (orderly.moves found moved).signaled raised with
    ⟨halt, deadline, finished, waits⟩ | ⟨onward, never, matched⟩
  · -- The signal is consumed, which the whole turn does when the thread has been waited for.
    have lowered : stop.pending = false := by
      rcases effect.flag with ⟨-, consumed, -⟩ | ⟨-, never, -⟩
      · exact consumed
      · exact absurd finished (never halt)
    have idle : ¬ next = .resetting := by simp [finished]
    refine ⟨[], next, task.phase, List.getElem?_set_self bound,
      Or.inr ⟨lowered, halt, deadline, finished, waits⟩, ?_⟩
    have nothing : (ensemble.watchdogWith flag (some task.phase)).threadSteps [] =
        ⟨ensemble.interval, ⟨flag, 0, 0⟩, some task.phase,
          if next = .resetting then ensemble.resets + 1 else ensemble.resets⟩ := by
      rw [if_neg idle]
      rfl
    exact halfway.threadSteps rfl rfl nothing
  · -- The step is one that the thread could have taken before the halt.
    have kept : stop.pending = true := by
      rcases effect.flag with ⟨-, -, finished⟩ | ⟨same, -, -⟩
      · exact absurd finished (never _)
      · exact same.trans raised
    obtain ⟨steps, reached⟩ := matched ensemble.resets flag
    refine ⟨steps.map .thread, next, next.phase, List.getElem?_set_self bound,
      Or.inl ⟨kept, rfl, never⟩, ?_⟩
    exact halfway.threadSteps rfl rfl (reached.trans (by simp only [watchdogWith, if_neg onward]))

/-- A step of a thread is matched by steps of the watchdog's thread, if it is seen at all. -/
theorem Serial.threadStep (serial : Serial origin ensemble taken) (orderly : Orderly ensemble)
    {number : Nat} {step : TaskStep} (moves : ensemble.threadStep number step = some after) :
    ∃ further, Serial origin after (taken ++ further) := by
  -- Where a thread can move at all, it is the one that is seen.
  have placed := orderly.placed
  have heard := orderly.heard
  have same : after.stage = ensemble.stage ∧ after.answers = ensemble.answers ∧
      after.core = ensemble.core := by
    obtain ⟨task, next, stop, -, -, rfl⟩ := threadStep_cases moves
    exact ⟨rfl, rfl, rfl⟩
  -- Nothing but a thread that the caller knows of takes a step.
  have known : calm ensemble.stage = true → ensemble.handle = none → False := by
    intro still released
    have handle := (view_threadStep orderly still moves).1
    rw [released] at handle
    cases handle
  cases stage : ensemble.stage <;>
    simp only [Serial, Placed, Heard, stage, same] at serial placed heard ⊢
  case resting | asking =>
    -- The thread that moves is the one that is seen.
    obtain ⟨-, steps, seen⟩ := view_threadStep orderly (by rw [stage]; rfl) moves
    obtain ⟨turns, answers⟩ := taken_thread origin taken steps
    exact ⟨steps.map .thread, by rw [turns, serial.1, seen], by rw [answers, serial.2]⟩
  case clearing => exact absurd placed.2.2 (known (by rw [stage]; rfl))
  case undoing => exact absurd placed.2.2 (known (by rw [stage]; rfl))
  case parting => exact absurd placed.2 (known (by rw [stage]; rfl))
  case gone => exact absurd placed.2 (known (by rw [stage]; rfl))
  case spawning =>
    -- Nobody has been started yet.
    obtain ⟨task, next, stop, found, moved, rfl⟩ := threadStep_cases moves
    have waited := orderly.single number ⟨task, found, (orderly.effect found moved).alive⟩
    simp [current, held, stage, placed.2.2] at waited
  case settling active =>
    -- After a stop there would be no thread, so that this is the end of a start.
    obtain ⟨handle, steps, seen⟩ := view_threadStep orderly (by rw [stage]; rfl) moves
    obtain ⟨turns, answers⟩ := taken_thread origin taken steps
    refine ⟨steps.map .thread, ?_, by rw [answers, serial.2.1], ?_⟩
    · rw [turns, serial.1, ← seen]
      rfl
    · intro halted
      rw [handle, halted] at placed
      cases placed.2.2
  case raising thread parted =>
    -- The signal has not been sent yet, and the thread goes on as before.
    obtain ⟨task, next, stop, found, moved, rfl⟩ := threadStep_cases moves
    have bound : number < ensemble.threads.length := (List.getElem?_eq_some_iff.mp found).1
    have alive : ensemble.Alive number := ⟨task, found, (orderly.effect found moved).alive⟩
    have waited := orderly.single number alive
    simp only [current, held, stage, Option.some.injEq] at waited
    subst waited
    obtain ⟨seen, there, halfway⟩ := serial
    rw [found] at there
    cases there
    obtain ⟨-, steps, reached⟩ := quiet_threadStep orderly found moved (heard thread alive)
    exact ⟨steps.map .thread, next, List.getElem?_set_self bound,
      halfway.threadSteps rfl rfl reached⟩
  case announcing thread parted =>
    -- The signal has been sent, and all that the thread still does is put before the halt.
    obtain ⟨task, flag, phase, there, halting, halfway⟩ := serial
    obtain ⟨further, last, phase, reached⟩ :=
      halfway.halting orderly (by simp only [current, stage]) heard.2 there halting moves
    exact ⟨further, last, flag, phase, reached⟩
  case joining thread parted =>
    obtain ⟨task, flag, phase, there, halting, halfway⟩ := serial
    obtain ⟨further, last, phase, reached⟩ :=
      halfway.halting orderly (by simp only [current, stage]) heard.2.1 there halting moves
    exact ⟨further, last, flag, phase, reached⟩

/-- Where a step cannot be seen, no turn is needed. -/
theorem Serial.unseen (serial : Serial origin ensemble taken) :
    ∃ further, Serial origin ensemble (taken ++ further) := by
  -- The turns so far will do.
  refine ⟨[], ?_⟩
  rw [List.append_nil]
  exact serial

/-- A change that is over has been seen as a whole turn. -/
theorem Serial.conclude {active : Bool} {answer : Except InhibitError Bool}
    (turned : origin.turns taken = ensemble.view)
    (answered : origin.answers taken = ensemble.answers.map Prod.snd ++ [answer])
    (last : ensemble.leaving = true →
      ∃ earlier circumstances, taken = earlier ++ [.call false circumstances]) :
    Serial origin (ensemble.conclude active answer) taken := by
  -- The answer joins the others, and the caller rests or parts.
  have noted : origin.answers taken = (ensemble.answers ++ [(active, answer)]).map Prod.snd := by
    rw [answered, List.map_append]
    rfl
  unfold Ensemble.conclude Serial
  cases leaving : ensemble.leaving with
  | false => exact ⟨turned, noted⟩
  | true => exact ⟨turned, noted, last leaving⟩

/-- A call follows the turns before it and is answered by what they have left. -/
theorem taken_call (origin : Inhibitor) (taken : List Turn) (active : Bool)
    (circumstances : Circumstances) : origin.turns (taken ++ [.call active circumstances]) =
        ((origin.turns taken).setActive active circumstances).2.1 ∧
      origin.answers (taken ++ [.call active circumstances]) =
        origin.answers taken ++ [((origin.turns taken).setActive active circumstances).1] := by
  -- The call is the last turn.
  rw [Inhibitor.turns_append, Inhibitor.answers_append]
  exact ⟨rfl, rfl⟩

/-- The beginning of a change has been seen as no turn, unless the change is over at once. -/
theorem Serial.begin {before : Ensemble} (turned : origin.turns taken = before.view)
    (answered : origin.answers taken = before.answers.map Prod.snd) (leaving active : Bool)
    (down : leaving = true → active = false) :
    ∃ further, Serial origin ({ before with leaving := leaving }.begin active)
      (taken ++ further) := by
  -- A change to the present state is a whole turn of its own.
  unfold Ensemble.begin
  split
  · rename_i same
    obtain ⟨turns, answers⟩ := taken_call origin taken active ⟨⟨0⟩, false⟩
    have noted : before.view.active = active := same
    have unchanged := Inhibitor.setActive_same noted ⟨⟨0⟩, false⟩
    rw [turned, unchanged] at turns answers
    refine ⟨[.call active ⟨⟨0⟩, false⟩], Serial.conclude turns ?_ ?_⟩
    · rw [answers, answered]
    · intro left
      rw [down left]
      exact ⟨taken, _, rfl⟩
  · exact Serial.unseen ⟨turned, answered⟩

/-- A halt leaves nothing but the flag of a thread that has broken off. -/
theorem halt_broken (ensemble : Ensemble) (flag : Bool) (circumstances : Circumstances) :
    ((ensemble.watchdogWith flag (some .broken)).halt circumstances).2.1 =
      ensemble.watchdogWith true none := by
  -- The thread takes no step any more.
  simp [watchdogWith, Watchdog.halt, Watchdog.runOut, Watchdog.threadSteps, Watchdog.threadStep,
    Event.signal, Event.raise, Event.notify]

/-- A halt lets a thread that waits consume the signal. -/
theorem halt_waiting (ensemble : Ensemble) (flag : Bool) (deadline : Moment)
    (circumstances : Circumstances) :
    ((ensemble.watchdogWith flag (some (.waiting deadline))).halt circumstances).2.1 =
      ensemble.watchdogWith false none := by
  -- The thread takes one step, by which the flag is lowered.
  simp [watchdogWith, Watchdog.halt, Watchdog.runOut, Watchdog.threadSteps, Watchdog.threadStep,
    Event.signal, Event.raise, Event.notify, Event.reset]

/-- The thread for which there is a start is seen once it has been started. -/
theorem Serial.spawn (orderly : Orderly ensemble) (stage : ensemble.stage = .spawning) {flag : Bool}
    (halfway : Halfway origin ensemble taken true (ensemble.watchdogWith flag none)) :
    Serial origin { ensemble with
      threads := ensemble.threads ++ [.ready]
      handle := some ensemble.threads.length
      stage := .settling true } (taken ++ [.call true ⟨⟨0⟩, false⟩]) := by
  have placed := orderly.placed
  have heard := orderly.heard
  simp only [Placed, Heard, stage] at placed heard
  obtain ⟨core, asked, turned, answered⟩ := halfway
  have idle : core.active = false := by
    rw [← placed.2.1, asked, Inhibitor.changeBus_active]
  obtain ⟨turns, answers⟩ := taken_call origin taken true ⟨⟨0⟩, false⟩
  have present : (origin.turns taken).watchdog = some (ensemble.watchdogWith flag none) := by
    rw [turned]
  obtain ⟨log, started⟩ := Inhibitor.setActive_granted present (by rw [turned]; exact idle) rfl ⟨0⟩
  rw [started] at turns answers
  refine ⟨?_, by rw [answers, answered], by simp⟩
  -- The new thread is the last one.
  have last : (ensemble.threads ++ [Task.ready])[ensemble.threads.length]? = some .ready := by simp
  rw [turns, turned, Inhibitor.changeBus_with_watchdog, ← asked, view_of_handle rfl last]
  simp [watchdogWith, Event.reset, heard, Task.phase]

/--
A start for which there is no thread has been seen as a whole turn once the bus has been asked back.
-/
theorem Serial.undo (orderly : Orderly ensemble) (stage : ensemble.stage = .undoing) {flag : Bool}
    (quiet : ensemble.stop.pending = false)
    (halfway : Halfway origin ensemble taken true (ensemble.watchdogWith flag none)) :
    Serial origin
      ({ ensemble with core := ensemble.core.rollBackBus.1 }.conclude true
        (.error (.threadRefused .tryAgain)))
      (taken ++ [.call true ⟨⟨0⟩, true⟩]) := by
  -- The whole turn is a call to which the thread is refused.
  have placed := orderly.placed
  simp only [Placed, stage] at placed
  obtain ⟨core, asked, turned, answered⟩ := halfway
  -- It begins in an inhibitor that is not active,
  have idle : core.active = false := by
    rw [← placed.2.1, asked, Inhibitor.changeBus_active]
  obtain ⟨turns, answers⟩ := taken_call origin taken true ⟨⟨0⟩, true⟩
  -- and whose watchdog has no thread.
  have present : (origin.turns taken).watchdog = some (ensemble.watchdogWith flag none) := by
    rw [turned]
  obtain ⟨log, refused⟩ := Inhibitor.setActive_refused present (by rw [turned]; exact idle) rfl ⟨0⟩
  rw [refused] at turns answers
  refine Serial.conclude ?_ (by rw [answers, answered]; rfl) (by simp [placed.1])
  rw [turns, turned, Inhibitor.changeBus_with_watchdog, Inhibitor.rollBackBus_with_watchdog,
    ← asked]
  -- The flag has been cleared in both.
  refine Eq.trans ?_ (view_of_released ?_).symm
  · simp [watchdogWith, Event.reset, quiet]
  · exact placed.2.2

/-- A stop has been seen as a whole turn once the thread is at its end. -/
theorem Serial.join (orderly : Orderly ensemble) {thread : Nat} {task : Task} {flag : Bool}
    {phase : ThreadPhase} (stage : ensemble.stage = .joining thread false)
    (finished : task.isOver = true) (halting : Halting ensemble.stop.pending task phase)
    (halfway : Halfway origin ensemble taken false (ensemble.watchdogWith flag (some phase))) :
    Serial origin { ensemble with stage := .settling false }
      (taken ++ [.call false ⟨⟨0⟩, false⟩]) := by
  -- A thread at its end has broken off or consumed its
  -- signal, and a halt leaves the same in both cases.
  have placed := orderly.placed
  simp only [Placed, stage] at placed
  obtain ⟨core, asked, turned, answered⟩ := halfway
  have busy : core.active = true := by
    rw [← placed.1, asked, Inhibitor.changeBus_active]
  obtain ⟨turns, answers⟩ := taken_call origin taken false ⟨⟨0⟩, false⟩
  have present : (origin.turns taken).watchdog =
      some (ensemble.watchdogWith flag (some phase)) := by rw [turned]
  obtain ⟨log, halted⟩ :=
    Inhibitor.setActive_halted present (by rw [turned]; exact busy) ⟨⟨0⟩, false⟩
  have left : ((ensemble.watchdogWith flag (some phase)).halt ⟨⟨0⟩, false⟩).2.1 =
      ensemble.watchdogWith ensemble.stop.pending none := by
    rcases halting with ⟨pending, seen, lives⟩ | ⟨quiet, halt, deadline, ended, waits⟩
    · have breaks : phase = .broken := by
        cases task with
        | ended halt => exact absurd rfl (lives halt)
        | broken => exact seen
        | _ => cases finished
      rw [breaks, halt_broken, pending]
    · rw [waits, halt_waiting, quiet]
  rw [halted] at turns answers
  refine ⟨?_, by rw [answers, answered], fun _ => ⟨taken, _, rfl⟩⟩
  rw [turns, turned, Inhibitor.changeBus_with_watchdog, ← asked, left]
  refine congrArg (fun seen : Inhibitor => { seen with active := false }) (view_of_released ?_).symm
  exact placed.2.1

/-- An inhibitor that is given up has been seen to be given up once its sides are gone. -/
theorem Serial.part (inStep : origin.InStep) (stage : ensemble.stage = .parting)
    (released : ensemble.handle = none) (serial : Serial origin ensemble taken) :
    Serial origin { ensemble with
      core := { ensemble.core with bus := ensemble.core.bus.map fun (bus : Bus) => bus.drop.1 }
      handle := none
      stage := .gone } taken := by
  -- The last turn has been a stop, behind which only the sides are left.
  simp only [Serial, stage] at serial
  rw [view_of_released released] at serial
  obtain ⟨turned, answered, earlier, circumstances, rfl⟩ := serial
  refine ⟨answered, earlier, circumstances, rfl, ?_⟩
  rw [(taken_call origin earlier false circumstances).1] at turned
  rw [Inhibitor.drop_eq (inStep.turns earlier), turned]
  rfl

/--
A step of the caller is matched by a whole turn where a change is settled, and by none elsewhere.
-/
theorem Serial.callerStep (serial : Serial origin ensemble taken) (orderly : Orderly ensemble)
    (inStep : origin.InStep) {step : CallerStep} (moves : CallerMoves ensemble step after) :
    ∃ further, Serial origin after (taken ++ further) := by
  -- A whole turn is taken where a thread has been started or joined, or a start has been given up.
  have placed := orderly.placed
  have heard := orderly.heard
  cases moves with
  | @calls active stage =>
    simp only [Serial, Placed, stage] at serial placed
    exact Serial.begin serial.1 serial.2 ensemble.leaving active (by simp [placed.1])
  | leaves stage =>
    simp only [Serial, stage] at serial
    exact Serial.begin serial.1 serial.2 true false (fun _ => rfl)
  | starts stage =>
    -- The watchdog has no thread, and the bus hears of the change first.
    simp only [Serial, Placed, stage] at serial placed
    have absent : ensemble.handle = none := by simpa using placed.2.2
    simp only [absent, Option.isSome_none, Bool.false_eq_true, if_false]
    refine Serial.unseen ⟨ensemble.stop.pending, ensemble.core, rfl, ?_, serial.2⟩
    rw [serial.1, view_of_released absent]
    rfl
  | stops stage =>
    -- The thread can still be seen, although the hold of it is given up.
    simp only [Serial, Placed, stage] at serial placed
    obtain ⟨thread, present⟩ : ∃ thread, ensemble.handle = some thread :=
      Option.isSome_iff_exists.mp (by simpa using placed.2.2)
    have bound := orderly.present thread (by simp only [current, held, stage, present])
    have found := List.getElem?_eq_getElem bound
    simp only [release, present]
    refine Serial.unseen ⟨_, found, ensemble.core, rfl, ?_, serial.2⟩
    rw [serial.1, view_of_handle present found]
    rfl
  | clears stage =>
    -- The flag is cleared by the whole turn, which is still to be taken.
    simp only [Serial, stage] at serial
    obtain ⟨flag, halfway⟩ := serial
    exact Serial.unseen ⟨flag, halfway⟩
  | spawns stage =>
    simp only [Serial, stage] at serial
    obtain ⟨flag, halfway⟩ := serial
    exact ⟨_, Serial.spawn orderly stage halfway⟩
  | lacks stage =>
    simp only [Serial, Heard, stage] at serial heard
    obtain ⟨flag, halfway⟩ := serial
    exact Serial.unseen ⟨heard, flag, halfway⟩
  | undoes stage =>
    simp only [Serial, stage] at serial
    obtain ⟨quiet, flag, halfway⟩ := serial
    exact ⟨_, Serial.undo orderly stage quiet halfway⟩
  | @raises thread parted stage =>
    -- The thread has consumed no signal before one has been sent to it.
    simp only [Serial, stage] at serial
    obtain ⟨task, found, halfway⟩ := serial
    have lives : ∀ halt, task ≠ .ended halt := by
      rintro halt rfl
      have halted := List.mem_of_getElem? (orderly.counted.signed thread halt found)
      exact orderly.unhalted thread (by simp [held, stage]) halted
    exact Serial.unseen ⟨task, ensemble.stop.pending, task.phase, found, Or.inl ⟨rfl, rfl, lives⟩,
      halfway⟩
  | hushes stage awake =>
    simp only [Serial, stage] at serial
    obtain ⟨task, flag, phase, found, halting, halfway⟩ := serial
    refine Serial.unseen ⟨task, flag, phase, found, ?_, halfway⟩
    rw [Event.notify_pending]
    exact halting
  | @announces thread sleeper parted deadline stage there =>
    -- The sleeper is the thread that is being halted, and being roused cannot be seen.
    simp only [Serial, stage] at serial
    obtain ⟨task, flag, phase, found, halting, halfway⟩ := serial
    have waited := orderly.single sleeper ⟨_, there, rfl⟩
    simp only [current, stage, Option.some.injEq] at waited
    subst waited
    rw [found] at there
    cases there
    have bound := (List.getElem?_eq_some_iff.mp found).1
    rcases halting with ⟨pending, seen, -⟩ | ⟨-, halt, last, finished, -⟩
    · refine Serial.unseen ⟨.roused deadline, flag, phase, List.getElem?_set_self bound, ?_,
        halfway⟩
      exact Or.inl ⟨(Event.notify_pending _).trans pending, seen, by simp⟩
    · cases finished
  | joins stage there finished =>
    -- The whole turn is taken here, where the thread is at its end.
    simp only [Serial, Placed, stage] at serial placed
    obtain ⟨-, -, rfl⟩ := placed
    obtain ⟨task, flag, phase, found, halting, halfway⟩ := serial
    rw [found] at there
    cases there
    exact ⟨_, Serial.join orderly stage finished halting halfway⟩
  | settles stage =>
    -- The turn has been taken before, and now it is answered.
    simp only [Serial, Placed, stage] at serial placed
    exact Serial.unseen
      (Serial.conclude serial.1 serial.2.1 (fun left => serial.2.2 (placed.1 left)))
  | parts stage =>
    -- There is no thread that would have to be halted again.
    simp only [Placed, stage] at placed
    simp only [release, placed.2]
    exact Serial.unseen (Serial.part inStep stage placed.2 serial)

/-- An ensemble has come as far as some whole turns after any number of steps in any order. -/
theorem Serial.run (serial : Serial origin ensemble taken) (orderly : Orderly ensemble)
    (inStep : origin.InStep) (steps : List EnsembleStep) :
    ∃ all, Serial origin (ensemble.run steps) all := by
  -- The turns are collected on the way, since a step may be matched by several or by none.
  refine orderly.run_induction (fun after => ∃ all, Serial origin after all) ?_ steps
    ⟨taken, serial⟩
  rintro before after step inOrder moves ⟨all, matched⟩
  cases step with
  | caller step =>
    obtain ⟨further, reached⟩ := matched.callerStep inOrder inStep (callerStep_moves moves)
    exact ⟨_, reached⟩
  | thread number step =>
    obtain ⟨further, reached⟩ := matched.threadStep inOrder moves
    exact ⟨_, reached⟩

/-- The inhibitor of a new ensemble has just been built. -/
theorem Serial.new (reason : String) (bus : Option Bus) (interval : Span) :
    Serial (Inhibitor.build reason (.given bus) (some interval)).1
      (Ensemble.new reason bus interval) [] :=
  ⟨rfl, rfl⟩

/-- Between two calls nothing is left of the single steps. -/
theorem Serial.resting (serial : Serial origin ensemble taken) (stage : ensemble.stage = .resting) :
    ensemble.view = origin.turns taken ∧ ensemble.answers.map Prod.snd = origin.answers taken := by
  -- A caller that rests stands between two turns.
  simp only [Serial, stage] at serial
  exact ⟨serial.1.symm, serial.2.symm⟩

/-- When the inhibitor has been given up, nothing is left of the single steps either. -/
theorem Serial.gone (serial : Serial origin ensemble taken) (stage : ensemble.stage = .gone) :
    ∃ earlier circumstances, ensemble.view = ((origin.turns earlier).drop circumstances).1 ∧
      ensemble.answers.map Prod.snd = origin.answers (earlier ++ [.call false circumstances]) := by
  -- What is left agrees with giving the inhibitor up after the last stop.
  simp only [Serial, stage] at serial
  obtain ⟨answered, earlier, circumstances, rfl, seen⟩ := serial
  exact ⟨earlier, circumstances, seen, answered.symm⟩

/--
Single steps in any order come to the same as whole turns one after another.

Between two calls the inhibitor is one that such turns lead to, and it has given the same answers;
and so is what is left of it when it has been given up.
-/
theorem run_serial (reason : String) (bus : Option Bus) (interval : Span)
    (steps : List EnsembleStep) :
    let origin := (Inhibitor.build reason (.given bus) (some interval)).1
    let reached := (Ensemble.new reason bus interval).run steps
    (reached.stage = .resting → ∃ taken,
      reached.view = origin.turns taken ∧ reached.answers.map Prod.snd = origin.answers taken) ∧
    (reached.stage = .gone → ∃ taken circumstances,
      reached.view = ((origin.turns taken).drop circumstances).1 ∧
      reached.answers.map Prod.snd = origin.answers (taken ++ [.call false circumstances])) := by
  -- The turns are those that the whole run has led to.
  intro origin reached
  have inStep := Inhibitor.InStep.build reason (.given bus) (some interval)
  obtain ⟨taken, serial⟩ :=
    (Serial.new reason bus interval).run (Orderly.new reason bus interval) inStep steps
  exact ⟨fun resting => ⟨taken, serial.resting resting⟩, fun gone => serial.gone gone⟩

end Ensemble

end Wakeful
