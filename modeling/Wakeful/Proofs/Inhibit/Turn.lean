import Wakeful.Proofs.Inhibit.Change

/-! What single turns of an inhibitor with a watchdog come to, and how turns follow one another. -/

namespace Wakeful.Inhibitor

/-- Turns can be taken in two parts. -/
theorem turns_append (inhibitor : Inhibitor) (first second : List Turn) :
    inhibitor.turns (first ++ second) = (inhibitor.turns first).turns second :=
  List.foldl_append ..

/-- Of two parts, the second is answered by what the first has left. -/
theorem answers_append (inhibitor : Inhibitor) (first second : List Turn) :
    inhibitor.answers (first ++ second) =
      inhibitor.answers first ++ (inhibitor.turns first).answers second := by
  -- The induction is over the first part, at whose end the second one finds its inhibitor.
  induction first generalizing inhibitor with
  | nil => rfl
  | cons next rest ih =>
    cases next with
    | call active circumstances => exact congrArg _ (ih _)
    | thread step => exact ih _

/-- Steps of the thread are turns like any other. -/
theorem turns_thread (inhibitor : Inhibitor) (steps : List ThreadStep) :
    inhibitor.turns (steps.map .thread) = inhibitor.threadSteps steps := by
  -- Without a watchdog, both sides are the inhibitor as it was.
  induction steps generalizing inhibitor with
  | nil =>
    obtain ⟨reason, bus, watchdog, active⟩ := inhibitor
    cases watchdog <;> rfl
  | cons step rest ih =>
    show (inhibitor.threadSteps [step]).turns (rest.map .thread) = _
    rw [ih]
    cases present : inhibitor.watchdog <;> simp [threadSteps, present, Watchdog.threadSteps_cons]

/-- Steps of the thread are not answered. -/
theorem answers_thread (inhibitor : Inhibitor) (steps : List ThreadStep) :
    inhibitor.answers (steps.map .thread) = [] := by
  -- The induction is over the steps, and only calls are answered.
  induction steps generalizing inhibitor with
  | nil => rfl
  | cons step rest ih => exact ih _

variable {inhibitor : Inhibitor} {watchdog : Watchdog}

/-- The bus is asked in the same way whatever the watchdog. -/
theorem changeBus_with_watchdog (inhibitor : Inhibitor) (watchdog : Option Watchdog)
    (active : Bool) : (changeBus { inhibitor with watchdog := watchdog } active).1 =
      { (inhibitor.changeBus active).1 with watchdog := watchdog } := by
  -- The bus and the reason are all that is looked at.
  unfold changeBus
  obtain ⟨reason, bus, present, noted⟩ := inhibitor
  cases bus <;> rfl

/-- The bus is asked back in the same way whatever the watchdog. -/
theorem rollBackBus_with_watchdog (inhibitor : Inhibitor) (watchdog : Option Watchdog) :
    (rollBackBus { inhibitor with watchdog := watchdog }).1 =
      { inhibitor.rollBackBus.1 with watchdog := watchdog } := by
  -- The bus is all that is looked at.
  unfold rollBackBus
  obtain ⟨reason, bus, present, noted⟩ := inhibitor
  cases bus <;> rfl

/-- What a start comes to for which there is a thread. -/
theorem setActive_granted (present : inhibitor.watchdog = some watchdog)
    (idle : inhibitor.active = false) (absent : watchdog.thread = none) (now : Moment) :
    ∃ log, inhibitor.setActive true ⟨now, false⟩ =
      (.ok true,
        { (inhibitor.changeBus true).1 with
          watchdog := some { watchdog with stop := watchdog.stop.reset, thread := some .ready }
          active := true }, log) := by
  -- The start is due, no thread is there yet, and the system grants one.
  have other : ¬ inhibitor.active = true := by simp [idle]
  unfold setActive
  rw [if_neg other]
  simp only [changeWatchdog, changeBus_watchdog, present, if_true, Watchdog.start, absent,
    Bool.false_eq_true, if_false]
  exact ⟨_, rfl⟩

/-- What a start comes to for which there is no thread. -/
theorem setActive_refused (present : inhibitor.watchdog = some watchdog)
    (idle : inhibitor.active = false) (absent : watchdog.thread = none) (now : Moment) :
    ∃ log, inhibitor.setActive true ⟨now, true⟩ =
      (.error refusal,
        { (inhibitor.changeBus true).1.rollBackBus.1 with
          watchdog := some { watchdog with stop := watchdog.stop.reset } }, log) := by
  -- The flag is cleared before the thread is asked for.
  have other : ¬ inhibitor.active = true := by simp [idle]
  unfold setActive
  rw [if_neg other]
  simp only [changeWatchdog, changeBus_watchdog, present, if_true, Watchdog.start, absent]
  rw [rollBackBus_with_watchdog]
  exact ⟨_, rfl⟩

/-- What a stop comes to, whatever has become of the thread. -/
theorem setActive_halted (present : inhibitor.watchdog = some watchdog)
    (busy : inhibitor.active = true) (circumstances : Circumstances) :
    ∃ log, inhibitor.setActive false circumstances =
      (.ok true,
        { (inhibitor.changeBus false).1 with
          watchdog := some (watchdog.halt circumstances).2.1
          active := false }, log) := by
  -- The stop is due, and a halt comes out well whatever the thread has done.
  have other : ¬ inhibitor.active = false := by simp [busy]
  have fine := watchdog.halt_result circumstances
  unfold setActive
  rw [if_neg other]
  simp only [changeWatchdog, changeBus_watchdog, present, Bool.false_eq_true, if_false]
  rcases halted : watchdog.halt circumstances with ⟨outcome, after, log⟩
  rw [halted] at fine
  rcases fine with rfl | rfl <;> exact ⟨_, rfl⟩

/-- Giving an inhibitor up stops it and lets the bus go. -/
theorem drop_eq (inStep : inhibitor.InStep) (circumstances : Circumstances) :
    (inhibitor.drop circumstances).1 =
      { (inhibitor.setActive false circumstances).2.1 with
        bus := (inhibitor.setActive false circumstances).2.1.bus.map fun bus => bus.drop.1 } := by
  -- The watchdog has no thread any more that would have to be halted once again.
  have kept := inStep.setActive false circumstances
  have idle := setActive_false_active inStep circumstances
  unfold drop
  rcases made : inhibitor.setActive false circumstances with ⟨result, stopped, log⟩
  rw [made] at kept idle
  cases present : stopped.watchdog with
  | none => cases side : stopped.bus <;> simp [side, present]
  | some watchdog =>
    have absent := kept.threadless idle present
    have untouched : (watchdog.drop circumstances).1 = watchdog := by
      simp [Watchdog.drop, Watchdog.halt, absent]
    cases side : stopped.bus <;> simp [side, untouched, present]

/-- An inhibitor that is given up is not active and has no thread any more. -/
theorem drop_idle (inStep : inhibitor.InStep) (circumstances : Circumstances) :
    (inhibitor.drop circumstances).1.active = false ∧
      ∀ watchdog, (inhibitor.drop circumstances).1.watchdog = some watchdog →
        watchdog.thread = none := by
  -- The stop leaves the inhibitor inactive, and giving up the sides does not change that.
  have idle := setActive_false_active inStep circumstances
  rw [drop_eq inStep circumstances]
  exact ⟨idle, fun watchdog present =>
    (inStep.setActive false circumstances).threadless idle present⟩

end Wakeful.Inhibitor
