import Wakeful.Proofs.Inhibit.Thread

/-!
What a change of an inhibitor comes to: the bus never stands
in its way, and only a refused thread does.
-/

namespace Wakeful.Inhibitor

/-- Asking the bus leaves the reason alone. -/
@[simp] theorem changeBus_reason (inhibitor : Inhibitor) (active : Bool) :
    (inhibitor.changeBus active).1.reason = inhibitor.reason := by
  -- With a bus or without one, the bus is all that is asked.
  unfold changeBus
  split <;> rfl

/-- Asking the bus leaves the watchdog alone. -/
@[simp] theorem changeBus_watchdog (inhibitor : Inhibitor) (active : Bool) :
    (inhibitor.changeBus active).1.watchdog = inhibitor.watchdog := by
  -- With a bus or without one, the bus is all that is asked.
  unfold changeBus
  split <;> rfl

/-- Asking the bus is not yet a change of state. -/
@[simp] theorem changeBus_active (inhibitor : Inhibitor) (active : Bool) :
    (inhibitor.changeBus active).1.active = inhibitor.active := by
  -- With a bus or without one, the bus is all that is asked.
  unfold changeBus
  split <;> rfl

/-- The bus itself is started with the reason or stopped. -/
theorem changeBus_bus (inhibitor : Inhibitor) (active : Bool) :
    (inhibitor.changeBus active).1.bus = inhibitor.bus.map fun bus =>
      if active then (bus.start inhibitor.reason).2.1 else bus.stop.2.1 := by
  -- What the bus answers goes into the log.
  unfold changeBus
  cases present : inhibitor.bus with
  | none => exact present
  | some bus => cases active <;> rfl

/-- Taking back a request to the bus leaves the reason alone. -/
@[simp] theorem rollBackBus_reason (inhibitor : Inhibitor) :
    inhibitor.rollBackBus.1.reason = inhibitor.reason := by
  -- With a bus or without one, the bus is all that is stopped.
  unfold rollBackBus
  split <;> rfl

/-- Taking back a request to the bus leaves the watchdog alone. -/
@[simp] theorem rollBackBus_watchdog (inhibitor : Inhibitor) :
    inhibitor.rollBackBus.1.watchdog = inhibitor.watchdog := by
  -- With a bus or without one, the bus is all that is stopped.
  unfold rollBackBus
  split <;> rfl

/-- Taking back a request to the bus is no change of state. -/
@[simp] theorem rollBackBus_active (inhibitor : Inhibitor) :
    inhibitor.rollBackBus.1.active = inhibitor.active := by
  -- With a bus or without one, the bus is all that is stopped.
  unfold rollBackBus
  split <;> rfl

/-- Taking back a request to the bus stops it. -/
theorem rollBackBus_bus (inhibitor : Inhibitor) :
    inhibitor.rollBackBus.1.bus = inhibitor.bus.map fun bus => bus.stop.2.1 := by
  -- Without a bus there is nothing to be stopped.
  unfold rollBackBus
  cases present : inhibitor.bus with
  | none => exact present
  | some bus => rfl

/-- The watchdog has a thread exactly while the display is kept awake. -/
def InStep (inhibitor : Inhibitor) : Prop :=
  -- An inhibitor without a watchdog is always in step.
  ∀ watchdog, inhibitor.watchdog = some watchdog → watchdog.isActive = inhibitor.active

/-- While the display is not kept awake, there is no thread. -/
theorem InStep.threadless {inhibitor : Inhibitor} (inStep : inhibitor.InStep)
    (inactive : inhibitor.active = false) {watchdog : Watchdog}
    (present : inhibitor.watchdog = some watchdog) : watchdog.thread = none := by
  -- The watchdog is active exactly if it has a thread.
  have phase := inStep watchdog present
  rw [inactive] at phase
  simpa [Watchdog.isActive] using phase

/-- Whether a change needs a thread that the system does not grant. -/
def refused (inhibitor : Inhibitor) (active : Bool) (circumstances : Circumstances) : Bool :=
  -- Only starting a watchdog takes a thread.
  active && inhibitor.watchdog.isSome && circumstances.refusesThread

/-- The failure of a change for which there is no thread. -/
def refusal : InhibitError :=
  -- The system is short of resources for the moment.
  .threadRefused .tryAgain

/-- What the watchdog makes of a change that is due. -/
theorem changeWatchdog_spec {inhibitor : Inhibitor} {active : Bool} (circumstances : Circumstances)
    (due : ∀ watchdog, inhibitor.watchdog = some watchdog → watchdog.isActive = !active) :
    ∃ watchdog log, inhibitor.changeWatchdog active circumstances =
        (if inhibitor.refused active circumstances then .error refusal else .ok (),
          { inhibitor with watchdog := watchdog }, log) ∧
      watchdog.isSome = inhibitor.watchdog.isSome ∧
      ∀ after, watchdog = some after →
        after.isActive = (active && !inhibitor.refused active circumstances) := by
  -- Starting looks at the system's answer, and stopping only reports what it finds.
  unfold changeWatchdog refused
  cases present : inhibitor.watchdog with
  | none =>
    have unchanged : { inhibitor with watchdog := none } = inhibitor := by rw [← present]
    exact ⟨none, [], by simp [unchanged], rfl, by simp⟩
  | some watchdog =>
    have phase := due watchdog present
    cases active with
    | true =>
      have absent : watchdog.thread = none := by simpa [Watchdog.isActive] using phase
      cases refuses : circumstances.refusesThread <;>
        simp [Watchdog.start, absent, refuses, refusal, Watchdog.isActive]
    | false =>
      have gone := watchdog.halt_thread circumstances
      rcases result : watchdog.halt circumstances with ⟨outcome, after, log⟩
      simp only [result] at gone
      rcases watchdog.halt_result circumstances with whole | broken
      · rw [result] at whole
        subst whole
        simp [result, Watchdog.isActive, gone]
      · rw [result] at broken
        subst broken
        simp [result, Watchdog.isActive, gone]

/-- A change to the present state is none, whatever state the sides are in. -/
theorem setActive_same {inhibitor : Inhibitor} {active : Bool} (same : inhibitor.active = active)
    (circumstances : Circumstances) :
    inhibitor.setActive active circumstances = (.ok false, inhibitor, []) := by
  -- The present state is looked at before anything else.
  unfold setActive
  rw [if_pos same]

/--
What a change to the other state comes to: the bus is asked, and asked back if there is no thread.
-/
theorem setActive_other {inhibitor : Inhibitor} {active : Bool} (inStep : inhibitor.InStep)
    (other : inhibitor.active = !active) (circumstances : Circumstances) :
    ∃ watchdog log, inhibitor.setActive active circumstances =
        (if inhibitor.refused active circumstances then
          (.error refusal,
            { (inhibitor.changeBus active).1 with watchdog := watchdog }.rollBackBus.1, log)
        else
          (.ok true, { (inhibitor.changeBus active).1 with watchdog := watchdog, active := active },
            log)) ∧
      watchdog.isSome = inhibitor.watchdog.isSome ∧
      ∀ after, watchdog = some after →
        after.isActive = (active && !inhibitor.refused active circumstances) := by
  -- The bus leaves the watchdog's part as it was.
  have differs : ¬ inhibitor.active = active := by simp [other]
  have due : ∀ watchdog, (inhibitor.changeBus active).1.watchdog = some watchdog →
      watchdog.isActive = !active := by
    intro watchdog present
    rw [changeBus_watchdog] at present
    rw [inStep watchdog present, other]
  obtain ⟨watchdog, log, changed, kept, follows⟩ := changeWatchdog_spec circumstances due
  have same : (inhibitor.changeBus active).1.refused active circumstances =
      inhibitor.refused active circumstances := by simp [refused]
  rw [same] at changed follows
  simp only [changeBus_watchdog] at kept
  unfold setActive
  rw [if_neg differs]
  cases refuses : inhibitor.refused active circumstances <;>
    simp only [refuses, if_true, Bool.false_eq_true, if_false] at changed follows ⊢ <;>
    simp only [changed] <;>
    exact ⟨watchdog, _, rfl, kept, follows⟩

/-- What can be seen of a change to the other state without looking at the bus. -/
theorem setActive_other_visible {inhibitor : Inhibitor} {active : Bool} (inStep : inhibitor.InStep)
    (other : inhibitor.active = !active) (circumstances : Circumstances) :
    (inhibitor.setActive active circumstances).1 =
        (if inhibitor.refused active circumstances then .error refusal else .ok true) ∧
      (inhibitor.setActive active circumstances).2.1.active =
        (active && !inhibitor.refused active circumstances) ∧
      (inhibitor.setActive active circumstances).2.1.reason = inhibitor.reason ∧
      (inhibitor.setActive active circumstances).2.1.watchdog.isSome = inhibitor.watchdog.isSome ∧
      (inhibitor.setActive active circumstances).2.1.InStep := by
  -- A refusal puts the bus back and leaves the noted state alone.
  obtain ⟨watchdog, log, made, kept, follows⟩ := setActive_other inStep other circumstances
  rw [made]
  cases refuses : inhibitor.refused active circumstances with
  | false =>
    refine ⟨by simp, by simp, by simp, by simpa using kept, ?_⟩
    intro after present
    simpa [refuses] using follows after present
  | true =>
    -- Only a change that was to start the watchdog can have been refused.
    have starting : active = true := by
      simp only [refused, Bool.and_eq_true] at refuses
      exact refuses.1.1
    refine ⟨by simp, by simp [other, starting], by simp, by simpa using kept, ?_⟩
    intro after present
    simp only [if_true, rollBackBus_watchdog] at present
    rw [follows after present, refuses]
    simp [other, starting]

/-- A change keeps the watchdog in step. -/
theorem InStep.setActive {inhibitor : Inhibitor} (inStep : inhibitor.InStep) (active : Bool)
    (circumstances : Circumstances) : (inhibitor.setActive active circumstances).2.1.InStep := by
  -- Only a change to the other state reaches the watchdog.
  by_cases same : inhibitor.active = active
  · rw [setActive_same same]
    exact inStep
  · have other : inhibitor.active = !active := Bool.eq_not.mpr same
    exact (setActive_other_visible inStep other circumstances).2.2.2.2

/-- An inhibitor is not active any more once a stop has been asked for. -/
theorem setActive_false_active {inhibitor : Inhibitor} (inStep : inhibitor.InStep)
    (circumstances : Circumstances) :
    (inhibitor.setActive false circumstances).2.1.active = false := by
  -- A stop cannot be refused.
  by_cases same : inhibitor.active = false
  · rw [setActive_same same]
    exact same
  · have other : inhibitor.active = !false := Bool.eq_not.mpr same
    rw [(setActive_other_visible inStep other circumstances).2.1]
    rfl

/-- A stop never fails. -/
theorem setActive_false_isOk {inhibitor : Inhibitor} (inStep : inhibitor.InStep)
    (circumstances : Circumstances) : (inhibitor.setActive false circumstances).1.isOk = true := by
  -- Only a start can be refused.
  by_cases same : inhibitor.active = false
  · rw [setActive_same same]
    rfl
  · have other : inhibitor.active = !false := Bool.eq_not.mpr same
    rw [(setActive_other_visible inStep other circumstances).1]
    rfl

/-- The thread's own steps keep the watchdog in step. -/
theorem InStep.threadSteps {inhibitor : Inhibitor} (inStep : inhibitor.InStep)
    (steps : List ThreadStep) : (inhibitor.threadSteps steps).InStep := by
  -- A thread neither comes nor goes by its own steps.
  intro after present
  simp only [Inhibitor.threadSteps, Option.map_eq_some_iff] at present
  obtain ⟨watchdog, before, rfl⟩ := present
  simpa [Inhibitor.threadSteps] using inStep watchdog before

/-- A new inhibitor has no thread yet. -/
theorem InStep.build (reason : String) (choice : BusChoice) (watchdog : Option Span) :
    (Inhibitor.build reason choice watchdog).1.InStep := by
  -- A watchdog is built without a thread.
  intro after present
  simp only [Inhibitor.build, Option.map_eq_some_iff] at present
  obtain ⟨interval, _, rfl⟩ := present
  rfl

/-- The watchdog is in step after every turn. -/
theorem InStep.turns {inhibitor : Inhibitor} (inStep : inhibitor.InStep) (taken : List Turn) :
    (inhibitor.turns taken).InStep := by
  -- Each turn is a change or a step of the thread.
  induction taken generalizing inhibitor with
  | nil => exact inStep
  | cons next rest ih =>
    apply ih
    cases next with
    | call active circumstances => exact inStep.setActive active circumstances
    | thread step => exact inStep.threadSteps [step]

end Wakeful.Inhibitor
