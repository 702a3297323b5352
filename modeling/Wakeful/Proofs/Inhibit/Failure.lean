import Wakeful.Proofs.Inhibit.Ledger
import Wakeful.Proofs.Inhibit.Turn

/-!
A start for which there is no thread leaves no trace: whatever
follows, follows as if it had never been tried.
-/

namespace Wakeful

namespace BusSession

/-- A session before which other calls have been made. -/
def preceded (earlier : List BusCall) (session : BusSession) : BusSession :=
  -- Only the record is longer.
  { session with calls := earlier ++ session.calls }

variable (earlier : List BusCall) (session : BusSession)

/-- What has been called before makes no difference to a start. -/
theorem start_preceded (reason : String) :
    (session.preceded earlier).start reason =
      ((session.start reason).1, (session.start reason).2.1.preceded earlier,
        (session.start reason).2.2) := by
  -- The record is added to and never looked at.
  obtain ⟨cookie, inhibits, releases, calls⟩ := session
  cases cookie with
  | some cookie => rfl
  | none =>
    simp only [start, preceded]
    split
    · rfl
    · cases inhibits.head?.getD defaultReply <;> simp

/-- What has been called before makes no difference to a stop. -/
theorem stop_preceded :
    (session.preceded earlier).stop =
      (session.stop.1, session.stop.2.1.preceded earlier, session.stop.2.2) := by
  -- Only what is called now is put behind the earlier calls.
  obtain ⟨cookie, inhibits, releases, calls⟩ := session
  cases cookie with
  | none => rfl
  | some cookie =>
    simp only [stop, preceded]
    cases releases.head?.getD (.ok ()) <;> simp

/-- What has been called before makes no difference when a session is given up. -/
theorem drop_preceded :
    (session.preceded earlier).drop = (session.drop.1.preceded earlier, session.drop.2) := by
  -- A session that is given up is stopped.
  unfold drop
  rw [stop_preceded]
  rcases session.stop with ⟨result | ⟨⟨⟩⟩, after, log⟩ <;> rfl

end BusSession

namespace Bus

/-- A bus side on whose session other calls have been made before. -/
def preceded (earlier : List BusCall) : Bus → Bus
  -- Other backends are left alone.
  | session inner => session (inner.preceded earlier)
  | scripted inner => scripted inner

variable (earlier : List BusCall) (bus : Bus)

theorem start_preceded (reason : String) :
    (bus.preceded earlier).start reason =
      ((bus.start reason).1, (bus.start reason).2.1.preceded earlier, (bus.start reason).2.2) := by
  -- A backend that only answers keeps its own calls.
  cases bus with
  | session inner => simp only [preceded, start, inner.start_preceded]
  | scripted inner => rfl

theorem stop_preceded :
    (bus.preceded earlier).stop = (bus.stop.1, bus.stop.2.1.preceded earlier, bus.stop.2.2) := by
  -- A backend that only answers keeps its own calls.
  cases bus with
  | session inner => simp only [preceded, stop, inner.stop_preceded]
  | scripted inner => rfl

theorem drop_preceded :
    (bus.preceded earlier).drop = (bus.drop.1.preceded earlier, bus.drop.2) := by
  -- A backend that only answers keeps its own calls.
  cases bus with
  | session inner => simp only [preceded, drop, inner.drop_preceded]
  | scripted inner => rfl

/-- Whether a bus side is a session. -/
def isSession : Bus → Bool
  | session _ => true
  | scripted _ => false

@[simp] theorem isSession_start (reason : String) :
    (bus.start reason).2.1.isSession = bus.isSession := by
  cases bus <;> rfl

@[simp] theorem isSession_stop : bus.stop.2.1.isSession = bus.isSession := by
  cases bus <;> rfl

@[simp] theorem isSession_drop : bus.drop.1.isSession = bus.isSession := by
  cases bus <;> rfl

end Bus

namespace Watchdog

/-- A watchdog without a signal that no thread is there to consume. -/
def cleared (watchdog : Watchdog) : Watchdog :=
  -- A thread may be waiting for its signal.
  if watchdog.thread = none then { watchdog with stop := watchdog.stop.reset } else watchdog

variable (watchdog : Watchdog) (circumstances : Circumstances)

/-- Clearing does not touch the thread or what it has done. -/
@[simp] theorem cleared_thread : watchdog.cleared.thread = watchdog.thread := by
  -- Whether there is a thread decides only about the signal.
  unfold cleared
  split <;> rfl

@[simp] theorem cleared_resets : watchdog.cleared.resets = watchdog.resets := by
  -- Whether there is a thread decides only about the signal.
  unfold cleared
  split <;> rfl

/-- Nothing is left to be cleared. -/
@[simp] theorem cleared_cleared : watchdog.cleared.cleared = watchdog.cleared := by
  -- Nothing is left to be cleared.
  by_cases absent : watchdog.thread = none <;> simp [cleared, absent, Event.reset]

/-- A start clears the signal itself. -/
theorem start_cleared : watchdog.cleared.start circumstances = watchdog.start circumstances := by
  -- With a thread nothing is cleared, and without one the start clears the signal.
  cases present : watchdog.thread with
  | none => simp [cleared, present, start, Event.reset]
  | some phase => simp [cleared, present]

/-- A halt finds no more without the signal than with it. -/
theorem halt_cleared : (watchdog.cleared.halt circumstances).1 = (watchdog.halt circumstances).1 ∧
    (watchdog.cleared.halt circumstances).2.1.cleared = (watchdog.halt circumstances).2.1.cleared ∧
    (watchdog.cleared.halt circumstances).2.2 = (watchdog.halt circumstances).2.2 := by
  -- The signal is sent only to a thread, for which nothing has been cleared.
  cases present : watchdog.thread with
  | none => simp [halt, present]
  | some phase =>
    have same : watchdog.cleared = watchdog := by simp [cleared, present]
    rw [same]
    exact ⟨rfl, rfl, rfl⟩

/-- A watchdog that is given up finds no more without the signal than with it. -/
theorem drop_cleared :
    (watchdog.cleared.drop circumstances).1.cleared = (watchdog.drop circumstances).1.cleared ∧
    (watchdog.cleared.drop circumstances).2 = (watchdog.drop circumstances).2 := by
  -- To give it up is to halt it, and what that finds is the same.
  obtain ⟨result, state, log⟩ := watchdog.halt_cleared circumstances
  unfold drop
  generalize watchdog.halt circumstances = whole,
    watchdog.cleared.halt circumstances = bare at result state log ⊢
  obtain ⟨outcome, after, events⟩ := whole
  obtain ⟨_, _, _⟩ := bare
  cases result
  cases log
  -- The outcome decides only about what is reported.
  rcases outcome with fault | ⟨⟨⟩⟩ <;> exact ⟨state, rfl⟩

/-- Only a thread that is there takes a step. -/
theorem threadSteps_cleared (steps : List ThreadStep) :
    (watchdog.cleared.threadSteps steps).cleared = (watchdog.threadSteps steps).cleared := by
  cases present : watchdog.thread with
  | some phase => simp [cleared, present]
  | none =>
    -- Without a thread, the watchdog stays as it is.
    have still : ∀ idle : Watchdog, idle.thread = none → idle.threadSteps steps = idle := by
      intro idle absent
      apply threadSteps_induction (fun after => after = idle) _ steps rfl
      rintro before after step moves rfl
      have there := moves.keeps.1
      simp [isActive, absent] at there
    rw [still watchdog present, still watchdog.cleared (by simp [present]), cleared_cleared]

end Watchdog

namespace Inhibitor

/-- An inhibitor on whose session other calls have been made before. -/
def preceded (earlier : List BusCall) (inhibitor : Inhibitor) : Inhibitor :=
  { inhibitor with bus := inhibitor.bus.map (·.preceded earlier) }

variable (earlier : List BusCall) (inhibitor : Inhibitor)

theorem changeBus_preceded (active : Bool) :
    (inhibitor.preceded earlier).changeBus active =
      ((inhibitor.changeBus active).1.preceded earlier, (inhibitor.changeBus active).2) := by
  -- Only the bus side is asked, to start or to stop.
  obtain ⟨reason, bus, watchdog, noted⟩ := inhibitor
  cases bus with
  | none => rfl
  | some bus => cases active <;> simp [changeBus, preceded, Bus.start_preceded, Bus.stop_preceded]

theorem rollBackBus_preceded :
    (inhibitor.preceded earlier).rollBackBus =
      (inhibitor.rollBackBus.1.preceded earlier, inhibitor.rollBackBus.2) := by
  -- Only the bus side is asked.
  obtain ⟨reason, bus, watchdog, noted⟩ := inhibitor
  cases bus with
  | none => rfl
  | some bus => simp [rollBackBus, preceded, Bus.stop_preceded]

theorem changeWatchdog_preceded (active : Bool) (circumstances : Circumstances) :
    (inhibitor.preceded earlier).changeWatchdog active circumstances =
      ((inhibitor.changeWatchdog active circumstances).1,
        (inhibitor.changeWatchdog active circumstances).2.1.preceded earlier,
        (inhibitor.changeWatchdog active circumstances).2.2) := by
  -- The bus is out of the watchdog's sight.
  obtain ⟨reason, bus, watchdog, noted⟩ := inhibitor
  cases watchdog with
  | none => rfl
  | some watchdog =>
    simp only [changeWatchdog, preceded]
    rcases (if active then watchdog.start circumstances else watchdog.halt circumstances)
      with ⟨(_ | _ | _) | ⟨⟨⟩⟩, after, log⟩ <;> rfl

/-- What has been called before makes no difference to a change. -/
theorem setActive_preceded (active : Bool) (circumstances : Circumstances) :
    (inhibitor.preceded earlier).setActive active circumstances =
      ((inhibitor.setActive active circumstances).1,
        (inhibitor.setActive active circumstances).2.1.preceded earlier,
        (inhibitor.setActive active circumstances).2.2) := by
  -- A change to the present state is none.
  by_cases same : inhibitor.active = active
  · have unchanged : (inhibitor.preceded earlier).active = active := same
    rw [setActive_same same, setActive_same unchanged]
  · -- Otherwise both sides are changed, and neither looks at earlier calls.
    have differs : ¬ (inhibitor.preceded earlier).active = active := same
    unfold setActive
    rw [if_neg differs, if_neg same]
    simp only [changeBus_preceded, changeWatchdog_preceded]
    rcases (inhibitor.changeBus active).1.changeWatchdog active circumstances with
      ⟨result | ⟨⟨⟩⟩, changed, log⟩
    · -- The bus side is asked back.
      simp only [rollBackBus_preceded]
    · rfl

/-- An inhibitor without a signal that no thread is there to consume. -/
def cleared (inhibitor : Inhibitor) : Inhibitor :=
  { inhibitor with watchdog := inhibitor.watchdog.map (·.cleared) }

theorem cleared_cleared : inhibitor.cleared.cleared = inhibitor.cleared := by
  -- Only the watchdog has anything to clear.
  obtain ⟨reason, bus, watchdog, noted⟩ := inhibitor
  cases watchdog <;> simp [cleared]

theorem changeBus_cleared (active : Bool) :
    inhibitor.cleared.changeBus active =
      ((inhibitor.changeBus active).1.cleared, (inhibitor.changeBus active).2) := by
  -- The bus side does not look at the watchdog.
  obtain ⟨reason, bus, watchdog, noted⟩ := inhibitor
  cases bus <;> rfl

theorem rollBackBus_cleared :
    inhibitor.cleared.rollBackBus = (inhibitor.rollBackBus.1.cleared, inhibitor.rollBackBus.2) := by
  -- The bus side does not look at the watchdog.
  obtain ⟨reason, bus, watchdog, noted⟩ := inhibitor
  cases bus <;> rfl

/-- A signal that nobody consumes makes no difference to what the watchdog does. -/
theorem changeWatchdog_cleared (active : Bool) (circumstances : Circumstances) :
    (inhibitor.cleared.changeWatchdog active circumstances).1 =
      (inhibitor.changeWatchdog active circumstances).1 ∧
    (inhibitor.cleared.changeWatchdog active circumstances).2.1.cleared =
      (inhibitor.changeWatchdog active circumstances).2.1.cleared ∧
    (inhibitor.cleared.changeWatchdog active circumstances).2.2 =
      (inhibitor.changeWatchdog active circumstances).2.2 := by
  obtain ⟨reason, bus, watchdog, noted⟩ := inhibitor
  cases watchdog with
  | none => exact ⟨rfl, rfl, rfl⟩
  | some watchdog =>
    cases active with
    | true =>
      -- The watchdog that is put in place is the same.
      have same : Inhibitor.changeWatchdog
          (cleared ⟨reason, bus, some watchdog, noted⟩) true circumstances =
            Inhibitor.changeWatchdog ⟨reason, bus, some watchdog, noted⟩ true circumstances := by
        simp only [changeWatchdog, cleared, Option.map_some, if_true, Watchdog.start_cleared]
      rw [same]
      exact ⟨rfl, rfl, rfl⟩
    | false =>
      obtain ⟨result, state, log⟩ := watchdog.halt_cleared circumstances
      simp only [changeWatchdog, cleared, Option.map_some, Bool.false_eq_true, if_false]
      generalize watchdog.halt circumstances = whole, watchdog.cleared.halt circumstances = bare
        at result state log ⊢
      obtain ⟨outcome, after, events⟩ := whole
      obtain ⟨_, _, _⟩ := bare
      cases result
      cases log
      rcases outcome with (_ | _ | _) | ⟨⟨⟩⟩ <;> simpa using state

/-- A signal that nobody consumes makes no difference to a change. -/
theorem setActive_cleared (active : Bool) (circumstances : Circumstances) :
    (inhibitor.cleared.setActive active circumstances).1 =
      (inhibitor.setActive active circumstances).1 ∧
    (inhibitor.cleared.setActive active circumstances).2.1.cleared =
      (inhibitor.setActive active circumstances).2.1.cleared ∧
    (inhibitor.cleared.setActive active circumstances).2.2 =
      (inhibitor.setActive active circumstances).2.2 := by
  -- A change to the present state is none.
  by_cases same : inhibitor.active = active
  · have unchanged : inhibitor.cleared.active = active := same
    rw [setActive_same same, setActive_same unchanged]
    exact ⟨rfl, inhibitor.cleared_cleared, rfl⟩
  · -- Otherwise the watchdog is changed in the same way with the signal and without it.
    have differs : ¬ inhibitor.cleared.active = active := same
    obtain ⟨result, state, log⟩ :=
      (inhibitor.changeBus active).1.changeWatchdog_cleared active circumstances
    unfold setActive
    rw [if_neg differs, if_neg same]
    simp only [changeBus_cleared]
    generalize (inhibitor.changeBus active).1.changeWatchdog active circumstances = whole,
      (inhibitor.changeBus active).1.cleared.changeWatchdog active circumstances =
        bare at result state log ⊢
    obtain ⟨outcome, changed, events⟩ := whole
    obtain ⟨_, changedBare, _⟩ := bare
    cases result
    cases log
    rcases outcome with fault | ⟨⟨⟩⟩
    · -- The bus side is put back in the same way.
      have restored := changed.rollBackBus_cleared
      rw [← state, changedBare.rollBackBus_cleared] at restored
      simp only [Prod.mk.injEq] at restored
      simp [restored]
    · exact ⟨rfl, congrArg (fun settled : Inhibitor => { settled with active := active }) state,
        rfl⟩

/-- The sides of an inhibitor are given up, the bus before the watchdog. -/
def part (inhibitor : Inhibitor) (circumstances : Circumstances) : Inhibitor × List LogEvent :=
  -- Each side reports for itself.
  let bus := inhibitor.bus.map (·.drop)
  let watchdog := inhibitor.watchdog.map (·.drop circumstances)
  ({ inhibitor with bus := bus.map (·.1), watchdog := watchdog.map (·.1) },
    (bus.map (·.2)).getD [] ++ (watchdog.map (·.2)).getD [])

/-- What is reported of the stop with which an inhibitor is given up. -/
def stopWarning : Except InhibitError Bool → List LogEvent
  | .ok _ => []
  | .error fault =>
    [⟨.warn, .inhibitor, "Could not deactivate sleep inhibitor", [("error", fault.message)]⟩]

/-- To give an inhibitor up is to stop it and to give up its sides. -/
theorem drop_eq_part (circumstances : Circumstances) :
    inhibitor.drop circumstances =
      (((inhibitor.setActive false circumstances).2.1.part circumstances).1,
        (inhibitor.setActive false circumstances).2.2 ++
          stopWarning (inhibitor.setActive false circumstances).1 ++
          ((inhibitor.setActive false circumstances).2.1.part circumstances).2) := by
  -- Whichever sides there are, they are given up behind the stop.
  unfold drop
  rcases inhibitor.setActive false circumstances with ⟨result, ⟨reason, bus, watchdog, noted⟩, log⟩
  cases result <;> cases bus <;> cases watchdog <;> simp [part, stopWarning]

/-- What has been called before makes no difference when an inhibitor is given up. -/
theorem drop_preceded (circumstances : Circumstances) :
    (inhibitor.preceded earlier).drop circumstances =
      ((inhibitor.drop circumstances).1.preceded earlier, (inhibitor.drop circumstances).2) := by
  -- The stop looks at no earlier call, and neither do the sides.
  simp only [drop_eq_part, setActive_preceded]
  obtain ⟨reason, bus, watchdog, noted⟩ := (inhibitor.setActive false circumstances).2.1
  cases bus <;> simp [part, preceded, Bus.drop_preceded]

/-- A signal that nobody consumes makes no difference when an inhibitor is given up. -/
theorem drop_cleared (circumstances : Circumstances) :
    (inhibitor.cleared.drop circumstances).1.cleared = (inhibitor.drop circumstances).1.cleared ∧
    (inhibitor.cleared.drop circumstances).2 = (inhibitor.drop circumstances).2 := by
  -- The sides are given up alike with the signal and without it.
  have alike : ∀ stopped : Inhibitor,
      (stopped.cleared.part circumstances).1.cleared = (stopped.part circumstances).1.cleared ∧
      (stopped.cleared.part circumstances).2 = (stopped.part circumstances).2 := by
    rintro ⟨reason, bus, watchdog, noted⟩
    cases watchdog with
    | none => exact ⟨rfl, rfl⟩
    | some watchdog =>
      obtain ⟨state, log⟩ := watchdog.drop_cleared circumstances
      simp [part, cleared, state, log]
  obtain ⟨result, state, log⟩ := inhibitor.setActive_cleared false circumstances
  have whole := alike (inhibitor.setActive false circumstances).2.1
  have bare := alike (inhibitor.cleared.setActive false circumstances).2.1
  rw [state] at bare
  simp only [drop_eq_part, result, log]
  exact ⟨bare.1.symm.trans whole.1, by rw [← bare.2, whole.2]⟩

/-- Whether the bus side of an inhibitor is a session, if it has one. -/
def onSession (inhibitor : Inhibitor) : Option Bool := inhibitor.bus.map (·.isSession)

/-- The bus side stays what it is through every change. -/
@[simp] theorem onSession_setActive (active : Bool) (circumstances : Circumstances) :
    (inhibitor.setActive active circumstances).2.1.onSession = inhibitor.onSession := by
  -- The watchdog leaves the bus side alone, and the bus side is asked and perhaps asked back.
  have asked : (inhibitor.changeBus active).1.onSession = inhibitor.onSession := by
    simp only [onSession, changeBus_bus]
    cases inhibitor.bus <;> cases active <;> simp
  have watched : ∀ asked : Inhibitor,
      (asked.changeWatchdog active circumstances).2.1.onSession = asked.onSession := by
    rintro ⟨reason, bus, watchdog, noted⟩
    cases watchdog with
    | none => rfl
    | some watchdog =>
      simp only [changeWatchdog]
      rcases (if active then watchdog.start circumstances else watchdog.halt circumstances)
        with ⟨(_ | _ | _) | ⟨⟨⟩⟩, after, log⟩ <;> rfl
  have restored : ∀ changed : Inhibitor, changed.rollBackBus.1.onSession = changed.onSession := by
    intro changed
    simp only [onSession, rollBackBus_bus]
    cases changed.bus <;> simp
  have both := watched (inhibitor.changeBus active).1
  unfold setActive
  split
  · rfl
  · rcases made : (inhibitor.changeBus active).1.changeWatchdog active circumstances with
      ⟨result | ⟨⟨⟩⟩, changed, log⟩
    · rw [made] at both
      simp only [made]
      exact (restored changed).trans (both.trans asked)
    · rw [made] at both
      simp only [made]
      exact both.trans asked

/-- The bus side stays what it is to the end. -/
@[simp] theorem onSession_drop (circumstances : Circumstances) :
    (inhibitor.drop circumstances).1.onSession = inhibitor.onSession := by
  -- Neither a stop nor giving up the sides exchanges the bus side.
  rw [drop_eq_part, ← onSession_setActive inhibitor false circumstances]
  simp only [onSession, part]
  cases (inhibitor.setActive false circumstances).2.1.bus <;> simp

/-- The calls that the session of an inhibitor has made. -/
def busCalls (inhibitor : Inhibitor) : List BusCall :=
  -- Other backends make none on the session bus.
  match inhibitor.bus with
  | some (.session session) => session.calls
  | _ => []

/-- The calls that were made before are the first of all calls. -/
theorem busCalls_preceded (session : inhibitor.onSession = some true) :
    (inhibitor.preceded earlier).busCalls = earlier ++ inhibitor.busCalls := by
  -- Only a session makes calls that count.
  obtain ⟨reason, _ | _ | _, watchdog, noted⟩ := inhibitor
  · cases session
  · rfl
  · cases session

/-- What can be told from outside of what an inhibitor does in one go. -/
structure Deed where
  /-- The answer, if it was asked to change. -/
  answer : Option (Except InhibitError Bool)
  /-- The calls that have been made on the session bus. -/
  calls : List BusCall
  /-- What the watchdog's thread does afterwards, if there is one. -/
  thread : Option ThreadPhase
  /-- The number of resets begun so far. -/
  resets : Nat
  /-- What was reported. -/
  log : List LogEvent

/-- What can be told of an inhibitor that has become another one. -/
def seen (before after : Inhibitor) (answer : Option (Except InhibitError Bool))
    (log : List LogEvent) : Deed where
  answer := answer
  calls := after.busCalls.drop before.busCalls.length
  thread := after.watchdog.bind (·.thread)
  resets := (after.watchdog.map (·.resets)).getD 0
  log := log

/-- What can be told of a turn. -/
def deed (inhibitor : Inhibitor) (turn : Turn) : Deed :=
  match turn with
  | .call active circumstances =>
    let (answer, after, log) := inhibitor.setActive active circumstances
    seen inhibitor after (some answer) log
  | .thread step => seen inhibitor (inhibitor.threadSteps [step]) none []

/-- What can be told of several turns, after which the inhibitor is given up. -/
def deeds (inhibitor : Inhibitor) : List Turn → (ending : Circumstances) → List Deed
  | [], ending => [seen inhibitor (inhibitor.drop ending).1 none (inhibitor.drop ending).2]
  | turn :: rest, ending => inhibitor.deed turn :: (inhibitor.turn turn).deeds rest ending

variable {inhibitor}

/-- What has been called before is not seen. -/
theorem seen_preceded {after : Inhibitor} (session : inhibitor.onSession = some true)
    (stays : after.onSession = some true) (answer : Option (Except InhibitError Bool))
    (log : List LogEvent) :
    seen (inhibitor.preceded earlier) (after.preceded earlier) answer log =
      seen inhibitor after answer log := by
  -- The earlier calls are left out as those before the turn.
  simp only [seen, busCalls_preceded _ _ session, busCalls_preceded _ _ stays, List.length_append,
    List.drop_length_add_append]
  rfl

/-- A signal that nobody consumes is not seen. -/
theorem seen_cleared (before after : Inhibitor) (answer : Option (Except InhibitError Bool))
    (log : List LogEvent) :
    seen before.cleared after.cleared answer log = seen before after answer log := by
  -- What is seen is taken from a watchdog whose signal has been cleared.
  obtain ⟨reason, bus, watchdog, noted⟩ := after
  cases watchdog <;> simp [seen, cleared, busCalls]

/-- What is seen does not depend on signals that nobody consumes, be it before or afterwards. -/
theorem seen_of_cleared {before after bare : Inhibitor} (state : bare.cleared = after.cleared)
    (answer : Option (Except InhibitError Bool)) (log : List LogEvent) :
    seen before.cleared bare answer log = seen before after answer log := by
  rw [← seen_cleared before, ← state, ← seen_cleared before.cleared, cleared_cleared]

/-- What can be told of a turn can be told without the signal that nobody consumes. -/
theorem deed_cleared (inhibitor : Inhibitor) (turn : Turn) :
    inhibitor.cleared.deed turn = inhibitor.deed turn ∧
    (inhibitor.cleared.turn turn).cleared = (inhibitor.turn turn).cleared := by
  -- A call and a step of the thread look at the signal in different ways.
  cases turn with
  | call active circumstances =>
    obtain ⟨result, state, log⟩ := inhibitor.setActive_cleared active circumstances
    simp only [deed, result, log]
    exact ⟨seen_of_cleared state _ _, state⟩
  | thread step =>
    -- The thread can only consume a signal, and then it is there in both cases.
    have state : (inhibitor.cleared.threadSteps [step]).cleared =
        (inhibitor.threadSteps [step]).cleared := by
      obtain ⟨reason, bus, watchdog, noted⟩ := inhibitor
      cases watchdog with
      | none => rfl
      | some watchdog => simp [threadSteps, cleared, watchdog.threadSteps_cleared]
    exact ⟨seen_of_cleared state none [], state⟩

/-- A signal that nobody consumes is not seen in the whole life of an inhibitor. -/
theorem deeds_cleared (inhibitor : Inhibitor) (turns : List Turn) (ending : Circumstances) :
    inhibitor.cleared.deeds turns ending = inhibitor.deeds turns ending := by
  -- After each turn the two differ at most in a signal again.
  induction turns generalizing inhibitor with
  | nil =>
    obtain ⟨state, log⟩ := inhibitor.drop_cleared ending
    simp only [deeds, log, seen_of_cleared state]
  | cons turn rest ih =>
    obtain ⟨told, state⟩ := inhibitor.deed_cleared turn
    simp only [deeds, told]
    rw [← ih (inhibitor.cleared.turn turn), state, ih]

/-- What has been called before is not seen in the whole life of an inhibitor. -/
theorem deeds_preceded (session : inhibitor.onSession = some true) (turns : List Turn)
    (ending : Circumstances) :
    (inhibitor.preceded earlier).deeds turns ending = inhibitor.deeds turns ending := by
  -- The induction is over the turns, after each of which the record is longer by the same calls.
  induction turns generalizing inhibitor with
  | nil => simp only [deeds, drop_preceded, seen_preceded, session, onSession_drop]
  | cons turn rest ih =>
    cases turn with
    | call active circumstances =>
      simp only [deeds, deed, turn, setActive_preceded]
      rw [seen_preceded _ session (by simpa using session), ih (by simpa using session)]
    | thread step =>
      have stays : (inhibitor.threadSteps [step]).onSession = some true := session
      have steps : (inhibitor.preceded earlier).threadSteps [step] =
          (inhibitor.threadSteps [step]).preceded earlier :=
        rfl
      simp only [deeds, deed, turn, steps]
      rw [seen_preceded _ session stays, ih stays]

/-- The inhibitor on a bus that will answer so from now on. -/
def answering (inhibitor : Inhibitor) (script : BusScript) : Inhibitor :=
  -- What the bus has answered before is not changed by that.
  { inhibitor with bus := inhibitor.bus.map fun
    | .session session =>
      .session { session with inhibitReplies := script.inhibits, releaseReplies := script.releases }
    | other => other }

/--
Nothing is kept awake: the inhibitor is not active, there is no thread, and no cookie is held.
-/
structure Idle (inhibitor : Inhibitor) : Prop where
  /-- The inhibitor is not active. -/
  inactive : inhibitor.active = false
  /-- The watchdog has no hold of a thread. -/
  threadless : ∀ watchdog, inhibitor.watchdog = some watchdog → watchdog.thread = none
  /-- The session holds no cookie. -/
  free : ∀ session, inhibitor.bus = some (.session session) → session.cookie = none

/-- The bus side stays what it is through every turn. -/
theorem onSession_turns (inhibitor : Inhibitor) (taken : List Turn) :
    (inhibitor.turns taken).onSession = inhibitor.onSession := by
  -- The induction is over the turns, and only calls touch the bus side.
  induction taken generalizing inhibitor with
  | nil => rfl
  | cons turn rest ih =>
    refine (ih _).trans ?_
    cases turn with
    | call active circumstances => exact onSession_setActive inhibitor active circumstances
    | thread step => rfl

/-- While such an inhibitor is not active, nothing is kept awake. -/
theorem idle_of_inactive {reason : String} {attempt : Except String BusScript}
    {watchdog : Option Span} {taken : List Turn}
    (inactive : ((built reason attempt watchdog).turns taken).active = false) :
    Idle ((built reason attempt watchdog).turns taken) := by
  have inStep : ((built reason attempt watchdog).turns taken).InStep :=
    (InStep.build reason _ watchdog).turns taken
  refine ⟨inactive, fun _ there => inStep.threadless inactive there, ?_⟩
  · intro session present
    cases attempt with
    | error words =>
      -- Without a session there is none later either.
      have kept := onSession_turns (built reason (.error words) watchdog) taken
      have without : (built reason (.error words) watchdog).onSession = none := rfl
      rw [without] at kept
      simp [onSession, present] at kept
    | ok script =>
      obtain ⟨further, alternated⟩ := (Alternated.built reason script watchdog).turns taken
      exact alternated.free inactive present

end Inhibitor

/--
A start that is taken back leaves no cookie, and has given back every one that it has brought.
-/
theorem BusSession.taken_back {session started after : BusSession} {reason : String}
    {first second : Except InhibitError Unit} {firstLog secondLog : List LogEvent}
    (free : session.cookie = none) (starts : session.Starts reason first started firstLog)
    (stops : started.Stops second after secondLog) :
    after.cookie = none ∧ ∃ made, after.calls = session.calls ++ made ∧
      (session.script.exchanges made).filterMap Exchange.obtained =
        (session.script.exchanges made).filterMap Exchange.returned := by
  -- Nothing was sent, or the bus has refused, or its cookie goes straight back.
  cases starts with
  | holds held => simp [free] at held
  | unsendable unheld =>
    cases stops with
    | idle idle => exact ⟨free, [], by simp, rfl⟩
    | refused held reply => simp [free] at held
    | released held reply => simp [free] at held
  | @refused words unheld reply =>
    cases stops with
    | idle idle =>
      refine ⟨rfl, [.inhibit application reason], rfl, ?_⟩
      simp [BusScript.exchanges, reply, List.filterMap_cons, Exchange.obtained, Exchange.returned]
    | refused held reply => cases held
    | released held reply => cases held
  | @granted cookie unheld reply =>
    have balanced :
        (session.script.exchanges [.inhibit application reason, .unInhibit cookie]).filterMap
        Exchange.obtained =
        (session.script.exchanges [.inhibit application reason, .unInhibit cookie]).filterMap
        Exchange.returned := by
      simp [BusScript.exchanges, reply, List.filterMap_cons, Exchange.obtained, Exchange.returned]
    cases stops with
    | idle idle => cases idle
    | refused held reply =>
      cases held
      exact ⟨rfl, _, by simp [having], balanced⟩
    | released held reply =>
      cases held
      exact ⟨rfl, _, by simp [having], balanced⟩

namespace Inhibitor

variable {inhibitor : Inhibitor} {watchdog : Watchdog}

/-- A start for which there is no thread is not seen in anything that follows. -/
theorem deeds_refused (idle : Idle inhibitor) (plain : inhibitor.onSession ≠ some false)
    (present : inhibitor.watchdog = some watchdog) (now : Moment) (script : BusScript)
    (later : List Turn) (ending : Circumstances) :
    ((inhibitor.setActive true ⟨now, true⟩).2.1.answering script).deeds later ending =
      (inhibitor.answering script).deeds later ending := by
  obtain ⟨log, refused⟩ :=
    setActive_refused present idle.inactive (idle.threadless watchdog present) now
  rw [refused]
  obtain ⟨reason, bus, _, noted⟩ := inhibitor
  cases present
  have bare : watchdog.cleared = { watchdog with stop := watchdog.stop.reset } := by
    simp [Watchdog.cleared, idle.threadless watchdog rfl]
  rw [← bare]
  cases bus with
  | none =>
    -- The signal that was cleared is all that has changed.
    exact deeds_cleared (answering ⟨reason, none, some watchdog, noted⟩ script) later ending
  | some bus =>
    cases bus with
    | scripted backend => exact absurd rfl plain
    | session session =>
      -- The session has made some calls besides, and on both sides it holds nothing.
      have free := idle.free session rfl
      obtain ⟨-, made, calls, -⟩ :=
        BusSession.taken_back free (session.starts reason) (session.start reason).2.1.stops
      let base : Inhibitor := ⟨reason, some (.session script.session), some watchdog, noted⟩
      have before : answering ⟨reason, some (.session session), some watchdog, noted⟩ script =
          base.preceded session.calls := by
        simp [answering, base, preceded, Bus.preceded, BusSession.preceded, BusScript.session,
          BusSession.new, free]
      have after : answering ⟨reason, some (.session (session.start reason).2.1.stop.2.1),
          some watchdog.cleared, noted⟩ script = base.cleared.preceded (session.calls ++ made) := by
        simp [answering, base, preceded, cleared, Bus.preceded, BusSession.preceded,
          BusScript.session, BusSession.new, calls]
      show (answering ⟨reason, some (.session (session.start reason).2.1.stop.2.1),
        some watchdog.cleared,
          noted⟩ script).deeds later ending = _
      rw [before, after, deeds_preceded _ rfl, deeds_preceded _ rfl, deeds_cleared]

/--
A change fails exactly if it is a start that is due and
takes a thread that the system does not grant.
-/
theorem setActive_error_iff (inStep : inhibitor.InStep) (active : Bool)
    (circumstances : Circumstances) (fault : InhibitError) :
    (inhibitor.setActive active circumstances).1 = .error fault ↔
      fault = refusal ∧ active = true ∧ inhibitor.active = false ∧
      inhibitor.watchdog.isSome = true ∧
        circumstances.refusesThread = true := by
  -- Only the thread can be refused, and only to a start.
  by_cases same : inhibitor.active = active
  · -- A change to the present state is none.
    rw [setActive_same same]
    cases active <;> simp [same]
  · -- What is visible of any other change has been told before.
    have other : inhibitor.active = !active := Bool.eq_not.mpr same
    rw [(setActive_other_visible inStep other circumstances).1, other]
    simp only [refused]
    by_cases watched : inhibitor.watchdog.isSome = true <;>
      by_cases scarce : circumstances.refusesThread = true <;>
      cases active <;> simp [watched, scarce, eq_comm]

/--
A start that fails for want of a thread leaves no trace.

A change fails exactly if it is a start that is due, with a watchdog for which there is no thread,
and a stop never fails. Afterwards nothing is kept awake, as before, and every cookie that the
bus has given within the call has gone back within the call. Whatever follows, with whatever answers
of the bus, is then answered, done and reported as if the start had never been tried, also if a
thread that broke off had left its signal behind.
-/
theorem failed_start_leaves_no_trace (reason : String) (attempt : Except String BusScript)
    (interval : Option Span) (taken : List Turn) (active : Bool) (circumstances : Circumstances) :
    let inhibitor := (built reason attempt interval).turns taken
    let answer := (inhibitor.setActive active circumstances).1
    let after := (inhibitor.setActive active circumstances).2.1
    ((∃ fault, answer = .error fault) ↔ active = true ∧ inhibitor.active = false ∧
      inhibitor.watchdog.isSome = true ∧ circumstances.refusesThread = true) ∧
    (∀ fault, answer = .error fault → fault = refusal ∧ Idle inhibitor ∧ Idle after ∧
      (∀ session, inhibitor.bus = some (.session session) →
        ∃ made, after.busCalls = inhibitor.busCalls ++ made ∧
        (session.script.exchanges made).filterMap Exchange.obtained =
          (session.script.exchanges made).filterMap Exchange.returned) ∧
      ∀ script later ending,
        (after.answering script).deeds later ending =
          (inhibitor.answering script).deeds later ending) ∧
    ∀ fault, (inhibitor.setActive false circumstances).1 ≠ .error fault := by
  intro inhibitor answer after
  have inStep : inhibitor.InStep :=
    (InStep.build reason (.connected (attempt.map BusScript.session)) interval).turns taken
  refine ⟨?_, ?_, ?_⟩
  · simp only [answer, setActive_error_iff inStep, exists_eq_left]
  · intro fault failed
    obtain ⟨rfl, rfl, inactive, watched, scarce⟩ :=
      (setActive_error_iff inStep active circumstances fault).mp failed
    have idle : Idle inhibitor := idle_of_inactive inactive
    have follows :
        after = (built reason attempt interval).turns (taken ++ [.call true circumstances]) := by
      rw [turns_append]
      rfl
    have stays : after.active = false := by
      have other : inhibitor.active = !true := inactive
      have bit := (setActive_other_visible inStep other circumstances).2.1
      simpa [refused, watched, scarce] using bit
    obtain ⟨watchdog, present⟩ := Option.isSome_iff_exists.mp watched
    obtain ⟨now, _⟩ := circumstances
    cases scarce
    refine ⟨rfl, idle, ?_, ?_, fun script later ending => ?_⟩
    · rw [follows] at stays ⊢
      exact idle_of_inactive stays
    · -- The session has been started and stopped.
      intro session there
      obtain ⟨log, made⟩ :=
        setActive_refused present inactive (idle.threadless watchdog present) now
      have bus : after.bus = some (.session (session.start inhibitor.reason).2.1.stop.2.1) := by
        simp only [after, made, rollBackBus_bus, changeBus_bus, there]
        rfl
      obtain ⟨-, calls, recorded, balanced⟩ := BusSession.taken_back (idle.free session there)
        (session.starts inhibitor.reason) (session.start inhibitor.reason).2.1.stops
      exact ⟨calls, by simp [busCalls, bus, there, recorded], balanced⟩
    · refine deeds_refused idle ?_ present now script later ending
      -- The bus side was built as a session or not at all.
      rw [onSession_turns]
      cases attempt <;> simp [built, build, onSession, Except.map, Bus.isSession]
  · intro fault failed
    have starts := ((setActive_error_iff inStep false circumstances fault).mp failed).2.1
    cases starts

end Inhibitor

end Wakeful
