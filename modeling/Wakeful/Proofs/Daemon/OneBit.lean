import Wakeful.Daemon.Attendance
import Wakeful.Proofs.Inhibit.Change

/-!
To its clients the daemon is a machine that remembers a
single bit, however the bus and the watchdog behave.
-/

namespace Wakeful.Daemon

/-- All that can be told of an answer from outside. -/
structure Sight where
  /-- The response to the client. -/
  response : Response
  /-- Whether the daemon goes on. -/
  keepRunning : Bool
  /-- Whether the display is kept awake afterwards. -/
  active : Bool
  deriving DecidableEq, Repr

/-- What can be told of an answer from outside. -/
def Answer.sight (answer : Answer) : Sight :=
  -- The sides of the inhibitor and the log are out of sight.
  ⟨answer.response, answer.keepRunning, answer.inhibitor.active⟩

/-- The words for a client that the system grants no thread. -/
def noThread : String :=
  "Could not inhibit: Could not start screensaver watchdog thread: Resource temporarily unavailable (os error 11)"

/-- The answer of the machine that remembers only whether the display is kept awake. -/
def oneBit (reason : String) (active refused : Bool) : Except Report Request → Sight
  -- Only a change that is due can be refused, and only being told to stop ends the daemon.
  | .ok .status => ⟨.status active reason, true, active⟩
  | .ok .inhibit =>
    if active then ⟨.unchanged, true, true⟩
    else if refused then ⟨.failed noThread, true, false⟩
    else ⟨.done, true, true⟩
  | .ok .uninhibit => if active then ⟨.done, true, false⟩ else ⟨.unchanged, true, false⟩
  | .ok .kill => ⟨.done, false, active⟩
  | .error report => ⟨.failed report.line, true, active⟩

/--
The answers of that machine to several requests in a row,
each with whether a thread would be refused.
-/
def oneBitRun (reason : String) : Bool → List (Except Report Request × Bool) → List Sight
  -- The bit is all that is handed on.
  | _, [] => []
  | active, (request, refused) :: rest =>
    let sight := oneBit reason active refused request
    sight :: oneBitRun reason sight.active rest

/-- The words for a client agree with the report of the failure. -/
theorem refusal_line : (Inhibitor.refusal.report.within (attemptWords true)).line = noThread := by
  decide +kernel

/--
An inhibitor seen through its bit: in step, and with the
reason and the sides that it was built with.
-/
structure SeenAs (inhibitor : Inhibitor) (reason : String) (watched active : Bool) : Prop where
  /-- The thread is there exactly while the bit is set. -/
  inStep : inhibitor.InStep
  /-- The reason is the one that was stored. -/
  sameReason : inhibitor.reason = reason
  /-- A watchdog neither comes nor goes. -/
  sameWatchdog : inhibitor.watchdog.isSome = watched
  /-- The bit is the inhibitor's own. -/
  sameBit : inhibitor.active = active

variable {inhibitor : Inhibitor} {reason : String} {watched active : Bool}

/--
A change is answered as the machine answers it, and what is left is seen as the machine's new bit.
-/
theorem change_sight (seen : SeenAs inhibitor reason watched active) (wanted : Bool)
    (circumstances : Circumstances) :
    (change inhibitor wanted circumstances).sight =
        oneBit reason active (watched && circumstances.refusesThread)
          (.ok (if wanted then .inhibit else .uninhibit)) ∧
      SeenAs (change inhibitor wanted circumstances).inhibitor reason watched
        (change inhibitor wanted circumstances).inhibitor.active := by
  -- A change to the present state is none, and any other can only be refused for want of a thread.
  obtain ⟨inStep, rfl, rfl, rfl⟩ := seen
  by_cases same : inhibitor.active = wanted
  · -- Nothing is asked of either side.
    have unchanged := Inhibitor.setActive_same same circumstances
    simp only [change, unchanged]
    refine ⟨?_, inStep, rfl, rfl, rfl⟩
    cases wanted <;> simp [Answer.sight, oneBit, same]
  · have other : inhibitor.active = !wanted := Bool.eq_not.mpr same
    obtain ⟨result, bit, sameReason, sameWatchdog, after⟩ :=
      Inhibitor.setActive_other_visible inStep other circumstances
    rcases made : inhibitor.setActive wanted circumstances with ⟨outcome, changed, log⟩
    simp only [made] at result bit sameReason sameWatchdog after
    cases refuses : inhibitor.refused wanted circumstances with
    | true =>
      -- Only a thread that was to be started can have been refused.
      have cause := refuses
      simp only [Inhibitor.refused, Bool.and_eq_true] at cause
      obtain ⟨⟨rfl, watched⟩, scarce⟩ := cause
      simp only [refuses, if_true] at result
      subst result
      simp only [change, made]
      refine ⟨?_, after, sameReason, sameWatchdog, rfl⟩
      simp [Answer.sight, oneBit, other, watched, scarce, bit, refuses, refusal_line]
    | false =>
      simp only [refuses, Bool.false_eq_true, if_false] at result
      subst result
      simp only [change, made]
      refine ⟨?_, after, sameReason, sameWatchdog, rfl⟩
      cases wanted with
      | false => simp [Answer.sight, oneBit, other, bit]
      | true =>
        have granted : (inhibitor.watchdog.isSome && circumstances.refusesThread) = false := by
          simpa [Inhibitor.refused] using refuses
        simp [Answer.sight, oneBit, other, bit, refuses, granted]

/--
A connection is answered as the machine answers its request,
whether or not the response can be written.
-/
theorem answer_sight (seen : SeenAs inhibitor reason watched active) (connection : Connection)
    (circumstances : Circumstances) :
    (answer inhibitor connection circumstances).sight =
        oneBit reason active (watched && circumstances.refusesThread)
          (readRequest connection.arrival) ∧
      SeenAs (answer inhibitor connection circumstances).inhibitor reason watched
        (answer inhibitor connection circumstances).inhibitor.active := by
  -- Writing the response only adds to the log.
  have written : (answer inhibitor connection circumstances).sight =
        (respond inhibitor connection.arrival circumstances).sight ∧
      (answer inhibitor connection circumstances).inhibitor =
        (respond inhibitor connection.arrival circumstances).inhibitor := by
    unfold answer
    cases connection.refusal <;> exact ⟨rfl, rfl⟩
  rw [written.1, written.2]
  unfold respond
  cases readRequest connection.arrival with
  | error report =>
    obtain ⟨inStep, sameReason, sameWatchdog, rfl⟩ := seen
    exact ⟨rfl, inStep, sameReason, sameWatchdog, rfl⟩
  | ok request =>
    cases request with
    | inhibit => exact change_sight seen true circumstances
    | uninhibit => exact change_sight seen false circumstances
    | status =>
      obtain ⟨inStep, rfl, sameWatchdog, rfl⟩ := seen
      exact ⟨rfl, inStep, rfl, sameWatchdog, rfl⟩
    | kill =>
      obtain ⟨inStep, sameReason, sameWatchdog, rfl⟩ := seen
      exact ⟨rfl, inStep, sameReason, sameWatchdog, rfl⟩

/-- What the watchdog's thread does by itself is not seen. -/
theorem SeenAs.threadSteps (seen : SeenAs inhibitor reason watched active)
    (steps : List ThreadStep) : SeenAs (inhibitor.threadSteps steps) reason watched active :=
  ⟨seen.inStep.threadSteps steps, seen.sameReason, by
    simp [Inhibitor.threadSteps, seen.sameWatchdog],
    seen.sameBit⟩

/-- A daemon in the middle of its work goes on as the machine with its bit does. -/
theorem attend_sight (seen : SeenAs inhibitor reason watched active) (encounters : List Encounter) :
    (attend inhibitor encounters).map Answer.sight =
      oneBitRun reason active (encounters.map fun encounter =>
        (readRequest encounter.connection.arrival,
          watched && encounter.circumstances.refusesThread)) := by
  -- The induction hands on the inhibitor on one side and its bit on the other.
  induction encounters generalizing inhibitor active with
  | nil => rfl
  | cons encounter rest ih =>
    obtain ⟨sight, after⟩ :=
      answer_sight (seen.threadSteps encounter.meanwhile) encounter.connection
        encounter.circumstances
    simp only [attend, List.map_cons, oneBitRun, ← sight]
    exact congrArg _ (ih after)

/--
To its clients the daemon is a machine with a single bit.

Neither the bus, nor the thread, nor a client that is gone before its answer makes any difference:
the answers follow from the requests, and from whether a thread was to be had for the watchdog.
-/
theorem attend_eq_oneBitRun (reason : String) (choice : BusChoice) (watchdog : Option Span)
    (encounters : List Encounter) :
    (attend (Inhibitor.build reason choice watchdog).1 encounters).map Answer.sight =
      oneBitRun reason false (encounters.map fun encounter =>
        (readRequest encounter.connection.arrival,
          watchdog.isSome && encounter.circumstances.refusesThread)) := by
  -- A new inhibitor is not active yet.
  apply attend_sight
  exact ⟨Inhibitor.InStep.build reason choice watchdog, rfl, by simp [Inhibitor.build], rfl⟩

end Wakeful.Daemon
