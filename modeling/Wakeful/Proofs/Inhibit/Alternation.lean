import Wakeful.Proofs.Inhibit.Change

/-!
The calls on the bus side take turns: a start with the
reason, a stop, a start, and a stop in the end.
-/

namespace Wakeful

/-- The first so many of the calls that begin with a start and take turns. -/
def alternation (reason : String) : (count : Nat) → List BackendCall
  -- Every start is followed by a stop before the next one.
  | 0 => []
  | count + 1 => alternation reason count ++ [if count % 2 = 0 then .start reason else .stop]

/-- An alternation of even length is empty or ends with a stop. -/
theorem alternation_even (reason : String) (pairs : Nat) :
    alternation reason (2 * pairs) = [] ∨
    (alternation reason (2 * pairs)).getLast? = some .stop := by
  -- The last of an even number of calls has an odd place.
  cases pairs with
  | zero => exact Or.inl rfl
  | succ pairs =>
    have odd : (2 * pairs + 1) % 2 = 1 := by omega
    exact Or.inr (by simp [Nat.mul_succ, alternation, odd])

/-- An alternation ends with a start exactly if its length is odd. -/
theorem alternation_getLast?_start (reason : String) (count : Nat) :
    (alternation reason count).getLast? = some (.start reason) ↔ count % 2 = 1 := by
  -- The last call is the one that was put at the end.
  cases count with
  | zero => simp [alternation]
  | succ count =>
    rcases Nat.mod_two_eq_zero_or_one count with even | odd
    · simp [alternation, even]; omega
    · simp [alternation, odd]; omega

/-- A further call takes its turn after an alternation of fitting length. -/
theorem alternation_start {reason : String} {count : Nat} (even : count % 2 = 0) :
    alternation reason count ++ [.start reason] = alternation reason (count + 1) := by
  simp [alternation, even]

theorem alternation_stop {reason : String} {count : Nat} (odd : count % 2 = 1) :
    alternation reason count ++ [.stop] = alternation reason (count + 1) := by
  simp [alternation, odd]

namespace Bus

/-- The bus side after a call. -/
def perform (bus : Bus) : BackendCall → Bus
  -- What the call is answered with is left out.
  | .start reason => (bus.start reason).2.1
  | .stop => bus.stop.2.1

/-- The bus side after several calls. -/
def performAll (bus : Bus) (calls : List BackendCall) : Bus :=
  -- They are made in order.
  calls.foldl perform bus

@[simp] theorem performAll_append (bus : Bus) (first second : List BackendCall) :
    bus.performAll (first ++ second) = (bus.performAll first).performAll second :=
  List.foldl_append ..

@[simp] theorem performAll_start (bus : Bus) (reason : String) :
    bus.performAll [.start reason] = (bus.start reason).2.1 := rfl

@[simp] theorem performAll_stop (bus : Bus) : bus.performAll [.stop] = bus.stop.2.1 := rfl

/-- The calls that a backend of which only the answers are known has recorded. -/
def recorded : Bus → List BackendCall
  -- A session speaks with the session bus instead.
  | scripted backend => backend.calls
  | session _ => []

/-- Such a backend records exactly the calls that are made, whatever it answers to them. -/
theorem recorded_performAll (backend : ScriptedBackend) (calls : List BackendCall) :
    ((scripted backend).performAll calls).recorded = backend.calls ++ calls := by
  -- Each call puts itself behind those that have been recorded.
  induction calls generalizing backend with
  | nil => simp [performAll, recorded]
  | cons call rest ih =>
    cases call with
    | start reason =>
      show ((scripted (backend.start reason).2).performAll rest).recorded = _
      rw [ih]
      simp [ScriptedBackend.start]
    | stop =>
      show ((scripted backend.stop.2).performAll rest).recorded = _
      rw [ih]
      simp [ScriptedBackend.stop]

/-- Being let go is no call. -/
theorem recorded_drop (bus : Bus) : bus.drop.1.recorded = bus.recorded := by
  cases bus <;> rfl

end Bus

namespace Inhibitor

/--
The bus side is what an alternation of calls has made of it,
and a start came last exactly while active.
-/
structure Alternated (inhibitor : Inhibitor) (reason : String) (origin : Bus)
    (count : Nat) : Prop where
  /-- The watchdog does not upset the order. -/
  inStep : inhibitor.InStep
  /-- Every start carries the reason that was stored. -/
  sameReason : inhibitor.reason = reason
  /-- Nothing else has happened to the bus side. -/
  performed : inhibitor.bus = some (origin.performAll (alternation reason count))
  /-- A start waits for its stop exactly while the inhibitor is active. -/
  parity : count % 2 = 1 ↔ inhibitor.active = true

variable {inhibitor : Inhibitor} {reason : String} {origin : Bus} {count : Nat}

/--
A change continues the alternation: by nothing, by one call,
or by a start that is taken back at once.
-/
theorem Alternated.setActive (alternated : Alternated inhibitor reason origin count) (active : Bool)
    (circumstances : Circumstances) :
    ∃ further, Alternated (inhibitor.setActive active circumstances).2.1 reason origin
      (count + further) := by
  -- There is no further call, one, or two if a start is taken back.
  obtain ⟨inStep, rfl, performed, parity⟩ := alternated
  by_cases same : inhibitor.active = active
  · exact ⟨0, by rw [setActive_same same]; exact ⟨inStep, rfl, performed, parity⟩⟩
  · have other : inhibitor.active = !active := Bool.eq_not.mpr same
    have kept := setActive_other_visible inStep other circumstances
    obtain ⟨watchdog, log, made, -, -⟩ := setActive_other inStep other circumstances
    cases refuses : inhibitor.refused active circumstances with
    | true =>
      -- The start that was made for nothing is followed by its stop.
      have starting : active = true := by
        simp only [refused, Bool.and_eq_true] at refuses
        exact refuses.1.1
      subst starting
      have even : count % 2 = 0 := by
        have inactive : ¬ count % 2 = 1 := by rw [parity, other]; decide
        omega
      refine ⟨2, kept.2.2.2.2, kept.2.2.1, ?_, ?_⟩
      · rw [made]
        simp [refuses, rollBackBus_bus, changeBus_bus, performed, ← alternation_start even,
          ← alternation_stop (by omega : (count + 1) % 2 = 1)]
        rfl
      · rw [kept.2.1, refuses]
        simp
        omega
    | false =>
      -- One call follows, whose place among the others is even for a start and odd for a stop.
      refine ⟨1, kept.2.2.2.2, kept.2.2.1, ?_, ?_⟩
      · rw [made]
        cases active with
        | true =>
          have even : count % 2 = 0 := by
            have inactive : ¬ count % 2 = 1 := by rw [parity, other]; decide
            omega
          simp [refuses, changeBus_bus, performed, ← alternation_start even]
        | false =>
          have odd : count % 2 = 1 := by rw [parity, other]; rfl
          simp [refuses, changeBus_bus, performed, ← alternation_stop odd]
      · rw [kept.2.1, refuses]
        cases active <;> simp [other] at parity ⊢ <;> omega

/-- Every turn continues the alternation. -/
theorem Alternated.turns (alternated : Alternated inhibitor reason origin count)
    (taken : List Turn) :
    ∃ further, Alternated (inhibitor.turns taken) reason origin (count + further) := by
  -- The induction is over the turns, of which those of the thread do not reach the bus side.
  induction taken generalizing inhibitor count with
  | nil => exact ⟨0, alternated⟩
  | cons next rest ih =>
    cases next with
    | call active circumstances =>
      obtain ⟨first, after⟩ := alternated.setActive active circumstances
      obtain ⟨second, last⟩ := ih after
      exact ⟨first + second, by rw [← Nat.add_assoc]; exact last⟩
    | thread step =>
      exact ih ⟨alternated.inStep.threadSteps [step], alternated.sameReason, alternated.performed,
        alternated.parity⟩

/-- A new inhibitor has not called its bus side yet. -/
theorem Alternated.build (reason : String) (bus : Bus) (watchdog : Option Span) :
    Alternated (Inhibitor.build reason (.given (some bus)) watchdog).1 reason bus 0 :=
  ⟨InStep.build reason _ watchdog, rfl, rfl, by simp [Inhibitor.build]⟩

/--
What becomes of the bus side when an inhibitor is given up:
it is stopped if need be, and then let go.
-/
theorem drop_bus (inhibitor : Inhibitor) (circumstances : Circumstances) :
    (inhibitor.drop circumstances).1.bus =
      (inhibitor.setActive false circumstances).2.1.bus.map fun bus => bus.drop.1 := by
  -- Only the stop concerns the bus side before it is let go.
  unfold drop
  rcases inhibitor.setActive false circumstances with ⟨result, stopped, log⟩
  cases present : stopped.bus <;> simp [present]

/-- The calls that the bus side of an inhibitor has recorded. -/
def recorded (inhibitor : Inhibitor) : List BackendCall :=
  -- Without a bus side there are none.
  (inhibitor.bus.map Bus.recorded).getD []

/--
The calls on the bus side alternate, whatever it answers and whatever becomes of the watchdog.

A start with the stored reason comes first and a stop last, and while the inhibitor lives its last
call is a start exactly if it is active. A change to the present state touches neither side, in
whatever state they are.
-/
theorem backend_calls_alternate (reason : String) (bus : Bus) (watchdog : Option Span)
    (taken : List Turn) (circumstances : Circumstances) :
    let inhibitor := (Inhibitor.build reason (.given (some bus)) watchdog).1.turns taken
    let gone := (inhibitor.drop circumstances).1
    (∃ count pairs : Nat,
      inhibitor.bus = some (bus.performAll (alternation reason count)) ∧
      (count % 2 = 1 ↔ inhibitor.active = true) ∧
      gone.bus = some (bus.performAll (alternation reason (2 * pairs))).drop.1 ∧
      ∀ starts stops, bus = .scripted (.new starts stops) →
        inhibitor.recorded = alternation reason count ∧
        (inhibitor.recorded.getLast? = some (.start reason) ↔ inhibitor.active = true) ∧
        gone.recorded = alternation reason (2 * pairs) ∧
        (gone.recorded = [] ∨ gone.recorded.getLast? = some .stop)) ∧
    ∀ any : Inhibitor, any.setActive any.active circumstances = (.ok false, any, []) := by
  intro inhibitor gone
  refine ⟨?_, fun any => setActive_same rfl circumstances⟩
  obtain ⟨count, alternated⟩ := (Alternated.build reason bus watchdog).turns taken
  rw [Nat.zero_add] at alternated
  -- Giving the inhibitor up makes one more change, after which no start is left without its stop.
  obtain ⟨further, last⟩ := alternated.setActive false circumstances
  have even : (count + further) % 2 = 0 := by
    have idle := setActive_false_active alternated.inStep circumstances
    have := last.parity
    rw [idle] at this
    simp only [Bool.false_eq_true, iff_false] at this
    omega
  have paired : 2 * ((count + further) / 2) = count + further := by omega
  have left : gone.bus =
      some (bus.performAll (alternation reason (2 * ((count + further) / 2)))).drop.1 := by
    rw [paired]
    show (inhibitor.drop circumstances).1.bus = _
    rw [drop_bus, last.performed]
    rfl
  refine ⟨count, (count + further) / 2, alternated.performed, alternated.parity, left, ?_⟩
  -- A backend of which only the answers are known has recorded what has been performed.
  intro starts stops scripted
  subst scripted
  have present : inhibitor.recorded = alternation reason count := by
    have called := alternated.performed
    show ((inhibitor.bus).map Bus.recorded).getD [] = _
    rw [called, Option.map_some, Option.getD_some, Bus.recorded_performAll]
    rfl
  have final : gone.recorded = alternation reason (2 * ((count + further) / 2)) := by
    show ((gone.bus).map Bus.recorded).getD [] = _
    rw [left, Option.map_some, Option.getD_some, Bus.recorded_drop, Bus.recorded_performAll]
    rfl
  refine ⟨present, ?_, final, ?_⟩
  · rw [present, alternation_getLast?_start]
    exact alternated.parity
  · rw [final]
    exact alternation_even reason _

end Inhibitor

end Wakeful
