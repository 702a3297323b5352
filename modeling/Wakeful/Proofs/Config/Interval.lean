import Wakeful.Config.Inhibitor
import Wakeful.Proofs.Config.Record
import Wakeful.Proofs.Inhibit.Turn

/-! How long the clock may run before the interval of a watchdog breaks its thread off. -/

namespace Wakeful

/-- The second of the clock in which a moment lies. -/
def Moment.second (moment : Moment) : Int :=
  -- Moments before the clock's own start lie in negative seconds.
  moment.nanoseconds / 1000000000

/--
The clock can express a moment so many seconds later exactly
if the sum of the seconds is a signed word.
-/
theorem Moment.after_ofSeconds (now : Moment) (seconds : Nat) :
    (∃ deadline, now.after (.ofSeconds seconds) = .ok deadline) ↔
      now.second + seconds ≤ greatestSigned := by
  -- Whole seconds are added to the second of the moment, and its remainder never carries.
  have sum : (now.nanoseconds + ((Span.ofSeconds seconds).nanoseconds : Int)) / 1000000000 =
      now.second + seconds := by
    simp only [Span.ofSeconds, Moment.second]
    omega
  unfold Moment.after
  simp only [sum]
  constructor
  · rintro ⟨deadline, later⟩
    split at later
    · assumption
    · cases later
  · intro within
    exact ⟨_, if_pos within⟩

/-- Whether a thread still waits, resets, or is about to. -/
def ThreadPhase.lives : ThreadPhase → Bool
  -- At its end it does nothing any more.
  | ended | broken => false
  | _ => true

/-- What may happen until a second of the clock, if no reset breaks the thread off. -/
def Turn.Until (latest : Int) : Turn → Prop
  -- The clock is read where a deadline is computed.
  | .call _ circumstances => circumstances.now.second ≤ latest
  | .thread (.wait now) => now.second ≤ latest
  | .thread (.finish outcome) => outcome ≠ .broke
  | .thread _ => True

namespace Watchdog

variable {watchdog after : Watchdog} {interval : Span} {latest : Int}

/--
The thread of a watchdog lives if there is one, and no
signal is pending that it could take for its own.
-/
structure Sound (watchdog : Watchdog) (interval : Span) : Prop where
  /-- The interval is the one that the watchdog was built with. -/
  same : watchdog.interval = interval
  /-- The thread lives. -/
  lives : ∀ phase, watchdog.thread = some phase → phase.lives = true
  /-- No signal is pending for it. -/
  quiet : watchdog.thread.isSome = true → watchdog.stop.pending = false

/--
A thread that can always compute its deadline lives on after every step that breaks no reset off.
-/
theorem Sound.threadStep (sound : watchdog.Sound interval)
    (reaches : ∀ now : Moment, now.second ≤ latest → ∃ deadline, now.after interval = .ok deadline)
    {step : ThreadStep} (timely : Turn.Until latest (.thread step))
    (moves : watchdog.Moves step after) : after.Sound interval := by
  -- Three cases would end the thread: a deadline out of reach, a
  -- pending signal, and a reset that breaks off.
  obtain ⟨rfl, lives, quiet⟩ := sound
  cases moves with
  | waits phase later =>
    refine ⟨rfl, ?_, fun _ => quiet (by rw [phase]; rfl)⟩
    intro next present
    cases present
    rfl
  | @overflows now fault phase beyond =>
    obtain ⟨deadline, later⟩ := reaches now timely
    rw [later] at beyond
    cases beyond
  | stops phase signaled =>
    rw [quiet (by rw [phase]; rfl)] at signaled
    cases signaled
  | expires phase still passed =>
    refine ⟨rfl, ?_, fun _ => still⟩
    intro next present
    cases present
    rfl
  | breaks phase => exact absurd rfl timely
  | returns phase whole =>
    refine ⟨rfl, ?_, fun _ => quiet (by rw [phase]; rfl)⟩
    intro next present
    cases present
    rfl

/-- A halt keeps the interval. -/
theorem halt_interval (watchdog : Watchdog) (circumstances : Circumstances) :
    (watchdog.halt circumstances).2.1.interval = watchdog.interval := by
  -- Running out only makes the thread take steps.
  unfold halt
  split
  · rfl
  · simp only
    split <;> simp [runOut]

/-- A halt finds a thread that lives and can compute its deadline unbroken. -/
theorem Sound.halt_ok (sound : watchdog.Sound interval) (circumstances : Circumstances)
    (reaches : ∃ deadline, circumstances.now.after interval = .ok deadline) :
    (watchdog.halt circumstances).1 = .ok () := by
  -- A thread that lives has at most a reset, a deadline and a
  -- look left, and none of them breaks it off.
  obtain ⟨rfl, lives, quiet⟩ := sound
  obtain ⟨deadline, later⟩ := reaches
  unfold halt
  cases present : watchdog.thread with
  | none => rfl
  | some phase =>
    have living := lives phase present
    cases phase with
    | ended => cases living
    | broken => cases living
    | _ => simp [runOut, threadSteps, Watchdog.threadStep, later]

end Watchdog

namespace Inhibitor

variable {inhibitor : Inhibitor} {interval : Span} {latest : Int}

/-- An inhibitor has a watchdog whose thread lives while the inhibitor is active. -/
structure Guarded (inhibitor : Inhibitor) (interval : Span) : Prop where
  /-- There is a thread exactly while it is active. -/
  inStep : inhibitor.InStep
  /-- The thread lives. -/
  sound : ∃ watchdog, inhibitor.watchdog = some watchdog ∧ watchdog.Sound interval

/-- A change leaves a watchdog whose thread lives, or none. -/
theorem Guarded.setActive (guarded : inhibitor.Guarded interval) (active : Bool)
    (circumstances : Circumstances) :
    (inhibitor.setActive active circumstances).2.1.Guarded interval := by
  -- A start begins with a clear flag and a thread that lives, and a stop leaves no thread.
  refine ⟨guarded.inStep.setActive active circumstances, ?_⟩
  obtain ⟨watchdog, present, sound⟩ := guarded.sound
  by_cases same : inhibitor.active = active
  · rw [setActive_same same]
    exact ⟨watchdog, present, sound⟩
  · have other : inhibitor.active = !active := Bool.eq_not.mpr same
    obtain ⟨now, refuses⟩ := circumstances
    cases active with
    | false =>
      -- Without a thread there is nothing that could break off.
      obtain ⟨log, halted⟩ := setActive_halted present other ⟨now, refuses⟩
      rw [halted]
      refine ⟨_, rfl, (watchdog.halt_interval _).trans sound.same, ?_, ?_⟩ <;> simp
    | true =>
      -- While the inhibitor was inactive, there was no thread
      -- that could be mistaken for the new one.
      have absent := guarded.inStep.threadless other present
      cases refuses with
      | false =>
        obtain ⟨log, started⟩ := setActive_granted present other absent now
        rw [started]
        refine ⟨_, rfl, sound.same, ?_, fun _ => rfl⟩
        intro next begun
        cases begun
        rfl
      | true =>
        obtain ⟨log, refused⟩ := setActive_refused present other absent now
        rw [refused]
        refine ⟨_, rfl, sound.same, ?_, ?_⟩ <;> simp [absent]

/--
What may happen until a second of the clock leaves the
thread alive, if all its deadlines can be expressed.
-/
theorem Guarded.turns (guarded : inhibitor.Guarded interval)
    (reaches : ∀ now : Moment, now.second ≤ latest → ∃ deadline, now.after interval = .ok deadline)
    {taken : List Turn} (timely : ∀ turn ∈ taken, turn.Until latest) :
    (inhibitor.turns taken).Guarded interval := by
  -- The induction is over the turns, of which the calls do not depend on the clock.
  induction taken generalizing inhibitor with
  | nil => exact guarded
  | cons next rest ih =>
    refine ih ?_ (fun turn later => timely turn (List.mem_cons_of_mem _ later))
    cases next with
    | call active circumstances => exact guarded.setActive active circumstances
    | thread step =>
      refine ⟨guarded.inStep.threadSteps [step], ?_⟩
      obtain ⟨watchdog, present, sound⟩ := guarded.sound
      refine ⟨watchdog.threadSteps [step], by simp [turn, Inhibitor.threadSteps, present], ?_⟩
      rw [Watchdog.threadSteps_cons, Watchdog.threadSteps_nil]
      cases moves : watchdog.threadStep step with
      | none => exact sound
      | some after =>
        exact sound.threadStep reaches (timely _ List.mem_cons_self)
          (Watchdog.threadStep_eq_some_iff.mp moves)

/--
While the inhibitor is active its thread lives, and a stop until that second finds it unbroken.
-/
def Watched (inhibitor : Inhibitor) (latest : Int) : Prop :=
  -- A stop reads the clock once more if the thread has not begun to wait.
  (inhibitor.active = true → ∃ watchdog phase, inhibitor.watchdog = some watchdog ∧
      watchdog.thread = some phase ∧ phase.lives = true) ∧
    ∀ watchdog, inhibitor.watchdog = some watchdog → ∀ circumstances : Circumstances,
      circumstances.now.second ≤ latest → (watchdog.halt circumstances).1 = .ok ()

/-- A thread that lives while the inhibitor is active is watched over. -/
theorem Guarded.watched (guarded : inhibitor.Guarded interval)
    (reaches : ∀ now : Moment, now.second ≤ latest →
      ∃ deadline, now.after interval = .ok deadline) :
    inhibitor.Watched latest := by
  -- An active inhibitor is in step, so that there is a thread, and that one lives.
  obtain ⟨watchdog, present, sound⟩ := guarded.sound
  constructor
  · intro active
    have phase := guarded.inStep watchdog present
    rw [active] at phase
    obtain ⟨phase, running⟩ := Option.isSome_iff_exists.mp phase
    exact ⟨watchdog, phase, present, running, sound.lives phase running⟩
  · intro other found circumstances timely
    rw [present] at found
    cases found
    exact sound.halt_ok circumstances (reaches circumstances.now timely)

/-- A new inhibitor with a watchdog has no thread yet that could have broken off. -/
theorem Guarded.build (reason : String) (choice : BusChoice) (interval : Span) :
    (Inhibitor.build reason choice (some interval)).1.Guarded interval := by
  -- Everything but the two clauses about the thread holds as it is built.
  refine ⟨InStep.build reason choice (some interval), .new interval, rfl, rfl, ?_, ?_⟩ <;>
    simp [Watchdog.new]

/-- Just started, a thread breaks off at once if the clock cannot express its first deadline. -/
theorem started_broken (reason : String) (choice : BusChoice) {interval : Span} {now : Moment}
    {fault : Overflow} (beyond : now.after interval = .error fault) :
    let reached := (Inhibitor.build reason choice (some interval)).1.turns
      [.call true ⟨now, false⟩, .thread (.wait now)]
    reached.active = true ∧
    ∃ watchdog, reached.watchdog = some watchdog ∧ watchdog.thread = some .broken := by
  -- The start is granted, and the thread gets no further than its first deadline.
  intro reached
  obtain ⟨log, started⟩ := setActive_granted
    (rfl : (Inhibitor.build reason choice (some interval)).1.watchdog = some (.new interval)) rfl
    rfl now
  have made : reached =
      ((Inhibitor.build reason choice (some interval)).1.setActive true
        ⟨now, false⟩).2.1.threadSteps [.wait now] := rfl
  rw [started] at made
  rw [made]
  refine ⟨rfl, _, rfl, ?_⟩
  simp [Watchdog.threadSteps, Watchdog.threadStep, Watchdog.new, beyond]

end Inhibitor

/--
The interval of a configuration decides how long its watchdog's thread is safe from the clock.

While the clock has not passed a second, the thread lives whenever the inhibitor is active, exactly
if this second and the seconds of the interval together are a signed word. The configuration bounds
the interval by the greatest signed word alone.
-/
theorem Config.watched_iff {reading : Except IoError Octets} {config : Config}
    (loaded : Config.ofReading reading = .ok config) (enabled : config.watchdog.enabled = true)
    (attempt : Except String BusSession) (latest : Int) :
    (config.watchdog.intervalSeconds : Int) ≤ greatestSigned ∧
    ((∀ taken : List Turn, (∀ turn ∈ taken, turn.Until latest) →
        ((config.inhibitor attempt).1.turns taken).Watched latest) ↔
      latest + max config.watchdog.intervalSeconds 1 ≤ greatestSigned) := by
  refine ⟨Config.ofReading_le loaded, ?_⟩
  -- The shortest interval is a second, whatever the document says.
  have built : (config.inhibitor attempt).1 =
      (Inhibitor.build config.reason (config.busChoice attempt)
        (some config.watchdog.interval)).1 := by
    simp [Config.inhibitor, Config.watchdogInterval, enabled]
  rw [built]
  constructor
  · -- Otherwise the thread breaks off when it is started in the latest second.
    intro always
    have second : (Moment.mk (latest * 1000000000)).second = latest := by
      simp only [Moment.second]
      omega
    cases later : (Moment.mk (latest * 1000000000)).after config.watchdog.interval with
    | ok deadline =>
      have within := (Moment.after_ofSeconds _ _).mp ⟨deadline, later⟩
      rw [second] at within
      exact within
    | error fault =>
      obtain ⟨active, watchdog, present, broken⟩ :=
        Inhibitor.started_broken config.reason (config.busChoice attempt) later
      have watched :=
        always [.call true ⟨⟨latest * 1000000000⟩, false⟩, .thread (.wait ⟨latest * 1000000000⟩)]
        (by simp [Turn.Until, second])
      obtain ⟨other, phase, found, running, lives⟩ := watched.1 active
      rw [present] at found
      cases found
      rw [broken] at running
      cases running
      cases lives
  · -- No deadline is out of reach, so that nothing can end the thread but its signal.
    intro within taken timely
    have reaches : ∀ now : Moment, now.second ≤ latest →
        ∃ deadline, now.after config.watchdog.interval = .ok deadline := by
      intro now earlier
      apply (Moment.after_ofSeconds _ _).mpr
      omega
    exact ((Inhibitor.Guarded.build _ _ _).turns reaches timely).watched reaches

/-- A document that asks for the longest interval that a document can express. -/
def longestDocument : Octets := Octets.ofText "[watchdog]\ninterval_secs=9223372036854775807"

/-- The configuration with that interval, and with the defaults elsewhere. -/
def longestConfig : Config :=
  { Config.default with
    watchdog := { WatchdogConfig.default with intervalSeconds := 9223372036854775807 } }

/-- The document is accepted. -/
theorem ofReading_longestDocument : Config.ofReading (.ok longestDocument) = .ok longestConfig := by
  -- Whether the document is accepted can be computed, but faults cannot be compared.
  have loaded : (Config.ofReading (.ok longestDocument)).toOption = some longestConfig := by
    decide +kernel
  cases reading : Config.ofReading (.ok longestDocument) with
  | error fault =>
    rw [reading] at loaded
    cases loaded
  | ok config =>
    rw [reading] at loaded
    exact congrArg _ (Option.some.inj loaded)

/--
In the first second of the clock, and no longer, the longest interval does the thread no harm.
-/
theorem Config.watched_longest :
    Config.ofReading (.ok longestDocument) = .ok longestConfig ∧
    longestConfig.watchdog.enabled = true ∧
    (longestConfig.watchdog.intervalSeconds : Int) ≤ greatestSigned ∧
    ((∀ taken : List Turn, (∀ turn ∈ taken, turn.Until 0) →
        ((longestConfig.inhibitor (.error "unavailable")).1.turns taken).Watched 0) ↔
      0 + max longestConfig.watchdog.intervalSeconds 1 ≤ greatestSigned) :=
  ⟨ofReading_longestDocument, rfl,
    Config.watched_iff ofReading_longestDocument rfl (.error "unavailable") 0⟩

/--
From the next second on, an inhibitor with the longest
interval is active without a thread that lives.
-/
theorem Config.longest_breaks :
    Config.ofReading (.ok longestDocument) = .ok longestConfig ∧
    let reached := (longestConfig.inhibitor (.error "unavailable")).1.turns
      [.call true ⟨⟨1000000000⟩, false⟩, .thread (.wait ⟨1000000000⟩)]
    reached.active = true ∧
    ∃ watchdog, reached.watchdog = some watchdog ∧ watchdog.thread = some .broken :=
  ⟨ofReading_longestDocument, Inhibitor.started_broken longestConfig.reason
    (longestConfig.busChoice (.error "unavailable"))
    (rfl : Moment.after ⟨1000000000⟩ _ = .error .moment)⟩

end Wakeful
