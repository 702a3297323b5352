import Wakeful.Child.Launch
import Wakeful.Proofs.Inhibit.Vigil

/-!
The watchdog's loop resets the screensaver only after a whole
interval without a signal, and ends soon after one.
-/

namespace Wakeful

namespace Vigil

variable {vigil after : Vigil} {tick : Tick}

/-- Whether a wait begins with a note. -/
def Note.opens : Note → Bool
  | opened | returned _ => true
  | _ => false

/-- Whether the loop has broken off with a note. -/
def Note.breaks : Note → Bool
  | overflowed | returned .broke => true
  | _ => false

/-- The number of resets that have begun. -/
def resets (history : List Mark) : Nat :=
  history.countP fun mark => mark.note == .begun

/--
What has gone before a reset that begins at a moment: a whole
interval without a signal, then at most signals.
-/
inductive Rested (interval : Span) : List Mark → Moment → Prop where
  /--
  The loop has begun to wait, and the next thing to happen
  was that the wait ended with its deadline.
  -/
  | intro {earlier between : List Mark} {since due : Mark} {moment : Moment}
      (opens : since.note.opens = true) (timed : due.note = .timedOut)
      (whole : since.moment.nanoseconds + interval.nanoseconds ≤ due.moment.nanoseconds)
      (passed : due.moment.nanoseconds ≤ moment.nanoseconds)
      (silent : ∀ mark ∈ earlier ++ [since, due], mark.note ≠ .signaled)
      (loud : ∀ mark ∈ between, mark.note = .signaled) :
      Rested interval (earlier ++ since :: due :: between) moment

/--
Every reset in a history has been rested for, and the
intervals before it have all passed since the loop began.
-/
def Timely (interval : Span) (pending : Bool) (origin : Moment) (history : List Mark) : Prop :=
  ∀ before mark after, history = before ++ mark :: after → mark.note = .begun →
    pending = false ∧ Rested interval before mark.moment ∧
      origin.nanoseconds + ((resets before + 1) * interval.nanoseconds : Nat) ≤
        mark.moment.nanoseconds

variable {interval : Span} {pending : Bool} {origin moment : Moment} {history : List Mark}
  {mark : Mark}

@[simp] theorem resets_append (history later : List Mark) :
    resets (history ++ later) = resets history + resets later :=
  List.countP_append

/-- What has been rested for at a moment has been so later on. -/
theorem Rested.mono {later : Moment} (rested : Rested interval history moment)
    (passed : moment.nanoseconds ≤ later.nanoseconds) : Rested interval history later := by
  -- The whole interval has passed at any later moment too.
  cases rested with
  | intro opens timed whole before silent loud =>
    exact .intro opens timed whole (Int.le_trans before passed) silent loud

/-- Signals in between do not matter. -/
theorem Rested.signal (rested : Rested interval history moment) (signaled : mark.note = .signaled) :
    Rested interval (history ++ [mark]) moment := by
  -- The signal comes after the wait has timed out, where signals are allowed.
  cases rested with
  | intro opens timed whole before silent loud =>
    rw [List.append_assoc, List.cons_append, List.cons_append]
    refine .intro opens timed whole before silent fun other among => ?_
    rcases List.mem_append.mp among with among | among
    · exact loud other among
    · rw [List.mem_singleton.mp among, signaled]

/-- A history stays timely if a reset that it goes on with is. -/
theorem Timely.append (timely : Timely interval pending origin history)
    (begins : mark.note = .begun → pending = false ∧ Rested interval history mark.moment ∧
      origin.nanoseconds + ((resets history + 1) * interval.nanoseconds : Nat) ≤
        mark.moment.nanoseconds) :
    Timely interval pending origin (history ++ [mark]) := by
  -- The reset is the last mark, or it has been there before.
  intro before other after whole begun
  rcases List.eq_nil_or_concat after with rfl | ⟨front, last, rfl⟩
  · -- The last one is timely by assumption,
    obtain ⟨rfl, same⟩ := List.append_inj' whole rfl
    cases same
    exact begins begun
  · -- and any other one has been so in the shorter history.
    rw [List.concat_eq_append, ← List.cons_append, ← List.append_assoc] at whole
    exact timely before other front (List.append_inj' whole rfl).1 begun

/--
A signal before a reset has come after the deadline of the wait, and nothing but signals after it.
-/
theorem Rested.behind_signal {before later : List Mark}
    (rested : Rested interval (before ++ mark :: later) moment) (signaled : mark.note = .signaled) :
    (∀ other ∈ later, other.note = .signaled) ∧
    ∃ earlier due between, before = earlier ++ due :: between ∧
      due.note = .timedOut ∧ ∀ other ∈ between, other.note = .signaled := by
  generalize whole : before ++ mark :: later = history at rested
  cases rested with
  | @intro earlier between since due moment opens timed _ _ silent loud =>
    have parted : before ++ mark :: later = (earlier ++ [since, due]) ++ between := by
      simpa using whole
    rcases List.append_eq_append_iff.mp parted with ⟨rest, front, back⟩ | ⟨rest, front, rfl⟩
    · cases rest with
      | nil =>
        cases back
        have rest : before = (earlier ++ [since]) ++ due :: [] := by simpa using front.symm
        exact ⟨fun other among => loud other (List.mem_cons_of_mem _ among), _, due, [], rest,
          timed, nofun⟩
      | cons first rest =>
        -- The signal would have come within the interval.
        cases back
        exact absurd signaled (silent mark (front ▸ List.mem_append_right _ List.mem_cons_self))
    · have parted : before = (earlier ++ [since]) ++ due :: rest := by simp [front]
      exact ⟨fun other among => loud other (by simp [among]), _, due, rest, parted, timed,
        fun other among => loud other (List.mem_append_left _ among)⟩

/-- Among signals no reset begins. -/
theorem resets_eq_zero (loud : ∀ other ∈ history, other.note = .signaled) : resets history = 0 :=
  List.countP_eq_zero.mpr fun other among => by simp [loud other among]

/--
After a signal at most one reset begins, and only if the wait had ended with its deadline before.
-/
theorem Timely.signaled (timely : Timely interval pending origin history) {before after : List Mark}
    (whole : history = before ++ mark :: after) (signaled : mark.note = .signaled) :
    resets after ≤ 1 ∧
    (resets after = 1 → ∃ earlier due between, before = earlier ++ due :: between ∧
      due.note = .timedOut ∧ ∀ other ∈ between, other.note = .signaled) := by
  -- Whatever begins later has been rested for, with the signal after the deadline.
  have rested (between : List Mark) (reset : Mark) (rest : List Mark)
      (parted : after = between ++ reset :: rest) (begun : reset.note = .begun) :
        Rested interval (before ++ mark :: between) reset.moment :=
    (timely (before ++ mark :: between) reset rest (by simp [whole, parted]) begun).2.1
  by_cases none : resets after = 0
  · simp [none]
  · obtain ⟨reset, among, begun⟩ := List.countP_pos_iff.mp (Nat.pos_of_ne_zero none)
    obtain ⟨between, rest, parted⟩ := List.append_of_mem among
    have begun : reset.note = .begun := by simpa using begun
    obtain ⟨loud, due⟩ := (rested _ _ _ parted begun).behind_signal signaled
    have last : resets rest = 0 := by
      apply Classical.byContradiction
      intro more
      obtain ⟨other, within, again⟩ := List.countP_pos_iff.mp (Nat.pos_of_ne_zero more)
      obtain ⟨front, back, behind⟩ := List.append_of_mem within
      have second : Rested interval (before ++ mark :: (between ++ reset :: front)) other.moment :=
        rested _ _ back (by simp [parted, behind]) (by simpa using again)
      -- The first of the two would have to be a signal.
      cases begun.symm.trans ((second.behind_signal signaled).1 reset (by simp))
    have one : resets after = 1 := by
      have first : resets (reset :: rest) = 1 := by
        simpa [resets, List.countP_cons, begun] using last
      rw [parted, resets_append, resets_eq_zero loud, first]
    exact ⟨Nat.le_of_eq one, fun _ => due⟩

/-- What has happened when the loop has got to a stage. -/
def Reached (interval : Span) (pending : Bool) (origin now : Moment)
    (history : List Mark) : Stage → Prop
  -- Since it has begun to wait there have been signals at most,
  -- and its deadline is an interval later than that.
  | .waiting member =>
    ∃ earlier since signals, history = earlier ++ since :: signals ∧ since.note.opens = true ∧
      (∀ mark ∈ signals, mark.note = .signaled) ∧ since.moment.nanoseconds ≤ now.nanoseconds ∧
      origin.nanoseconds + (resets history * interval.nanoseconds : Nat) ≤
        since.moment.nanoseconds ∧
      (member = .idle ∨ ∃ deadline, deadline? member = some deadline ∧
        since.moment.nanoseconds + interval.nanoseconds ≤ deadline.nanoseconds)
  | .due => pending = false ∧ Rested interval history now ∧
      origin.nanoseconds + ((resets history + 1) * interval.nanoseconds : Nat) ≤ now.nanoseconds
  | .resetting =>
    origin.nanoseconds + (resets history * interval.nanoseconds : Nat) ≤ now.nanoseconds
  | .ended => pending = true ∨ ∃ mark ∈ history, mark.note = .signaled
  | .broken => True

/-- What is true of a loop at every time. -/
structure Sound (pending : Bool) (origin : Moment) (vigil : Vigil) : Prop where
  /-- The signal has counted it. -/
  counted : vigil.Counted
  /-- If it waits with a signal pending, somebody is about to notify it. -/
  heard : vigil.stop.pending = true → vigil.stage.isAsleep = true → vigil.announcing ≠ 0
  /-- Until it has consumed a signal, one is pending exactly if there has been one. -/
  flag : vigil.stage ≠ .ended →
    (vigil.stop.pending = true ↔ pending = true ∨ ∃ mark ∈ vigil.history, mark.note = .signaled)
  /-- It has got where it is in the right way. -/
  reached : Reached vigil.interval pending origin vigil.now vigil.history vigil.stage
  /-- It has rested before every reset. -/
  timely : Timely vigil.interval pending origin vigil.history
  /-- It has broken off exactly if that has been noted. -/
  broken : vigil.stage = .broken ↔ ∃ mark ∈ vigil.history, mark.note.breaks = true
  /-- Whenever the clock could not express a deadline, the moment was too late for the interval. -/
  beyond : ∀ mark ∈ vigil.history, mark.note = .overflowed →
    ∃ fault, mark.moment.after vigil.interval = .error fault

/-- A loop begins like that. -/
theorem sound_new (interval : Span) (pending : Bool) (origin : Moment) :
    Sound pending origin (new interval pending origin) where
  -- Nothing has happened yet but that the loop has begun.
  counted := ⟨rfl, rfl⟩
  heard := nofun
  flag _ := by simp [new, Event.new]
  reached := ⟨[], ⟨origin, .opened⟩, [], rfl, rfl, nofun,
    Int.le_refl _, by simp [resets, new], .inl rfl⟩
  timely before mark after whole begun := by
    have among : mark ∈ (new interval pending origin).history := by simp [whole]
    cases List.mem_singleton.mp among
    cases begun
  broken := by simp [new, Note.breaks]
  beyond mark among overflowed := by
    cases List.mem_singleton.mp among
    cases overflowed

/-- Nobody is left waiting with a signal pending of which he is not going to be told. -/
theorem Sound.heard_moves (sound : Sound pending origin vigil) (moves : vigil.Moves tick after)
    (flag : after.stop.pending = true) (asleep : after.stage.isAsleep = true) :
    after.announcing ≠ 0 := by
  -- Whoever signals has still to announce it, and the loop looks before it lies down.
  cases moves with
  | passes => exact sound.heard flag asleep
  | signals => exact Nat.succ_ne_zero _
  | announces => cases (Stage.isAsleep_notified _).symm.trans asleep
  | rests | dozes => cases flag
  | _ => cases asleep

/-- A signal is pending exactly if there has been one and the loop has not ended with it. -/
theorem Sound.flag_moves (sound : Sound pending origin vigil) (moves : vigil.Moves tick after)
    (on : after.stage ≠ .ended) :
    after.stop.pending = true ↔ pending = true ∨ ∃ mark ∈ after.history, mark.note = .signaled := by
  -- Only a signal raises the flag, and only the end of the loop lowers it.
  have flag := sound.flag
  cases moves with
  | passes => exact flag on
  | signals => simp [noting, Event.raise]
  | announces =>
    rw [Event.notify_pending]
    exact flag (mt (Stage.notified_eq_iff rfl).mpr on)
  | heeds | wakes => exact absurd rfl on
  | rouses stage =>
    rw [Event.notify_pending]
    exact flag (by simp [stage])
  | waits stage | overflows stage | resets stage | breaks stage | returns stage =>
    simpa [noting] using flag (by simp [stage])
  | rests stage quiet | dozes stage quiet | expires stage _ quiet =>
    -- The loop goes on waiting only without a signal.
    simpa [noting, quiet] using flag (by simp [stage])

section Reached

variable {now later : Moment} {stage : Stage}

/-- What has happened stays so as the clock goes on. -/
theorem Reached.mono (reached : Reached interval pending origin now history stage)
    (passed : now.nanoseconds ≤ later.nanoseconds) :
    Reached interval pending origin later history stage := by
  -- Each stage speaks of moments that have passed.
  cases stage with
  | waiting member =>
    obtain ⟨earlier, since, signals, whole, opens, loud, before, paced, late⟩ := reached
    exact ⟨earlier, since, signals, whole, opens, loud, Int.le_trans before passed, paced, late⟩
  | due =>
    obtain ⟨clear, rested, paced⟩ := reached
    exact ⟨clear, rested.mono passed, Int.le_trans paced passed⟩
  | resetting => exact Int.le_trans reached passed
  | ended | broken => exact reached

/-- A signal does not change what has happened before. -/
theorem Reached.signal (reached : Reached interval pending origin now history stage)
    (signaled : mark.note = .signaled) :
    Reached interval pending origin now (history ++ [mark]) stage := by
  -- No reset begins with a signal.
  have none : resets [mark] = 0 := resets_eq_zero (by simp [signaled])
  have same : resets (history ++ [mark]) = resets history := by
    rw [resets_append, none, Nat.add_zero]
  cases stage with
  | waiting member =>
    -- The signal has come during the wait.
    obtain ⟨earlier, since, signals, rfl, opens, loud, before, paced, late⟩ := reached
    refine ⟨earlier, since,
      signals ++ [mark], by simp, opens, fun other among => ?_, before, same ▸ paced, late⟩
    rcases List.mem_append.mp among with among | among
    · exact loud other among
    · rw [List.mem_singleton.mp among, signaled]
  | due =>
    -- The wait had timed out before.
    obtain ⟨clear, rested, paced⟩ := reached
    exact ⟨clear, rested.signal signaled, same ▸ paced⟩
  | resetting =>
    rw [Reached, same]
    exact reached
  | ended => exact .inr ⟨mark, by simp, signaled⟩
  | broken => exact reached

/-- A wait that has its deadline has one that is an interval after the wait began. -/
theorem interval_le_deadline {member : Member} {deadline since : Moment}
    (awaits : deadline? member = some deadline)
    (late : member = .idle ∨ ∃ found, deadline? member = some found ∧
      since.nanoseconds + interval.nanoseconds ≤ found.nanoseconds) :
    since.nanoseconds + interval.nanoseconds ≤ deadline.nanoseconds := by
  -- A wait without a deadline has not begun.
  rcases late with rfl | ⟨found, awaited, rested⟩
  · cases awaits
  · cases awaits.symm.trans awaited
    exact rested

/-- What is true of a wait with a deadline is true of it at every point. -/
theorem Reached.waiting {member next : Member} {deadline : Moment}
    (reached : Reached interval pending origin now history (.waiting member))
    (awaits : deadline? member = some deadline) (same : deadline? next = some deadline) :
    Reached interval pending origin now history (.waiting next) := by
  -- Only the deadline matters.
  obtain ⟨earlier, since, signals, whole, opens, loud, before, paced, late⟩ := reached
  exact ⟨earlier, since, signals, whole, opens, loud, before, paced,
    .inr ⟨deadline, same, interval_le_deadline awaits late⟩⟩

/--
A wait that ends with its deadline, without a signal since the loop began, has rested for a reset.
-/
theorem Reached.timedOut {member : Member} {deadline : Moment}
    (reached : Reached interval pending origin now history (.waiting member))
    (awaits : deadline? member = some deadline) (passed : deadline.nanoseconds ≤ now.nanoseconds)
    (clear : pending = false) (silent : ∀ mark ∈ history, mark.note ≠ .signaled) :
    Reached interval pending origin now (history ++ [⟨now, .timedOut⟩]) .due := by
  -- There is no signal since the wait began, so that all of it was silent.
  obtain ⟨earlier, since, signals, rfl, opens, loud, before, paced, late⟩ := reached
  have none : signals = [] := List.eq_nil_iff_forall_not_mem.mpr fun mark among =>
    silent mark (by simp [among]) (loud mark among)
  subst none
  -- The deadline is an interval after the beginning, and it has passed.
  have whole : since.moment.nanoseconds + interval.nanoseconds ≤ now.nanoseconds :=
    Int.le_trans (interval_le_deadline awaits late) passed
  refine ⟨clear, ?_, ?_⟩
  · -- It rested from there on,
    rw [List.append_assoc]
    refine .intro opens rfl whole (Int.le_refl _) (fun mark among => ?_) (List.forall_mem_nil _)
    rw [List.append_cons] at among
    rcases List.mem_append.mp among with among | among
    · exact silent mark among
    · cases List.mem_singleton.mp among
      exact Note.noConfusion
  · -- and one more interval has passed than before.
    have same : resets [⟨now, .timedOut⟩] = 0 := rfl
    rw [resets_append, same, Nat.add_zero, Nat.succ_mul, Int.natCast_add]
    omega

/-- A notification does not change what has happened. -/
theorem Reached.notified (reached : Reached interval pending origin now history stage) :
    Reached interval pending origin now history stage.notified := by
  -- A loop that is asleep keeps its deadline.
  cases waits : stage.isAsleep with
  | false => rwa [Stage.notified_of_awake waits]
  | true =>
    obtain ⟨deadline, rfl⟩ := Stage.eq_asleep waits
    exact reached.waiting rfl rfl

end Reached

/-- A deadline that the clock can express is an interval later. -/
theorem nanoseconds_of_after {now deadline : Moment} {span : Span}
    (later : now.after span = .ok deadline) :
    deadline.nanoseconds = now.nanoseconds + span.nanoseconds := by
  -- Otherwise it is no deadline.
  unfold Moment.after at later
  simp only at later
  split at later
  · cases later
    rfl
  · cases later

/-- The loop gets on in the right way. -/
theorem Sound.reached_moves (sound : Sound pending origin vigil) (moves : vigil.Moves tick after) :
    Reached after.interval pending origin after.now after.history after.stage := by
  have reached := sound.reached
  cases moves with
  | passes span =>
    refine reached.mono ?_
    simp only
    omega
  | signals => exact reached.signal rfl
  | announces remaining => exact reached.notified
  | waits stage later =>
    rw [stage] at reached
    obtain ⟨earlier, since, signals, whole, opens, loud, before, paced, -⟩ := reached
    refine ⟨earlier, since, signals, whole, opens, loud, before, paced, .inr ⟨_, rfl, ?_⟩⟩
    rw [nanoseconds_of_after later]
    exact Int.add_le_add_right before _
  | overflows | breaks => trivial
  | rests stage | rouses stage | dozes stage =>
    rw [stage] at reached
    exact reached.waiting rfl rfl
  | expires stage passed quiet =>
    rw [stage] at reached
    -- A signal since the loop began would still be pending.
    have never : ¬ (pending = true ∨ ∃ mark ∈ vigil.history, mark.note = .signaled) :=
      fun once => by
      cases quiet.symm.trans ((sound.flag (by simp [stage])).mpr once)
    exact reached.timedOut rfl passed (Bool.eq_false_iff.mpr fun set => never (.inl set))
      fun mark among signaled => never (.inr ⟨mark, among, signaled⟩)
  | heeds stage flag | wakes stage _ flag =>
    refine ((sound.flag (by simp [stage])).mp flag).imp_right ?_
    rintro ⟨mark, among, signaled⟩
    exact ⟨mark, List.mem_append_left _ among, signaled⟩
  | resets stage =>
    rw [stage] at reached
    have one : resets [⟨vigil.now, .begun⟩] = 1 := rfl
    simp only [Reached, noting, resets_append, one]
    exact reached.2.2
  | returns stage whole =>
    rw [stage] at reached
    have none (outcome : ResetOutcome) : resets [⟨vigil.now, .returned outcome⟩] = 0 := rfl
    refine ⟨vigil.history, _, [], rfl, rfl, List.forall_mem_nil _, Int.le_refl _, ?_, .inl rfl⟩
    simp only [noting, resets_append, none]
    exact reached

/-- A reset begins only where the loop has rested. -/
theorem Sound.timely_moves (sound : Sound pending origin vigil) (moves : vigil.Moves tick after) :
    Timely after.interval pending origin after.history := by
  -- Nothing but the beginning of a reset has to be timely.
  have timely := sound.timely
  cases moves with
  | passes | announces | waits | rests | rouses | dozes => exact timely
  | signals | overflows | expires | heeds | wakes | breaks | returns => exact timely.append nofun
  | resets stage =>
    -- The stage before a reset says that the loop has rested.
    have reached := sound.reached
    rw [stage] at reached
    exact timely.append fun _ => reached

/-- The loop breaks off exactly when that is noted. -/
theorem Sound.broken_moves (sound : Sound pending origin vigil) (moves : vigil.Moves tick after) :
    after.stage = .broken ↔ ∃ mark ∈ after.history, mark.note.breaks = true := by
  -- What breaks the loop off is noted at once, and afterwards nothing happens to it.
  have broken := sound.broken
  cases moves with
  | passes => exact broken
  | signals => simpa [noting, Note.breaks] using broken
  | announces => exact (Stage.notified_eq_iff rfl).trans broken
  | waits stage | rests stage | rouses stage | dozes stage =>
    simpa [stage] using broken
  | overflows | breaks => simp [noting, Note.breaks]
  | expires stage | heeds stage | wakes stage | resets stage =>
    simpa [noting, Note.breaks, stage] using broken
  | returns stage whole =>
    simpa [noting, Note.breaks, stage, whole] using broken

/-- What the clock could not express is noted only then. -/
theorem Sound.beyond_moves (sound : Sound pending origin vigil) (moves : vigil.Moves tick after) :
    ∀ mark ∈ after.history, mark.note = .overflowed →
      ∃ fault, mark.moment.after after.interval = .error fault := by
  have beyond := sound.beyond
  -- Only the last mark may be new.
  have last {note : Note} (fits : note = .overflowed →
      ∃ fault, vigil.now.after vigil.interval = .error fault) :
      ∀ mark ∈ vigil.history ++ [⟨vigil.now, note⟩], mark.note = .overflowed →
        ∃ fault, mark.moment.after vigil.interval = .error fault := by
    intro mark among
    rcases List.mem_append.mp among with among | among
    · exact beyond mark among
    · rw [List.mem_singleton.mp among]
      exact fits
  cases moves with
  | passes | announces | waits | rests | rouses | dozes => exact beyond
  | overflows _ late => exact last fun _ => ⟨_, late⟩
  | signals | expires | heeds | wakes | resets | breaks | returns => exact last nofun

/-- A loop that is sound is sound after whatever happens. -/
theorem Sound.moves (sound : Sound pending origin vigil) (moves : vigil.Moves tick after) :
    Sound pending origin after where
  counted := sound.counted.moves moves
  heard := sound.heard_moves moves
  flag := sound.flag_moves moves
  reached := sound.reached_moves moves
  timely := sound.timely_moves moves
  broken := sound.broken_moves moves
  beyond := sound.beyond_moves moves

/-- A loop that is sound stays so. -/
theorem Sound.run (sound : Sound pending origin vigil) (ticks : List Tick) :
    Sound pending origin (vigil.run ticks) := by
  -- What cannot happen changes nothing.
  induction ticks generalizing vigil with
  | nil => exact sound
  | cons tick rest ih =>
    rw [run_cons]
    apply ih
    cases taken : vigil.step tick with
    | none => exact sound
    | some after => exact sound.moves (moves_of_step sound.counted taken)

/--
With a signal pending the loop is over, or something can get
it on without its having to wake by itself.
-/
theorem Sound.over_or_possible (sound : Sound pending origin vigil)
    (flag : vigil.stop.pending = true) : vigil.stage.isOver = true ∨
      ∃ tick after, tick ≠ .rouse ∧ vigil.concerns tick = true ∧ vigil.step tick = some after := by
  cases finished : vigil.stage.isOver with
  | true => exact .inl rfl
  | false =>
    refine .inr ?_
    have taken {tick : Tick} {after : Vigil} (moves : vigil.Moves tick after)
        (other : tick ≠ .rouse) (concerns : vigil.concerns tick = true) :
        ∃ tick after, tick ≠ .rouse ∧ vigil.concerns tick = true ∧ vigil.step tick = some after :=
      ⟨tick, after, other, concerns, moves.taken sound.counted⟩
    have reached := sound.reached
    cases stage : vigil.stage with
    | ended | broken => simp [stage, Stage.isOver] at finished
    | due => exact taken (.resets stage) nofun rfl
    | resetting =>
      have moves : vigil.Moves (.finish .succeeded) _ := .returns stage nofun
      exact taken moves nofun rfl
    | waiting member =>
      rw [stage] at reached
      obtain ⟨_, _, _, _, _, _, _, _, late⟩ := reached
      cases member with
      | idle =>
        cases later : vigil.now.after vigil.interval with
        | ok deadline => exact taken (.waits stage later) nofun rfl
        | error fault => exact taken (.overflows stage later) nofun rfl
      | arriving deadline => exact taken (.heeds stage flag) nofun rfl
      | asleep deadline =>
        -- Whoever has made the signal pending has not notified anybody yet.
        have waits : vigil.stage.isAsleep = true := by
          rw [stage]
          rfl
        exact taken (.announces (sound.heard flag waits)) nofun waits
      | roused deadline notified =>
        have moves : vigil.Moves (.look false) _ := .wakes stage nofun flag
        exact taken moves nofun rfl
      | announcing | broken => simp [deadline?] at late

/-- The clock cannot express a moment exactly if its seconds do not fit into a signed word. -/
theorem after_eq_error_iff {now : Moment} {span : Span} :
    (∃ fault, now.after span = .error fault) ↔
      greatestSigned < (now.nanoseconds + span.nanoseconds) / 1000000000 := by
  -- The bound is the one that is checked.
  unfold Moment.after
  simp only
  split <;> simp <;> omega

/--
The loop has broken off exactly if a reset broke it off, or a wait began too late for the clock.
-/
theorem Sound.broken_iff (sound : Sound pending origin vigil) :
    vigil.stage = .broken ↔ ∃ mark ∈ vigil.history, mark.note = .returned .broke ∨
      mark.note = .overflowed ∧
        greatestSigned < (mark.moment.nanoseconds + vigil.interval.nanoseconds) / 1000000000 := by
  -- Of all notes only two break the loop off.
  rw [sound.broken]
  constructor
  · rintro ⟨mark, among, breaks⟩
    refine ⟨mark, among, ?_⟩
    cases note : mark.note with
    | overflowed => exact .inr ⟨rfl, after_eq_error_iff.mp (sound.beyond mark among note)⟩
    | returned outcome => cases outcome <;> simp [note, Note.breaks] at breaks ⊢
    | _ => simp [note, Note.breaks] at breaks
  · rintro ⟨mark, among, broke | ⟨overflowed, -⟩⟩
    · exact ⟨mark, among, by rw [broke]; rfl⟩
    · exact ⟨mark, among, by rw [overflowed]; rfl⟩

/-- With a signal pending the loop gets on at most four times more, and can until it is over. -/
theorem Sound.ends_soon (sound : Sound pending origin vigil) (flag : vigil.stop.pending = true)
    (later : List Tick) :
    vigil.advances later ≤ 4 ∧
    ((vigil.run later).stage.isOver = true ∨ ∃ tick after, tick ≠ .rouse ∧
      (vigil.run later).concerns tick = true ∧ (vigil.run later).step tick = some after) := by
  -- What is left of the way to the end is four steps at most.
  obtain ⟨still, few⟩ := advances_le sound.counted (.inl flag) later
  have most := vigil.stage.left_le
  refine ⟨by omega, ?_⟩
  -- Before its end there is always a step for a loop with the signal pending.
  rcases still with pending | finished
  · exact (sound.run later).over_or_possible pending
  · exact .inl finished

/--
However a program ends that can be run, the screensaver
counts as pushed back, and no push breaks a loop off.
-/
theorem ofPush_reset (launch : Launch) (execute : Executor) (workplace : Workplace) :
    (ResetOutcome.ofPush (launch.reset execute workplace).1 = .failed ↔
        ∃ reason, launch.run execute workplace = .error reason) ∧
      ResetOutcome.ofPush (launch.reset execute workplace).1 ≠ .broke := by
  -- Only that the program cannot be run reaches the loop, and not how it ended.
  unfold Launch.reset
  cases launch.run execute workplace with
  | error reason => simp [ResetOutcome.ofPush]
  | ok ended => simp [ResetOutcome.ofPush]

/--
The watchdog's loop with any interval, whatever the clock does and whenever signals come.

Every reset begins after a whole interval without a signal since the loop began or the reset
before came back, so that as many intervals have passed as resets have begun. After a signal
at most one more begins, and only if its wait had timed out before. A reset that fails does
not end the loop, and how the program ended makes no difference to that. Once a signal is
pending the loop is over after at most four more steps, and never depends on waking by
itself. It ends by consuming a signal. It breaks off exactly if a reset breaks it off or the
clock cannot express the deadline of a wait, and it does the latter whenever it begins to
wait at such a moment. All this is what the thread of the watchdog does.
-/
theorem resets_rest_until_signaled (interval : Span) (pending : Bool) (origin : Moment)
    (ticks : List Tick) :
    let vigil := (new interval pending origin).run ticks
    Timely interval pending origin vigil.history ∧
    (∀ before mark after, vigil.history = before ++ mark :: after → mark.note = .signaled →
      resets after ≤ 1 ∧
      (resets after = 1 → ∃ earlier due between, before = earlier ++ due :: between ∧
        due.note = .timedOut ∧ ∀ other ∈ between, other.note = .signaled)) ∧
    (∀ launch execute workplace, vigil.stage = .resetting →
      let outcome := ResetOutcome.ofPush (Launch.reset launch execute workplace).1
      (outcome = .failed ↔ ∃ reason, launch.run execute workplace = .error reason) ∧
        vigil.step (.finish outcome) =
          some { vigil.noting (.returned outcome) with stage := .waiting .idle }) ∧
    (vigil.stop.pending = true → ∀ later, vigil.advances later ≤ 4 ∧
      let next := vigil.run later
      (next.stage.isOver = true ∨
        ∃ tick after, tick ≠ .rouse ∧ next.concerns tick = true ∧ next.step tick = some after)) ∧
    (vigil.stage = .ended → pending = true ∨ ∃ mark ∈ vigil.history, mark.note = .signaled) ∧
    (vigil.stage = .broken ↔ ∃ mark ∈ vigil.history, mark.note = .returned .broke ∨
      mark.note = .overflowed ∧
      greatestSigned < (mark.moment.nanoseconds + interval.nanoseconds) / 1000000000) ∧
    (vigil.stage = .waiting .idle →
      greatestSigned < (vigil.now.nanoseconds + interval.nanoseconds) / 1000000000 →
        vigil.step .wait = some { vigil.noting .overflowed with stage := .broken }) ∧
    ∀ tick after, vigil.step tick = some after → Follows vigil.watchdog after.watchdog := by
  -- All of it holds of a loop that has just begun, and is kept by whatever happens.
  intro vigil
  have sound : Sound pending origin vigil := (sound_new interval pending origin).run ticks
  have same : vigil.interval = interval :=
    interval_run (sound_new interval pending origin).counted ticks
  refine ⟨same ▸ sound.timely, fun before mark after whole => sound.timely.signaled whole, ?_, ?_,
    ?_, ?_, ?_, ?_⟩
  · -- A reset that comes back lets the loop wait again.
    intro launch execute workplace stage outcome
    obtain ⟨failed, whole⟩ := ofPush_reset launch execute workplace
    exact ⟨failed, (Moves.returns stage whole).taken sound.counted⟩
  · exact fun flag later => sound.ends_soon flag later
  · -- At the end stands a signal that has been consumed.
    intro stage
    have reached := sound.reached
    rw [stage] at reached
    exact reached
  · exact same ▸ sound.broken_iff
  · -- A wait whose deadline cannot be expressed breaks off.
    intro stage late
    obtain ⟨fault, beyond⟩ := after_eq_error_iff.mpr late
    exact (Moves.overflows stage (same ▸ beyond)).taken sound.counted
  · intro tick after taken
    exact (moves_of_step sound.counted taken).follows

/--
A reset that fails is followed by one more, which begins
although a signal comes between its deadline and it.
-/
example :
    ((new ⟨5⟩ false ⟨0⟩).run [.wait, .arrive, .pass ⟨6⟩, .rouse, .look true, .reset, .pass ⟨1⟩,
      .finish .failed, .wait, .arrive, .pass ⟨5⟩, .rouse, .look true, .signal, .announce, .reset,
      .finish .succeeded, .wait, .arrive]).history =
    [⟨⟨0⟩, .opened⟩, ⟨⟨6⟩, .timedOut⟩, ⟨⟨6⟩, .begun⟩, ⟨⟨7⟩, .returned .failed⟩, ⟨⟨12⟩, .timedOut⟩,
      ⟨⟨12⟩, .signaled⟩, ⟨⟨12⟩, .begun⟩, ⟨⟨12⟩, .returned .succeeded⟩, ⟨⟨12⟩, .stopped⟩] := by
  rfl

/--
A loop whose interval is too long for the clock is over
without a signal, and its watchdog cannot be halted.
-/
theorem too_long_ends_unsignaled :
    let interval := Span.ofSeconds 9223372036854775808
    let vigil := (new interval false ⟨1000000000⟩).run [.wait]
    let circumstances : Circumstances := ⟨⟨1000000000⟩, false⟩
    vigil.stage.isOver = true ∧
      (∀ mark ∈ vigil.history, mark.note ≠ .signaled ∧ ∀ outcome, mark.note ≠ .returned outcome) ∧
      (((Watchdog.new interval).start circumstances).2.1.halt circumstances).1 =
        .error .watchdogBroken := by
  -- Two marks are left, of the beginning and of the overflow.
  refine ⟨rfl, ?_, rfl⟩
  intro mark among
  rcases List.mem_cons.mp among with rfl | among
  · exact ⟨nofun, nofun⟩
  · cases List.mem_singleton.mp among
    exact ⟨nofun, nofun⟩

end Vigil

end Wakeful
