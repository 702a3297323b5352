import Wakeful.Inhibit.Vigil
import Wakeful.Proofs.Inhibit.Crowd
import Wakeful.Proofs.Inhibit.Thread

/-!
What the watchdog's loop can do, step by step, how its thread
looks from outside, and how soon it ends after a signal.
-/

namespace Wakeful

/-- An event for which nobody waits and no signal is pending is as good as new. -/
theorem Event.eq_new {event : Event} (quiet : event.pending = false) (asleep : event.asleep = 0)
    (notified : event.notified = 0) : event = .new := by
  -- All fields are as they are at the beginning.
  cases event
  cases quiet
  cases asleep
  cases notified
  rfl

namespace Vigil

variable {vigil after : Vigil}

/-- The signal has counted the loop exactly if it waits or has been notified. -/
structure Counted (vigil : Vigil) : Prop where
  /-- It is counted among those that wait exactly while it does. -/
  asleep : vigil.stop.asleep = vigil.stage.isAsleep.toNat
  /-- It is counted among those that have stopped waiting exactly until it looks. -/
  roused : vigil.stop.notified = vigil.stage.isRoused.toNat

/-- A loop that waits is noticed by the signal. -/
theorem Counted.noticed {member : Member} (counted : vigil.Counted)
    (waits : vigil.stage = .waiting member) : member.Noticed vigil.stop where
  -- What is counted is the loop itself.
  asleep asleep := by
    rw [counted.asleep, waits]
    simp [Stage.isAsleep, asleep]
  roused roused := by
    rw [counted.roused, waits]
    simp [Stage.isRoused, roused]

/-- The deadline of a wait, once it has one. -/
def deadline? : Member → Option Moment
  | .arriving deadline | .asleep deadline | .roused deadline _ => some deadline
  | _ => none

/-- What can happen at a time, case by case. -/
inductive Moves (vigil : Vigil) : Tick → Vigil → Prop where
  /-- The clock goes on. -/
  | passes (span : Span) :
      Moves vigil (.pass span) { vigil with now := ⟨vigil.now.nanoseconds + span.nanoseconds⟩ }
  /-- Somebody makes the signal pending. -/
  | signals : Moves vigil .signal
      { vigil.noting .signaled with stop := vigil.stop.raise, announcing := vigil.announcing + 1 }
  /-- Somebody who has done so notifies a waiter. -/
  | announces (remaining : vigil.announcing ≠ 0) : Moves vigil .announce
      { vigil with
        stop := vigil.stop.notify
        stage := vigil.stage.notified
        announcing := vigil.announcing - 1 }
  /-- The loop has a deadline. -/
  | waits {deadline : Moment} (stage : vigil.stage = .waiting .idle)
      (later : vigil.now.after vigil.interval = .ok deadline) :
      Moves vigil .wait { vigil with stage := .waiting (.arriving deadline) }
  /-- The clock cannot express the deadline. -/
  | overflows {fault : Overflow} (stage : vigil.stage = .waiting .idle)
      (beyond : vigil.now.after vigil.interval = .error fault) :
      Moves vigil .wait { vigil.noting .overflowed with stage := .broken }
  /-- The loop begins to wait. -/
  | rests {deadline : Moment} (stage : vigil.stage = .waiting (.arriving deadline))
      (quiet : vigil.stop.pending = false) :
      Moves vigil .arrive { vigil with
        stop := ⟨false, vigil.stop.asleep + 1, vigil.stop.notified⟩,
        stage := .waiting (.asleep deadline) }
  /-- The loop stops waiting by itself. -/
  | rouses {deadline : Moment} (stage : vigil.stage = .waiting (.asleep deadline)) :
      Moves vigil .rouse { vigil with
        stop := vigil.stop.notify, stage := .waiting (.roused deadline false) }
  /-- The loop looks again without finding a signal and waits on. -/
  | dozes {deadline : Moment} {notified : Bool}
      (stage : vigil.stage = .waiting (.roused deadline notified))
      (quiet : vigil.stop.pending = false) : Moves vigil (.look false) { vigil with
        stop := ⟨false, vigil.stop.asleep + 1, vigil.stop.notified - 1⟩,
        stage := .waiting (.asleep deadline) }
  /-- The deadline has come, and there is no signal. -/
  | expires {deadline : Moment} {notified : Bool}
      (stage : vigil.stage = .waiting (.roused deadline notified))
      (passed : deadline.nanoseconds ≤ vigil.now.nanoseconds) (quiet : vigil.stop.pending = false) :
        Moves vigil (.look true) { vigil.noting .timedOut with
        stop := ⟨false, vigil.stop.asleep, vigil.stop.notified - 1⟩, stage := .due }
  /-- The loop consumes a signal at once and ends. -/
  | heeds {deadline : Moment} (stage : vigil.stage = .waiting (.arriving deadline))
      (flag : vigil.stop.pending = true) :
      Moves vigil .arrive { vigil.noting .stopped with stop := .new, stage := .ended }
  /-- The loop looks again, consumes a signal even if its deadline has come, and ends. -/
  | wakes {deadline : Moment} {notified late : Bool}
      (stage : vigil.stage = .waiting (.roused deadline notified))
      (passed : late = true → deadline.nanoseconds ≤ vigil.now.nanoseconds)
      (flag : vigil.stop.pending = true) :
      Moves vigil (.look late) { vigil.noting .stopped with stop := .new, stage := .ended }
  /-- The loop begins a reset. -/
  | resets (stage : vigil.stage = .due) :
      Moves vigil .reset { vigil.noting .begun with stage := .resetting }
  /-- The reset breaks the loop off. -/
  | breaks (stage : vigil.stage = .resetting) :
      Moves vigil (.finish .broke) { vigil.noting (.returned .broke) with stage := .broken }
  /-- The loop comes back from the reset. -/
  | returns {outcome : ResetOutcome} (stage : vigil.stage = .resetting) (whole : outcome ≠ .broke) :
      Moves vigil (.finish outcome) { vigil.noting (.returned outcome) with
        stage := .waiting .idle }

variable {tick : Tick}

/-- A loop that ends as it arrives leaves nothing behind. -/
theorem Counted.arrived {deadline : Moment} (counted : vigil.Counted)
    (stage : vigil.stage = .waiting (.arriving deadline)) : vigil.stop.reset = .new := by
  -- Nobody is asleep while the loop arrives.
  obtain ⟨asleep, roused⟩ := counted
  rw [stage] at asleep roused
  exact Event.eq_new rfl asleep roused

/-- A loop that ends as it looks again leaves nothing behind. -/
theorem Counted.looked {deadline : Moment} {notified : Bool} (counted : vigil.Counted)
    (stage : vigil.stage = .waiting (.roused deadline notified)) :
    (⟨false, vigil.stop.asleep, vigil.stop.notified - 1⟩ : Event) = .new := by
  -- The loop itself was the only one notified.
  obtain ⟨asleep, roused⟩ := counted
  rw [stage] at asleep roused
  exact Event.eq_new rfl asleep (congrArg (· - 1) roused)

/-- A step of the wait is one of these cases. -/
theorem moves_of_wait {member next : Member} {stop : Event} {deeds : List Deed} {act : Act}
    (counted : vigil.Counted) (stage : vigil.stage = .waiting member)
    (asked : vigil.act? tick = some act)
    (taken : member.step 0 vigil.stop act = some (next, stop, deeds)) :
    vigil.Moves tick (vigil.afterWait (next, stop, deeds)) := by
  have moves := Member.moves_of_step (counted.noticed stage) taken
  cases tick with
  | pass | signal | announce | reset | finish => cases asked
  | wait =>
    cases asked
    cases moves with
    | waits later => exact .waits stage later
    | overflows beyond => exact .overflows stage beyond
  | arrive =>
    cases asked
    cases moves with
    | heeds pending =>
      rw [counted.arrived stage]
      exact .heeds stage pending
    | rests quiet => exact .rests stage quiet
  | rouse =>
    cases asked
    cases moves with
    | rouses => exact .rouses stage
  | look late =>
    -- Whether the deadline has come makes no difference once there is a signal.
    cases late with
    | false =>
      cases asked
      cases moves with
      | wakes pending =>
        rw [counted.looked stage]
        exact .wakes stage nofun pending
      | dozes quiet => exact .dozes stage quiet
    | true =>
      cases asked
      cases moves with
      | @wakes deadline _ _ pending =>
        have passed : deadline.nanoseconds ≤ vigil.now.nanoseconds := by
          apply Classical.byContradiction
          intro early
          simp [Member.step, early] at taken
        rw [counted.looked stage]
        exact .wakes stage (fun _ => passed) pending
      | expires passed quiet => exact .expires stage passed quiet

/-- A step of the loop is one of these cases. -/
theorem moves_of_ownStep (counted : vigil.Counted) (taken : vigil.ownStep tick = some after) :
    vigil.Moves tick after := by
  -- Where the loop stands decides what it can do.
  unfold ownStep at taken
  split at taken
  · rename_i stage
    cases taken
    exact .resets stage
  · -- A reset that breaks the thread off is the end.
    rename_i outcome stage
    by_cases broke : outcome = .broke
    · subst broke
      cases taken
      exact .breaks stage
    · rw [if_neg broke] at taken
      cases taken
      exact .returns stage broke
  · -- A wait goes on by one step.
    rename_i member stage
    obtain ⟨act, asked, taken⟩ := Option.bind_eq_some_iff.mp taken
    obtain ⟨⟨next, stop, deeds⟩, stepped, rfl⟩ := Option.map_eq_some_iff.mp taken
    exact moves_of_wait counted stage asked stepped
  · cases taken

/-- Whatever can happen is one of these cases. -/
theorem moves_of_step (counted : vigil.Counted) (taken : vigil.step tick = some after) :
    vigil.Moves tick after := by
  -- Only steps of the loop depend on where it stands.
  cases tick with
  | pass span =>
    cases taken
    exact .passes span
  | signal =>
    cases taken
    exact .signals
  | announce =>
    rw [step] at taken
    split at taken
    · cases taken
    · cases taken
      exact .announces ‹_›
  | _ => exact moves_of_ownStep counted taken

/-- Each of these cases can happen. -/
theorem Moves.taken (counted : vigil.Counted) (moves : vigil.Moves tick after) :
    vigil.step tick = some after := by
  -- For each case the step is carried out.
  cases moves with
  | passes | signals => rfl
  | announces remaining => exact if_neg remaining
  | waits stage later => simp [step, ownStep, stage, act?, Member.step, later, afterWait]
  | overflows stage beyond =>
    simp [step, ownStep, stage, act?, Member.step, beyond, afterWait, noting]
  | rests stage quiet =>
    simp [step, ownStep, stage, act?, Member.step, Member.afterLook, Event.enter, quiet, afterWait]
  | rouses stage => simp [step, ownStep, stage, act?, Member.step, afterWait]
  | dozes stage quiet =>
    have counted := (counted.noticed stage).roused rfl
    simp [step, ownStep, stage, act?, Member.step, Member.afterLook, Event.resume, counted, quiet,
      afterWait]
  | expires stage passed quiet =>
    have counted := (counted.noticed stage).roused rfl
    simp [step, ownStep, stage, act?, Member.step, Member.afterLook, Event.lastLook, counted,
      passed, quiet, afterWait]
  | heeds stage flag =>
    have cleared := counted.arrived stage
    simp [step, ownStep, stage, act?, Member.step, Member.afterLook, Event.enter, flag, afterWait,
      cleared]
  | @wakes deadline notified late stage passed flag =>
    -- It may be the last look or an earlier one.
    have told := (counted.noticed stage).roused rfl
    have cleared := counted.looked stage
    cases late with
    | false =>
      simp [step, ownStep, stage, act?, Member.step, Member.afterLook, Event.resume, told, flag,
        afterWait, cleared]
    | true =>
      simp [step, ownStep, stage, act?, Member.step, Member.afterLook, Event.lastLook, told, flag,
        afterWait, cleared, passed rfl]
  | resets stage | breaks stage => simp [step, ownStep, stage]
  | returns stage whole => simp [step, ownStep, stage, whole]

/-- What can happen is what these cases say. -/
theorem step_eq_some_iff (counted : vigil.Counted) :
    vigil.step tick = some after ↔ vigil.Moves tick after :=
  ⟨moves_of_step counted, Moves.taken counted⟩

/-- Only one that waits has got to that. -/
theorem Stage.eq_asleep {stage : Stage} (asleep : stage.isAsleep = true) :
    ∃ deadline, stage = .waiting (.asleep deadline) := by
  -- No other stage waits.
  rcases stage with member | _ | _ | _ | _
  · cases member <;> first | exact ⟨_, rfl⟩ | cases asleep
  all_goals cases asleep

/-- Nobody is notified who does not wait. -/
theorem Stage.notified_of_awake {stage : Stage} (awake : stage.isAsleep = false) :
    stage.notified = stage := by
  -- Only somebody asleep is changed by a notification.
  rcases stage with member | _ | _ | _ | _
  · cases member <;> first | rfl | cases awake
  all_goals rfl

/-- A notification is not the end of a loop. -/
theorem Stage.notified_eq_iff {stage last : Stage} (finished : last.isOver = true) :
    stage.notified = last ↔ stage = last := by
  -- Somebody asleep is roused by it, which is not the end.
  cases waits : stage.isAsleep with
  | false => rw [notified_of_awake waits]
  | true =>
    obtain ⟨deadline, rfl⟩ := eq_asleep waits
    constructor <;> rintro rfl <;> cases finished

/-- The count stays right. -/
theorem Counted.moves (counted : vigil.Counted) (moves : vigil.Moves tick after) :
    after.Counted := by
  -- The only one who can be asleep or roused is the loop itself.
  have asleep := counted.asleep
  have roused := counted.roused
  cases moves with
  | passes | signals => exact ⟨asleep, roused⟩
  | announces =>
    -- A notification counts only if the loop is asleep.
    cases waits : vigil.stage.isAsleep with
    | false =>
      rw [waits] at asleep
      have same : vigil.stop.notify = vigil.stop := Event.notify_of_nobody asleep
      constructor <;> simp only [same, Stage.notified_of_awake waits, waits, asleep, roused]
    | true =>
      obtain ⟨deadline, stage⟩ := Stage.eq_asleep waits
      have sleeper := (counted.noticed stage).asleep rfl
      rw [stage] at asleep roused
      simp only [Event.notify_of_sleeper sleeper, asleep, roused, stage]
      exact ⟨rfl, rfl⟩
  | rouses stage =>
    -- The loop is not asleep any more, and is counted as roused instead.
    have sleeper := (counted.noticed stage).asleep rfl
    rw [stage] at asleep roused
    simp only [Event.notify_of_sleeper sleeper, asleep, roused]
    exact ⟨rfl, rfl⟩
  | rests stage | dozes stage | expires stage =>
    -- It lies down, or was counted as roused until now.
    rw [stage] at asleep roused
    simp only [asleep, roused]
    exact ⟨rfl, rfl⟩
  | waits stage | overflows stage | resets stage | breaks stage | returns stage =>
    rw [stage] at asleep roused
    exact ⟨asleep, roused⟩
  -- At the end nobody is left.
  | heeds | wakes => exact ⟨rfl, rfl⟩

/-- Nobody waits who has been notified. -/
theorem Stage.isAsleep_notified (stage : Stage) : stage.notified.isAsleep = false := by
  -- Somebody asleep has been roused.
  cases waits : stage.isAsleep with
  | false => rw [notified_of_awake waits, waits]
  | true =>
    obtain ⟨deadline, rfl⟩ := eq_asleep waits
    rfl

/-- What the loop is doing, as far as its thread is seen from outside. -/
def Stage.phase : Stage → ThreadPhase
  | waiting member =>
    match deadline? member with
    | some deadline => .waiting deadline
    | none => .ready
  | due | resetting => .resetting
  | ended => .ended
  | broken => .broken

/--
The watchdog whose thread runs the loop, in which a reset counts as soon as the wait has ended.
-/
def watchdog (vigil : Vigil) : Watchdog :=
  ⟨vigil.interval, { Event.new with pending := vigil.stop.pending }, some vigil.stage.phase,
    vigil.history.countP fun mark => mark.note == .timedOut⟩

/-- What a watchdog with a thread has gone through. -/
inductive Follows (before : Watchdog) : Watchdog → Prop where
  /-- Nothing. -/
  | same : Follows before before
  /-- Somebody has sent it the signal to stop. -/
  | signal : Follows before { before with stop := before.stop.signal }
  /-- Its thread has taken a step. -/
  | thread {step : ThreadStep} {next : Watchdog} (taken : before.threadStep step = some next) :
      Follows before next

/-- A notification is not seen from outside. -/
theorem Stage.phase_notified (stage : Stage) : stage.notified.phase = stage.phase := by
  -- The thread waits all the same.
  cases waits : stage.isAsleep with
  | false => rw [notified_of_awake waits]
  | true =>
    obtain ⟨deadline, rfl⟩ := eq_asleep waits
    rfl

/-- Nothing but the end of a wait with its deadline is counted. -/
theorem watchdog_noting (vigil : Vigil) (note : Note) (other : note ≠ .timedOut) :
    (vigil.noting note).watchdog = vigil.watchdog := by
  simp [watchdog, noting, List.countP_append, other]

section Follows

variable {stop : Event} {stage : Stage} {announcing : Nat}

/-- Where the thread does the same and the flag is the same, nothing is seen from outside. -/
theorem Follows.unseen (flag : stop.pending = vigil.stop.pending)
    (phase : stage.phase = vigil.stage.phase) :
    Follows vigil.watchdog { vigil with stop, stage, announcing : Vigil }.watchdog := by
  -- Nothing else of the loop is seen.
  have same : { vigil with stop, stage, announcing : Vigil }.watchdog = vigil.watchdog := by
    simp [watchdog, flag, phase]
  rw [same]
  exact .same

/-- What is noted and does not count is seen only from what comes with it. -/
theorem Follows.noting {note : Note} (follows : Follows vigil.watchdog { vigil.watchdog with
      stop := { Event.new with pending := stop.pending },
      thread := some stage.phase }) (other : note ≠ .timedOut) :
    Follows vigil.watchdog { vigil.noting note with stop, stage, announcing : Vigil }.watchdog := by
  -- The notes that are counted tell of waits that have timed out.
  rw [← vigil.watchdog_noting note other] at follows ⊢
  exact follows

end Follows

/--
Whatever happens to the loop is a step of the watchdog's thread, a signal, or not seen from outside.
-/
theorem Moves.follows (moves : vigil.Moves tick after) : Follows vigil.watchdog after.watchdog := by
  -- What the thread has come to is what the loop has.
  have phase {stage : Stage} (here : vigil.stage = stage) :
      vigil.watchdog.thread = some stage.phase := by
    rw [← here]
    rfl
  -- A step of the thread is one that it can take there.
  have taken {step : ThreadStep} {next : Watchdog}
      (moves : Watchdog.Moves vigil.watchdog step next) : Follows vigil.watchdog next :=
        .thread (Watchdog.threadStep_eq_some_iff.mpr moves)
  cases moves with
  | passes => exact .same
  | signals => exact .noting .signal nofun
  | announces => exact .unseen (Event.notify_pending _) (Stage.phase_notified _)
  | waits stage later => exact taken (.waits (phase stage) later)
  | overflows stage beyond => exact .noting (taken (.overflows (phase stage) beyond)) nofun
  | rests stage quiet | dozes stage quiet =>
    refine .unseen quiet.symm ?_
    rw [stage]
    rfl
  | rouses stage =>
    refine .unseen (Event.notify_pending _) ?_
    rw [stage]
    rfl
  | expires stage passed quiet =>
    -- Only a wait that has timed out adds to the resets.
    have counted :
        { vigil.noting .timedOut with
          stop := { Event.new with pending := false }, stage := .due : Vigil }.watchdog =
        { vigil.watchdog with
          thread := some .resetting, resets := vigil.watchdog.resets + 1 } := by
      simp [watchdog, Vigil.noting, quiet, Stage.phase]
    exact counted ▸ taken (.expires (phase stage) quiet passed)
  | heeds stage flag | wakes stage _ flag => exact .noting (taken (.stops (phase stage) flag)) nofun
  | resets stage =>
    -- The thread is about to reset already.
    have same : { vigil.watchdog with thread := some .resetting } = vigil.watchdog := by
      simp [watchdog, stage, Stage.phase]
    have follows : Follows vigil.watchdog { vigil.watchdog with thread := some .resetting } :=
      same.symm ▸ .same
    exact .noting follows nofun
  | breaks stage => exact .noting (taken (.breaks (phase stage))) nofun
  | returns stage whole => exact .noting (taken (.returns (phase stage) whole)) nofun

/-- How many steps the loop takes at most until its end, once a signal is pending. -/
def Stage.left : Stage → Nat
  | due => 4
  | resetting => 3
  | waiting .idle | waiting (.asleep _) => 2
  | waiting _ => 1
  | ended | broken => 0

/-- There are never more than four. -/
theorem Stage.left_le (stage : Stage) : stage.left ≤ 4 := by
  -- The furthest from the end is a loop that arrives.
  rcases stage with member | _ | _ | _ | _
  · cases member <;> simp [left]
  all_goals simp [left]

/-- Whether something that happens gets the loop on. -/
def concerns (vigil : Vigil) : Tick → Bool
  | .pass _ | .signal => false
  | .announce => vigil.stage.isAsleep
  | _ => true

/--
How often the loop gets on while several things happen, of which impossible ones are passed over.
-/
def advances (vigil : Vigil) : List Tick → Nat
  | [] => 0
  | tick :: rest =>
    match vigil.step tick with
    | none => vigil.advances rest
    | some after => (vigil.concerns tick).toNat + after.advances rest

/-- A notification gets on only a loop that waits, and does not let it end. -/
theorem Stage.left_notified (stage : Stage) :
    stage.isAsleep.toNat + stage.notified.left = stage.left ∧
    stage.notified.isOver = stage.isOver := by
  -- To be roused is to be one step further on.
  cases waits : stage.isAsleep with
  | false =>
    rw [notified_of_awake waits]
    exact ⟨Nat.zero_add _, rfl⟩
  | true =>
    obtain ⟨deadline, rfl⟩ := eq_asleep waits
    exact ⟨rfl, rfl⟩

/--
With a signal pending every step of the loop brings it nearer
to its end, and nothing takes it away from there.
-/
theorem Moves.left (moves : vigil.Moves tick after)
    (flag : vigil.stop.pending = true ∨ vigil.stage.isOver = true) :
    (after.stop.pending = true ∨ after.stage.isOver = true) ∧
      (vigil.concerns tick).toNat + after.stage.left ≤ vigil.stage.left := by
  -- A loop that takes a step of its own is not over.
  have set {stage : Stage} (here : vigil.stage = stage) (on : stage.isOver = false) :
      vigil.stop.pending = true :=
    flag.resolve_right (by simp [here, on])
  cases moves with
  | passes => exact ⟨flag, Nat.le_of_eq (Nat.zero_add _)⟩
  | signals => exact ⟨.inl rfl, Nat.le_of_eq (Nat.zero_add _)⟩
  | announces =>
    obtain ⟨left, finished⟩ := Stage.left_notified vigil.stage
    rw [Event.notify_pending, finished]
    exact ⟨flag, Nat.le_of_eq left⟩
  | rouses stage =>
    rw [Event.notify_pending, stage]
    exact ⟨.inl (set stage rfl), Nat.le_refl _⟩
  | waits stage | resets stage | returns stage =>
    rw [stage]
    exact ⟨.inl (set stage rfl), Nat.le_refl _⟩
  | heeds stage | wakes stage =>
    rw [stage]
    exact ⟨.inr rfl, Nat.le_refl _⟩
  | overflows stage | breaks stage =>
    rw [stage]
    exact ⟨.inr rfl, by simp [concerns, Stage.left]⟩
  | rests stage quiet | dozes stage quiet | expires stage _ quiet =>
    cases quiet.symm.trans (set stage rfl)

/-- What cannot happen changes nothing. -/
theorem run_cons (vigil : Vigil) (tick : Tick) (rest : List Tick) :
    vigil.run (tick :: rest) = ((vigil.step tick).getD vigil).run rest := rfl

/-- The interval stays the same. -/
theorem interval_run (counted : vigil.Counted) (ticks : List Tick) :
    (vigil.run ticks).interval = vigil.interval := by
  -- The induction is over what happens, and nothing of that changes the interval.
  induction ticks generalizing vigil with
  | nil => rfl
  | cons tick rest ih =>
    rw [run_cons]
    cases taken : vigil.step tick with
    | none => exact ih counted
    | some after =>
      have moves := moves_of_step counted taken
      have same : after.interval = vigil.interval := by cases moves <;> rfl
      rw [Option.getD_some, ih (counted.moves moves), same]

/--
With a signal pending the loop gets on only a few times before
its end, and the signal stays pending until then.
-/
theorem advances_le (counted : vigil.Counted)
    (flag : vigil.stop.pending = true ∨ vigil.stage.isOver = true) (ticks : List Tick) :
    ((vigil.run ticks).stop.pending = true ∨ (vigil.run ticks).stage.isOver = true) ∧
      vigil.advances ticks + (vigil.run ticks).stage.left ≤ vigil.stage.left := by
  -- The induction is over what happens, and with the signal
  -- pending each advance leaves one step fewer.
  induction ticks generalizing vigil with
  | nil => exact ⟨flag, Nat.le_of_eq (Nat.zero_add _)⟩
  | cons tick rest ih =>
    unfold advances
    rw [run_cons]
    cases taken : vigil.step tick with
    | none => exact ih counted flag
    | some after =>
      have moves := moves_of_step counted taken
      obtain ⟨set, first⟩ := moves.left flag
      obtain ⟨still, others⟩ := ih (counted.moves moves) set
      simp only [Option.getD_some]
      refine ⟨still, ?_⟩
      omega

end Vigil

end Wakeful
