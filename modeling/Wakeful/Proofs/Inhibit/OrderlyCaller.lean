import Wakeful.Proofs.Inhibit.Orderly

/-!
The caller of an inhibitor keeps it and the threads of its
watchdog in order too, and so does any run.
-/

namespace Wakeful.Ensemble

variable {ensemble after : Ensemble}

/--
A step of the caller that concerns neither a thread nor the signal keeps the ensemble in order.
-/
theorem Orderly.moved (orderly : Orderly ensemble) (threads : after.threads = ensemble.threads)
    (stop : after.stop = ensemble.stop) (halts : after.halts = ensemble.halts)
    (current : after.current = ensemble.current) (held : after.held = ensemble.held)
    (placed : after.Placed) (heard : after.Heard) : Orderly after := by
  -- Everything else that is required speaks of the threads, the signal and the halts alone.
  constructor
  · rw [threads, stop, halts]
    exact orderly.counted
  · exact placed
  · rintro number ⟨task, found, alive⟩
    rw [threads] at found
    rw [current]
    exact orderly.single number ⟨task, found, alive⟩
  · intro number waited
    rw [current] at waited
    rw [threads]
    exact orderly.present number waited
  · intro number kept
    rw [held] at kept
    rw [halts]
    exact orderly.unhalted number kept
  · exact heard

/-- Whether the caller is neither starting a thread nor halting one. -/
def calm : CallerStage → Bool
  -- What it asks the bus for does not matter.
  | .spawning | .raising .. | .announcing .. | .joining .. => false
  | _ => true

/-- As long as the caller is calm, the thread to be waited for is the one it has a hold of. -/
theorem current_of_calm (still : calm ensemble.stage = true) :
    ensemble.current = ensemble.handle := by
  -- In a calm stage no other thread has been let go.
  unfold current held
  cases stage : ensemble.stage <;> simp only [stage, calm, Bool.false_eq_true] at still <;> rfl

/-- As long as the caller is calm, the thread to be halted is the one it has a hold of. -/
theorem held_of_calm (still : calm ensemble.stage = true) : ensemble.held = ensemble.handle := by
  -- In a calm stage no other thread has been let go.
  unfold held
  cases stage : ensemble.stage <;> simp only [stage, calm, Bool.false_eq_true] at still <;> rfl

/-- As long as the caller is calm, no signal may be pending for anybody. -/
theorem heard_of_calm (still : calm ensemble.stage = true) : ensemble.Heard ↔ ensemble.Quiet := by
  -- In a calm stage nobody is to be told.
  unfold Heard
  cases stage : ensemble.stage <;> simp only [stage, calm, Bool.false_eq_true] at still ⊢

/-- A step of a calm caller that stays calm only has to note the right state. -/
theorem Orderly.calmly (orderly : Orderly ensemble) (before : calm ensemble.stage = true)
    (still : calm after.stage = true) (threads : after.threads = ensemble.threads)
    (stop : after.stop = ensemble.stop) (halts : after.halts = ensemble.halts)
    (handle : after.handle = ensemble.handle) (placed : after.Placed) : Orderly after := by
  -- Before and after, the thread to be waited for is the one behind the same handle.
  apply orderly.moved threads stop halts
  · rw [current_of_calm still, current_of_calm before, handle]
  · rw [held_of_calm still, held_of_calm before, handle]
  · exact placed
  · rw [heard_of_calm still]
    rintro number ⟨task, found, alive⟩
    rw [threads] at found
    rw [stop]
    exact (heard_of_calm before).mp orderly.heard number ⟨task, found, alive⟩

/-- After a change the caller rests or goes on to give up the sides. -/
theorem calm_conclude (active : Bool) (answer : Except InhibitError Bool) :
    calm (ensemble.conclude active answer).stage = true := by
  -- Both stages behind a change are calm.
  unfold conclude
  cases ensemble.leaving <;> rfl

/-- The state that has been noted fits the hold of a thread at the end of a change. -/
theorem placed_conclude (handle : ensemble.handle.isSome = ensemble.core.active)
    (idle : ensemble.leaving = true → ensemble.core.active = false) (active : Bool)
    (answer : Except InhibitError Bool) : (ensemble.conclude active answer).Placed := by
  -- A caller that is leaving must have made the inhibitor inactive.
  unfold conclude Placed
  cases leaving : ensemble.leaving with
  | false => exact ⟨rfl, handle⟩
  | true =>
    refine ⟨idle leaving, ?_⟩
    rw [idle leaving] at handle
    simpa using handle

/-- The beginning of a change keeps the ensemble in order. -/
theorem Orderly.begin {before : Ensemble} (orderly : Orderly before)
    (resting : before.stage = .resting) (leaving active : Bool)
    (down : leaving = true → active = false) :
    Orderly ({ before with leaving := leaving }.begin active) := by
  -- A change to the present state is over at once, and any other waits for the bus.
  have placed := orderly.placed
  simp only [Placed, resting] at placed
  have still : calm before.stage = true := by rw [resting]; rfl
  unfold Ensemble.begin
  split
  · rename_i same
    refine orderly.calmly still (calm_conclude _ _) rfl rfl rfl rfl ?_
    refine placed_conclude ?_ ?_ _ _
    · exact placed.2
    · intro left
      exact same.trans (down left)
  · rename_i other
    have differs : before.core.active = !active := Bool.eq_not.mpr other
    refine orderly.calmly still rfl rfl rfl rfl rfl ?_
    exact ⟨down, differs, placed.2.trans differs⟩

/-- When the flag is set, the thread for which it is set is the only one that may be alive. -/
theorem Orderly.raise (orderly : Orderly ensemble) {thread : Nat} {parted : Bool}
    (stage : ensemble.stage = .raising thread parted) :
    Orderly { ensemble with
      stop := ensemble.stop.raise
      halts := ensemble.halts ++ [thread]
      stage := .announcing thread parted } := by
  -- The thread is the one that the caller waits for, and it has not been halted before.
  have placed := orderly.placed
  have waited : ensemble.current = some thread := by simp [current, held, stage]
  have fresh : thread ∉ ensemble.halts := orderly.unhalted thread (by simp [held, stage])
  simp only [Placed, stage] at placed
  constructor
  · constructor
    · -- The halt is added behind the earlier ones.
      exact orderly.counted.asleep
    · exact orderly.counted.notified
    · intro number halt ended
      have earlier := orderly.counted.signed number halt ended
      rw [List.getElem?_append_left (List.getElem?_eq_some_iff.mp earlier).1]
      exact earlier
    · -- The thread has not been halted before.
      rw [List.nodup_append]
      refine ⟨orderly.counted.once, by simp, ?_⟩
      rintro number halted last added rfl
      rw [List.mem_singleton.mp added] at halted
      exact fresh halted
    · -- All that have been halted have been started,
      intro number halted
      rcases List.mem_append.mp halted with earlier | last
      · exact orderly.counted.started number earlier
      · cases List.mem_singleton.mp last
        exact orderly.present thread waited
  · exact placed
  · -- and the thread is still the only one.
    intro number alive
    exact waited.symm.trans (orderly.single number alive)
  · -- The caller has a hold of no other one.
    intro number found
    cases found
    exact orderly.present thread waited
  · intro number found
    simp only [held, placed.2.1] at found
    cases found
  · exact ⟨by simp, fun _ => rfl⟩

/-- What an earlier thread has left pending is dropped. -/
theorem Orderly.clear (orderly : Orderly ensemble) (stage : ensemble.stage = .clearing) :
    Orderly { ensemble with stop := ensemble.stop.reset, stage := .spawning } := by
  -- With nobody alive, a signal can be dropped without being missed.
  have placed := orderly.placed
  have still : calm ensemble.stage = true := by rw [stage]; rfl
  simp only [Placed, stage] at placed
  constructor
  · exact ⟨orderly.counted.asleep, orderly.counted.notified, orderly.counted.signed,
      orderly.counted.once, orderly.counted.started⟩
  · exact placed
  · intro number alive
    exact (current_of_calm still).symm.trans (orderly.single number alive)
  · intro number waited
    exact orderly.present number ((current_of_calm still).trans waited)
  · intro number kept
    exact orderly.unhalted number ((held_of_calm still).trans kept)
  · rfl

/-- A thread that is started finds the flag clear and no other thread alive. -/
theorem Orderly.spawn (orderly : Orderly ensemble) (stage : ensemble.stage = .spawning) :
    Orderly { ensemble with
      threads := ensemble.threads ++ [.ready]
      handle := some ensemble.threads.length
      stage := .settling true } := by
  -- There is no thread for which the caller would have to wait.
  have placed := orderly.placed
  have heard := orderly.heard
  simp only [Placed, Heard, stage] at placed heard
  have counted := orderly.counted
  constructor
  · constructor
    · -- A thread that has just been started neither sleeps nor has been roused.
      simp [List.countP_append, counted.asleep, Task.isAsleep]
    · simp [List.countP_append, counted.notified, Task.isRoused]
    · -- It has not ended either.
      intro number halt ended
      rw [List.getElem?_append] at ended
      split at ended
      · exact counted.signed number halt ended
      · rw [List.getElem?_singleton] at ended
        split at ended <;> cases ended
    · exact counted.once
    · intro number halted
      have earlier := counted.started number halted
      simp only [List.length_append, List.length_singleton]
      omega
  · exact ⟨by simp [placed.1], placed.2.1, rfl⟩
  · rintro number ⟨task, found, alive⟩
    rw [List.getElem?_append] at found
    split at found
    · -- An earlier thread that is alive would be one to be waited for.
      have earlier := orderly.single number ⟨task, found, alive⟩
      simp only [current, held, stage, placed.2.2] at earlier
      cases earlier
    · rename_i beyond
      rw [List.getElem?_singleton] at found
      split at found
      · rename_i zero
        have last : number = ensemble.threads.length := by omega
        rw [last]
        rfl
      · cases found
  · intro number found
    cases found
    simp
  · -- No number has been halted that has not been given yet.
    intro number found halted
    cases found
    exact Nat.lt_irrefl _ (counted.started _ halted)
  · intro number alive
    exact heard

/-- A thread that is notified is the one that is being halted. -/
theorem Orderly.announce (orderly : Orderly ensemble) {thread sleeper : Nat} {parted : Bool}
    {deadline : Moment} (stage : ensemble.stage = .announcing thread parted)
    (found : ensemble.threads[sleeper]? = some (.asleep deadline)) :
    Orderly { ensemble with
      stop := ensemble.stop.notify
      threads := ensemble.threads.set sleeper (.roused deadline)
      stage := .joining thread parted } := by
  have placed := orderly.placed
  have heard := orderly.heard
  simp only [Placed, Heard, stage] at placed heard
  -- To rouse the sleeper is a step that it could have taken by itself.
  have moved : Task.step (.asleep deadline) ensemble.interval ensemble.halts.length ensemble.stop
      .rouse = some (.roused deadline, ensemble.stop.notify) := rfl
  have effect := orderly.effect found moved
  have living : ensemble.Alive sleeper := ⟨_, found, rfl⟩
  have same : sleeper = thread := by
    have waited := orderly.single sleeper living
    simp only [current, stage] at waited
    exact (Option.some.inj waited).symm
  subst same
  have bound : sleeper < ensemble.threads.length := (List.getElem?_eq_some_iff.mp found).1
  constructor
  · exact orderly.counted_threadStep found moved
  · exact placed
  · intro other remains
    have waited := orderly.single other (alive_of_set found rfl rfl remains)
    simp only [current, stage] at waited
    exact waited
  · intro other waited
    cases waited
    simpa using bound
  · intro other kept
    simp only [held, placed.2.1] at kept
    cases kept
  · refine ⟨heard.1, fun _ => (Event.notify_pending _).trans (heard.2 living), ?_⟩
    intro task there
    simp only [List.getElem?_set_self bound, Option.some.injEq] at there
    rw [← there]
    rfl

/-- If nobody sleeps, there is nobody to be notified. -/
theorem Orderly.announceNobody (orderly : Orderly ensemble) {thread : Nat} {parted : Bool}
    (stage : ensemble.stage = .announcing thread parted)
    (awake : ensemble.threads.any Task.isAsleep = false) :
    Orderly { ensemble with stop := ensemble.stop.notify, stage := .joining thread parted } := by
  -- If nobody sleeps, the signal has counted nobody, and to notify changes nothing.
  have placed := orderly.placed
  have heard := orderly.heard
  simp only [Placed, Heard, stage] at placed heard
  have nobody : ensemble.threads.countP Task.isAsleep = 0 := by
    rw [List.countP_eq_zero]
    exact List.any_eq_false.mp awake
  have unchanged : ensemble.stop.notify = ensemble.stop := by
    unfold Event.notify
    rw [if_pos (orderly.counted.asleep.trans nobody)]
  rw [unchanged]
  refine orderly.moved rfl rfl rfl ?_ ?_ ?_ ?_
  · simp only [current, stage]
  · simp only [held, stage]
  · exact placed
  · refine ⟨heard.1, heard.2, ?_⟩
    intro task found
    have sleeps := List.any_eq_false.mp awake task (List.mem_of_getElem? found)
    simpa using sleeps

/-- Once the thread is at its end, nobody has to be waited for. -/
theorem Orderly.join (orderly : Orderly ensemble) {thread : Nat} {parted : Bool} {task : Task}
    (stage : ensemble.stage = .joining thread parted)
    (found : ensemble.threads[thread]? = some task) (finished : task.isOver = true) :
    Orderly { ensemble with stage := if parted then .gone else .settling false } := by
  -- Only the thread that has been waited for could still be alive.
  have placed := orderly.placed
  simp only [Placed, stage] at placed
  obtain ⟨active, released, rfl⟩ := placed
  -- Whoever is alive would be the thread that is at its end.
  have nobody : ∀ number, ¬ ensemble.Alive number := by
    intro number alive
    have waited := orderly.single number alive
    simp only [current, stage, Option.some.injEq] at waited
    subst waited
    obtain ⟨last, there, living⟩ := alive
    rw [found] at there
    cases there
    rw [finished] at living
    cases living
  constructor
  · exact orderly.counted
  · exact ⟨fun _ => rfl, active, by simp [released]⟩
  · intro number alive
    exact absurd alive (nobody number)
  · intro number waited
    simp [current, held, released] at waited
  · intro number kept
    simp [held, released] at kept
  · intro number alive
    exact absurd alive (nobody number)

/-- What one step of the caller comes to, case by case. -/
inductive CallerMoves (ensemble : Ensemble) : CallerStep → Ensemble → Prop where
  /-- A change is asked for. -/
  | calls {active : Bool} (stage : ensemble.stage = .resting) :
      CallerMoves ensemble (.call active) (ensemble.begin active)
  /-- The inhibitor is given up, which begins with a stop. -/
  | leaves (stage : ensemble.stage = .resting) :
      CallerMoves ensemble .drop ({ ensemble with leaving := true }.begin false)
  /-- The bus is asked to follow a start. -/
  | starts (stage : ensemble.stage = .asking true) :
      CallerMoves ensemble .proceed { ensemble with
        core := (ensemble.core.changeBus true).1
        stage := if ensemble.handle.isSome then .settling true else .clearing }
  /-- The bus is asked to follow a stop. -/
  | stops (stage : ensemble.stage = .asking false) :
      CallerMoves ensemble .proceed
        ({ ensemble with
          core := (ensemble.core.changeBus false).1 }.release false (.settling false))
  /-- A pending signal is dropped. -/
  | clears (stage : ensemble.stage = .clearing) :
      CallerMoves ensemble .proceed { ensemble with
        stop := ensemble.stop.reset, stage := .spawning }
  /-- There is a thread. -/
  | spawns (stage : ensemble.stage = .spawning) :
      CallerMoves ensemble (.spawn true) { ensemble with
        threads := ensemble.threads ++ [.ready]
        handle := some ensemble.threads.length
        stage := .settling true }
  /-- There is no thread. -/
  | lacks (stage : ensemble.stage = .spawning) :
      CallerMoves ensemble (.spawn false) { ensemble with stage := .undoing }
  /-- The bus is asked back. -/
  | undoes (stage : ensemble.stage = .undoing) :
      CallerMoves ensemble .proceed
        ({ ensemble with core := ensemble.core.rollBackBus.1 }.conclude true
          (.error (.threadRefused .tryAgain)))
  /-- The flag is set. -/
  | raises {thread : Nat} {parted : Bool} (stage : ensemble.stage = .raising thread parted) :
      CallerMoves ensemble .proceed { ensemble with
        stop := ensemble.stop.raise
        halts := ensemble.halts ++ [thread]
        stage := .announcing thread parted }
  /-- Nobody sleeps who could be notified. -/
  | hushes {thread : Nat} {parted : Bool} (stage : ensemble.stage = .announcing thread parted)
      (awake : ensemble.threads.any Task.isAsleep = false) :
      CallerMoves ensemble (.announce none) { ensemble with
        stop := ensemble.stop.notify
        stage := .joining thread parted }
  /-- Somebody who sleeps is notified. -/
  | announces {thread sleeper : Nat} {parted : Bool} {deadline : Moment}
      (stage : ensemble.stage = .announcing thread parted)
      (found : ensemble.threads[sleeper]? = some (.asleep deadline)) :
      CallerMoves ensemble (.announce (some sleeper)) { ensemble with
        stop := ensemble.stop.notify
        threads := ensemble.threads.set sleeper (.roused deadline)
        stage := .joining thread parted }
  /-- The thread is at its end. -/
  | joins {thread : Nat} {parted : Bool} {task : Task}
      (stage : ensemble.stage = .joining thread parted)
      (found : ensemble.threads[thread]? = some task) (finished : task.isOver = true) :
        CallerMoves ensemble .proceed { ensemble with
          stage := if parted then .gone else .settling false }
  /-- The new state is noted. -/
  | settles {active : Bool} (stage : ensemble.stage = .settling active) :
      CallerMoves ensemble .proceed
        ({ ensemble with
          core := { ensemble.core with active := active } }.conclude active (.ok true))
  /-- The sides are given up. -/
  | parts (stage : ensemble.stage = .parting) :
      CallerMoves ensemble .proceed
        ({ ensemble with
          core := { ensemble.core with
            bus := ensemble.core.bus.map fun (bus : Bus) => bus.drop.1 } }.release true .gone)

/-- The caller takes no other steps than these. -/
theorem callerStep_moves {step : CallerStep} (taken : ensemble.callerStep step = some after) :
    CallerMoves ensemble step after := by
  -- The cases are those of the step, and an announcement and a join have conditions of their own.
  unfold callerStep at taken
  split at taken
  case h_10 thread parted stage =>
    split at taken
    · cases taken
    · rename_i awake
      cases taken
      exact .hushes stage (by simpa using awake)
  case h_11 thread parted sleeper stage =>
    split at taken
    · rename_i deadline found
      cases taken
      exact .announces stage found
    · cases taken
  case h_12 thread parted stage =>
    split at taken
    · rename_i task found
      split at taken
      · rename_i finished
        cases taken
        exact .joins stage found finished
      · cases taken
    · cases taken
  case h_15 => cases taken
  all_goals cases taken
  case h_1 active stage => exact .calls stage
  case h_2 stage => exact .leaves stage
  case h_3 stage => exact .starts stage
  case h_4 stage => exact .stops stage
  case h_5 stage => exact .clears stage
  case h_6 stage => exact .spawns stage
  case h_7 stage => exact .lacks stage
  case h_8 stage => exact .undoes stage
  case h_9 thread parted stage => exact .raises stage
  case h_13 active stage => exact .settles stage
  case h_14 stage => exact .parts stage

/-- A step of the caller keeps the ensemble in order. -/
theorem Orderly.callerStep (orderly : Orderly ensemble) {step : CallerStep}
    (moves : CallerMoves ensemble step after) : Orderly after := by
  -- The stages in which a thread is started or halted have lemmas of their own.
  have placed := orderly.placed
  cases moves with
  | @calls active stage =>
    -- A caller that rests is not leaving.
    simp only [Placed, stage] at placed
    exact orderly.begin stage ensemble.leaving active (by simp [placed.1])
  | leaves stage => exact orderly.begin stage true false (fun _ => rfl)
  | starts stage =>
    -- There is no thread yet, so that the signal is to be cleared.
    simp only [Placed, stage] at placed
    have absent : ensemble.handle = none := by simpa using placed.2.2
    have still : calm ensemble.stage = true := by rw [stage]; rfl
    have stays : ensemble.leaving = false := by simpa using placed.1
    simp only [absent, Option.isSome_none, Bool.false_eq_true, if_false]
    refine orderly.calmly still rfl rfl rfl rfl absent.symm ?_
    exact ⟨stays, by simp [placed.2.1], rfl⟩
  | stops stage =>
    -- The hold of the thread is given up, but the thread is still to be halted.
    simp only [Placed, stage] at placed
    have still : calm ensemble.stage = true := by rw [stage]; rfl
    obtain ⟨thread, present⟩ : ∃ thread, ensemble.handle = some thread :=
      Option.isSome_iff_exists.mp (by simpa using placed.2.2)
    simp only [release, present]
    refine orderly.moved rfl rfl rfl ?_ ?_ ?_ ?_
    · rw [current_of_calm still]
      exact present.symm
    · rw [held_of_calm still]
      exact present.symm
    · exact ⟨by simp [placed.2.1], rfl, rfl⟩
    · exact (heard_of_calm still).mp orderly.heard
  | clears stage => exact orderly.clear stage
  | spawns stage => exact orderly.spawn stage
  | lacks stage =>
    -- The flag is still clear, and nobody has been started.
    have heard := orderly.heard
    simp only [Placed, Heard, stage] at placed heard
    refine orderly.moved rfl rfl rfl ?_ ?_ placed (fun _ _ => heard)
    · simp only [current, held, stage]
    · simp only [held, stage]
  | undoes stage =>
    -- The inhibitor has stayed inactive and has no hold of a thread.
    simp only [Placed, stage] at placed
    have still : calm ensemble.stage = true := by rw [stage]; rfl
    refine orderly.calmly still (calm_conclude _ _) rfl rfl rfl rfl ?_
    refine placed_conclude ?_ ?_ _ _
    · simp [placed.2.1, placed.2.2]
    · simp [placed.1]
  | raises stage => exact orderly.raise stage
  | hushes stage awake => exact orderly.announceNobody stage awake
  | announces stage found => exact orderly.announce stage found
  | joins stage found finished => exact orderly.join stage found finished
  | settles stage =>
    -- The hold of a thread has changed before, and the noted state follows it.
    simp only [Placed, stage] at placed
    have still : calm ensemble.stage = true := by rw [stage]; rfl
    refine orderly.calmly still (calm_conclude _ _) rfl rfl rfl rfl ?_
    refine placed_conclude ?_ ?_ _ _
    · exact placed.2.2
    · exact placed.1
  | parts stage =>
    -- The thread has been halted by the stop, so that the watchdog has none to halt.
    simp only [Placed, stage] at placed
    have still : calm ensemble.stage = true := by rw [stage]; rfl
    simp only [release, placed.2]
    exact orderly.calmly still rfl rfl rfl rfl placed.2.symm ⟨placed.1, rfl⟩

theorem run_cons (ensemble : Ensemble) (step : EnsembleStep) (rest : List EnsembleStep) :
    ensemble.run (step :: rest) = ((ensemble.step step).getD ensemble).run rest := rfl

/-- What every step that can be taken preserves, any number of steps preserve. -/
theorem run_induction (property : Ensemble → Prop)
    (single : ∀ before after step, before.step step = some after → property before → property after)
    (steps : List EnsembleStep) (holds : property ensemble) : property (ensemble.run steps) := by
  -- A step that cannot be taken changes nothing.
  induction steps generalizing ensemble with
  | nil => exact holds
  | cons step rest ih =>
    rw [run_cons]
    apply ih
    cases taken : ensemble.step step with
    | none => exact holds
    | some after => exact single _ _ _ taken holds

/-- Every step keeps the ensemble in order. -/
theorem Orderly.step (orderly : Orderly ensemble) {step : EnsembleStep}
    (taken : ensemble.step step = some after) : Orderly after := by
  -- A step is one of the caller or of a thread.
  cases step with
  | caller step => exact orderly.callerStep (callerStep_moves taken)
  | thread number step => exact orderly.threadStep taken

/-- An ensemble is in order after any number of steps in any order. -/
theorem Orderly.run (orderly : Orderly ensemble) (steps : List EnsembleStep) :
    Orderly (ensemble.run steps) :=
  run_induction Orderly (fun _ _ _ taken before => before.step taken) steps orderly

/-- What every step from an ensemble in order preserves, any number of steps from one preserve. -/
theorem Orderly.run_induction (orderly : Orderly ensemble) (property : Ensemble → Prop)
    (single : ∀ before after step,
      Orderly before → before.step step = some after → property before → property after)
    (steps : List EnsembleStep) (holds : property ensemble) : property (ensemble.run steps) := by
  -- The order is carried along, so that every step finds it.
  have both : Orderly (ensemble.run steps) ∧ property (ensemble.run steps) := by
    refine Ensemble.run_induction (fun after => Orderly after ∧ property after) ?_ steps
      ⟨orderly, holds⟩
    rintro before after step taken ⟨inOrder, kept⟩
    exact ⟨inOrder.step taken, single before after step inOrder taken kept⟩
  exact both.2

end Wakeful.Ensemble
