import Wakeful.Proofs.Inhibit.Event

/-!
Threads that share an event get each signal once, whatever the order of
their steps, and none is left waiting for one that is pending.
-/

namespace Wakeful

namespace Deed

variable {deeds first between rest : List Deed} {flag after : Bool} {deed other : Deed}

/-- Whether a signal has been made pending. -/
def isSignal : Deed → Bool
  | signal _ => true
  | _ => false

/-- Whether a wait has ended with a signal. -/
def isSignaled : Deed → Bool
  | wait _ outcome => outcome == .signaled
  | _ => false

/--
What a deed makes of a flag that is set by signals and
cleared by resets and by waits that find it set.
-/
def mark (flag : Bool) : Deed → Option Bool
  -- A wait ends with a signal if the flag is set, and with its deadline only if it is not.
  | signal _ => some true
  | reset _ => some false
  | wait _ .signaled => if flag then some false else none
  | wait _ .timedOut => if flag then none else some false

/-- A wait that ends with a signal has found the flag set and leaves it clear. -/
theorem mark_of_isSignaled (signaled : deed.isSignaled = true)
    (marked : deed.mark flag = some after) : flag = true ∧ after = false := by
  -- A clear flag ends no wait with a signal.
  rcases deed with _ | _ | ⟨_, _ | _⟩ <;> cases signaled
  cases flag <;> cases marked
  exact ⟨rfl, rfl⟩

/-- Without a signal a flag that is clear stays clear. -/
theorem mark_of_not_isSignal (silent : deed.isSignal = false)
    (marked : deed.mark false = some after) : after = false := by
  rcases deed with _ | _ | ⟨_, _ | _⟩ <;> cases silent <;> cases marked <;> rfl

/-- A wait that ends with a signal uses up what a signal has made the flag worth. -/
theorem mark_balance (marked : deed.mark flag = some after) :
    (if deed.isSignaled then 1 else 0) + after.toNat ≤
      (if deed.isSignal then 1 else 0) + flag.toNat := by
  -- Of all deeds only a signal sets the flag, and only its consumption needs it set.
  rcases deed with _ | _ | ⟨_, _ | _⟩ <;> cases flag <;> cases marked <;>
    simp [isSignaled, isSignal]

/-- In a sound history no more waits end with a signal than signals have been made pending. -/
theorem countP_isSignaled_le (history : deeds.foldlM mark flag = some after) :
    deeds.countP isSignaled + after.toNat ≤ deeds.countP isSignal + flag.toNat := by
  -- The induction is over the history, whose deeds add up.
  induction deeds generalizing flag with
  | nil =>
    cases history
    exact Nat.le_refl _
  | cons deed deeds ih =>
    rw [List.foldlM_cons] at history
    obtain ⟨between, marked, onward⟩ := Option.bind_eq_some_iff.mp history
    have first := mark_balance marked
    have rest := ih onward
    rw [List.countP_cons, List.countP_cons]
    omega

/-- Without a signal a sound history leaves a clear flag clear. -/
theorem clear_of_no_signal (silent : ∀ deed ∈ deeds, deed.isSignal = false)
    (history : deeds.foldlM mark false = some after) : after = false := by
  -- The induction is over the deeds, none of which sets the flag.
  induction deeds with
  | nil =>
    cases history
    rfl
  | cons deed deeds ih =>
    rw [List.foldlM_cons] at history
    obtain ⟨between, marked, onward⟩ := Option.bind_eq_some_iff.mp history
    have clear := mark_of_not_isSignal (silent deed (by simp)) marked
    subst clear
    exact ih (fun later among => silent later (by simp [among])) onward

/-- In a sound history there is a signal between two waits that end with one. -/
theorem exists_signal_between
    (history : (first ++ deed :: between ++ other :: rest).foldlM mark flag = some after)
    (signaled : deed.isSignaled = true) (again : other.isSignaled = true) :
    ∃ signal ∈ between, signal.isSignal = true := by
  -- The first of the two clears the flag, and the second one finds it set.
  rw [List.foldlM_append, List.foldlM_append] at history
  obtain ⟨found, reached, onward⟩ := Option.bind_eq_some_iff.mp history
  obtain ⟨start, -, reached⟩ := Option.bind_eq_some_iff.mp reached
  rw [List.foldlM_cons] at reached onward
  obtain ⟨cleared, marked, reached⟩ := Option.bind_eq_some_iff.mp reached
  obtain ⟨last, remarked, -⟩ := Option.bind_eq_some_iff.mp onward
  obtain ⟨-, rfl⟩ := mark_of_isSignaled signaled marked
  obtain ⟨rfl, -⟩ := mark_of_isSignaled again remarked
  apply Classical.byContradiction
  intro none
  have silent : ∀ deed ∈ between, deed.isSignal = false := by
    intro deed among
    cases holds : deed.isSignal with
    | false => rfl
    | true => exact absurd ⟨deed, among, holds⟩ none
  cases clear_of_no_signal silent reached

end Deed

namespace Member

variable {member next : Member} {number : Nat} {event after : Event} {act : Act} {deeds : List Deed}

/-- The event has counted a thread if it waits or has stopped waiting. -/
structure Noticed (member : Member) (event : Event) : Prop where
  /-- A waiter is one of those that wait. -/
  asleep : member.isAsleep = true → event.asleep ≠ 0
  /-- A thread that has stopped waiting is one of those that have. -/
  roused : member.isRoused = true → event.notified ≠ 0

/-- What one step of a thread that concerns no other one comes to, case by case. -/
inductive Moves (number : Nat) (event : Event) :
    Member → Act → Member → Event → List Deed → Prop where
  /-- It makes a signal pending. -/
  | signals : Moves number event .idle .signal .announcing event.raise [.signal number]
  /-- It drops a pending signal. -/
  | resets : Moves number event .idle .reset .idle event.reset [.reset number]
  /-- It has a deadline. -/
  | waits {now deadline : Moment} {timeout : Span} (later : now.after timeout = .ok deadline) :
      Moves number event .idle (.wait now timeout) (.arriving deadline) event []
  /-- The clock cannot express its deadline. -/
  | overflows {now : Moment} {timeout : Span} {fault : Overflow}
      (beyond : now.after timeout = .error fault) :
        Moves number event .idle (.wait now timeout) .broken event []
  /-- It consumes a signal at once. -/
  | heeds {deadline : Moment} (pending : event.pending = true) :
      Moves number event (.arriving deadline) .arrive .idle event.reset [.wait number .signaled]
  /-- It begins to wait. -/
  | rests {deadline : Moment} (quiet : event.pending = false) :
      Moves number event (.arriving deadline) .arrive (.asleep deadline)
        ⟨false, event.asleep + 1, event.notified⟩ []
  /-- It stops waiting by itself. -/
  | rouses {deadline : Moment} :
      Moves number event (.asleep deadline) .rouse (.roused deadline false) event.notify []
  /-- It looks again and consumes a signal, even if its deadline has come. -/
  | wakes {deadline : Moment} {notified : Bool} {late : Option Moment}
      (pending : event.pending = true) :
        Moves number event (.roused deadline notified) (.look late) .idle
        ⟨false, event.asleep, event.notified - 1⟩ [.wait number .signaled]
  /-- It looks again without finding a signal and waits on. -/
  | dozes {deadline : Moment} {notified : Bool} (quiet : event.pending = false) :
      Moves number event (.roused deadline notified) (.look none) (.asleep deadline)
        ⟨false, event.asleep + 1, event.notified - 1⟩ []
  /-- Its deadline has come, and there is no signal. -/
  | expires {deadline now : Moment} {notified : Bool}
      (passed : deadline.nanoseconds ≤ now.nanoseconds) (quiet : event.pending = false) :
      Moves number event (.roused deadline notified) (.look (some now)) .idle
        ⟨false, event.asleep, event.notified - 1⟩ [.wait number .timedOut]

/-- Every step of a thread that the event has counted is one of these cases. -/
theorem moves_of_step (noticed : Noticed member event)
    (taken : member.step number event act = some (next, after, deeds)) :
    Moves number event member act next after deeds := by
  -- What a thread can do depends on where it stands.
  unfold step at taken
  split at taken
  · cases taken
    exact .signals
  · cases taken
    exact .resets
  · -- A wait begins if the clock can express its deadline.
    rename_i now timeout
    cases later : now.after timeout with
    | ok deadline =>
      rw [later] at taken
      cases taken
      exact .waits later
    | error fault =>
      rw [later] at taken
      cases taken
      exact .overflows later
  · -- On its arrival a thread looks at the flag before it lies down.
    rename_i deadline
    cases flag : event.pending with
    | true =>
      simp only [Event.enter, flag, if_true, afterLook] at taken
      cases taken
      exact .heeds flag
    | false =>
      simp only [Event.enter, flag, Bool.false_eq_true, if_false, afterLook] at taken
      cases taken
      exact .rests flag
  · cases taken
    exact .rouses
  · -- Without the count nobody would look again.
    have counted := noticed.roused rfl
    cases flag : event.pending with
    | true =>
      simp only [Event.resume, counted, flag, if_true, if_false, afterLook] at taken
      cases taken
      exact .wakes flag
    | false =>
      simp only [Event.resume, counted, flag, Bool.false_eq_true, if_false, afterLook] at taken
      cases taken
      exact .dozes flag
  · -- At the last look the deadline has to have passed.
    have counted := noticed.roused rfl
    split at taken
    · rename_i passed
      cases flag : event.pending with
      | true =>
        simp only [Event.lastLook, counted, flag, if_true, if_false, afterLook] at taken
        cases taken
        exact .wakes flag
      | false =>
        simp only [Event.lastLook, counted, flag, Bool.false_eq_true, if_false, afterLook] at taken
        cases taken
        exact .expires passed flag
    · cases taken
  · cases taken

/-- What a step of a thread has made of it, of the event and of the history. -/
structure Effect (number : Nat) (event : Event) (member next : Member) (after : Event)
    (deeds : List Deed) : Prop where
  /-- It is counted among the waiters exactly while it waits. -/
  asleep : after.asleep + member.isAsleep.toNat = event.asleep + next.isAsleep.toNat
  /-- It is counted among those that have stopped waiting exactly until it looks. -/
  roused : after.notified + member.isRoused.toNat = event.notified + next.isRoused.toNat
  /-- It has done one thing to the flag or learned one thing from it, or nothing. -/
  own : deeds = [] ∨ deeds = [.signal number] ∨ deeds = [.reset number] ∨
  ∃ outcome, deeds = [.wait number outcome]
  /-- The flag has become what the history says. -/
  marked : deeds.foldlM Deed.mark event.pending = some after.pending
  /--
  With a signal pending it is about to notify a waiter, or it
  was not the one to bring that signal to anybody.
  -/
  heard : after.pending = true →
    next.isBusy = true ∨ event.pending = true ∧ member.isBusy = false ∧ next.isAsleep = false

/-- Every step of a thread that the event has counted has such an effect. -/
theorem Moves.effect (noticed : Noticed member event)
    (moves : Moves number event member act next after deeds) :
    Effect number event member next after deeds := by
  -- Each case is a change of the flag, of the counts and of the thread alone.
  cases moves with
  | signals | resets | waits later | overflows beyond =>
    constructor <;> simp [isAsleep, isRoused, isBusy, Event.raise, Event.reset, Deed.mark]
  | heeds pending => constructor <;> simp [isAsleep, isRoused, Event.reset, Deed.mark, pending]
  | rests quiet => constructor <;> simp [isAsleep, isRoused, quiet]
  | rouses =>
    -- Waking by itself is counted like a notification.
    rw [Event.notify_of_sleeper (noticed.asleep rfl)]
    have counted := noticed.asleep rfl
    constructor <;> simp [isAsleep, isRoused, isBusy]
    omega
  | wakes pending =>
    -- One that has been roused is counted no more once it has looked.
    have counted := noticed.roused rfl
    constructor <;> simp [isAsleep, isRoused, Deed.mark, pending]
    omega
  | dozes quiet =>
    have counted := noticed.roused rfl
    constructor <;> simp [isAsleep, isRoused, quiet]
    omega
  | expires passed quiet =>
    have counted := noticed.roused rfl
    constructor <;> simp [isAsleep, isRoused, Deed.mark, quiet]
    omega

end Member

namespace Crowd

variable {crowd after : Crowd} {number : Nat} {act : Act} {sleeper : Option Nat}

/-- What is true of threads that share an event between any two steps. -/
structure Sound (crowd : Crowd) : Prop where
  /-- Every waiter is counted. -/
  asleep : crowd.event.asleep = crowd.members.countP Member.isAsleep
  /-- Every thread that has stopped waiting is counted. -/
  roused : crowd.event.notified = crowd.members.countP Member.isRoused
  /-- The flag is what the history says. -/
  history : crowd.deeds.foldlM Deed.mark false = some crowd.event.pending
  /--
  If somebody waits with a signal pending, somebody else is about to notify or has been notified.
  -/
  heard : crowd.event.pending = true → crowd.members.any Member.isAsleep = true →
    crowd.members.any Member.isBusy = true

/-- Nothing is wrong before the first step. -/
theorem Sound.new (size : Nat) : Sound (Crowd.new size) := by
  -- All threads are idle.
  constructor <;>
    simp [Crowd.new, Event.new, List.countP_replicate, Member.isAsleep, Member.isRoused]

/-- The event has counted each thread. -/
theorem Sound.noticed (sound : Sound crowd) {member : Member}
    (found : crowd.members[number]? = some member) : member.Noticed crowd.event := by
  -- A thread that is asleep or roused is one of those that are counted.
  constructor
  · intro sleeps
    rw [sound.asleep]
    exact countP_ne_zero found sleeps
  · intro rouses
    rw [sound.roused]
    exact countP_ne_zero found rouses

/--
Somebody among several threads is of a kind exactly if the number of those that are is positive.
-/
theorem any_iff_countP_pos {members : List Member} {kind : Member → Bool} :
    members.any kind = true ↔ 0 < members.countP kind := by
  rw [List.any_eq_true, List.countP_pos_iff]

/-- A step that concerns one thread alone leaves everything sound. -/
theorem Sound.alone (sound : Sound crowd) {member next : Member} {event : Event} {deeds : List Deed}
    (found : crowd.members[number]? = some member)
    (effect : member.Effect number crowd.event next event deeds) :
    Sound ⟨event, crowd.members.set number next, crowd.deeds ++ deeds⟩ := by
  -- The counts of the event and of the threads change together.
  have sleepers := countP_set_add found next Member.isAsleep
  constructor
  · have counted := sound.asleep
    have changed := effect.asleep
    simp only
    omega
  · have counts := countP_set_add found next Member.isRoused
    have counted := sound.roused
    have changed := effect.roused
    simp only
    omega
  · rw [List.foldlM_append, sound.history]
    exact effect.marked
  · intro pending waits
    have still : 0 < (crowd.members.set number next).countP Member.isAsleep :=
      any_iff_countP_pos.mp waits
    have others := countP_set_add found next Member.isBusy
    show (crowd.members.set number next).any Member.isBusy = true
    rcases effect.heard pending with busy | ⟨before, free, awake⟩
    · -- The thread itself brings the signal to somebody.
      exact List.any_eq_true.mpr ⟨next,
        List.mem_set (List.getElem?_eq_some_iff.mp found).1 next, busy⟩
    · -- Whoever was to bring it to somebody was another thread, and still is.
      rw [awake, Bool.toNat_false] at sleepers
      rw [free, Bool.toNat_false] at others
      have already := any_iff_countP_pos.mp (sound.heard before (any_iff_countP_pos.mpr (by omega)))
      exact any_iff_countP_pos.mpr (by omega)

/-- Who notifies has made a signal pending, and notifies nobody or somebody who waits. -/
theorem announce_cases (taken : crowd.announce number sleeper = some after) :
    crowd.members[number]? = some .announcing ∧
      (crowd.members.any Member.isAsleep = false ∧
          after = ⟨crowd.event.notify, crowd.members.set number .idle, crowd.deeds⟩ ∨
        ∃ other deadline, crowd.members[other]? = some (.asleep deadline) ∧
          after = ⟨crowd.event.notify,
            (crowd.members.set number .idle).set other (.roused deadline true), crowd.deeds⟩) := by
  -- Somebody is told if there is anybody to be told.
  unfold announce at taken
  split at taken
  · -- Nobody may be chosen only if nobody waits,
    rename_i announcing
    split at taken
    · cases taken
    · rename_i nobody
      cases taken
      exact ⟨announcing, .inl ⟨Bool.eq_false_iff.mpr nobody, rfl⟩⟩
  · -- and only somebody who waits may be chosen.
    rename_i other announcing
    split at taken
    · rename_i deadline waits
      cases taken
      exact ⟨announcing, .inr ⟨other, deadline, waits, rfl⟩⟩
    · cases taken
  · cases taken

/-- A notification leaves everything sound. -/
theorem Sound.announce (sound : Sound crowd) (taken : crowd.announce number sleeper = some after) :
    Sound after := by
  -- The two cases differ in whether somebody waits.
  obtain ⟨announcing, ⟨nobody, rfl⟩ | ⟨other, deadline, waits, rfl⟩⟩ := announce_cases taken
  · -- Without a waiter nothing has to be heard.
    have none : ¬ 0 < crowd.members.countP Member.isAsleep := by
      rw [← any_iff_countP_pos, nobody]
      decide
    have zero : crowd.event.asleep = 0 := by
      rw [sound.asleep]
      omega
    have sleepers := countP_set_add announcing .idle Member.isAsleep
    have roused := countP_set_add announcing .idle Member.isRoused
    simp only [Member.isAsleep, Member.isRoused, Bool.toNat_false, Nat.add_zero] at sleepers roused
    rw [Event.notify_of_nobody zero]
    refine ⟨sound.asleep.trans sleepers.symm, sound.roused.trans roused.symm, sound.history, ?_⟩
    intro _ waits
    rw [any_iff_countP_pos] at waits
    exact absurd (sleepers ▸ waits) none
  · -- The waiter has been notified.
    have apart : number ≠ other := by
      rintro rfl
      cases announcing.symm.trans waits
    have still : (crowd.members.set number .idle)[other]? = some (.asleep deadline) := by
      rw [List.getElem?_set_ne apart]
      exact waits
    have counted := (sound.noticed waits).asleep rfl
    rw [Event.notify_of_sleeper counted]
    constructor
    · have first := countP_set_add announcing .idle Member.isAsleep
      have second := countP_set_add still (.roused deadline true) Member.isAsleep
      have total := sound.asleep
      simp only [Member.isAsleep, Bool.toNat_false, Bool.toNat_true] at first second ⊢
      omega
    · have first := countP_set_add announcing .idle Member.isRoused
      have second := countP_set_add still (.roused deadline true) Member.isRoused
      have total := sound.roused
      simp only [Member.isRoused, Bool.toNat_false, Bool.toNat_true] at first second ⊢
      omega
    · exact sound.history
    · intro _ _
      exact List.any_eq_true.mpr ⟨_, List.mem_set (List.getElem?_eq_some_iff.mp still).1 _, rfl⟩

/-- A step is a notification, or concerns one thread alone. -/
theorem Sound.step_cases (sound : Sound crowd) (taken : crowd.step number act = some after) :
    (∃ sleeper, crowd.announce number sleeper = some after) ∨
      ∃ member next event deeds, crowd.members[number]? = some member ∧
        member.Effect number crowd.event next event deeds ∧
        after = ⟨event, crowd.members.set number next, crowd.deeds ++ deeds⟩ := by
  -- The effect of a step on the counts presupposes that the thread has been counted.
  unfold step at taken
  split at taken
  · rename_i sleeper
    exact .inl ⟨sleeper, taken⟩
  · split at taken
    · cases taken
    · rename_i member found
      obtain ⟨⟨next, event, deeds⟩, moved, rfl⟩ := Option.map_eq_some_iff.mp taken
      have noticed := sound.noticed found
      exact .inr ⟨member, next, event, deeds, found,
        (Member.moves_of_step noticed moved).effect noticed, rfl⟩

/-- Every step leaves everything sound. -/
theorem Sound.step (sound : Sound crowd) (taken : crowd.step number act = some after) :
    Sound after := by
  -- A notification concerns two threads, and any other step one.
  obtain ⟨sleeper, announced⟩ | ⟨member, next, event, deeds, found, effect, rfl⟩ :=
    sound.step_cases taken
  · exact sound.announce announced
  · exact sound.alone found effect

/-- Any number of steps leave everything sound. -/
theorem Sound.run (sound : Sound crowd) (steps : List (Nat × Act)) : Sound (crowd.run steps) := by
  -- A step that cannot be taken changes nothing.
  induction steps generalizing crowd with
  | nil => exact sound
  | cons step steps ih =>
    show Sound (((crowd.step step.1 step.2).getD crowd).run steps)
    apply ih
    cases taken : crowd.step step.1 step.2 with
    | none => exact sound
    | some after => exact sound.step taken

/-- A wait during which no other thread gets on ends as one during which nothing else happens. -/
theorem run_wait (idle : crowd.members[number]? = some .idle) {now later : Moment} {timeout : Span}
    (passed : ∀ deadline,
      now.after timeout = .ok deadline → deadline.nanoseconds ≤ later.nanoseconds) :
    let after := crowd.run
      [(number, .wait now timeout), (number, .arrive), (number, .rouse),
        (number, .look (some later))]
    after.event = (crowd.event.waitAlone now timeout).2 ∧
      after.deeds = crowd.deeds ++ match (crowd.event.waitAlone now timeout).1 with
        | .ok outcome => [.wait number outcome]
        | .error _ => [] := by
  obtain ⟨⟨pending, asleep, notified⟩, members, deeds⟩ := crowd
  have bound : number < members.length := (List.getElem?_eq_some_iff.mp idle).1
  have there (member : Member) : (members.set number member)[number]? = some member :=
    List.getElem?_set_self bound
  cases ends : now.after timeout with
  | error fault => simp [run, step, idle, there, Member.step, Event.waitAlone, ends]
  | ok deadline =>
    cases pending with
    | true =>
      simp [run, step, idle, there, Member.step, Member.afterLook, Event.enter,
        Event.waitAlone, ends]
    | false =>
      -- It waits, its deadline comes, and the counts are those from before.
      simp [run, step, idle, there, Member.step, Member.afterLook, Event.enter, Event.notify,
        Event.lastLook, Event.waitAlone, ends, passed deadline ends]

/-- What a step adds to the history says what it has made of the flag. -/
theorem Sound.step_deeds (sound : Sound crowd) (taken : crowd.step number act = some after) :
    ∃ deeds, after.deeds = crowd.deeds ++ deeds ∧ deeds.length ≤ 1 ∧
      (∀ member, .wait member .timedOut ∈ deeds →
        crowd.event.pending = false ∧ after.event.pending = false) ∧
      (∀ member, .wait member .signaled ∈ deeds →
        crowd.event.pending = true ∧ after.event.pending = false) ∧
      (crowd.event.pending = true → after.event.pending = false →
        deeds = [.wait number .signaled] ∨ deeds = [.reset number]) := by
  -- A step that concerns one thread has one deed at most.
  obtain ⟨sleeper, announced⟩ | ⟨member, next, event, deeds, -, effect, rfl⟩ :=
    sound.step_cases taken
  · -- A notification is no part of the history and leaves the flag alone.
    have same : after.deeds = crowd.deeds ∧ after.event.pending = crowd.event.pending := by
      obtain ⟨-, ⟨-, rfl⟩ | ⟨other, deadline, -, rfl⟩⟩ := announce_cases announced
      · exact ⟨rfl, Event.notify_pending _⟩
      · exact ⟨rfl, Event.notify_pending _⟩
    refine ⟨[], by rw [same.1, List.append_nil], Nat.zero_le _, by simp, by simp, ?_⟩
    intro pending clear
    rw [same.2, pending] at clear
    cases clear
  · -- The flag is what this deed has made of it.
    have marked := effect.marked
    refine ⟨deeds, rfl, ?_⟩
    simp only
    generalize crowd.event.pending = before at marked
    generalize event.pending = later at marked
    rcases effect.own with rfl | rfl | rfl | ⟨outcome, rfl⟩
    · cases marked
      simp
    · cases marked
      simp
    · cases marked
      simp
    · cases outcome <;> cases before <;> cases marked <;> simp

/--
A signal ends at most one wait, and is never lost to a waiter.

Whatever the threads do and in whatever order they get on: no more waits have ended with a
signal than signals have been made pending, and between two of them there is another signal. A
step adds at most one deed to the history. A wait ends with its deadline only in a step that
finds no signal pending, and a signal is pending no more only after a step with which one wait
ends with it or a thread drops it. While a signal is pending and somebody waits, somebody is
about to notify a waiter or has been notified and has not looked since.
-/
theorem signals_end_waits_once (size : Nat) (steps : List (Nat × Act)) :
    let crowd := (Crowd.new size).run steps
    crowd.deeds.countP Deed.isSignaled ≤ crowd.deeds.countP Deed.isSignal ∧
    (∀ first deed between other rest, crowd.deeds = first ++ deed :: between ++ other :: rest →
      deed.isSignaled = true → other.isSignaled = true →
        ∃ signal ∈ between, signal.isSignal = true) ∧
    (∀ number act after, crowd.step number act = some after →
      ∃ deeds, after.deeds = crowd.deeds ++ deeds ∧ deeds.length ≤ 1 ∧
        (∀ member, .wait member .timedOut ∈ deeds →
          crowd.event.pending = false ∧ after.event.pending = false) ∧
        (∀ member, .wait member .signaled ∈ deeds →
          crowd.event.pending = true ∧ after.event.pending = false) ∧
        (crowd.event.pending = true → after.event.pending = false →
          deeds = [.wait number .signaled] ∨ deeds = [.reset number])) ∧
    (crowd.event.pending = true → crowd.members.any Member.isAsleep = true →
      crowd.members.any Member.isBusy = true) := by
  -- All of it holds of a new crowd, and is kept by each step.
  intro crowd
  have sound : Sound crowd := (Sound.new size).run steps
  refine ⟨?_, ?_, fun number act after taken => sound.step_deeds taken, sound.heard⟩
  · -- Nothing is on balance before the first deed.
    have bound := Deed.countP_isSignaled_le sound.history
    simp only [Bool.toNat_false, Nat.add_zero] at bound
    omega
  · intro first deed between other rest split signaled again
    exact Deed.exists_signal_between (split ▸ sound.history) signaled again

/-- A thread takes the signal before the one that has been notified looks, which then waits on. -/
example :
    let crowd :=
  (Crowd.new 3).run [(0, .wait ⟨0⟩ ⟨5⟩), (0, .arrive), (1, .signal), (1, .announce (some 0)),
      (2, .wait ⟨1⟩ ⟨5⟩), (2, .arrive), (0, .look none)]
    crowd.deeds = [.signal 1, .wait 2 .signaled] ∧ crowd.members = [.asleep ⟨5⟩, .idle, .idle] := by
  decide

end Crowd

end Wakeful
