import Wakeful.Daemon.Bind

/-!
Taking the daemon's socket in single steps, between which other daemons may
act, comes to the same as taking it at once if nobody does.
-/

namespace Wakeful.Daemon

/-- How far a daemon has got with taking its socket. -/
inductive Taking where
  /-- It is about to take the path. -/
  | fresh
  /-- The path was taken, and it is about to find out whether anybody answers there. -/
  | occupied
  /-- Nobody has answered, and it is about to remove what is at the path. -/
  | unanswered
  /-- It has removed what was at the path, and is about to take it once more. -/
  | cleared
  /-- It is through. -/
  | ended (result : Except Report Unit)

/-- One request of a daemon to the system on the way to its socket. -/
def Taking.step (socket : Octets) (taking : Taking) (workplace : Workplace) :
    Taking × Workplace × List LogEvent :=
  -- Whatever the daemon has found out may no longer hold at its next step.
  match taking with
  | .fresh =>
    match workplace.listen socket with
    | (.ok (), taken) => (.ended (.ok ()), taken, [])
    | (.error (.refused .addressInUse), _) => (.occupied, workplace, [])
    | (.error reason, after) => (.ended (.error (failure reason)), after, [])
  | .occupied =>
    if workplace.answers socket then (.ended (.error rivalReport), workplace, [])
    else (.unanswered, workplace, [replacing socket])
  | .unanswered =>
    match workplace.unlink socket with
    | (.error reason, after) => (.ended (.error (failure reason)), after, [])
    | (.ok (), after) => (.cleared, after, [])
  | .cleared =>
    let (result, after) := workplace.listen socket
    (.ended (result.mapError failure), after, [])
  | .ended result => (.ended result, workplace, [])

/-- Several steps of one daemon without anybody else. -/
def Taking.run (socket : Octets) :
    (count : Nat) → Taking → Workplace → Taking × Workplace × List LogEvent
  -- The events are kept in order.
  | 0, taking, workplace => (taking, workplace, [])
  | count + 1, taking, workplace =>
    let (next, after, log) := taking.step socket workplace
    let (last, final, others) := Taking.run socket count next after
    (last, final, log ++ others)

/-- A daemon that is through stays as it is. -/
theorem Taking.run_ended (socket : Octets) (count : Nat) (result : Except Report Unit)
    (workplace : Workplace) :
    Taking.run socket count (.ended result) workplace = (.ended result, workplace, []) := by
  -- Every further step changes nothing.
  induction count with
  | zero => rfl
  | succ count ih => simp [Taking.run, Taking.step, ih]

/-- Four steps that nobody interrupts are the whole way to the socket. -/
theorem Taking.run_four (workplace : Workplace) (socket : Octets) :
    Taking.run socket 4 .fresh workplace =
      (.ended (bind workplace socket).1, (bind workplace socket).2.1,
        (bind workplace socket).2.2) := by
  -- Each outcome of a step leads to the corresponding case of the whole.
  unfold bind
  rcases first : workplace.listen socket with ⟨reason | ⟨⟨⟩⟩, taken⟩
  · by_cases used : reason = .refused .addressInUse
    · -- The path is taken, so that the other steps follow.
      subst used
      by_cases answered : workplace.answers socket = true
      · simp [Taking.run, Taking.step, first, answered]
      · rcases removal : workplace.unlink socket with ⟨_ | ⟨⟨⟩⟩, left⟩ <;>
          simp [Taking.run, Taking.step, first, answered, removal]
    · -- Any other refusal ends the way at once.
      have stepped :
          Taking.step socket .fresh workplace = (.ended (.error (failure reason)), taken, []) := by
        simp only [Taking.step, first]
      rw [Taking.run, stepped]
      simp only [Taking.run_ended, List.nil_append]
  · -- A free path is taken at once.
    simp [Taking.run, Taking.step, first]

end Wakeful.Daemon
