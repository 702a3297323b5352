import Wakeful.Daemon.Taking

/-!
Any number of daemons that want the same path, each of which
makes a single request to the system at a time.
-/

namespace Wakeful.Daemon

/-- How far a daemon has got. -/
inductive Life where
  /-- It is on the way to its socket. -/
  | taking (taking : Taking)
  /-- It has its socket and serves its clients. -/
  | listening
  /-- It was told to stop and has removed the path. -/
  | leaving
  /-- It has ended, by itself or by a crash. -/
  | gone

/-- What becomes of a daemon that has got so far with taking its socket. -/
def Life.ofTaking : Taking → Life
  -- A daemon that does not get its socket ends.
  | .ended (.ok ()) => listening
  | .ended (.error _) => gone
  | halfway => taking halfway

/-- What one of the daemons does next. -/
inductive Move where
  /-- It makes its next request on the way to its socket. -/
  | proceed (daemon : Nat)
  /-- It is told to stop, and removes the path. -/
  | quit (daemon : Nat)
  /-- It ends or crashes, and nobody listens on its socket any more. -/
  | vanish (daemon : Nat)
  deriving DecidableEq, Repr

/-- The daemon that makes a move. -/
def Move.daemon : Move → Nat
  | proceed daemon | quit daemon | vanish daemon => daemon

/-- Daemons that want the same path. -/
structure Rivals where
  /-- The files. -/
  workplace : Workplace
  /-- How far each of them has got. -/
  lives : Nat → Life
  /-- The one that still has the socket open that is at the path, if there is one. -/
  owner : Option Nat
  /-- For each of them, those that have taken the path since it found that nobody answers there. -/
  newcomers : Nat → List Nat

namespace Rivals

/-- Values for all daemons, with another value for one of them. -/
def reassign {α : Type} (values : Nat → α) (daemon : Nat) (value : α) : Nat → α :=
  -- The others keep theirs.
  fun other => if other = daemon then value else values other

@[simp] theorem reassign_same {α : Type} (values : Nat → α) (daemon : Nat) (value : α) :
    reassign values daemon value daemon = value :=
  if_pos rfl

@[simp] theorem reassign_of_ne {α : Type} (values : Nat → α) {daemon other : Nat} (value : α)
    (different : other ≠ daemon) : reassign values daemon value other = values other :=
  if_neg different

/-- Daemons of which none has begun. -/
def start (workplace : Workplace) : Rivals :=
  -- Whatever is at the path was left behind by nobody of them.
  ⟨workplace, fun _ => .taking .fresh, none, fun _ => []⟩

/-- The daemons after one of them has made a request on the way to its socket. -/
def proceed (socket : Octets) (rivals : Rivals) (daemon : Nat) (taking : Taking) : Rivals :=
  -- None of them knows whose socket is at the path and who has come since.
  let (next, after, _) := taking.step socket rivals.workplace
  let moved :=
    { rivals with workplace := after, lives := reassign rivals.lives daemon (.ofTaking next) }
  match next with
  | .ended (.ok ()) =>
    { moved with owner := some daemon, newcomers := fun other => daemon :: rivals.newcomers other }
  | .unanswered => { moved with newcomers := reassign rivals.newcomers daemon [] }
  | .cleared => { moved with owner := none }
  | _ => moved

/-- The place of the socket at a path. -/
def placeOf (workplace : Workplace) (socket : Octets) : Option Place :=
  -- It is where the path leads up to.
  match workplace.approach socket with
  | .ok ⟨parent, .name name, _⟩ => some (name :: parent.place)
  | _ => none

/-- The daemons after a move of one of them, where moves that it cannot make are passed over. -/
def step (socket : Octets) (rivals : Rivals) : Move → Rivals
  -- The path is removed by its name, whoever has it.
  | .proceed daemon =>
    match rivals.lives daemon with
    | .taking halfway => rivals.proceed socket daemon halfway
    | _ => rivals
  | .quit daemon =>
    match rivals.lives daemon with
    | .listening =>
      let (result, left) := rivals.workplace.unlink socket
      { rivals with
        workplace := left
        lives := reassign rivals.lives daemon .leaving
        owner := if result.isOk then none else rivals.owner }
    | _ => rivals
  | .vanish daemon =>
    let ended := { rivals with lives := reassign rivals.lives daemon .gone }
    if rivals.owner = some daemon then
      { ended with
        workplace := (placeOf rivals.workplace socket).elim rivals.workplace
          rivals.workplace.silence
        owner := none }
    else ended

/-- The daemons after several moves. -/
def run (socket : Octets) (rivals : Rivals) (moves : List Move) : Rivals :=
  -- They are made in order.
  moves.foldl (step socket) rivals

/-- A request of a daemon leads where its next step to the socket leads. -/
theorem step_proceed (socket : Octets) {rivals : Rivals} {daemon : Nat} {halfway : Taking}
    (way : rivals.lives daemon = .ofTaking halfway) :
    (rivals.step socket (.proceed daemon)).workplace = (halfway.step socket rivals.workplace).2.1 ∧
      (rivals.step socket (.proceed daemon)).lives daemon =
        .ofTaking (halfway.step socket rivals.workplace).1 := by
  -- What is noted about owners and newcomers is neither.
  have proceeds : (rivals.proceed socket daemon halfway).workplace =
      (halfway.step socket rivals.workplace).2.1 ∧
      (rivals.proceed socket daemon halfway).lives =
        reassign rivals.lives daemon (.ofTaking (halfway.step socket rivals.workplace).1) := by
    unfold proceed
    rcases halfway.step socket rivals.workplace with ⟨_ | _ | _ | _ | ⟨_ | ⟨⟨⟩⟩⟩, after, log⟩ <;>
      exact ⟨rfl, rfl⟩
  cases halfway with
  | ended result =>
    -- A daemon that is through has nothing to ask for.
    rcases result with _ | ⟨⟨⟩⟩ <;> simp only [Life.ofTaking] at way <;>
      simp [step, way, Taking.step, Life.ofTaking]
  | _ =>
    simp only [Life.ofTaking] at way
    simp only [step, way]
    exact ⟨proceeds.1, by rw [proceeds.2, reassign_same]⟩

/-- Requests of one daemon that nobody interrupts lead where the steps to its socket lead. -/
theorem run_proceed (socket : Octets) {rivals : Rivals} {daemon : Nat} {halfway : Taking}
    (way : rivals.lives daemon = .ofTaking halfway) (count : Nat) :
    (rivals.run socket (List.replicate count (.proceed daemon))).workplace =
        (Taking.run socket count halfway rivals.workplace).2.1 ∧
      (rivals.run socket (List.replicate count (.proceed daemon))).lives daemon =
        .ofTaking (Taking.run socket count halfway rivals.workplace).1 := by
  -- The induction is over the requests, each of which is one step.
  induction count generalizing rivals halfway with
  | zero => exact ⟨rfl, way⟩
  | succ count ih =>
    obtain ⟨files, life⟩ := step_proceed socket way
    have rest := ih life
    rw [files] at rest
    exact rest

/-- Four requests that nobody interrupts are the whole way to the socket. -/
theorem run_alone (socket : Octets) (workplace : Workplace) (daemon : Nat) :
    let rivals := (start workplace).run socket (List.replicate 4 (.proceed daemon))
    rivals.workplace = (bind workplace socket).2.1 ∧
      rivals.lives daemon = .ofTaking (.ended (bind workplace socket).1) := by
  -- Alone, a daemon takes the four steps that `bind` takes at once.
  have begun : (start workplace).lives daemon = .ofTaking .fresh := rfl
  have alone := run_proceed socket begun 4
  have whole : Taking.run socket 4 .fresh (start workplace).workplace = _ :=
    Taking.run_four workplace socket
  rw [whole] at alone
  exact alone

/-- Whether a move takes the path away from another daemon that listens there. -/
def Harms (socket : Octets) (rivals : Rivals) (move : Move) : Prop :=
  -- A daemon may take the path away from itself.
  ∃ owner, rivals.owner = some owner ∧ rivals.lives owner = .listening ∧ owner ≠ move.daemon ∧
    (rivals.step socket move).owner ≠ some owner

/--
Whether a daemon is about to remove the path although another one has taken it since, and listens.
-/
def Hasty (rivals : Rivals) (move : Move) : Prop :=
  -- That nobody has answered is no longer true then.
  ∃ daemon newcomer, move = .proceed daemon ∧ rivals.lives daemon = .taking .unanswered ∧
    newcomer ∈ rivals.newcomers daemon ∧ rivals.lives newcomer = .listening

end Rivals

end Wakeful.Daemon
