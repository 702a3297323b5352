import Wakeful.Daemon.Rivals
import Wakeful.Proofs.FileTree.Socket

/-!
A daemon keeps the path for itself exactly as long as no rival removes it that has looked too early.
-/

namespace Wakeful.Daemon.Rivals

open FileTree (agreeBut_insert agreeBut_erase Shut)

variable {α : Type} {socket name : Octets} {parent : Spot} {rivals after : Rivals}
  {daemon other : Nat}

/-- Whoever has some value then has just been given it, or had it before. -/
theorem eq_of_reassign {values : Nat → α} {value wanted : α}
    (has : reassign values daemon value other = wanted) :
    other = daemon ∧ value = wanted ∨ other ≠ daemon ∧ values other = wanted := by
  -- Only the value of the one daemon is replaced.
  by_cases same : other = daemon
  · subst same
    exact Or.inl ⟨rfl, by simpa using has⟩
  · exact Or.inr ⟨same, by simpa [same] using has⟩

/-- What a request on the way to the socket comes to, case by case. -/
inductive Proceeds (socket name : Octets) (parent : Spot) (rivals : Rivals) (daemon : Nat) :
    Rivals → Prop where
  /-- The path is free and is taken. -/
  | takes (way : rivals.lives daemon = .taking .fresh ∨ rivals.lives daemon = .taking .cleared)
      (free : rivals.workplace.tree.node? (name :: parent.place) = none) :
      Proceeds socket name parent rivals daemon
        { workplace := { rivals.workplace with
            tree := rivals.workplace.tree.insert (name :: parent.place)
              (.socket (rivals.workplace.granted 0o777) (some (.streams true))) }
          lives := reassign rivals.lives daemon .listening
          owner := some daemon
          newcomers := fun other => daemon :: rivals.newcomers other }
  /-- The path is taken already, and has to be looked at. -/
  | finds (way : rivals.lives daemon = .taking .fresh) :
      Proceeds socket name parent rivals daemon
        { rivals with lives := reassign rivals.lives daemon (.taking .occupied) }
  /-- Nobody answers at the path. -/
  | silent (way : rivals.lives daemon = .taking .occupied)
      (unanswered : rivals.workplace.answers socket = false) :
        Proceeds socket name parent rivals daemon
        { rivals with
          lives := reassign rivals.lives daemon (.taking .unanswered)
          newcomers := reassign rivals.newcomers daemon [] }
  /-- The socket at the path is removed, whosever it is. -/
  | removes {mode : Nat} {listener : Option Listener}
      (way : rivals.lives daemon = .taking .unanswered)
      (held : rivals.workplace.tree.node? (name :: parent.place) = some (.socket mode listener)) :
        Proceeds socket name parent rivals daemon
        { rivals with
          workplace := { rivals.workplace with
            tree := rivals.workplace.tree.erase (name :: parent.place) }
          lives := reassign rivals.lives daemon (.taking .cleared)
          owner := none }
  /-- The daemon does not get its socket and ends. -/
  | fails {halfway : Taking} (way : rivals.lives daemon = .taking halfway) :
      Proceeds socket name parent rivals daemon
        { rivals with lives := reassign rivals.lives daemon .gone }
  /-- The daemon is not on the way to its socket. -/
  | passes : Proceeds socket name parent rivals daemon rivals

/-- What is at the path, as far as its owner decides. -/
def Held (workplace : Workplace) (place : Place) : Option Nat → Prop
  -- A socket that somebody holds open can be connected to.
  | some _ => ∃ mode, workplace.tree.node? place = some (.socket mode (some (.streams true))) ∧
      (Node.socket mode (some (.streams true))).writable = true
  | none =>
    workplace.tree.node? place = none ∨
      ∃ mode, workplace.tree.node? place = some (.socket mode none)

/-- Daemons of which nobody has lost the path to another one. -/
structure Fair (socket name : Octets) (parent : Spot) (rivals : Rivals) : Prop where
  /-- Sockets can be made, found and removed. -/
  usable : rivals.workplace.Usable socket parent name
  /-- The path holds what belongs to its owner. -/
  held : Held rivals.workplace (name :: parent.place) rivals.owner
  /-- Its owner serves its clients. -/
  serves : ∀ owner, rivals.owner = some owner → rivals.lives owner = .listening
  /-- Nobody else does. -/
  sole : ∀ daemon, rivals.lives daemon = .listening → rivals.owner = some daemon
  /-- A daemon to which nobody has answered has looked before the owner came. -/
  early : ∀ daemon owner, rivals.lives daemon = .taking .unanswered → rivals.owner = some owner →
    owner ∈ rivals.newcomers daemon
  /-- Nobody who is through is still on the way. -/
  underway : ∀ daemon result, rivals.lives daemon ≠ .taking (.ended result)

/-- Whatever the path holds is a socket. -/
theorem Held.isSocket {workplace : Workplace} {place : Place} {owner : Option Nat}
    (held : Held workplace place owner) {node : Node}
    (present : workplace.tree.node? place = some node) :
    ∃ mode listener, node = .socket mode listener := by
  -- With or without an owner, nothing but a socket can lie at the path.
  cases owner with
  | some owner =>
    obtain ⟨mode, there, -⟩ := held
    exact ⟨mode, _, Option.some.inj (present.symm.trans there)⟩
  | none =>
    rcases held with free | ⟨mode, there⟩
    · cases free.symm.trans present
    · exact ⟨mode, none, Option.some.inj (present.symm.trans there)⟩

/-- No walk goes on from the path. -/
theorem Held.shut {workplace : Workplace} {place : Place} {owner : Option Nat}
    (held : Held workplace place owner) : workplace.tree.Shut place := by
  -- A socket is neither a directory nor a link.
  intro node present
  obtain ⟨mode, listener, rfl⟩ := held.isSocket present
  exact ⟨rfl, rfl⟩

/-- Every request on the way to the socket is one of these cases. -/
theorem Fair.proceeds (fair : Fair socket name parent rivals) (daemon : Nat) :
    Proceeds socket name parent rivals daemon (rivals.step socket (.proceed daemon)) := by
  have usable := fair.usable
  cases stage : rivals.lives daemon with
  | listening => simpa only [step, stage] using .passes
  | leaving => simpa only [step, stage] using .passes
  | gone => simpa only [step, stage] using .passes
  | taking halfway =>
    simp only [step, stage]
    cases present : rivals.workplace.tree.node? (name :: parent.place) with
    | none =>
      -- A free path can only be taken.
      have listens := usable.listen_free present
      cases halfway with
      | fresh =>
        simp only [proceed, Taking.step, listens]
        exact .takes (Or.inl stage) present
      | occupied =>
        have unanswered := usable.answers_free present
        simp only [proceed, Taking.step, unanswered, Bool.false_eq_true, if_false]
        exact .silent stage unanswered
      | unanswered =>
        simp only [proceed, Taking.step, usable.unlink_free present]
        exact .fails stage
      | cleared =>
        simp only [proceed, Taking.step, listens]
        exact .takes (Or.inr stage) present
      | ended result => exact absurd stage (fair.underway daemon result)
    | some node =>
      -- What is there is a socket, and the path cannot be taken.
      have listens := usable.listen_taken present
      cases halfway with
      | fresh =>
        simp only [proceed, Taking.step, listens]
        exact .finds stage
      | occupied =>
        cases answered : rivals.workplace.answers socket with
        | true =>
          simp only [proceed, Taking.step, answered, if_true]
          exact .fails stage
        | false =>
          simp only [proceed, Taking.step, answered, Bool.false_eq_true, if_false]
          exact .silent stage answered
      | unanswered =>
        obtain ⟨mode, listener, rfl⟩ := fair.held.isSocket present
        simp only [proceed, Taking.step, usable.unlink_socket present]
        exact .removes stage present
      | cleared =>
        simp only [proceed, Taking.step, listens]
        exact .fails stage
      | ended result => exact absurd stage (fair.underway daemon result)

/-- An owner answers at the path. -/
theorem Fair.answers (fair : Fair socket name parent rivals) {owner : Nat}
    (owns : rivals.owner = some owner) : rivals.workplace.answers socket = true := by
  -- The owner's socket is still open and writable, and that is what answering takes.
  have held := fair.held
  rw [owns] at held
  obtain ⟨mode, there, writable⟩ := held
  rw [fair.usable.answers_socket there, writable]
  rfl

variable {life : Life}

/-- Nobody is through and still on the way if that is not so for the daemon that moves. -/
theorem Fair.still_underway (fair : Fair socket name parent rivals)
    (going : ∀ result, life ≠ .taking (.ended result)) (any : Nat) (result : Except Report Unit) :
    Rivals.reassign rivals.lives daemon life any ≠ .taking (.ended result) := by
  -- The daemon that moves has a life that is excluded, and the others had none before.
  intro ended
  rcases eq_of_reassign ended with ⟨-, now⟩ | ⟨-, before⟩
  · exact going result now
  · exact fair.underway any result before

/--
Nobody else notices what becomes of a daemon that does not
own the path and is not about to remove it.
-/
theorem Fair.changes (fair : Fair socket name parent rivals) (other : rivals.owner ≠ some daemon)
    (quiet : life ≠ .listening) (patient : life ≠ .taking .unanswered)
    (going : ∀ result, life ≠ .taking (.ended result)) :
    Fair socket name parent { rivals with lives := reassign rivals.lives daemon life } where
  -- The path and its owner stay as they were, so only
  -- clauses about the changed life need an argument.
  usable := fair.usable
  held := fair.held
  serves owner owns := by
    have different : owner ≠ daemon := by
      rintro rfl
      exact other owns
    simpa [different] using fair.serves owner owns
  sole any listens := by
    rcases eq_of_reassign listens with ⟨-, now⟩ | ⟨-, before⟩
    · exact absurd now quiet
    · exact fair.sole any before
  early any owner waits owns := by
    rcases eq_of_reassign waits with ⟨-, now⟩ | ⟨-, before⟩
    · exact absurd now patient
    · exact fair.early any owner before owns
  underway := fair.still_underway going

/-- A daemon that nobody else could lose the path to leaves it without an owner. -/
theorem Fair.vacate (fair : Fair socket name parent rivals)
    (alone : ∀ owner, rivals.owner = some owner → owner = daemon) {workplace : Workplace}
    (usable : workplace.Usable socket parent name)
    (held : Held workplace (name :: parent.place) none) (quiet : life ≠ .listening)
    (going : ∀ result, life ≠ .taking (.ended result)) (newcomers : Nat → List Nat) :
    Fair socket name parent ⟨workplace, reassign rivals.lives daemon life, none, newcomers⟩ where
  -- Without an owner, what is said of owners holds by itself.
  usable := usable
  held := held
  serves owner owns := by cases owns
  -- Whoever listens owned the path, so it is the daemon that has just stopped listening.
  sole any listens := by
    rcases eq_of_reassign listens with ⟨-, now⟩ | ⟨different, before⟩
    · exact absurd now quiet
    · exact absurd (alone any (fair.sole any before)) different
  early any owner waits owns := by cases owns
  underway := fair.still_underway going

/-- A daemon on the way to its socket does not own the path. -/
theorem Fair.not_owner (fair : Fair socket name parent rivals) {halfway : Taking}
    (way : rivals.lives daemon = .taking halfway) : rivals.owner ≠ some daemon := by
  -- An owner listens, and nobody does both.
  intro owns
  cases way.symm.trans (fair.serves daemon owns)

/-- The socket at a path that has an owner is the owner's, and open. -/
theorem Fair.owned (fair : Fair socket name parent rivals) (owns : rivals.owner = some daemon) :
    (∀ owner, rivals.owner = some owner → owner = daemon) ∧
      ∃ mode, rivals.workplace.tree.node? (name :: parent.place) =
        some (.socket mode (some (.streams true))) := by
  -- There is one owner, and its socket is what lies at the path.
  have held := fair.held
  rw [owns] at held
  obtain ⟨mode, there, -⟩ := held
  exact ⟨fun owner also => Option.some.inj (also.symm.trans owns), mode, there⟩

/-- A free path has no owner. -/
theorem Fair.owner_of_free (fair : Fair socket name parent rivals)
    (free : rivals.workplace.tree.node? (name :: parent.place) = none) : rivals.owner = none := by
  -- The socket of an owner would lie at the path.
  cases owns : rivals.owner with
  | none => rfl
  | some owner =>
    obtain ⟨-, mode, there⟩ := fair.owned owns
    cases free.symm.trans there

/-- A daemon that takes a free path is the only one that listens. -/
theorem Fair.occupy (fair : Fair socket name parent rivals)
    (free : rivals.workplace.tree.node? (name :: parent.place) = none) :
    Fair socket name parent
      { workplace := { rivals.workplace with
          tree := rivals.workplace.tree.insert (name :: parent.place)
            (.socket (rivals.workplace.granted 0o777) (some (.streams true))) }
        lives := Rivals.reassign rivals.lives daemon .listening
        owner := some daemon
        newcomers := fun other => daemon :: rivals.newcomers other } where
  -- Whoever listened before would have owned the path, which was free.
  usable := fair.usable.retree (agreeBut_insert _ _ _) fair.held.shut
  held := ⟨_, FileTree.node?_insert_self _ _ _, fair.usable.inviting⟩
  serves owner owns := by
    cases owns
    simp
  sole any listens := by
    rcases eq_of_reassign listens with ⟨rfl, -⟩ | ⟨-, before⟩
    · rfl
    · cases (fair.owner_of_free free).symm.trans (fair.sole any before)
  early any owner waits owns := by
    cases owns
    exact List.mem_cons_self
  underway := fair.still_underway (by simp)

/-- When a daemon that nobody has answered is not hasty, the path has no owner. -/
theorem Fair.owner_of_patient (fair : Fair socket name parent rivals)
    (way : rivals.lives daemon = .taking .unanswered) (patient : ¬ rivals.Hasty (.proceed daemon)) :
    rivals.owner = none := by
  -- If there were an owner, it would have come after the daemon
  -- got no answer, which is what being hasty means.
  cases owns : rivals.owner with
  | none => rfl
  | some owner =>
    exact absurd ⟨daemon, owner, rfl, way, fair.early daemon owner way owns,
      fair.serves owner owns⟩ patient

/-- A request on the way to the socket that is not hasty takes the path away from nobody. -/
theorem Fair.proceed (fair : Fair socket name parent rivals)
    (patient : ¬ rivals.Hasty (.proceed daemon)) :
    Fair socket name parent (rivals.step socket (.proceed daemon)) := by
  have proceeds := fair.proceeds daemon
  generalize rivals.step socket (.proceed daemon) = after at proceeds
  have alone (ownerless : rivals.owner = none) : ∀ owner, rivals.owner = some owner →
      owner = daemon := by
    intro owner owns
    cases ownerless.symm.trans owns
  cases proceeds with
  | passes => exact fair
  | fails way =>
    exact fair.changes (fair.not_owner way) (by simp) (by simp) (by simp)
  | finds way => exact fair.changes (fair.not_owner way) (by simp) (by simp) (by simp)
  | silent way unanswered =>
    -- An owner would have answered.
    have ownerless : rivals.owner = none := by
      cases owns : rivals.owner with
      | none => rfl
      | some owner => cases unanswered.symm.trans (fair.answers owns)
    have held := fair.held
    rw [ownerless] at held
    have serves : Life.taking .unanswered ≠ .listening := by simp
    have left := fair.vacate (alone ownerless) fair.usable held serves (by simp)
      (reassign rivals.newcomers daemon [])
    rw [← ownerless] at left
    exact left
  | removes way held =>
    have ownerless := fair.owner_of_patient way patient
    exact fair.vacate (alone ownerless) (fair.usable.retree (agreeBut_erase _ _) fair.held.shut)
      (Or.inl (FileTree.node?_erase_self _ _)) (by simp) (by simp) _
  | takes way free => exact fair.occupy free

/-- A daemon that is told to stop takes the path away from nobody but itself. -/
theorem Fair.quit (fair : Fair socket name parent rivals) (daemon : Nat) :
    Fair socket name parent (rivals.step socket (.quit daemon)) := by
  -- Only a daemon that listens removes anything, and it owns what it removes.
  cases stage : rivals.lives daemon with
  | taking halfway => simpa only [step, stage] using fair
  | leaving => simpa only [step, stage] using fair
  | gone => simpa only [step, stage] using fair
  | listening =>
    obtain ⟨alone, mode, there⟩ := fair.owned (fair.sole daemon stage)
    simp only [step, stage, fair.usable.unlink_socket there, Except.isOk, Except.toBool, if_true]
    exact fair.vacate alone (fair.usable.retree (agreeBut_erase _ _) fair.held.shut)
      (Or.inl (FileTree.node?_erase_self _ _)) (by simp) (by simp) _

/-- A daemon that ends leaves its socket behind if that is still at the path. -/
theorem Fair.vanish (fair : Fair socket name parent rivals) (daemon : Nat) :
    Fair socket name parent (rivals.step socket (.vanish daemon)) := by
  -- What a listener leaves behind is its socket with nobody at the other end.
  simp only [step]
  split
  · -- The owner ends, and its socket falls silent.
    obtain ⟨alone, mode, there⟩ := fair.owned ‹_›
    have silenced :
        (placeOf rivals.workplace socket).elim rivals.workplace rivals.workplace.silence =
        { rivals.workplace with
          tree := rivals.workplace.tree.insert (name :: parent.place) (.socket mode none) } := by
      simp [placeOf, fair.usable.approached, Workplace.silence, there]
    rw [silenced]
    exact fair.vacate alone (fair.usable.retree (agreeBut_insert _ _ _) fair.held.shut)
      (Or.inr ⟨mode, FileTree.node?_insert_self _ _ _⟩) (by simp) (by simp) _
  · -- Anyone else leaves nothing at the path.
    exact fair.changes ‹_› (by simp) (by simp) (by simp)

/-- A move that is not hasty takes the path away from nobody. -/
theorem Fair.step (fair : Fair socket name parent rivals) {move : Move}
    (patient : ¬ rivals.Hasty move) : Fair socket name parent (rivals.step socket move) := by
  -- One kind of move after the other, and only proceeding can be hasty.
  cases move with
  | proceed daemon => exact fair.proceed patient
  | quit daemon => exact fair.quit daemon
  | vanish daemon => exact fair.vanish daemon

/--
Only a hasty move takes the path away from another daemon
that listens there, and every hasty move does.
-/
theorem Fair.harms_iff (fair : Fair socket name parent rivals) (move : Move) :
    rivals.Harms socket move ↔ rivals.Hasty move := by
  -- A listener owns the path, so a harmful move ends the ownership of another daemon.
  constructor
  · rintro ⟨owner, owns, listens, different, lost⟩
    cases move with
    | quit daemon =>
      -- Who quits while listening owns the path, and all others remove nothing.
      cases stage : rivals.lives daemon with
      | listening => exact absurd ((fair.owned (fair.sole daemon stage)).1 owner owns) different
      | taking halfway => simp [Rivals.step, stage, owns] at lost
      | leaving => simp [Rivals.step, stage, owns] at lost
      | gone => simp [Rivals.step, stage, owns] at lost
    | vanish daemon =>
      -- Ownership ends only with the owner itself.
      have other : owner ≠ daemon := different
      simp [Rivals.step, owns, other] at lost
    | proceed daemon =>
      -- Of all that proceeding can do only a removal ends the ownership of another.
      have proceeds := fair.proceeds daemon
      generalize rivals.step socket (.proceed daemon) = after at proceeds lost
      cases proceeds with
      | removes way held =>
        exact ⟨daemon, owner, rfl, way, fair.early daemon owner way owns, listens⟩
      | takes way free => cases owns.symm.trans (fair.owner_of_free free)
      | finds way => exact absurd owns lost
      | silent way unanswered => exact absurd owns lost
      | fails way => exact absurd owns lost
      | passes => exact absurd owns lost
  · -- The hasty daemon removes by name, whoever has bound the path since.
    rintro ⟨daemon, newcomer, rfl, way, came, listens⟩
    have owns := fair.sole newcomer listens
    obtain ⟨-, mode, there⟩ := fair.owned owns
    refine ⟨newcomer, owns, listens, ?_, ?_⟩
    · rintro rfl
      cases way.symm.trans listens
    · simp [Rivals.step, way, Rivals.proceed, Taking.step, fair.usable.unlink_socket there]

/-- Whether none of several moves has a property at the time when it is made. -/
def Never (bad : Rivals → Move → Prop) (socket : Octets) (rivals : Rivals)
    (moves : List Move) : Prop :=
  -- Each move finds what those before it have left.
  ∀ before move after, moves = before ++ move :: after → ¬ bad (rivals.run socket before) move

/-- The first move is made at once, and the others find what it has left. -/
theorem never_cons {bad : Rivals → Move → Prop} {move : Move} {rest : List Move} :
    Never bad socket rivals (move :: rest) ↔
      ¬ bad rivals move ∧ Never bad socket (rivals.step socket move) rest := by
  -- Either the split comes before the first move, or it
  -- comes after and the rest is split the same way.
  constructor
  · intro never
    refine ⟨never [] move rest rfl, fun before next after whole => ?_⟩
    rw [whole] at never
    exact never (move :: before) next after rfl
  · rintro ⟨first, others⟩ before next after whole
    cases before with
    | nil =>
      cases whole
      exact first
    | cons earlier before =>
      cases whole
      exact others before next after rfl

/-- While no move is hasty, nobody loses the path to another one. -/
theorem Fair.run (fair : Fair socket name parent rivals) {moves : List Move}
    (patient : Never Hasty socket rivals moves) :
    Fair socket name parent (rivals.run socket moves) := by
  -- The induction is over the moves.
  induction moves generalizing rivals with
  | nil => exact fair
  | cons move rest ih =>
    obtain ⟨first, others⟩ := never_cons.mp patient
    exact ih (fair.step first) others

/-- The first move that takes the path away from another daemon is the first hasty one. -/
theorem Fair.never_harms_iff (fair : Fair socket name parent rivals) (moves : List Move) :
    Never (Harms socket) socket rivals moves ↔ Never Hasty socket rivals moves := by
  -- Up to then everybody has been fair.
  induction moves generalizing rivals with
  | nil => simp [Never]
  | cons move rest ih =>
    rw [never_cons, never_cons, fair.harms_iff]
    exact and_congr_right fun patient => ih (fair.step patient)

/-- Daemons that have not begun have taken nothing from each other. -/
theorem Fair.start {workplace : Workplace} (usable : workplace.Usable socket parent name)
    (vacant : Held workplace (name :: parent.place) none) :
    Fair socket name parent (start workplace) where
  -- There is no owner and nobody has moved, so only the path itself has to be looked at.
  usable := usable
  held := vacant
  serves owner owns := by cases owns
  sole daemon listens := by cases listens
  early daemon owner waits := by cases waits
  underway daemon result ended := by cases ended

/--
Daemons exclude each other exactly as long as none of them removes the path hastily.

From a path that is free or was left behind, and whatever daemons begin, stop and crash in whatever
order: a move takes the path away from another daemon that listens only if a daemon removes what is
there because nobody has answered, while another one has taken the path since. As long as that does
not happen, at most one daemon listens, and it answers at the path.
-/
theorem exclusive_iff_never_hasty {workplace : Workplace}
    (usable : workplace.Usable socket parent name)
    (vacant : workplace.tree.node? (name :: parent.place) = none ∨
      ∃ mode, workplace.tree.node? (name :: parent.place) = some (.socket mode none))
    (moves : List Move) :
    (Never (Harms socket) socket (start workplace) moves ↔
      Never Hasty socket (start workplace) moves) ∧
    (Never Hasty socket (start workplace) moves →
      let rivals := (start workplace).run socket moves
      ∀ daemon, rivals.lives daemon = .listening →
        (∀ other, rivals.lives other = .listening → other = daemon) ∧
        rivals.workplace.answers socket = true) := by
  -- Fairness is kept along all moves that are not hasty, and it names the only listener.
  have fair := Fair.start usable vacant
  refine ⟨fair.never_harms_iff moves, fun patient => ?_⟩
  intro rivals daemon listens
  have still : Fair socket name parent rivals := fair.run patient
  have owns := still.sole daemon listens
  exact ⟨fun other also => (still.owned owns).1 other (still.sole other also), still.answers owns⟩

/-- A workplace in which a daemon has left its socket behind at `/s`. -/
def deserted : Workplace :=
  ⟨⟨[([], .directory 0o755), ([[115]], .socket 0o755 none)]⟩, .root, 0o022, []⟩

/-- A daemon that is alone takes over a path that was left behind, and then answers there. -/
theorem exclusive_deserted :
    deserted.Usable [47, 115] .root [115] ∧
    deserted.tree.node? [[115]] = some (.socket 0o755 none) ∧
    ((start deserted).run [47, 115] (List.replicate 4 (.proceed 0))).workplace.answers [47, 115] =
      true := by
  -- Nobody else ever comes, so the one daemon that removes the socket is not hasty.
  have usable : deserted.Usable [47, 115] .root [115] := ⟨rfl, rfl, by decide, rfl, rfl⟩
  refine ⟨usable, rfl, ?_⟩
  have patient : Never Hasty [47, 115] (start deserted) (List.replicate 4 (.proceed 0)) := by
    refine never_cons.mpr ⟨?_,
      never_cons.mpr ⟨?_, never_cons.mpr ⟨?_, never_cons.mpr ⟨?_, by simp [Never]⟩⟩⟩⟩ <;>
      rintro ⟨daemon, newcomer, same, way, came, -⟩ <;> cases same
    · cases way
    · cases way
    · cases came
    · cases way
  exact ((exclusive_iff_never_hasty usable (Or.inr ⟨0o755, rfl⟩) (List.replicate 4 (.proceed 0))).2
    patient 0 rfl).2

/--
Moves of two daemons that both find nobody, of which one
removes the path after the other has taken it.
-/
def overtaking : List Move :=
  [.proceed 0, .proceed 1, .proceed 0, .proceed 1, .proceed 0, .proceed 0, .proceed 1, .proceed 1]

/--
Two daemons that start at once can both come to listen,
where one has removed the socket of the other.
-/
theorem both_listen :
    ((start deserted).run [47, 115] overtaking).lives 0 = .listening ∧
    ((start deserted).run [47, 115] overtaking).lives 1 = .listening ∧
    ((start deserted).run [47, 115] (overtaking.take 6)).Harms [47, 115] (.proceed 1) :=
  ⟨rfl, rfl, 0, rfl, rfl, by decide, by decide⟩

end Wakeful.Daemon.Rivals
