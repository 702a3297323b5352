import Wakeful.Daemon.Taking
import Wakeful.Proofs.FileTree.Occupant

/-!
What a daemon removes from its path: whatever can be removed
and does not answer, be it a stale socket or not.
-/

namespace Wakeful.Daemon

variable {workplace after : Workplace} {socket : Octets} {place : Place} {node : Node}

/-- Whether somebody or something has the path already. -/
def Taken (workplace : Workplace) (socket : Octets) : Prop :=
  (workplace.listen socket).1 = .error (.refused .addressInUse)

/-- What is removed from a path before it is taken once more. -/
structure Clears (workplace : Workplace) (socket : Octets) (place : Place)
    (node : Node) : Prop where
  /-- The path is fit for an address. -/
  address : SocketAddress.ofOctets socket = .ok (.path socket)
  /-- It can be removed. -/
  removable : workplace.Removable socket place node
  /-- Nobody answers through it. -/
  silent : workplace.answers socket = false

/-- An address that is taken, and from which something can be removed, is a path. -/
theorem Taken.address (taken : Taken workplace socket)
    (removed : workplace.unlink socket = (.ok (), after)) :
    SocketAddress.ofOctets socket = .ok (.path socket) := by
  -- What can be removed has a path, and a path has no octet that ends it early.
  have plain : Workplace.checkOctets socket = .ok () :=
    (ok_of_bind (Workplace.attempt_ok_iff.mp removed)).choose_spec.1
  unfold Taken Workplace.listen at taken
  rcases Workplace.ofOctets_cases socket with ⟨-, address⟩ | ⟨name, rfl, -⟩ | ⟨-, address⟩ |
    ⟨reason, address, own⟩
  · rw [address] at taken
    cases taken
  · -- A name outside the tree begins with such an octet.
    simp [Workplace.checkOctets] at plain
  · exact address
  · -- Octets that are no address are refused for reasons of their own.
    rw [address] at taken
    cases taken
    exact absurd rfl (own _)

/-- What is cleared away has the path before. -/
theorem Clears.listen (clears : Clears workplace socket place node) :
    workplace.listen socket = (.error (.refused .addressInUse), workplace) :=
  Workplace.listen_occupied clears.address clears.removable.occupies

/-- What is cleared away is removed. -/
theorem Clears.unlink (clears : Clears workplace socket place node) :
    workplace.unlink socket = (.ok (), workplace.without place) :=
  (Workplace.unlink_ok_iff (Workplace.fit_of_address clears.address)).mpr
  ⟨place, node, clears.removable, rfl⟩

/-- Where the way is lost with what is cleared away, no socket can be made. -/
theorem Clears.lost (clears : Clears workplace socket place node)
    (rests : workplace.RestsOn socket place) :
    ∃ reason, (workplace.without place).listen socket =
      (.error (.refused reason), workplace.without place) := by
  -- The second attempt is made at the same address, to which no way leads any more.
  obtain ⟨reason, lost⟩ := clears.removable.lost rests
  exact ⟨reason, by simp [Workplace.listen, clears.address, Workplace.bindPath, Workplace.attempt,
    lost]⟩

/-- What is removed is cleared away. -/
theorem Taken.clears (taken : Taken workplace socket) (silent : workplace.answers socket = false)
    (removed : workplace.unlink socket = (.ok (), after)) :
    ∃ place node, Clears workplace socket place node ∧ after = workplace.without place := by
  -- A path that is taken has an address, and what its removal takes away is what lies there.
  have address := taken.address removed
  obtain ⟨place, node, removable, rfl⟩ :=
    (Workplace.unlink_ok_iff (Workplace.fit_of_address address)).mp removed
  exact ⟨place, node, ⟨address, removable, silent⟩, rfl⟩

/-- What comes of taking a path, case by case. -/
inductive Binds (workplace : Workplace) (socket : Octets) :
    Except Report Unit × Workplace × List LogEvent → Prop where
  /-- The path is free, and is taken at once. -/
  | takes {after : Workplace} (taken : workplace.listen socket = (.ok (), after)) :
      Binds workplace socket (.ok (), after, [])
  /-- No socket can be made there, and not because of what has the path. -/
  | fails {reason : IoError} (refused : (workplace.listen socket).1 = .error reason)
      (other : reason ≠ .refused .addressInUse) :
        Binds workplace socket (.error (failure reason), workplace, [])
  /-- Somebody answers. -/
  | finds (taken : Taken workplace socket) (answered : workplace.answers socket = true) :
      Binds workplace socket (.error rivalReport, workplace, [])
  /-- Nobody answers, and what has the path cannot be removed. -/
  | keeps {reason : IoError} (taken : Taken workplace socket)
      (silent : workplace.answers socket = false)
      (kept : (workplace.unlink socket).1 = .error reason) :
        Binds workplace socket (.error (failure reason), workplace, [replacing socket])
  /-- What has the path is removed, and replaced by a socket. -/
  | replaces {place : Place} {node : Node} (clears : Clears workplace socket place node)
      (stays : ¬ workplace.RestsOn socket place) :
      Binds workplace socket (.ok (), { workplace.without place with
        tree := (workplace.without place).tree.insert place
          (.socket (workplace.granted 0o777) (some (.streams true))) }, [replacing socket])
  /-- What has the path is removed, and the path is lost with it. -/
  | strands {place : Place} {node : Node} {reason : Errno}
      (clears : Clears workplace socket place node) (rests : workplace.RestsOn socket place) :
      Binds workplace socket (.error (failure (.refused reason)), workplace.without place,
        [replacing socket])

/-- Taking a path comes to one of these cases. -/
theorem binds (workplace : Workplace) (socket : Octets) :
    Binds workplace socket (bind workplace socket) := by
  -- Each call that is made on the way decides which of the cases are left.
  unfold bind
  rcases first : workplace.listen socket with ⟨reason | ⟨⟨⟩⟩, taken⟩
  · by_cases used : reason = .refused .addressInUse
    · subst used
      have isTaken : Taken workplace socket := by rw [Taken, first]
      simp only
      cases answered : workplace.answers socket with
      | true => simpa using .finds isTaken answered
      | false =>
        simp only [Bool.false_eq_true, if_false]
        rcases removal : workplace.unlink socket with ⟨kept | ⟨⟨⟩⟩, left⟩
        · -- What cannot be removed is left as it was.
          have kept' : (workplace.unlink socket).1 = .error kept := by rw [removal]
          have unchanged : left = workplace := by
            have same := Workplace.attempt_failed kept'
            rwa [← Workplace.unlink, removal] at same
          subst unchanged
          exact .keeps isTaken answered kept'
        · obtain ⟨place, node, clears, rfl⟩ := isTaken.clears answered removal
          by_cases rests : workplace.RestsOn socket place
          · obtain ⟨reason, again⟩ := clears.lost rests
            simpa only [again] using .strands clears rests
          · obtain ⟨parent, name, rfl, vacant⟩ := clears.removable.vacant rests
            simpa only [vacant.listen clears.address] using .replaces clears rests
    · have refused : (workplace.listen socket).1 = .error reason := by rw [first]
      have unchanged : taken = workplace := by
        have same := Workplace.listen_failed refused
        rwa [first] at same
      subst unchanged
      simpa using .fails refused used
  · exact .takes first

/--
Whether a daemon that nobody interrupts removes what has its path, which takes it three requests.
-/
def Removes (workplace : Workplace) (socket : Octets) : Prop :=
  (Taking.run socket 3 .fresh workplace).1 = .cleared

/-- What is cleared away is gone after three requests. -/
theorem Clears.run_three (clears : Clears workplace socket place node) :
    Taking.run socket 3 .fresh workplace =
      (.cleared, workplace.without place, [replacing socket]) := by
  simp [Taking.run, Taking.step, clears.listen, clears.silent, clears.unlink]

/-- A daemon removes exactly what it clears away. -/
theorem removes_iff_clears :
    Removes workplace socket ↔ ∃ place node, Clears workplace socket place node := by
  -- Taking a path is followed call by call, up to the removal.
  constructor
  · intro removes
    unfold Removes at removes
    rcases first : workplace.listen socket with ⟨reason | ⟨⟨⟩⟩, taken⟩
    · by_cases used : reason = .refused .addressInUse
      · subst used
        cases answered : workplace.answers socket with
        | true => simp [Taking.run, Taking.step, first, answered] at removes
        | false =>
          rcases removal : workplace.unlink socket with ⟨kept | ⟨⟨⟩⟩, left⟩
          · simp [Taking.run, Taking.step, first, answered, removal] at removes
          · have isTaken : Taken workplace socket := by rw [Taken, first]
            obtain ⟨place, node, clears, -⟩ := isTaken.clears answered removal
            exact ⟨place, node, clears⟩
      · -- Any other refusal ends the way at once.
        have stepped : Taking.step socket .fresh workplace =
            (.ended (.error (failure reason)), taken, []) := by
          simp only [Taking.step, first]
        rw [Taking.run, stepped] at removes
        simp only [Taking.run_ended] at removes
        cases removes
    · simp [Taking.run, Taking.step, first] at removes
  · -- What is cleared away is removed by the third call.
    rintro ⟨place, node, clears⟩
    rw [Removes, clears.run_three]

/--
A daemon removes whatever does not answer.

It removes what has its path, be it a stale socket or not, exactly if that is no directory and its
directory may be changed, and if the connection to the path fails, for whatever reason. It
comes about only if the path leads to a socket that may be written, with a listener who takes
streams and has room for another one: a regular file, a device and a link go as well as a
stale socket, and so does a socket on which somebody listens but which may not be written, to
whom too many connections are waiting, or who takes something else. Whatever has the path and
is not removed stays, with all the rest, and the daemon does not start.
-/
theorem removes_iff_silent (workplace : Workplace) (socket : Octets) :
    (Removes workplace socket ↔
      ∃ place node reason, SocketAddress.ofOctets socket = .ok (.path socket) ∧
        workplace.Removable socket place node ∧ workplace.connect socket = .error reason) ∧
    (SocketAddress.ofOctets socket = .ok (.path socket) → (workplace.connect socket = .ok () ↔
      ∃ spot mode, workplace.find socket = .ok (spot, .socket mode (some (.streams true))) ∧
        (Node.socket mode (some (.streams true))).writable = true)) ∧
    (∀ place node, workplace.occupant? socket = some (place, node) → Removes workplace socket →
      (Taking.run socket 3 .fresh workplace).2.1 = workplace.without place) ∧
    (Taken workplace socket → ¬ Removes workplace socket →
      (∃ report, (bind workplace socket).1 = .error report) ∧
      (bind workplace socket).2.1 = workplace) := by
  -- Clearing away is removing what lies there without an answer, and
  -- there is no answer exactly if the connection fails.
  refine ⟨?_, fun address => ?_, ?_, ?_⟩
  · -- What is cleared away is what can be removed, has the path and does not answer.
    rw [removes_iff_clears]
    constructor
    · rintro ⟨place, node, clears⟩
      obtain ⟨reason, failed⟩ := Workplace.silent_iff.mp clears.silent
      exact ⟨place, node, reason, clears.address, clears.removable, failed⟩
    · rintro ⟨place, node, reason, address, removable, failed⟩
      exact ⟨place, node, address, removable, Workplace.silent_iff.mpr ⟨reason, failed⟩⟩
  · exact Workplace.connect_eq_ok_iff address
  · -- Only one node lies at the path, so that is the one cleared away.
    intro place node occupies removes
    obtain ⟨there, held, clears⟩ := removes_iff_clears.mp removes
    cases clears.removable.occupies.symm.trans occupies
    rw [clears.run_three]
  · -- A path that is taken and not cleared away makes the daemon report why it does not start.
    intro taken remains
    have cases := binds workplace socket
    generalize bind workplace socket = bound at cases
    cases cases with
    | takes free =>
      rw [Taken, free] at taken
      cases taken
    | fails refused other => exact ⟨⟨_, rfl⟩, rfl⟩
    | finds taken answered => exact ⟨⟨_, rfl⟩, rfl⟩
    | keeps taken silent kept => exact ⟨⟨_, rfl⟩, rfl⟩
    | replaces clears stays => exact absurd (removes_iff_clears.mpr ⟨_, _, clears⟩) remains
    | strands clears rests => exact absurd (removes_iff_clears.mpr ⟨_, _, clears⟩) remains

/-- A workplace in which something is at `/s`, beside an empty file at `/t`. -/
def holding (node : Node) : Workplace :=
  ⟨⟨[([], .directory 0o755), ([[115]], node), ([[116]], .file 0o644 [])]⟩, .root, 0o022, []⟩

/--
A directory stays, and a daemon does not start there, while it removes a socket on which
nobody listens, which it could not connect to as to one that is served.
-/
theorem directory_stays :
    Taken (holding (.directory 0o755)) [47, 115] ∧
    ¬ Removes (holding (.directory 0o755)) [47, 115] ∧
    (bind (holding (.directory 0o755)) [47, 115]).2.1 = holding (.directory 0o755) ∧
    Removes (holding (.socket 0o755 none)) [47, 115] ∧
    (Taking.run [47, 115] 3 .fresh (holding (.socket 0o755 none))).2.1 =
      (holding (.socket 0o755 none)).without [[115]] ∧
    (holding (.socket 0o755 (some (.streams true)))).connect [47, 115] = .ok () := by
  -- A directory cannot be unlinked and a stale socket can, both by running the calls.
  have taken : Taken (holding (.directory 0o755)) [47, 115] := rfl
  have remains : ¬ Removes (holding (.directory 0o755)) [47, 115] := by
    intro removes
    cases removes
  have removes : Removes (holding (.socket 0o755 none)) [47, 115] := rfl
  refine ⟨taken, remains, ?_, removes, ?_, ?_⟩
  · exact ((removes_iff_silent _ _).2.2.2 taken remains).2
  · exact (removes_iff_silent _ _).2.2.1 [[115]] (.socket 0o755 none) rfl removes
  · exact ((removes_iff_silent _ _).2.1 rfl).mpr ⟨_, 0o755, rfl, rfl⟩

/--
A file, a device and a link to a file are all removed, and so is a socket
that is served, if it may not be written, if too many connections are
waiting, or if it is served for something else than streams.
-/
theorem removes_no_stale_socket :
    Removes (holding (.file 0o644 [104, 105])) [47, 115] ∧
    (bind (holding (.file 0o644 [104, 105])) [47, 115]).1 = .ok () ∧
    Removes (holding (.device 0o666)) [47, 115] ∧ Removes (holding (.link [116])) [47, 115] ∧
    Removes (holding (.socket 0o444 (some (.streams true)))) [47, 115] ∧
    Removes (holding (.socket 0o755 (some (.streams false)))) [47, 115] ∧
    Removes (holding (.socket 0o755 (some .others))) [47, 115] :=
  ⟨rfl, rfl, rfl, rfl, rfl, rfl, rfl⟩

end Wakeful.Daemon
