import Wakeful.FileTree.Socket
import Wakeful.Proofs.FileTree.Approach

/-! What the requests to the system come to at a path that only ever holds a socket. -/

namespace Wakeful.Workplace

open FileTree (AgreeBut Shut)

variable {workplace : Workplace} {path socket name : Octets} {parent : Spot} {slash : Bool}
  {node : Node}

/-- What octets can be for an address: nothing, a name outside the tree, a path, or none at all. -/
theorem ofOctets_cases (octets : Octets) :
    octets = [] ∧ SocketAddress.ofOctets octets = .ok .unnamed ∨
    (∃ name, octets = 0 :: name ∧ SocketAddress.ofOctets octets = .ok (.detached name)) ∨
    octets.contains 0 = false ∧ SocketAddress.ofOctets octets = .ok (.path octets) ∨
    ∃ reason, SocketAddress.ofOctets octets = .error reason ∧
    ∀ refused, reason ≠ .refused refused := by
  -- The first octet and the length decide, besides noughts within a path.
  unfold SocketAddress.ofOctets
  split
  · exact Or.inl ⟨rfl, rfl⟩
  · rename_i name
    split
    · exact Or.inr (Or.inr (Or.inr ⟨_, rfl, by simp⟩))
    · exact Or.inr (Or.inl ⟨name, rfl, rfl⟩)
  · split
    · exact Or.inr (Or.inr (Or.inr ⟨_, rfl, by simp⟩))
    · rename_i plain
      split
      · exact Or.inr (Or.inr (Or.inr ⟨_, rfl, by simp⟩))
      · exact Or.inr (Or.inr (Or.inl ⟨Bool.eq_false_iff.mpr plain, rfl⟩))

/-- A path that is fit for an address has no octet that would end it early. -/
theorem fit_of_address (address : SocketAddress.ofOctets socket = .ok (.path socket)) :
    checkOctets socket = .ok () := by
  -- Every other kind of address is another one.
  rcases ofOctets_cases socket with ⟨-, other⟩ | ⟨name, -, other⟩ | ⟨plain, -⟩ | ⟨reason, other, -⟩
  · cases other.symm.trans address
  · cases other.symm.trans address
  · exact if_neg (by simpa using plain)
  · cases other.symm.trans address

/-- A directory whose names may be changed is there. -/
theorem present_of_checkChange (changeable : workplace.checkChange parent = .ok ()) :
    parent.isGone = false := by
  -- In a directory that is gone nothing may be changed.
  unfold checkChange at changeable
  split at changeable
  · cases changeable
  · exact Bool.eq_false_iff.mpr ‹_›

/-- What lies in a directory makes no difference to whether its names may be changed. -/
theorem checkChange_agree {tree : FileTree}
    (agree : AgreeBut (name :: parent.place) workplace.tree tree) :
    ({ workplace with tree := tree } : Workplace).checkChange parent =
      workplace.checkChange parent := by
  -- The directory itself is not what lies in it.
  have elsewhere : parent.place ≠ name :: parent.place := by
    intro same
    have longer := congrArg List.length same
    simp at longer
  unfold checkChange
  rw [agree _ elsewhere]

/-- A path at which sockets can be made, found and removed. -/
structure Usable (workplace : Workplace) (socket : Octets) (parent : Spot)
    (name : Octets) : Prop where
  /-- The path is fit for an address. -/
  address : SocketAddress.ofOctets socket = .ok (.path socket)
  /-- The path leads up to a name. -/
  approached : workplace.approach socket = .ok ⟨parent, .name name, false⟩
  /-- The name is not too long. -/
  short : name.length ≤ nameLimit
  /-- Names can be added and removed there. -/
  changeable : workplace.checkChange parent = .ok ()
  /-- A new socket can be connected to. -/
  inviting : (Node.socket (workplace.granted 0o777) (some (.streams true))).writable = true

namespace Usable

variable (usable : workplace.Usable socket parent name)
include usable

/-- The path has no octet that would end it early. -/
theorem fit : checkOctets socket = .ok () := fit_of_address usable.address

/-- The directory is there. -/
theorem present : parent.isGone = false := present_of_checkChange usable.changeable

/-- The name stands for what lies at its place. -/
theorem entry :
    workplace.tree.entry? parent name = .ok (workplace.tree.node? (name :: parent.place)) := by
  -- The name is looked up in a directory that is there.
  unfold FileTree.entry?
  rw [if_neg (by simp [usable.present]), if_neg (Nat.not_lt.mpr usable.short)]

/-- A free path can be taken. -/
theorem listen_free (free : workplace.tree.node? (name :: parent.place) = none) :
    workplace.listen socket = (.ok (), { workplace with
      tree := workplace.tree.insert (name :: parent.place)
        (.socket (workplace.granted 0o777) (some (.streams true))) }) := by
  -- Every check is passed.
  simp [listen, usable.address, bindPath, attempt, usable.approached, usable.entry, free,
    usable.changeable]

/-- A path that holds anything cannot be taken. -/
theorem listen_taken (held : workplace.tree.node? (name :: parent.place) = some node) :
    workplace.listen socket = (.error (.refused .addressInUse), workplace) := by
  simp [listen, usable.address, bindPath, attempt, usable.approached, usable.entry, held]

/-- A socket can be removed. -/
theorem unlink_socket {mode : Nat} {listener : Option Listener}
    (held : workplace.tree.node? (name :: parent.place) = some (.socket mode listener)) :
    workplace.unlink socket =
      (.ok (), { workplace with tree := workplace.tree.erase (name :: parent.place) }) := by
  -- Every check is passed.
  simp [unlink, attempt, usable.fit, usable.approached, usable.entry, held, usable.changeable,
    Node.isDirectory]

/-- Nothing can be removed from a free path. -/
theorem unlink_free (free : workplace.tree.node? (name :: parent.place) = none) :
    workplace.unlink socket = (.error (.refused .notFound), workplace) := by
  simp [unlink, attempt, usable.fit, usable.approached, usable.entry, free]

/-- Nobody answers at a free path. -/
theorem answers_free (free : workplace.tree.node? (name :: parent.place) = none) :
    workplace.answers socket = false := by
  -- Nothing is found there.
  have entry := usable.entry
  rw [free] at entry
  simp [answers, connect, usable.address, find, usable.fit,
    locate_of_free usable.approached entry, Except.toOption]

/--
At a socket somebody answers exactly if there is room for another stream and others may write to it.
-/
theorem answers_socket {mode : Nat} {listener : Option Listener}
    (held : workplace.tree.node? (name :: parent.place) = some (.socket mode listener)) :
    workplace.answers socket =
      ((Node.socket mode listener).writable && decide (listener = some (.streams true))) := by
  -- The socket is found, and then its mode and its listener decide.
  have entry := usable.entry
  rw [held] at entry
  have found : workplace.tree.at? (.ofPlace (name :: parent.place)) =
      some (.socket mode listener) := held
  cases writable : (Node.socket mode listener).writable <;> rcases listener with _ | (_ | _) | _ <;>
    simp [answers, connect, usable.address, find, usable.fit,
      locate_of_approach usable.approached entry rfl, found, writable, Listener.welcome,
      Except.toOption]

/-- Whatever becomes of the socket, its path stays usable. -/
theorem retree {tree : FileTree} (agree : AgreeBut (name :: parent.place) workplace.tree tree)
    (shut : workplace.tree.Shut (name :: parent.place)) :
    ({ workplace with tree := tree } : Workplace).Usable socket parent name where
  address := usable.address
  approached := approach_agree agree shut usable.approached
  short := usable.short
  changeable := (checkChange_agree agree).trans usable.changeable
  inviting := usable.inviting

end Usable

end Wakeful.Workplace
