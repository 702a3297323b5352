import Wakeful.Proofs.FileTree.Socket

/-!
What has the name at the end of a path, and what becomes of it when a socket is to be made there.
-/

namespace Wakeful

/-- A spot that is there is that of a place. -/
theorem Spot.exists_ofPlace {spot : Spot} (present : spot.isGone = false) :
    ∃ place, spot = .ofPlace place := by
  -- Only a spot that has been lost is no place.
  obtain ⟨place, lost⟩ := spot
  cases lost with
  | nil => exact ⟨place, rfl⟩
  | cons inner outer => cases present

namespace Workplace

open FileTree (AgreeBut Shut agreeBut_erase agreeBut_insert)

variable {workplace after : Workplace} {path socket name : Octets} {parent : Spot} {slash : Bool}
variable {place : Place} {node : Node}

/-- What has the name at the end of a path, and its place, where a link counts by itself. -/
def occupant? (workplace : Workplace) (path : Octets) : Option (Place × Node) :=
  -- A path that ends with dots, or at the root, has no name at its end.
  match workplace.approach path with
  | .ok ⟨parent, .name name, _⟩ =>
    match workplace.tree.entry? parent name with
    | .ok (some node) => some (name :: parent.place, node)
    | _ => none
  | _ => none

/-- A name stands for something only in a directory that is there. -/
theorem present_of_entry (present : workplace.tree.entry? parent name = .ok (some node)) :
    parent.isGone = false := by
  -- In a directory that is gone no name is looked up.
  unfold FileTree.entry? at present
  split at present
  · cases present
  · exact Bool.eq_false_iff.mpr ‹_›

/--
In a directory that is there, a name stands for what lies at its place, unless it is too long.
-/
theorem entry?_ofPlace_iff {tree : FileTree} {parent : Place} {held : Option Node} :
    tree.entry? (.ofPlace parent) name = .ok held ↔
      name.length ≤ nameLimit ∧ tree.node? (name :: parent) = held := by
  -- A name that is too long is refused before anything is looked up.
  by_cases long : nameLimit < name.length
  · simp [FileTree.entry?, Spot.ofPlace, Spot.isGone, long, Nat.not_le.mpr long]
  · simp [FileTree.entry?, Spot.ofPlace, Spot.isGone, long, Nat.not_lt.mp long]

/-- What has the name at the end of a path lies where the path leads up to. -/
theorem occupant?_eq_some_iff :
    workplace.occupant? path = some (place, node) ↔
      ∃ parent name slash, workplace.approach path = .ok ⟨.ofPlace parent, .name name, slash⟩ ∧
        place = name :: parent ∧ name.length ≤ nameLimit ∧
        workplace.tree.node? place = some node := by
  -- The path has to end with a name, and this has to stand for something.
  constructor
  · intro occupies
    unfold occupant? at occupies
    split at occupies
    · rename_i parent name slash approached
      split at occupies
      · rename_i found present
        cases occupies
        obtain ⟨parent, rfl⟩ := Spot.exists_ofPlace (present_of_entry present)
        obtain ⟨short, held⟩ := entry?_ofPlace_iff.mp present
        exact ⟨parent, name, slash, approached, rfl, short, held⟩
      · cases occupies
    · cases occupies
  · rintro ⟨parent, name, slash, approached, rfl, short, held⟩
    have present : workplace.tree.entry? (.ofPlace parent) name = .ok (some node) :=
      entry?_ofPlace_iff.mpr ⟨short, held⟩
    simp only [occupant?, approached, present]
    rfl

/-- What a name stands for that a path leads up to has the name at its end. -/
theorem occupant?_of_entry (approached : workplace.approach path = .ok ⟨parent, .name name, slash⟩)
    (present : workplace.tree.entry? parent name = .ok (some node)) :
    workplace.occupant? path = some (name :: parent.place, node) := by
  simp [occupant?, approached, present]

/-- A change comes out well as a whole. -/
theorem attempt_ok_iff {α : Type} {change : Except IoError (α × Workplace)} {result : α} :
    workplace.attempt change = (.ok result, after) ↔ change = .ok (result, after) := by
  -- What a change comes to is kept apart from the workplace.
  unfold attempt
  split <;> simp

/-- A change that fails leaves everything as it was. -/
theorem attempt_failed {α : Type} {change : Except IoError (α × Workplace)} {reason : IoError}
    (failed : (workplace.attempt change).1 = .error reason) :
    (workplace.attempt change).2 = workplace := by
  -- Only a change that comes out well is kept.
  unfold attempt at failed ⊢
  split
  · cases failed
  · rfl

/-- What holds before a change and after every one that comes out well holds in any case. -/
theorem attempt_keeps {α : Type} {property : Workplace → Prop}
    {change : Except IoError (α × Workplace)} (holds : property workplace)
    (keeps : ∀ result after, change = .ok (result, after) → property after) :
    property (workplace.attempt change).2 := by
  -- Only a change that comes out well is kept.
  unfold attempt
  split
  · exact keeps _ _ rfl
  · exact holds

/-- What can be removed at a path: it is no directory, and the names around it may be changed. -/
structure Removable (workplace : Workplace) (path : Octets) (place : Place)
    (node : Node) : Prop where
  /-- It has the name at the end of the path. -/
  occupies : workplace.occupant? path = some (place, node)
  /-- It is no directory. -/
  plain : node.isDirectory = false
  /-- The path does not ask for a directory. -/
  bare : Path.endsWithSlash path = false
  /-- Names can be taken away there. -/
  changeable : workplace.checkChange (.ofPlace place.tail) = .ok ()

/-- A name is removed exactly if what it stands for can be, and then nothing else is. -/
theorem unlink_ok_iff (fit : checkOctets path = .ok ()) :
    workplace.unlink path = (.ok (), after) ↔
      ∃ place node, workplace.Removable path place node ∧
        after = { workplace with tree := workplace.tree.erase place } := by
  -- Each check is passed on the way, in the order in which they are made.
  rw [unlink, attempt_ok_iff, fit, ok_bind, refusal_eq_ok_iff]
  constructor
  · intro removed
    obtain ⟨⟨parent, ending, slash⟩, approached, removed⟩ := ok_of_bind removed
    cases ending with
    | name name =>
      obtain ⟨held, present, removed⟩ := ok_of_bind removed
      cases held with
      | none => cases removed
      | some node =>
        obtain ⟨bare, removed⟩ := ok_of_check removed
        obtain ⟨⟨⟩, changeable, removed⟩ := ok_of_bind removed
        obtain ⟨plain, removed⟩ := ok_of_check removed
        cases removed
        obtain ⟨parent, rfl⟩ := Spot.exists_ofPlace (present_of_entry present)
        obtain ⟨short, lies⟩ := entry?_ofPlace_iff.mp present
        have occupies :=
          occupant?_eq_some_iff.mpr ⟨parent, name, slash, approached, rfl, short, lies⟩
        rw [slash_of_approach approached] at bare
        exact ⟨_, node,
          ⟨occupies, Bool.eq_false_iff.mpr plain, Bool.eq_false_iff.mpr bare, changeable⟩, rfl⟩
    | _ => cases removed
  · -- What can be removed passes all of them.
    rintro ⟨place, node, removable, rfl⟩
    obtain ⟨parent, name, slash, approached, rfl, short, held⟩ :=
      occupant?_eq_some_iff.mp removable.occupies
    have present : workplace.tree.entry? (.ofPlace parent) name = .ok (some node) :=
      entry?_ofPlace_iff.mpr ⟨short, held⟩
    have bare : slash = false := (slash_of_approach approached).trans removable.bare
    have changeable : workplace.checkChange (.ofPlace parent) = .ok () := removable.changeable
    simp only [approached, ok_bind, present, bare, changeable, removable.plain, Bool.false_eq_true,
      if_false]
    rfl

/--
What is free to be taken at a path for a socket: a name in a directory whose names may be changed.
-/
structure Vacant (workplace : Workplace) (path : Octets) (parent : Place)
    (name : Octets) : Prop where
  /-- The path leads up to the name, and does not ask for a directory. -/
  approached : workplace.approach path = .ok ⟨.ofPlace parent, .name name, false⟩
  /-- The name is not too long. -/
  short : name.length ≤ nameLimit
  /-- Nothing has it. -/
  free : workplace.tree.node? (name :: parent) = none
  /-- Names can be added there. -/
  changeable : workplace.checkChange (.ofPlace parent) = .ok ()

/-- A socket is made exactly where the name is free to be taken, and then nothing else changes. -/
theorem bindPath_ok_iff :
    workplace.bindPath path = (.ok (), after) ↔
      ∃ parent name, workplace.Vacant path parent name ∧
        after = { workplace with
          tree := workplace.tree.insert (name :: parent)
            (.socket (workplace.granted 0o777) (some (.streams true))) } := by
  -- Each check is passed on the way, in the order in which they are made.
  rw [bindPath, attempt_ok_iff, refusal_eq_ok_iff]
  constructor
  · intro made
    obtain ⟨⟨parent, ending, slash⟩, approached, made⟩ := ok_of_bind made
    cases ending with
    | name name =>
      obtain ⟨held, present, made⟩ := ok_of_bind made
      cases held with
      | some node => cases made
      | none =>
        obtain ⟨bare, made⟩ := ok_of_check made
        obtain ⟨⟨⟩, changeable, made⟩ := ok_of_bind made
        cases made
        obtain ⟨parent, rfl⟩ := Spot.exists_ofPlace (present_of_checkChange changeable)
        obtain ⟨short, free⟩ := entry?_ofPlace_iff.mp present
        obtain rfl : slash = false := Bool.eq_false_iff.mpr bare
        exact ⟨parent, name, ⟨approached, short, free, changeable⟩, rfl⟩
    | _ => cases made
  · -- A name that is free to be taken passes all of them.
    rintro ⟨parent, name, vacant, rfl⟩
    have absent : workplace.tree.entry? (.ofPlace parent) name = .ok none :=
      entry?_ofPlace_iff.mpr ⟨vacant.short, vacant.free⟩
    simp only [vacant.approached, ok_bind, absent, Bool.false_eq_true, if_false, vacant.changeable]
    rfl

/-- A socket is made where a name is free to be taken. -/
theorem Vacant.listen {parent : Place} (vacant : workplace.Vacant socket parent name)
    (address : SocketAddress.ofOctets socket = .ok (.path socket)) :
    workplace.listen socket = (.ok (), { workplace with
      tree := workplace.tree.insert (name :: parent)
        (.socket (workplace.granted 0o777) (some (.streams true))) }) := by
  -- The address is a path, so that the socket is made in the tree.
  simp only [Workplace.listen, address]
  exact bindPath_ok_iff.mpr ⟨parent, name, vacant, rfl⟩

/-- What is put where a name was free has the name from then on, if no walk goes on from it. -/
theorem Vacant.occupant? {parent : Place} (vacant : workplace.Vacant path parent name)
    (node : Node) :
    ({ workplace with
      tree := workplace.tree.insert (name :: parent) node } : Workplace).occupant? path =
      some (name :: parent, node) := by
  -- The way up to the name does not depend on what has it.
  have approached :=
    approach_agree (agreeBut_insert _ _ node) (FileTree.shut_of_free vacant.free) vacant.approached
  exact occupant?_eq_some_iff.mpr
    ⟨parent, name, false, approached, rfl, vacant.short, workplace.tree.node?_insert_self _ _⟩

/-- A socket that cannot be made leaves everything as it was. -/
theorem listen_failed {reason : IoError} (failed : (workplace.listen socket).1 = .error reason) :
    (workplace.listen socket).2 = workplace := by
  -- For each kind of address, only what succeeds changes anything.
  unfold listen at failed ⊢
  split
  · rfl
  · rename_i path address
    simp only [address] at failed
    exact attempt_failed failed
  · rename_i name address
    simp only [address] at failed
    split at failed
    · rename_i used
      rw [if_pos used]
    · cases failed
  · rename_i address
    simp only [address] at failed
    cases failed

/-- Somebody answers exactly where a connection comes about. -/
theorem answers_iff_connect :
    workplace.answers socket = true ↔ workplace.connect socket = .ok () := by
  -- A connection brings nothing with it that could differ.
  unfold answers
  rcases workplace.connect socket with reason | ⟨⟨⟩⟩ <;> simp [Except.toOption]

/-- Nobody answers exactly where a connection fails, for whatever reason. -/
theorem silent_iff :
    workplace.answers socket = false ↔ ∃ reason, workplace.connect socket = .error reason := by
  -- A connection that does not come about has failed.
  rw [← Bool.not_eq_true, answers_iff_connect]
  rcases workplace.connect socket with reason | ⟨⟨⟩⟩ <;> simp

/-- A connection to a path comes about only with a listener who takes streams and has room. -/
theorem connect_eq_ok_iff (address : SocketAddress.ofOctets socket = .ok (.path socket)) :
    workplace.connect socket = .ok () ↔
      ∃ spot mode, workplace.find socket = .ok (spot, .socket mode (some (.streams true))) ∧
        (Node.socket mode (some (.streams true))).writable = true := by
  simp only [connect, address, ok_bind]
  constructor
  · intro connected
    obtain ⟨⟨spot, node⟩, found, connected⟩ := ok_of_bind connected
    obtain ⟨writable, welcomed⟩ := ok_of_check connected
    -- Of all that may be written, only a socket with such a listener welcomes the connection.
    rcases node with mode | ⟨mode, contents⟩ | target | ⟨mode, _ | (_ | _) | _⟩ | mode <;>
      cases welcomed
    exact ⟨spot, mode, found, by simpa using writable⟩
  · rintro ⟨spot, mode, found, writable⟩
    simp [found, writable, Listener.welcome]

/--
Somebody answers at a path exactly if it leads to a socket
with room for another stream that may be written.
-/
theorem answers_iff (address : SocketAddress.ofOctets socket = .ok (.path socket)) :
    workplace.answers socket = true ↔
      ∃ spot mode, workplace.find socket = .ok (spot, .socket mode (some (.streams true))) ∧
        (Node.socket mode (some (.streams true))).writable = true :=
  answers_iff_connect.trans (connect_eq_ok_iff address)

/-- Where something has the name, no socket can be made. -/
theorem listen_occupied (address : SocketAddress.ofOctets socket = .ok (.path socket))
    (occupies : workplace.occupant? socket = some (place, node)) :
    workplace.listen socket = (.error (.refused .addressInUse), workplace) := by
  -- The name is looked up before anything else can be refused.
  obtain ⟨parent, name, slash, approached, rfl, short, held⟩ := occupant?_eq_some_iff.mp occupies
  have present : workplace.tree.entry? (.ofPlace parent) name = .ok (some node) :=
    entry?_ofPlace_iff.mpr ⟨short, held⟩
  simp [listen, address, bindPath, attempt, approached, present]

/-- The workplace without what lies at a place. -/
def without (workplace : Workplace) (place : Place) : Workplace :=
  { workplace with tree := workplace.tree.erase place }

/--
Whether the way along a path leads through what lies at a place, so that it is lost without that.
-/
def RestsOn (workplace : Workplace) (path : Octets) (place : Place) : Prop :=
  (workplace.without place).approach path ≠ workplace.approach path

/-- What a path ends with is written in the path. -/
theorem ending_of_approach {other : Workplace} {way way' : Approach}
    (approached : workplace.approach path = .ok way)
    (approached' : other.approach path = .ok way') :
    way.ending = way'.ending ∧ way.slash = way'.slash := by
  -- Only where the path leads up to depends on the workplace.
  obtain ⟨⟨⟩, -, approached⟩ := ok_of_bind approached
  obtain ⟨⟨⟩, -, approached'⟩ := ok_of_bind approached'
  cases last : (Path.names path).getLast? with
  | none =>
    simp only [last] at approached approached'
    cases approached
    cases approached'
    exact ⟨rfl, rfl⟩
  | some name =>
    simp only [last] at approached approached'
    obtain ⟨there, -, approached⟩ := ok_of_bind approached
    obtain ⟨⟨⟩, -, approached⟩ := ok_of_bind approached
    obtain ⟨there', -, approached'⟩ := ok_of_bind approached'
    obtain ⟨⟨⟩, -, approached'⟩ := ok_of_bind approached'
    cases approached
    cases approached'
    exact ⟨rfl, rfl⟩

/-- Without what lies at some place, a way is the same or lost. -/
theorem approach_without (approached : workplace.approach path = .ok ⟨parent, .name name, slash⟩)
    (place : Place) : (workplace.without place).approach path = .ok ⟨parent, .name name, slash⟩ ∨
      ∃ reason, (workplace.without place).approach path = .error reason := by
  cases found : (workplace.without place).approach path with
  | error reason => exact Or.inr ⟨reason, rfl⟩
  | ok way =>
    left
    obtain ⟨parent', ending', slash'⟩ := way
    obtain ⟨same, also⟩ := ending_of_approach approached found
    simp only at same also
    subst same also
    -- The place is free now, so that the way does not lead there and was the same before.
    have agree : AgreeBut place (workplace.without place).tree workplace.tree :=
      fun elsewhere different => (workplace.tree.node?_erase_of_ne different).symm
    have shut : (workplace.without place).tree.Shut place :=
      FileTree.shut_of_free (workplace.tree.node?_erase_self place)
    have before :
        ({ workplace.without place with tree := workplace.tree } : Workplace).approach path = _ :=
      approach_agree agree shut found
    exact congrArg _ (Except.ok.inj (before.symm.trans approached))

/-- Only a link can be on the way to a name that it has itself. -/
theorem isLink_of_restsOn (removable : workplace.Removable path place node)
    (rests : workplace.RestsOn path place) : node.isLink = true := by
  -- A walk goes on only through directories and links, and what can be removed is no directory.
  obtain ⟨parent, name, slash, approached, rfl, short, held⟩ :=
    occupant?_eq_some_iff.mp removable.occupies
  cases linked : node.isLink with
  | true => rfl
  | false =>
    have shut : workplace.tree.Shut (name :: parent) := by
      intro other there
      cases held.symm.trans there
      exact ⟨removable.plain, linked⟩
    exact absurd ((approach_agree (agreeBut_erase _ _) shut approached).trans approached.symm) rests

/-- Where something has been removed the name is free, unless the way is lost with it. -/
theorem Removable.vacant (removable : workplace.Removable path place node)
    (stays : ¬ workplace.RestsOn path place) :
    ∃ parent name, place = name :: parent ∧ (workplace.without place).Vacant path parent name := by
  -- The way up to the name is the same without it.
  obtain ⟨parent, name, slash, approached, rfl, short, held⟩ :=
    occupant?_eq_some_iff.mp removable.occupies
  obtain rfl : slash = false := (slash_of_approach approached).trans removable.bare
  have same : (workplace.without (name :: parent)).approach path = workplace.approach path :=
    Classical.not_not.mp stays
  have changeable : (workplace.without (name :: parent)).checkChange (.ofPlace parent) = .ok () :=
    (checkChange_agree (agreeBut_erase _ _)).trans removable.changeable
  exact ⟨parent, name, rfl, same.trans approached, short, workplace.tree.node?_erase_self _,
    changeable⟩

/-- A way that is lost leads nowhere. -/
theorem Removable.lost (removable : workplace.Removable path place node)
    (rests : workplace.RestsOn path place) :
    ∃ reason, (workplace.without place).approach path = .error reason := by
  -- A way without the name is the same or none.
  obtain ⟨parent, name, slash, approached, -, -, -⟩ := occupant?_eq_some_iff.mp removable.occupies
  exact (approach_without approached place).resolve_left fun same =>
    rests (same.trans approached.symm)

/--
Whether an address is in use: by what has the name, by the
directory to which dots lead, or outside the tree.
-/
inductive Occupied (workplace : Workplace) (socket : Octets) : Prop where
  /-- Something has the name at the end of the path. -/
  | held {place : Place} {node : Node} (occupies : workplace.occupant? socket = some (place, node))
  /-- The path ends at the root or with dots. -/
  | nameless {way : Approach} (approached : workplace.approach socket = .ok way)
      (unnamed : ∀ name, way.ending ≠ .name name)
  /-- Somebody listens under a name outside the tree. -/
  | outside {name : Octets} {room : Bool} (address : socket = 0 :: name)
      (listens : workplace.detached.lookup name = some room)

/-- Somebody who answers listens outside the tree or at a path. -/
theorem address_of_answers (answered : workplace.answers socket = true) :
    (∃ name, socket = 0 :: name ∧ SocketAddress.ofOctets socket = .ok (.detached name) ∧
      workplace.detached.lookup name = some true) ∨
    socket.contains 0 = false ∧ SocketAddress.ofOctets socket = .ok (.path socket) := by
  -- Nobody listens at an address that is not one.
  have connected := answers_iff_connect.mp answered
  rcases ofOctets_cases socket with
    ⟨-, address⟩ | ⟨name, whole, address⟩ | path | ⟨reason, address, -⟩
  · simp [connect, address] at connected
  · -- Outside the tree somebody has to listen under the name and to have room.
    rcases listens : workplace.detached.lookup name with _ | _ | _
    · simp [connect, address, listens, Listener.welcome] at connected
    · simp [connect, address, listens, Listener.welcome] at connected
    · exact Or.inl ⟨name, whole, address, listens⟩
  · exact Or.inr path
  · simp [connect, address] at connected

/-- An address at which somebody answers is in use. -/
theorem occupied_of_answers (answered : workplace.answers socket = true) :
    workplace.Occupied socket := by
  -- Outside the tree a name at which somebody listens is taken.
  rcases address_of_answers answered with ⟨name, whole, -, listens⟩ | ⟨-, address⟩
  · exact .outside whole listens
  · obtain ⟨spot, mode, found, -⟩ := (answers_iff address).mp answered
    obtain ⟨⟨⟩, -, found⟩ := ok_of_bind found
    obtain ⟨goal, located, -⟩ := ok_of_bind found
    -- In the tree a socket has been found, so that the path ends with something.
    obtain ⟨⟨parent, ending, slash⟩, approached, stands⟩ :=
      approach_of_locate (refusal_eq_ok_iff.mp located)
    cases ending with
    | name name =>
      obtain ⟨node, present⟩ := stands name rfl
      exact .held (occupant?_of_entry approached present)
    | _ => exact .nameless approached (by simp)

/-- No socket can be made at an address at which somebody answers. -/
theorem listen_answered (answered : workplace.answers socket = true) :
    (workplace.listen socket).1 = .error (.refused .addressInUse) := by
  rcases address_of_answers answered with ⟨name, -, address, listens⟩ | ⟨plain, address⟩
  · simp [listen, address, listens]
  · cases occupied_of_answers answered with
    | held occupies => rw [listen_occupied address occupies]
    | nameless approached unnamed =>
      rename_i way
      obtain ⟨parent, ending, slash⟩ := way
      cases ending with
      | name name => exact absurd rfl (unnamed name)
      | _ => simp [listen, address, bindPath, attempt, approached]
    | outside whole =>
      -- A path does not begin with the octet that ends it.
      subst whole
      simp at plain

end Workplace

end Wakeful
