import Wakeful.Proofs.Daemon.Beginning
import Wakeful.Proofs.Path.Display

/-!
A path from the root means the same wherever somebody works,
and any other is read from the working directory.
-/

namespace Wakeful

/-- A walk that has met no link goes on like one that starts where it has led. -/
theorem FileTree.walk_of_plain {tree : FileTree} {start goal : Spot} {steps : List Step}
    (walked : tree.walk true 0 start steps = .ok goal) (followLast : Bool) (links : Nat)
    (later : List Step) :
    tree.walk followLast links start (steps ++ later) = tree.walk followLast links goal later := by
  induction steps generalizing start with
  | nil =>
    cases walk_nil.symm.trans walked
    rfl
  | cons step rest ih =>
    cases takes tree start step with
    | fails reason same => cases (same _ _ _).symm.trans walked
    | leads reaches same =>
      rw [← ih ((same _ _ _).symm.trans walked)]
      cases links <;> exact same _ _ _
    | meets searched held same =>
      -- No link may be followed, and one at the end would be.
      have met := (same _ _ _).symm.trans walked
      simp at met

namespace Workplace

/-- The same files, seen by somebody who works in another directory. -/
def within (workplace : Workplace) (directory : Spot) : Workplace :=
  { workplace with directory }

/-- The same outcome, seen by somebody who works in another directory. -/
def Outcome.within {α : Type} (outcome : Outcome α) (directory : Spot) : Outcome α :=
  (outcome.1, outcome.2.within directory)

@[simp] theorem tree_within (workplace : Workplace) (directory : Spot) :
    (workplace.within directory).tree = workplace.tree := rfl

/-- Whether names can be changed in a directory does not depend on where somebody works. -/
@[simp] theorem checkChange_within (workplace : Workplace) (directory parent : Spot) :
    (workplace.within directory).checkChange parent = workplace.checkChange parent := rfl

/-- A change that is made alike from another directory comes out alike there. -/
theorem attempt_within {α : Type} {change other : Except IoError (α × Workplace)}
    (workplace : Workplace) (directory : Spot)
    (alike : other = change.map fun done => (done.1, done.2.within directory)) :
    (workplace.within directory).attempt other = (workplace.attempt change).within directory := by
  -- A failed change leaves each side as it was, and a made one is the same on both.
  subst alike
  cases change <;> rfl

variable {path : Octets} (absolute : Path.isAbsolute path = true) (workplace : Workplace)
  (directory : Spot)

section Absolute

include absolute

/-- From the root the working directory makes no difference to where a path starts. -/
theorem startOf_within : (workplace.within directory).startOf path = workplace.startOf path := by
  simp [startOf, absolute]

/-- From the root the working directory makes no difference to what a path leads to. -/
theorem locate_within (followLast : Bool) :
    (workplace.within directory).locate followLast path = workplace.locate followLast path := by
  -- A path from the root starts at the root, wherever somebody works.
  unfold locate
  rw [startOf_within absolute]
  rfl

/-- From the root the working directory makes no difference to the way along a path. -/
theorem approach_within : (workplace.within directory).approach path = workplace.approach path := by
  -- Such a path starts at the root, and nothing after that depends on the directory.
  unfold approach
  rw [startOf_within absolute]
  rfl

/-- From the root the working directory makes no difference to what is found. -/
theorem find_within : (workplace.within directory).find path = workplace.find path := by
  -- What is located is the same, and the tree holds the same there.
  unfold find
  rw [locate_within absolute]
  rfl

/-- From the root the working directory makes no difference to a removal. -/
theorem unlink_within :
    (workplace.within directory).unlink path = (workplace.unlink path).within directory := by
  -- The approach is the same on both sides, and every check after it reads the tree only.
  unfold unlink
  rw [approach_within absolute]
  refine attempt_within _ _ ?_
  cases checkOctets path with
  | error reason => rfl
  | ok _ =>
    rcases workplace.approach path with reason | ⟨parent, ending, slash⟩
    · rfl
    · cases ending with
      | name name =>
        simp only [ok_bind, tree_within, checkChange_within]
        rcases workplace.tree.entry? parent name with reason | found | node
        · rfl
        · rfl
        · cases slash with
          | true => rfl
          | false =>
            cases workplace.checkChange parent with
            | error reason => rfl
            | ok _ => cases node <;> rfl
      | _ => rfl

/-- From the root the working directory makes no difference to the making of a socket. -/
theorem bindPath_within :
    (workplace.within directory).bindPath path = (workplace.bindPath path).within directory := by
  -- As for a removal, all that is left after the approach reads the tree.
  unfold bindPath
  rw [approach_within absolute]
  refine attempt_within _ _ ?_
  rcases workplace.approach path with reason | ⟨parent, ending, slash⟩
  · rfl
  · cases ending with
    | name name =>
      simp only [ok_bind, tree_within, checkChange_within]
      rcases workplace.tree.entry? parent name with reason | found | node
      · rfl
      · cases slash with
        | true => rfl
        | false => cases workplace.checkChange parent <;> rfl
      · rfl
    | _ => rfl

/-- From the root the working directory makes no difference to the taking of an address. -/
theorem listen_within :
    (workplace.within directory).listen path = (workplace.listen path).within directory := by
  -- Of the four kinds of address only a path looks at the tree at all.
  rcases ofOctets_cases path with
    ⟨empty, address⟩ | ⟨name, whole, address⟩ | ⟨-, address⟩ | ⟨reason, address, -⟩ <;>
    simp only [listen, address]
  · rfl
  · cases taken : (workplace.detached.lookup name).isSome <;> simp [within, Outcome.within, taken]
  · exact bindPath_within absolute workplace directory
  · rfl

/-- From the root the working directory makes no difference to a connection. -/
theorem connect_within : (workplace.within directory).connect path = workplace.connect path := by
  -- Only a path is looked up, and its lookup is the same.
  rcases ofOctets_cases path with
    ⟨empty, address⟩ | ⟨name, whole, address⟩ | ⟨-, address⟩ | ⟨reason, address, -⟩ <;>
    simp only [connect, address, ok_bind, error_bind]
  · rfl
  · rw [find_within absolute]

end Absolute

/-- What is joined to a path can be walked along if the whole can. -/
theorem checkPath_join {here path : Octets} (nonempty : path ≠ [])
    (short : (Path.join here path).length < pathLimit) :
    checkPath (Path.join here path) = .ok () ∧ checkPath path = .ok () := by
  -- A path behind a directory is a suffix of the whole, so it is no longer than that.
  have behind := Path.suffix_join here path
  have whole : Path.join here path ≠ [] :=
    fun empty => nonempty (List.suffix_nil.mp (empty ▸ behind))
  have shorter : path.length < pathLimit := Nat.lt_of_le_of_lt behind.length_le short
  exact ⟨checkPath_eq_ok_iff.mpr ⟨whole, short⟩, checkPath_eq_ok_iff.mpr ⟨nonempty, shorter⟩⟩

/-- Somebody works at a path from the root that leads there along no link. -/
structure WorksAt (workplace : Workplace) (here : Octets) : Prop where
  /-- The path starts at the root. -/
  absolute : Path.isAbsolute here = true
  /-- It leads to the working directory, without a link on the way. -/
  leads : workplace.tree.walk true 0 .root ((Path.names here).map Step.ofName) =
    .ok workplace.directory

namespace WorksAt

variable {workplace : Workplace} {here path : Octets} (works : workplace.WorksAt here)
  (relative : Path.isAbsolute path = false) (nonempty : path ≠ [])
  (short : (Path.join here path).length < pathLimit)

include works relative

/-- From the root the steps along the whole lead first to where somebody works. -/
theorem walk_join (followLast : Bool) (links : Nat) (steps : List Step) :
    workplace.tree.walk followLast links (workplace.startOf (Path.join here path))
        ((Path.names here).map Step.ofName ++ steps) =
      workplace.tree.walk followLast links (workplace.startOf path) steps := by
  -- The whole starts at the root, and the names of the
  -- directory lead to where the other walk starts.
  have start : workplace.startOf (Path.join here path) = .root := by
    simp [startOf, Path.isAbsolute_join relative, works.absolute]
  rw [start, FileTree.walk_of_plain works.leads, startOf, if_neg (by simp [relative])]

include nonempty short

/--
Where somebody works, what a path leads to is what it leads to behind the path of that directory.
-/
theorem locate_join (followLast : Bool) :
    workplace.locate followLast (Path.join here path) = workplace.locate followLast path := by
  -- The steps along the whole are those along the directory, then those along the path.
  obtain ⟨fine, fit⟩ := checkPath_join nonempty short
  have steps : Step.ofPath (Path.join here path) =
      (Path.names here).map Step.ofName ++ Step.ofPath path := by
    simp [Step.ofPath, Path.names_join relative, Path.endsWithSlash_join nonempty]
  simp only [locate, fine, fit, ok_bind, steps]
  exact works.walk_join relative followLast linkLimit _

/--
Where somebody works, the way along a path is the way along it behind the path of that directory.
-/
theorem approach_join (named : Path.names path ≠ []) :
    workplace.approach (Path.join here path) = workplace.approach path := by
  -- Both paths have the same last name, so only the walk up to it has to be compared.
  obtain ⟨fine, fit⟩ := checkPath_join nonempty short
  obtain ⟨front, last, names⟩ : ∃ front last, Path.names path = front ++ [last] :=
    ⟨_, _, (List.dropLast_concat_getLast named).symm⟩
  have whole : Path.names (Path.join here path) = (Path.names here ++ front) ++ [last] := by
    rw [Path.names_join relative, names, List.append_assoc]
  simp only [approach, fine, fit, ok_bind, whole, names, List.getLast?_concat, List.dropLast_concat]
  rw [List.map_append, works.walk_join relative, Path.endsWithSlash_join nonempty]

end WorksAt

end Workplace

namespace Daemon

open Locations (Settings socketName)

/--
A path that means the same to everybody: wherever they work,
what they ask for at the path comes out alike.
-/
structure Steadfast (path : Octets) : Prop where
  /-- It leads to the same. -/
  locate (workplace : Workplace) (directory : Spot) (followLast : Bool) :
    (workplace.within directory).locate followLast path = workplace.locate followLast path
  /-- Whoever listens there is reached or missed alike. -/
  connect (workplace : Workplace) (directory : Spot) :
    (workplace.within directory).connect path = workplace.connect path
  /-- The same is removed there. -/
  unlink (workplace : Workplace) (directory : Spot) :
    (workplace.within directory).unlink path = (workplace.unlink path).within directory
  /-- A daemon that takes the path takes the same. -/
  bind (workplace : Workplace) (directory : Spot) :
    Daemon.bind (workplace.within directory) path =
      ((Daemon.bind workplace path).1, (Daemon.bind workplace path).2.1.within directory,
        (Daemon.bind workplace path).2.2)

/-- From the root the working directory makes no difference to the taking of a path by a daemon. -/
theorem bind_within {path : Octets} (absolute : Path.isAbsolute path = true) (workplace : Workplace)
    (directory : Spot) : bind (workplace.within directory) path =
      ((bind workplace path).1, (bind workplace path).2.1.within directory,
        (bind workplace path).2.2) := by
  -- Each call that taking a path makes comes out alike, so the branches agree one by one.
  have answers : (workplace.within directory).answers path = workplace.answers path := by
    unfold Workplace.answers
    rw [Workplace.connect_within absolute]
  unfold bind
  rw [Workplace.listen_within absolute, answers, Workplace.unlink_within absolute]
  rcases workplace.listen path with ⟨reason | ⟨⟨⟩⟩, after⟩
  · by_cases taken : reason = .refused .addressInUse
    · subst taken
      cases workplace.answers path with
      | true => rfl
      | false =>
        rcases workplace.unlink path with ⟨reason | ⟨⟨⟩⟩, cleared⟩
        · rfl
        · simp only [Workplace.Outcome.within, Bool.false_eq_true, if_false]
          rw [Workplace.listen_within absolute]
          rfl
    · simp only [Workplace.Outcome.within]
  · rfl

/-- A path from the root means the same to everybody. -/
theorem steadfast_of_isAbsolute {path : Octets} (absolute : Path.isAbsolute path = true) :
    Steadfast path where
  locate := Workplace.locate_within absolute
  connect := Workplace.connect_within absolute
  unlink := Workplace.unlink_within absolute
  bind := bind_within absolute

/--
In an environment whose directory for temporary files is unset or a path from the root, a daemon
listens at the path to which a client in the same environment connects. Without a runtime directory,
or with one from the root, that is a path from the root and means the same to both, wherever they
work. With a relative runtime directory it is a relative path, which each of them reads from where
it works: it names what the path of the working directory names with that of the socket behind it.
-/
theorem socket_steadfast_or_relative (settings : Settings)
    (given : ∀ directory, settings.temporary = some directory → Path.isAbsolute directory = true) :
    (∀ workplace arguments attempt listener,
      (start settings workplace arguments attempt).1 = .ok listener →
        listener.socket = settings.socket) ∧
    ((∀ directory, settings.runtime = some directory → Path.isAbsolute directory = true) →
      Path.isAbsolute settings.socket = true ∧ Steadfast settings.socket) ∧
    ∀ relative, settings.runtime = some relative → relative ≠ [] →
      Path.isAbsolute relative = false →
      settings.socket = Path.join relative (socketName settings.display) ∧
      Path.isAbsolute settings.socket = false ∧
      ∀ (workplace : Workplace) (here : Octets), workplace.WorksAt here →
        (Path.join here settings.socket).length < pathLimit →
          (∀ followLast, workplace.locate followLast settings.socket =
            workplace.locate followLast (Path.join here settings.socket)) ∧
          workplace.approach settings.socket =
            workplace.approach (Path.join here settings.socket) := by
  -- What is listened at is settled before anything is tried, and the rest is about one path.
  refine ⟨fun workplace arguments attempt listener started => ?_, fun rooted => ?_, ?_⟩
  · cases prepared : prepare settings workplace arguments with
    | error ending =>
      rw [start_unprepared settings workplace arguments attempt prepared] at started
      cases started
    | ok config =>
      exact ((start_prepared settings workplace arguments attempt prepared).2.2 listener started).1
  · -- The socket is as absolute as the directory that it is in.
    have absolute : Path.isAbsolute settings.socket = true := by
      rw [Settings.socket, Locations.isAbsolute_socketPath]
      cases runtime : settings.runtime with
      | some directory => exact rooted directory runtime
      | none =>
        cases temporary : settings.temporary with
        | some directory => exact given directory temporary
        | none => rfl
    exact ⟨absolute, steadfast_of_isAbsolute absolute⟩
  · -- A relative socket has names, so joining it to the working directory adds steps in front.
    intro relative runtime nonempty unrooted
    have address : settings.socket = Path.join relative (socketName settings.display) := by
      rw [Settings.socket, runtime]
      rfl
    have outside : Path.isAbsolute settings.socket = false := by
      rw [Settings.socket, Locations.isAbsolute_socketPath, runtime]
      exact unrooted
    have named : Path.names settings.socket ≠ [] := by
      rw [Settings.socket, Locations.names_socketPath]
      simp
    refine ⟨address, outside, fun workplace here works short => ⟨fun followLast => ?_, ?_⟩⟩
    · exact (works.locate_join outside (socket_ne_nil settings) short followLast).symm
    · exact (works.approach_join outside (socket_ne_nil settings) short named).symm

/-- Two directories, each with one of the same name in it. -/
def branching : Workplace :=
  let names := ["a", "b"].map Octets.ofText
  let places := [] :: names.flatMap fun name => [[name], [Octets.ofText "run", name]]
  ⟨⟨places.map (·, .directory 0o755)⟩, .root, 0o022, []⟩

/--
A socket from the root means the same to everybody, and a relative one lies where somebody works.
-/
theorem socket_steadfast_or_in_directory :
    Steadfast (runningIn "/run").socket ∧
    (branching.within (.ofPlace [Octets.ofText "a"])).locate true (runningIn "run").socket =
      (branching.within (.ofPlace [Octets.ofText "a"])).locate true
      (Octets.ofText "/a/run/nodoze-wayland-0.sock") := by
  -- One environment with a runtime directory from the root, one with a relative one.
  constructor
  · exact ((socket_steadfast_or_relative (runningIn "/run") nofun).2.1 (by rintro _ ⟨⟩; rfl)).2
  · exact ((socket_steadfast_or_relative (runningIn "run") nofun).2.2 _ rfl (by decide) rfl).2.2
      (branching.within (.ofPlace [Octets.ofText "a"])) (Octets.ofText "/a") ⟨rfl, rfl⟩
      (by decide) |>.1 true

/--
A daemon that has taken a relative path in one directory is not found from another directory in
the same environment, and a second daemon starts to listen there beside it.
-/
theorem relative_socket_depends_on_directory :
    (runningIn "run").temporary = none ∧
    let socket := (runningIn "run").socket
    let (taken, after, _) := bind (branching.within (.ofPlace [Octets.ofText "a"])) socket
    taken = .ok () ∧ after.connect socket = .ok () ∧
      (after.within (.ofPlace [Octets.ofText "b"])).connect socket = .error (.refused .notFound) ∧
      (bind (after.within (.ofPlace [Octets.ofText "b"])) socket).1 = .ok () :=
  ⟨rfl, rfl, rfl, rfl, rfl⟩

end Daemon

end Wakeful
