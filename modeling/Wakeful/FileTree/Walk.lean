import Wakeful.FileTree.Basic
import Wakeful.Path.Basic
import Wakeful.System.Errno

/-!
Walking along a path: every directory on the way is entered, every
link is followed, and only then the last name counts.
-/

namespace Wakeful

/-- The place that a plain path names from the root. -/
def Place.ofPath (path : Octets) : Place :=
  -- A plain path has no dots and no links.
  (Path.names path).reverse

/-- The places at which volumes of the system's own begin. -/
def Place.volumes : List Place :=
  -- Everything else lies on one volume.
  ["/dev/pts", "/dev/shm", "/dev", "/proc", "/sys"].map fun path => .ofPath (Octets.ofText path)

/-- The place at which the volume begins on which another place lies. -/
def Place.volume (place : Place) : Place :=
  -- An inner volume comes before the one around it.
  (volumes.find? fun start => start.isSuffixOf place).getD []

/-- Where a walk stands. -/
structure Spot where
  /--
  The place, or the one above all directories that have been removed while somebody worked in them.
  -/
  place : Place
  /--
  The permissions of the removed directories that lead from there to the spot, innermost first.
  -/
  lost : List Nat
  deriving DecidableEq, Repr

/-- A place that is there as a spot. -/
def Spot.ofPlace (place : Place) : Spot :=
  -- Nothing on the way has been removed.
  ⟨place, []⟩

/-- The root as a spot. -/
def Spot.root : Spot :=
  -- The root cannot be removed.
  .ofPlace []

/-- Whether a spot is a directory that has been removed. -/
def Spot.isGone (spot : Spot) : Bool :=
  -- A spot that is there has lost nothing.
  !spot.lost.isEmpty

/-- The spot above another one. -/
def Spot.above (spot : Spot) : Spot :=
  -- A removed directory still knows the one in which it was, wherever that is now.
  match spot.lost with
  | [] => .ofPlace spot.place.tail
  | _ :: outer => ⟨spot.place, outer⟩

/-- What a spot becomes when the directory at a place is removed. -/
def Spot.lose (spot : Spot) (place : Place) (mode : Nat) : Spot :=
  -- The directory joins those that have been removed, and the spot keeps its own depth.
  if spot.place = place then ⟨place.tail, spot.lost ++ [mode]⟩ else spot

/-- One step of a walk. -/
inductive Step where
  /-- Enter a name. -/
  | enter (name : Octets)
  /-- Stay in the directory. -/
  | stay
  /-- Go up to the directory above. -/
  | rise
  /-- Insist that this is a directory. -/
  | insist
  deriving DecidableEq, Repr

namespace Step

/-- The step that a name of a path asks for. -/
def ofName (name : Octets) : Step :=
  -- Only the names made of one or two dots are special.
  if name = Path.self then .stay else if name = Path.parent then .rise else .enter name

/-- The steps that a path asks for. -/
def ofPath (path : Octets) : List Step :=
  -- A separator at the end asks for a directory.
  (Path.names path).map ofName ++ (if Path.endsWithSlash path then [.insist] else [])

end Step

/-- The greatest length of a single name. -/
def nameLimit : Nat := 255

/-- The length that a path has to stay below. -/
def pathLimit : Nat := 4096

/-- The number of links that one walk may follow. -/
def linkLimit : Nat := 40

namespace FileTree

/-- What lies at a spot, where a removed directory counts as an ordinary one. -/
def at? (tree : FileTree) (spot : Spot) : Option Node :=
  -- Nothing can be found in a removed directory, but it can still be entered.
  match spot.lost with
  | [] => tree.node? spot.place
  | mode :: _ => some (.directory mode)

/-- Allows looking up names at a spot only if it is a directory that may be searched. -/
def checkSearch (tree : FileTree) (spot : Spot) : Except Errno Unit :=
  -- Being no directory is found out before the permissions are looked at.
  match tree.at? spot with
  | some (.directory mode) =>
    if (Node.directory mode).searchable then .ok () else .error .permissionDenied
  | some _ => .error .notADirectory
  | none => .error .notFound

/-- What a name stands for in the directory at a spot. -/
def entry? (tree : FileTree) (spot : Spot) (name : Octets) : Except Errno (Option Node) :=
  -- A name that is too long cannot even be missing, except where every name is.
  if spot.isGone then .ok none
  else if nameLimit < name.length then .error .nameTooLong
  else .ok (tree.node? (name :: spot.place))

/-- Takes steps from a spot until a link has to be followed, which is left to somebody else. -/
def advance (tree : FileTree) (followLast : Bool)
    (followLink : Spot → Octets → List Step → Except Errno Spot) :
    Spot → List Step → Except Errno Spot
  -- A link at the very end is only followed if asked for.
  | spot, [] => .ok spot
  | spot, .insist :: rest =>
    match tree.at? spot with
    | some (.directory _) => advance tree followLast followLink spot rest
    | _ => .error .notADirectory
  | spot, .stay :: rest => do
    tree.checkSearch spot
    advance tree followLast followLink spot rest
  | spot, .rise :: rest => do
    tree.checkSearch spot
    advance tree followLast followLink spot.above rest
  | spot, .enter name :: rest => do
    tree.checkSearch spot
    match ← tree.entry? spot name with
    | none => .error .notFound
    | some (.link target) =>
      if rest.isEmpty && !followLast then .ok (.ofPlace (name :: spot.place))
      else followLink spot target rest
    | some _ => advance tree followLast followLink (.ofPlace (name :: spot.place)) rest

/-- Takes steps from a spot, following at most so many links. -/
def walk (tree : FileTree) (followLast : Bool) :
    (links : Nat) → Spot → List Step → Except Errno Spot
  -- The steps of a link come before the remaining ones, and an absolute link starts at the root.
  | 0, spot, steps => tree.advance followLast (fun _ _ _ => .error .tooManyLinks) spot steps
  | links + 1, spot, steps =>
    tree.advance followLast (fun here target rest =>
      tree.walk followLast links (if Path.isAbsolute target then .root else here)
        (Step.ofPath target ++ rest)) spot steps

end FileTree

/--
A tree together with the directory in which somebody works, the
permissions withheld from new files, and what listens outside.
-/
structure Workplace where
  /-- The tree. -/
  tree : FileTree
  /-- The working directory. -/
  directory : Spot
  /-- The permissions that new files and directories do not get. -/
  mask : Nat
  /--
  The names outside the tree under which somebody takes
  streams, each with whether there is room for one more.
  -/
  detached : List (Octets × Bool)
  deriving DecidableEq, Repr

namespace Workplace

/-- The workplace with a node at a place, to which directories lead. -/
def plant (workplace : Workplace) (place : Place) (node : Node) : Workplace :=
  -- Only the tree changes.
  { workplace with tree := workplace.tree.plant place node }

/-- The spot at which a path starts. -/
def startOf (workplace : Workplace) (path : Octets) : Spot :=
  -- Relative paths start in the working directory.
  if Path.isAbsolute path then .root else workplace.directory

/-- Refuses a path that is no path at all. -/
def checkPath (path : Octets) : Except Errno Unit :=
  -- An empty path names nothing.
  if path.isEmpty then .error .notFound
  else if pathLimit ≤ path.length then .error .nameTooLong
  else .ok ()

/-- Finds what a path leads to, with a link at its end followed if asked for. -/
def locate (workplace : Workplace) (followLast : Bool) (path : Octets) : Except Errno Spot := do
  -- What is found exists, because every step has been looked up.
  checkPath path
  workplace.tree.walk followLast linkLimit (workplace.startOf path) (Step.ofPath path)

/-- What a path ends with. -/
inductive Ending where
  /-- Nothing, since the path is the root. -/
  | root
  /-- The directory itself. -/
  | stay
  /-- The directory above. -/
  | rise
  /-- A name. -/
  | name (name : Octets)
  deriving DecidableEq, Repr

/-- A path walked up to its last name. -/
structure Approach where
  /-- The directory in which the last name is to be looked up. -/
  parent : Spot
  /-- The last name. -/
  ending : Ending
  /-- Whether a separator follows the last name. -/
  slash : Bool
  deriving DecidableEq, Repr

/-- Walks a path up to its last name. -/
def approach (workplace : Workplace) (path : Octets) : Except Errno Approach := do
  -- All links before the last name are followed, and its directory may have to be searched.
  checkPath path
  let names := Path.names path
  match names.getLast? with
  | none => return ⟨Spot.root, Ending.root, false⟩
  | some last =>
    let parent ← workplace.tree.walk true linkLimit (workplace.startOf path)
      (names.dropLast.map Step.ofName)
    workplace.tree.checkSearch parent
    let ending := match Step.ofName last with
      | .enter name => Ending.name name
      | .rise => Ending.rise
      | _ => Ending.stay
    return ⟨parent, ending, Path.endsWithSlash path⟩

/-- Allows changing the entries of a directory only if it is there and may be written. -/
def checkChange (workplace : Workplace) (parent : Spot) : Except Errno Unit :=
  -- A removed directory takes no new entries.
  if parent.isGone then .error .notFound
  else match workplace.tree.node? parent.place with
    | some node => if node.writable then .ok () else .error .permissionDenied
    | none => .error .notFound

end Workplace

end Wakeful
