import Wakeful.FileTree.Walk

/-!
Reading and changing the tree: an operation that fails leaves the
tree as it was, and only a copy may leave a trace.
-/

namespace Wakeful

/-- How the making of a directory ended. -/
inductive MkdirStatus where
  /-- It was made. -/
  | created
  /-- Something has that name already. -/
  | exists
  deriving DecidableEq, Repr

namespace Workplace

/-- The result of an operation and the workplace after it. -/
abbrev Outcome (α : Type) := Except IoError α × Workplace

/-- Carries out a change as a whole or not at all. -/
def attempt {α : Type} (workplace : Workplace)
    (change : Except IoError (α × Workplace)) : Outcome α :=
  -- A failure leaves everything as it was.
  match change with
  | .ok (result, after) => (.ok result, after)
  | .error reason => (.error reason, workplace)

/-- Refuses a path that holds the octet that ends paths. -/
def checkOctets (path : Octets) : Except IoError Unit :=
  -- The system would not see what follows that octet.
  if path.contains 0 then .error .nulInPath else .ok ()

/-- A refusal of the system as a failed operation. -/
def refusal {α : Type} (result : Except Errno α) : Except IoError α :=
  -- The reason is kept.
  result.mapError .refused

/-- Finds what a path leads to, with every link followed. -/
def find (workplace : Workplace) (path : Octets) : Except IoError (Spot × Node) := do
  -- The octets are judged before the system is asked.
  checkOctets path
  let spot ← refusal (workplace.locate true path)
  match workplace.tree.at? spot with
  | some node => return (spot, node)
  | none => throw (.refused .notFound)

/-- Whether a path leads to anything. -/
def isThere (workplace : Workplace) (path : Octets) : Bool :=
  -- Any failure counts as absence.
  (workplace.find path).toOption.isSome

/-- Whether a path leads to a directory. -/
def leadsToDirectory (workplace : Workplace) (path : Octets) : Bool :=
  -- What cannot be found is none.
  match workplace.find path with
  | .ok (_, node) => node.isDirectory
  | .error _ => false

/-- Whether a path names anything, be it only a link. -/
def isNamed (workplace : Workplace) (path : Octets) : Bool :=
  -- A link at the end counts by itself.
  !path.contains 0 && (workplace.locate false path).toOption.isSome

/-- What a path names, where a link at its end counts by itself. -/
def named? (workplace : Workplace) (path : Octets) : Option Node :=
  -- What cannot be found is nothing.
  match workplace.locate false path with
  | .ok spot => workplace.tree.at? spot
  | .error _ => none

/-- Opens what a path leads to for reading. -/
def openRead (workplace : Workplace) (path : Octets) : Except IoError Node := do
  -- Directories can be opened too, although nothing can be read from them.
  let (_, node) ← workplace.find path
  match node with
  | .socket _ _ => throw (.refused .notOpenable)
  | _ => if node.readable then return node else throw (.refused .permissionDenied)

/-- The contents of an opened file. -/
def contents : Node → Except IoError Octets
  | .file _ octets => .ok octets
  | .device _ => .ok []
  | _ => .error (.refused .isADirectory)

/-- Reads a whole file. -/
def contentsOf (workplace : Workplace) (path : Octets) : Except IoError Octets := do
  -- A directory is found out only when it is read.
  contents (← workplace.openRead path)

/-- Permissions without those that are withheld. -/
def granted (workplace : Workplace) (mode : Nat) : Nat :=
  -- The mask takes away and never adds.
  mode &&& (0o777 ^^^ (workplace.mask &&& 0o777))

/-- The permissions of a new directory in another one. -/
def grantedIn (workplace : Workplace) (parent : Spot) (mode : Nat) : Nat :=
  -- A directory that hands its group on to what is made in it hands this on to new directories too.
  workplace.granted mode ||| (((workplace.tree.at? parent).elim 0 Node.mode) &&& 0o2000)

/-- Removes a name that stands for anything but a directory. -/
def unlink (workplace : Workplace) (path : Octets) : Outcome Unit :=
  -- A link is removed itself, and not what it leads to.
  workplace.attempt do
    checkOctets path
    refusal do
      let way ← workplace.approach path
      match way.ending with
      | .name name =>
        match ← workplace.tree.entry? way.parent name with
        | none => throw .notFound
        | some node =>
          if way.slash then throw (if node.isDirectory then .isADirectory else .notADirectory)
          workplace.checkChange way.parent
          if node.isDirectory then throw .isADirectory
          return ((), { workplace with tree := workplace.tree.erase (name :: way.parent.place) })
      | _ => throw .isADirectory

/-- Removes an empty directory. -/
def rmdir (workplace : Workplace) (path : Octets) : Outcome Unit :=
  -- A path that ends in dots cannot name what it removes.
  workplace.attempt do
    checkOctets path
    refusal do
      let way ← workplace.approach path
      match way.ending with
      | .root => throw .busy
      | .stay => throw .invalid
      | .rise => throw .notEmpty
      | .name name =>
        match ← workplace.tree.entry? way.parent name with
        | none => throw .notFound
        | some node =>
          workplace.checkChange way.parent
          let place := name :: way.parent.place
          if !node.isDirectory then throw .notADirectory
          if place ∈ Place.volumes then throw .busy
          if !workplace.tree.isBare place then throw .notEmpty
          return ((), { workplace with
            tree := workplace.tree.erase place
            directory := workplace.directory.lose place node.mode })

/-- Makes a single directory that everybody may search. -/
def mkdir (workplace : Workplace) (path : Octets) : Outcome MkdirStatus :=
  -- A name that is taken is no failure, whatever it stands for.
  workplace.attempt do
    checkOctets path
    refusal do
      let way ← workplace.approach path
      match way.ending with
      | .name name =>
        match ← workplace.tree.entry? way.parent name with
        | some _ => return (.exists, workplace)
        | none =>
          workplace.checkChange way.parent
          let node := Node.directory (workplace.grantedIn way.parent 0o755)
          return (.created,
            { workplace with tree := workplace.tree.insert (name :: way.parent.place) node })
      | _ => return (.exists, workplace)

/-- Makes a new empty file and tells its place. -/
def createNew (workplace : Workplace) (path : Octets) : Except IoError (Place × Workplace) := do
  -- A name that is taken is refused, even by a link that leads nowhere.
  checkOctets path
  refusal do
    let way ← workplace.approach path
    match way.ending with
    | .name name =>
      if way.slash then throw .isADirectory
      match ← workplace.tree.entry? way.parent name with
      | some _ => throw .alreadyExists
      | none =>
        workplace.checkChange way.parent
        let place := name :: way.parent.place
        let node := Node.file (workplace.granted 0o666) []
        return (place, { workplace with tree := workplace.tree.insert place node })
    | _ => throw .alreadyExists

/--
Makes the file that a path leads to where nothing is,
following at most so many links, and tells its place.
-/
def makeFile (workplace : Workplace) :
    (links : Nat) → (path : Octets) → Except Errno (Place × Workplace)
  -- A link that leads nowhere is followed, and a name is made only in a directory that is there.
  | links, path => do
    let way ← workplace.approach path
    match way.ending with
    | .name name =>
      if way.slash then throw .isADirectory
      if way.parent.isGone then throw .notFound
      match ← workplace.tree.entry? way.parent name, links with
      | none, _ =>
        workplace.checkChange way.parent
        let place := name :: way.parent.place
        return (place,
          { workplace with
            tree := workplace.tree.insert place (.file (workplace.granted 0o666) []) })
      | some (.link target), links + 1 =>
        let (place, after) ← makeFile { workplace with directory := way.parent } links target
        return (place, { after with directory := workplace.directory })
      | _, _ => throw .notFound
    | _ => throw .isADirectory

/--
Opens a file to write it, makes it if it is not there, and tells
its place if it is one that keeps what is written.
-/
def openWrite (workplace : Workplace) (truncates : Bool) (path : Octets) :
    Except Errno (Option Place × Workplace) := do
  -- What is there keeps its permissions.
  if path.contains 0 then throw .notFound
  match workplace.locate true path with
  | .ok spot =>
    match workplace.tree.at? spot with
    | some (.file mode contents) =>
      if !(Node.file mode contents).writable then throw .permissionDenied
      let kept := if truncates then [] else contents
      return (some spot.place,
        { workplace with tree := workplace.tree.insert spot.place (.file mode kept) })
    | some (.device mode) =>
      if (Node.device mode).writable then return (none, workplace) else throw .permissionDenied
    | some (.directory _) => throw .isADirectory
    | some _ => throw .notOpenable
    | none => throw .notFound
  | .error .notFound =>
    let (place, after) ← workplace.makeFile linkLimit path
    return (some place, after)
  | .error reason => throw reason

/-- Writes a whole file. -/
def writeFile (workplace : Workplace) (path contents : Octets) : Except Errno Workplace := do
  -- The permissions stay as they are.
  match ← workplace.openWrite true path with
  | (none, after) => return after
  | (some place, after) =>
    match after.tree.node? place with
    | some (.file mode _) =>
      return { after with tree := after.tree.insert place (.file mode contents) }
    | _ => throw .notFound

/-- Copies a file to a new name and counts the octets. -/
def copy (workplace : Workplace) (source target : Octets) : Outcome Nat :=
  -- The target is made before anything is read, so a source that cannot be read leaves it empty.
  match workplace.openRead source with
  | .error reason => (.error reason, workplace)
  | .ok node =>
    match workplace.createNew target with
    | .error reason => (.error reason, workplace)
    | .ok (place, after) =>
      match contents node with
      | .error reason => (.error reason, after)
      | .ok octets =>
        let filled := Node.file (workplace.granted 0o666) octets
        (.ok octets.length, { after with tree := after.tree.insert place filled })

/-- Where a working directory is after something moved. -/
def movedDirectory (source target : Place) (replaced : Option Node) (directory : Spot) : Spot :=
  -- A directory that the move replaced is gone, and it lies in none that moves.
  let left := replaced.elim directory fun node => directory.lose target node.mode
  { left with place := FileTree.movedPlace source target left.place }

/-- Allows a move onto a name only if both are directories or neither is. -/
def checkKinds (moved : Node) : Option Node → Except Errno Unit
  -- A free name takes everything.
  | none => .ok ()
  | some replaced =>
    if moved.isDirectory && !replaced.isDirectory then .error .notADirectory
    else if !moved.isDirectory && replaced.isDirectory then .error .isADirectory
    else .ok ()

/-- Moves what one name stands for to another one, which it replaces. -/
def rename (workplace : Workplace) (source target : Octets) : Outcome Unit :=
  -- The checks come in the order in which the system makes them.
  workplace.attempt do
    checkOctets source
    checkOctets target
    refusal do
      let origin ← workplace.approach source
      let goal ← workplace.approach target
      if origin.parent.place.volume ≠ goal.parent.place.volume then throw .crossesDevices
      match origin.ending, goal.ending with
      | .name oldName, .name newName =>
        match ← workplace.tree.entry? origin.parent oldName with
        | none => throw .notFound
        | some node =>
          let replaced ← workplace.tree.entry? goal.parent newName
          if goal.parent.isGone then throw .notFound
          let oldPlace := oldName :: origin.parent.place
          let newPlace := newName :: goal.parent.place
          if !node.isDirectory && (origin.slash || goal.slash) then throw .notADirectory
          if oldPlace.isSuffixOf goal.parent.place then throw .invalid
          if replaced.isSome && newPlace.isSuffixOf origin.parent.place then throw .notEmpty
          if oldPlace = newPlace then return ((), workplace)
          workplace.checkChange origin.parent
          workplace.checkChange goal.parent
          checkKinds node replaced
          if node.isDirectory && origin.parent ≠ goal.parent && !node.writable then
            throw .permissionDenied
          if oldPlace ∈ Place.volumes || newPlace ∈ Place.volumes then throw .busy
          if node.isDirectory && !workplace.tree.isBare newPlace then throw .notEmpty
          return ((), { workplace with
            tree := workplace.tree.move oldPlace newPlace
            directory := movedDirectory oldPlace newPlace replaced workplace.directory })
      | _, _ => throw .busy

/-- Starts to work in another directory. -/
def chdir (workplace : Workplace) (path : Octets) : Outcome Unit :=
  -- It has to be possible to look up names in it.
  workplace.attempt do
    let (spot, node) ← workplace.find path
    if !node.isDirectory then throw (.refused .notADirectory)
    if !node.searchable then throw (.refused .permissionDenied)
    return ((), { workplace with directory := spot })

/-- The path of a place from the root. -/
def pathOf (place : Place) : Octets :=
  -- Every name has a separator before it, and the root is a separator alone.
  match place.reverse with
  | [] => [Octets.slash]
  | names => names.flatMap (Octets.slash :: ·)

/-- The path of the working directory. -/
def getcwd (workplace : Workplace) : Except IoError Octets :=
  -- A directory that is gone has no path.
  if workplace.directory.isGone then .error (.refused .notFound)
  else .ok (pathOf workplace.directory.place)

end Workplace

end Wakeful
