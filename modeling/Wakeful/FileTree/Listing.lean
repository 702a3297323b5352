import Wakeful.FileTree.Operations

/-! Listing a directory, and surveying everything below one. -/

namespace Wakeful

/-- An entry of a directory. -/
structure ListedEntry where
  /-- Its name. -/
  name : Octets
  /-- Whether it leads to a directory. -/
  isDirectory : Bool
  deriving DecidableEq, Repr

/-- A directory with its entries. -/
structure Listing where
  /-- The path by which it was opened. -/
  path : Octets
  /-- Its entries in the order of their names. -/
  entries : List ListedEntry
  deriving DecidableEq, Repr

namespace FileTree

/-- The names at a spot with what they stand for, in order. -/
def entriesAt (tree : FileTree) (spot : Spot) : List (Octets × Node) :=
  -- A removed directory is empty.
  if spot.isGone then []
  else (tree.children spot.place).mergeSort fun left right => !Octets.before right.1 left.1

end FileTree

namespace Workplace

/-- Opens a directory for reading and gives its names with what they stand for, in order. -/
def readDirectory (workplace : Workplace) (path : Octets) :
    Except IoError (List (Octets × Node)) := do
  -- It need not be possible to look up its names.
  let (spot, node) ← workplace.find path
  if !node.isDirectory then throw (.refused .notADirectory)
  if !node.readable then throw (.refused .permissionDenied)
  return workplace.tree.entriesAt spot

/-- Lists a directory. -/
def list (workplace : Workplace) (path : Octets) : Except IoError Listing := do
  -- Whether an entry is a directory is asked by its path, with every link followed.
  let entries ← workplace.readDirectory path
  return ⟨path, entries.map fun entry =>
    ⟨entry.1, workplace.leadsToDirectory (Path.join path entry.1)⟩⟩

end Workplace

namespace FileTree

/-- The path of a place below another one. -/
def pathBelow (above place : Place) : Octets :=
  -- The names further in are joined by separators.
  List.intercalate [Octets.slash] (place.take (place.length - above.length)).reverse

/-- Whether a node keeps nothing from a survey. -/
def isOpen (tree : FileTree) (place : Place) (node : Node) : Bool :=
  -- Directories have to be listed and entered, and files have to be read.
  match node with
  | .directory _ => node.readable && (tree.isBare place || node.searchable)
  | .file _ _ => node.readable
  | _ => true

/-- Everything below a place with its path from there, in the order of the paths. -/
def survey (tree : FileTree) (above : Place) : Except Errno (List (Octets × Node)) :=
  -- A single closed node makes the whole survey fail.
  let within := tree.nodes.filter fun entry => above.isSuffixOf entry.1
  if within.all fun entry => tree.isOpen entry.1 entry.2 then
    let below := within.filter fun entry => entry.1 != above
    .ok ((below.map fun entry => (pathBelow above entry.1, entry.2)).mergeSort
      fun left right => !Octets.before right.1 left.1)
  else .error .permissionDenied

end FileTree

end Wakeful
