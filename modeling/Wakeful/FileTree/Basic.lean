import Wakeful.Text.Octets

/-! A tree of directories, files, links and sockets, seen as what lies at each place. -/

namespace Wakeful

/-- A place in the tree: the names that lead to it, innermost first, and none for the root. -/
abbrev Place := List Octets

/-- Somebody who listens on a socket. -/
inductive Listener where
  /-- Somebody who takes streams, and has room for one more of them or not. -/
  | streams (room : Bool)
  /-- Somebody who takes something else. -/
  | others
  deriving DecidableEq, Repr

/-- What can lie at a place. -/
inductive Node where
  /-- A directory with its permissions. -/
  | directory (mode : Nat)
  /-- A regular file with its permissions and contents. -/
  | file (mode : Nat) (contents : Octets)
  /-- A link with the path it leads along. -/
  | link (target : Octets)
  /-- A socket with its permissions, on which somebody may be listening. -/
  | socket (mode : Nat) (listener : Option Listener)
  /-- A device with its permissions, which swallows what is written and has nothing to read. -/
  | device (mode : Nat)
  deriving DecidableEq, Repr

namespace Node

/-- Whether a node is a directory. -/
def isDirectory : Node → Bool
  | directory _ => true
  | _ => false

/-- Whether a node is a link. -/
def isLink : Node → Bool
  | link _ => true
  | _ => false

/-- The permissions of a node, of which a link has all. -/
def mode : Node → Nat
  | directory mode => mode
  | file mode _ => mode
  | link _ => 0o777
  | socket mode _ => mode
  | device mode => mode

/-- The node with other permissions, which a link does not take. -/
def withMode : Node → Nat → Node
  | directory _, mode => directory mode
  | file _ contents, mode => file mode contents
  | link target, _ => link target
  | socket _ listener, mode => socket mode listener
  | device _, mode => device mode

/-- Whether the owner may read a node. -/
def readable (node : Node) : Bool :=
  -- Everything belongs to the same owner.
  node.mode.testBit 8

/-- Whether the owner may write a node. -/
def writable (node : Node) : Bool :=
  -- Everything belongs to the same owner.
  node.mode.testBit 7

/-- Whether the owner may look up names in a directory. -/
def searchable (node : Node) : Bool :=
  -- Everything belongs to the same owner.
  node.mode.testBit 6

end Node

/-- A tree. -/
structure FileTree where
  /-- What lies at each place, without a place occurring twice. -/
  nodes : List (Place × Node)
  deriving DecidableEq, Repr

namespace FileTree

/-- A tree that has only a root. -/
def empty : FileTree :=
  -- The root is a directory that everybody may search.
  ⟨[([], .directory 0o755)]⟩

/-- What lies at a place. -/
def node? (tree : FileTree) (place : Place) : Option Node :=
  -- A place without an entry is free.
  tree.nodes.lookup place

/-- The tree without what lies at a place. -/
def erase (tree : FileTree) (place : Place) : FileTree :=
  -- What lies below a place is not touched.
  ⟨tree.nodes.filter fun entry => entry.1 != place⟩

/-- The tree with a node at a place, in the stead of what lies there. -/
def insert (tree : FileTree) (place : Place) (node : Node) : FileTree :=
  -- The former entry must not hide behind the new one.
  ⟨(place, node) :: (tree.erase place).nodes⟩

/-- The tree with directories at a place and at all those above it. -/
def withDirectories (tree : FileTree) (place : Place) : FileTree :=
  -- What is there already is left alone.
  (List.range place.length).foldl (fun tree count =>
    let above := place.drop count
    if (tree.node? above).isSome then tree else tree.insert above (.directory 0o755)) tree

/-- The tree with a node at a place, to which directories lead. -/
def plant (tree : FileTree) (place : Place) (node : Node) : FileTree :=
  -- What the place held before is given up.
  (tree.withDirectories place.tail).insert place node

/-- The names in a directory with what they stand for, in no particular order. -/
def children (tree : FileTree) (place : Place) : List (Octets × Node) :=
  -- A child is one name further in.
  tree.nodes.filterMap fun (child, node) =>
    match child with
    | [] => none
    | name :: above => if above = place then some (name, node) else none

/-- Whether nothing lies directly below a place. -/
def isBare (tree : FileTree) (place : Place) : Bool :=
  -- Every entry below has an ancestor directly below.
  (tree.children place).isEmpty

/-- The place that another one becomes when everything at and below a source moves to a target. -/
def movedPlace (source target place : Place) : Place :=
  -- The inner names are kept, and the outer ones are exchanged.
  if source.isSuffixOf place then place.take (place.length - source.length) ++ target else place

/-- The tree with everything at and below a source moved to a target, whose entry is replaced. -/
def move (tree : FileTree) (source target : Place) : FileTree :=
  -- Nothing may lie below the target.
  ⟨(tree.erase target).nodes.map fun entry => (movedPlace source target entry.1, entry.2)⟩

/-- A node that was inserted is found. -/
theorem node?_insert_self (tree : FileTree) (place : Place) (node : Node) :
    (tree.insert place node).node? place = some node := by
  -- The new entry comes first.
  simp [insert, node?]

/-- Inserting a node leaves the other places alone. -/
theorem node?_insert_of_ne (tree : FileTree) {place other : Place} (node : Node)
    (different : other ≠ place) : (tree.insert place node).node? other = tree.node? other := by
  -- Neither the new entry nor the erased one is the one looked for.
  have differs : (other == place) = false := by simpa using different
  simp only [insert, node?, erase, List.lookup_cons, differs]
  induction tree.nodes with
  | nil => rfl
  | cons entry rest ih =>
    obtain ⟨key, held⟩ := entry
    by_cases same : key = place
    · have apart : (other == key) = false := by simpa [same] using different
      simp [same, List.lookup_cons, differs, ih]
    · have kept : (key != place) = true := by simpa using same
      simp only [List.filter_cons, kept, if_true, List.lookup_cons, ih]

/-- An erased place is free. -/
theorem node?_erase_self (tree : FileTree) (place : Place) :
    (tree.erase place).node? place = none := by
  -- No entry for the place is left.
  simp only [erase, node?]
  induction tree.nodes with
  | nil => rfl
  | cons entry rest ih =>
    obtain ⟨key, held⟩ := entry
    by_cases same : key = place
    · simp [same, ih]
    · have apart : (place == key) = false := by simpa using fun equal => same (Eq.symm equal)
      simp [same, List.lookup_cons, apart, ih]

/-- Erasing leaves the other places alone. -/
theorem node?_erase_of_ne (tree : FileTree) {place other : Place} (different : other ≠ place) :
    (tree.erase place).node? other = tree.node? other := by
  -- Inserting at the place erases it first and is not seen elsewhere.
  have differs : (other == place) = false := by simpa using different
  have inserted := node?_insert_of_ne tree (.directory 0) different
  simpa only [insert, node?, List.lookup_cons, differs] using inserted

end FileTree

end Wakeful
