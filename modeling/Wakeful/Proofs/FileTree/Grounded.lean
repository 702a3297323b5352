import Wakeful.Proofs.FileTree.Approach

/-!
In a tree in which everything lies in a directory, every walk that
follows all links leads to something other than a link.
-/

namespace Wakeful

namespace FileTree

variable {tree : FileTree} {spot next goal : Spot}

/-- Whether a directory is at a place. -/
def DirectoryAt (tree : FileTree) (place : Place) : Prop :=
  ∃ mode, tree.node? place = some (.directory mode)

/-- There is a directory at the root, and whatever else there is lies in a directory. -/
structure Rooted (tree : FileTree) : Prop where
  /-- A directory is at the root. -/
  root : tree.DirectoryAt []
  /-- A directory is above everything else. -/
  above : ∀ {name : Octets} {place : Place} {node : Node}, tree.node? (name :: place) = some node →
    tree.DirectoryAt place

/-- Whether a spot is there, and no link, or has been removed from a directory that is there. -/
inductive Stands (tree : FileTree) : Spot → Prop where
  /-- Something other than a link is there. -/
  | there {place : Place} {node : Node} (held : tree.node? place = some node)
      (plain : node.isLink = false) : Stands tree (.ofPlace place)
  /-- It has been removed, and the directory above all that has been is there. -/
  | removed {place : Place} {mode : Nat} {outer : List Nat} (above : tree.DirectoryAt place) :
      Stands tree ⟨place, mode :: outer⟩

/-- A directory is there and no link. -/
theorem DirectoryAt.stands (directory : tree.DirectoryAt spot.place) : tree.Stands spot := by
  -- A spot is at its place unless the directory there was removed from below it.
  obtain ⟨place, lost⟩ := spot
  cases lost with
  | nil =>
    obtain ⟨mode, held⟩ := directory
    exact .there held rfl
  | cons mode outer => exact .removed directory

/-- A removed directory counts as one, wherever the directory above is. -/
theorem DirectoryAt.at? (directory : tree.DirectoryAt spot.place) :
    ∃ mode, tree.at? spot = some (.directory mode) := by
  -- A removed directory is found at its spot as long as something stands in it.
  obtain ⟨place, lost⟩ := spot
  cases lost with
  | nil => exact directory
  | cons mode outer => exact ⟨mode, rfl⟩

/-- Something other than a link lies at a spot that is there. -/
theorem Stands.node (stands : tree.Stands spot) :
    ∃ node, tree.at? spot = some node ∧ node.isLink = false := by
  -- A removed spot is a directory, and any other one was found to be no link.
  cases stands with
  | there held plain => exact ⟨_, held, plain⟩
  | removed above => exact ⟨_, rfl, rfl⟩

/-- Where a directory is found, one is there, or was before it had been removed. -/
theorem Stands.directory (stands : tree.Stands spot) {mode : Nat}
    (found : tree.at? spot = some (.directory mode)) : tree.DirectoryAt spot.place := by
  -- The two ways to stand each name the directory that is meant.
  cases stands with
  | there held plain => exact ⟨mode, found⟩
  | removed above => exact above

/-- A directory lies above every spot that is there. -/
theorem Rooted.directory_above (rooted : tree.Rooted) (stands : tree.Stands spot) :
    tree.DirectoryAt spot.above.place := by
  -- Above the root is the root itself, and above anything else the directory it lies in.
  cases stands with
  | @there place node held plain =>
    cases place with
    | nil => exact rooted.root
    | cons name outer => exact rooted.above held
  | removed above => exact above

/-- A single step leads from what is there to what is there. -/
theorem Rooted.stands_of_reaches (rooted : tree.Rooted) (reaches : Reaches tree spot next)
    (stands : tree.Stands spot) : tree.Stands next := by
  -- Rising relies on the tree hanging together, the other steps on what they found.
  cases reaches with
  | stay => exact stands
  | rise searched => exact (rooted.directory_above stands).stands
  | enter searched held plain => exact .there (node_of_entry held) plain

/-- A directory stays when something is added under a name that nothing has. -/
theorem DirectoryAt.insert {place added : Place} (directory : tree.DirectoryAt place)
    (free : tree.node? added = none) (node : Node) :
    (tree.insert added node).DirectoryAt place := by
  -- The place of a directory is taken, so it is not the free place.
  obtain ⟨mode, held⟩ := directory
  have elsewhere : place ≠ added := by
    rintro rfl
    cases free.symm.trans held
  exact ⟨mode, (tree.node?_insert_of_ne node elsewhere).trans held⟩

/-- The tree that has only a root hangs together. -/
theorem rooted_empty : empty.Rooted where
  root := ⟨_, rfl⟩
  above held := by cases held

/-- What is added in a directory, under a name that nothing has, hangs together with the rest. -/
theorem Rooted.insert (rooted : tree.Rooted) {name : Octets} {parent : Place}
    (free : tree.node? (name :: parent) = none) (inside : tree.DirectoryAt parent) (added : Node) :
    (tree.insert (name :: parent) added).Rooted := by
  -- A node that is found is either the new one, below `parent`, or one that was there before.
  refine ⟨rooted.root.insert free added, fun {inner place node} held => ?_⟩
  by_cases new : inner :: place = name :: parent
  · cases new
    exact inside.insert free added
  · rw [tree.node?_insert_of_ne added new] at held
    exact (rooted.above held).insert free added

/-- Whether a walk has come to a directory. -/
def EndsInDirectory (tree : FileTree) (walked : Except Errno Spot) : Prop :=
  ∃ spot mode, walked = .ok spot ∧ tree.at? spot = some (.directory mode)

/-- A walk that follows every link leads from what is there to what is there. -/
theorem Rooted.stands_of_walk (rooted : tree.Rooted) (stands : tree.Stands spot) {links : Nat}
    {steps : List Step} (walked : tree.walk true links spot steps = .ok goal) : tree.Stands goal :=
  walk_induction rooted.root.stands rooted.stands_of_reaches stands walked

end FileTree

namespace Workplace

variable {workplace : Workplace} {path : Octets} {way : Approach} {goal : Spot}

/--
The tree hangs together, and the work is done in a directory
that is there or has been removed from one.
-/
structure Grounded (workplace : Workplace) : Prop where
  /-- Everything lies in a directory. -/
  rooted : workplace.tree.Rooted
  /-- A directory is where the work is done, or where it was before directories had been removed. -/
  inside : workplace.tree.DirectoryAt workplace.directory.place

/--
A workplace stays grounded when something is added in a directory, under a name that nothing has.
-/
theorem Grounded.insert (grounded : workplace.Grounded) {name : Octets} {parent : Place}
    (free : workplace.tree.node? (name :: parent) = none)
    (inside : workplace.tree.DirectoryAt parent) (added : Node) :
    ({ workplace with tree := workplace.tree.insert (name :: parent) added } : Workplace).Grounded
    where
  rooted := grounded.rooted.insert free inside added
  inside := grounded.inside.insert free added

/-- A path starts at something that is there. -/
theorem Grounded.stands_startOf (grounded : workplace.Grounded) :
    workplace.tree.Stands (workplace.startOf path) := by
  -- Absolute paths start at the root, all others at the working directory.
  unfold startOf
  split
  · exact grounded.rooted.root.stands
  · exact grounded.inside.stands

/-- What a path leads to is there. -/
theorem Grounded.stands_of_find (grounded : workplace.Grounded) {spot : Spot} {node : Node}
    (found : workplace.find path = .ok (spot, node)) :
    workplace.tree.Stands spot ∧ workplace.tree.at? spot = some node := by
  -- What stands at the start is kept by every step of the walk.
  obtain ⟨-, located, held⟩ := find_eq_ok_iff.mp found
  obtain ⟨⟨⟩, -, walked⟩ := ok_of_bind located
  exact ⟨grounded.rooted.stands_of_walk grounded.stands_startOf walked, held⟩

/-- What a path leads to is no link. -/
theorem Grounded.plain_of_find (grounded : workplace.Grounded) {spot : Spot} {node : Node}
    (found : workplace.find path = .ok (spot, node)) : node.isLink = false := by
  -- A spot holds one node only, and nothing stands where a link is.
  obtain ⟨stands, held⟩ := grounded.stands_of_find found
  obtain ⟨other, also, plain⟩ := stands.node
  cases held.symm.trans also
  exact plain

/-- What is found along a path tells whether the path leads to a directory. -/
theorem leadsToDirectory_of_find {spot : Spot} {node : Node}
    (found : workplace.find path = .ok (spot, node)) :
    workplace.leadsToDirectory path = node.isDirectory := by
  simp only [leadsToDirectory, found]

/-- A path leads to a directory exactly if one is found where it leads. -/
theorem leadsToDirectory_iff :
    workplace.leadsToDirectory path = true ↔
      checkOctets path = .ok () ∧ workplace.tree.EndsInDirectory (workplace.locate true path) := by
  -- Both sides look the path up and ask whether a directory was found.
  unfold leadsToDirectory
  constructor
  · intro leads
    split at leads
    · rename_i spot node found
      obtain ⟨fit, located, held⟩ := find_eq_ok_iff.mp found
      cases node with
      | directory mode => exact ⟨fit, spot, mode, located, held⟩
      | _ => cases leads
    · cases leads
  · rintro ⟨fit, spot, mode, located, held⟩
    exact leadsToDirectory_of_find (find_eq_ok_iff.mpr ⟨fit, located, held⟩)

/-- A path leads to a directory exactly if it is found, with every link followed, and is one. -/
theorem leadsToDirectory_iff_find :
    workplace.leadsToDirectory path = true ↔
      ∃ spot mode, workplace.find path = .ok (spot, .directory mode) := by
  -- A lookup checks the octets, locates the spot and reads the node there.
  constructor
  · intro leads
    obtain ⟨fit, spot, mode, located, held⟩ := leadsToDirectory_iff.mp leads
    exact ⟨spot, mode, find_eq_ok_iff.mpr ⟨fit, located, held⟩⟩
  · rintro ⟨spot, mode, found⟩
    exact leadsToDirectory_of_find found

/-- A path that ends at the root or with dots leads to a directory. -/
theorem Grounded.leadsToDirectory_of_nameless (grounded : workplace.Grounded)
    (fit : checkOctets path = .ok ()) (approached : workplace.approach path = .ok way)
    (nameless : ∀ name, way.ending ≠ .name name) : workplace.leadsToDirectory path = true := by
  -- Every ending other than a name stays at a directory or rises to one.
  refine leadsToDirectory_iff.mpr ⟨fit, ?_⟩
  cases workplace.approaches path with
  | refused reason refused => cases refused.symm.trans approached
  | root rooted located =>
    -- A path without names ends at the root, which is a directory.
    obtain ⟨mode, held⟩ : ∃ mode, workplace.tree.at? .root = some (.directory mode) :=
      grounded.rooted.root
    refine ⟨.root, mode, ?_, held⟩
    rw [located]
    exact walk_insistence held true
  | leads asked fewer reached searched led located =>
    cases led.symm.trans approached
    have stands := grounded.rooted.stands_of_walk grounded.stands_startOf reached
    cases asked with
    | name name => exact absurd rfl (nameless name)
    | stay =>
      -- The last step stays at a spot that could be searched.
      obtain ⟨mode, held⟩ := FileTree.directory_of_checkSearch searched
      refine ⟨_, mode, ?_, held⟩
      rw [located, FileTree.walk_stay searched]
      exact walk_insistence held _
    | rise =>
      -- Above whatever stands there is a directory.
      obtain ⟨mode, held⟩ := (grounded.rooted.directory_above stands).at?
      refine ⟨_, mode, ?_, held⟩
      rw [located, FileTree.walk_rise searched]
      exact walk_insistence held _

end Workplace

end Wakeful
