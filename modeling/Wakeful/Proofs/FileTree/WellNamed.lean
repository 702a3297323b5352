import Wakeful.FileTree.Listing
import Wakeful.Proofs.FileTree.Upkeep
import Wakeful.Proofs.Text.Order

/-!
Whatever is asked of the system, no place occurs twice in the
tree, so that a directory lists each name once.
-/

namespace Wakeful

namespace FileTree

variable {tree : FileTree} {place source target parent : Place} {name : Octets} {node : Node}

/-- No place occurs twice, and every name in a place can be one. -/
structure WellNamed (tree : FileTree) : Prop where
  /-- Each place has at most one entry. -/
  distinct : (tree.nodes.map Prod.fst).Nodup
  /-- Each name on the way to something can be a name. -/
  named : ∀ entry ∈ tree.nodes, ∀ name ∈ entry.1, Path.IsName name

instance (tree : FileTree) : Decidable tree.WellNamed :=
  decidable_of_iff ((tree.nodes.map Prod.fst).Nodup ∧ ∀ entry ∈ tree.nodes, ∀ name ∈ entry.1,
    Path.IsName name)
    ⟨fun ⟨distinct, named⟩ => ⟨distinct, named⟩, fun ⟨distinct, named⟩ => ⟨distinct, named⟩⟩

/-- What is found at a place is one of the entries. -/
theorem mem_of_node? (held : tree.node? place = some node) : (place, node) ∈ tree.nodes := by
  -- The entry that a lookup finds splits the list.
  obtain ⟨before, behind, whole, -⟩ := List.lookup_eq_some_iff.mp held
  simp [whole]

/-- Where no place occurs twice, each entry is found at its place. -/
theorem WellNamed.node?_eq_some_iff (wellNamed : tree.WellNamed) :
    tree.node? place = some node ↔ (place, node) ∈ tree.nodes := by
  -- An entry is found first at its place because no earlier entry has the same place.
  refine ⟨mem_of_node?, fun among => ?_⟩
  obtain ⟨before, behind, whole⟩ := List.append_of_mem among
  have distinct := wellNamed.distinct
  rw [whole, List.map_append, List.map_cons, List.nodup_append] at distinct
  refine List.lookup_eq_some_iff.mpr ⟨before, behind, whole, fun entry earlier => ?_⟩
  have apart := distinct.2.2 entry.1 (List.mem_map_of_mem earlier) place List.mem_cons_self
  simpa using Ne.symm apart

/-- The names of a place at which something is can be names. -/
theorem WellNamed.names (wellNamed : tree.WellNamed) (held : tree.node? place = some node) :
    ∀ name ∈ place, Path.IsName name :=
  wellNamed.named (place, node) (mem_of_node? held)

/-- The tree that has only a root is well-named. -/
theorem wellNamed_empty : empty.WellNamed where
  distinct := by simp [empty]
  named := by simp [empty]

/-- A tree stays well-named when something is taken away. -/
theorem WellNamed.erase (wellNamed : tree.WellNamed) (place : Place) :
    (tree.erase place).WellNamed where
  distinct := wellNamed.distinct.sublist (List.filter_sublist.map _)
  named entry among := wellNamed.named entry ((List.mem_filter.mp among).1)

/-- A tree stays well-named when something is put at a place whose names can be names. -/
theorem WellNamed.insert (wellNamed : tree.WellNamed) (names : ∀ name ∈ place, Path.IsName name)
    (node : Node) : (tree.insert place node).WellNamed where
  -- An insertion erases the place before it adds the new entry.
  distinct := by
    refine List.nodup_cons.mpr ⟨fun among => ?_, (wellNamed.erase place).distinct⟩
    obtain ⟨entry, kept, same⟩ := List.mem_map.mp among
    simpa [same] using (List.mem_filter.mp kept).2
  named := List.forall_mem_cons.mpr ⟨names, (wellNamed.erase place).named⟩

/-- The names of a place to which something has moved are its own or those of the new place. -/
theorem mem_of_mem_movedPlace (among : name ∈ movedPlace source target place) :
    name ∈ place ∨ name ∈ target := by
  -- A place below the source keeps its inner names and gets those of the target.
  unfold movedPlace at among
  split at among
  · exact (List.mem_append.mp among).imp_left List.mem_of_mem_take
  · exact .inl among

/--
A tree stays well-named when something moves to a place whose
names can be names, and in which nothing lies.
-/
theorem WellNamed.move (wellNamed : tree.WellNamed) (hollow : tree.Hollow target)
    (names : ∀ name ∈ target, Path.IsName name) (source : Place) :
    (tree.move source target).WellNamed where
  distinct := by
    have kept := (wellNamed.erase target).distinct
    unfold FileTree.move
    unfold List.Nodup at kept ⊢
    rw [List.map_map, List.pairwise_map]
    rw [List.pairwise_map] at kept
    refine kept.imp_of_mem fun {left right} among among' apart same => ?_
    -- What moves meets nothing that stays.
    obtain ⟨inTree, elsewhere⟩ := List.mem_filter.mp among
    obtain ⟨inTree', elsewhere'⟩ := List.mem_filter.mp among'
    exact apart (movedPlace_inj hollow (by simpa using elsewhere') (by simpa using elsewhere)
      (wellNamed.node?_eq_some_iff.mpr inTree') (wellNamed.node?_eq_some_iff.mpr inTree) same)
  named := by
    intro entry among name within
    obtain ⟨former, kept, rfl⟩ := List.mem_map.mp among
    rcases mem_of_mem_movedPlace within with own | new
    · exact (wellNamed.erase target).named former kept name own
    · exact names name new

/-- Something is among the children of a place exactly if it is at that place under its name. -/
theorem WellNamed.mem_children_iff (wellNamed : tree.WellNamed) :
    (name, node) ∈ tree.children place ↔ tree.node? (name :: place) = some node := by
  -- A child is an entry whose place is one name deeper.
  rw [wellNamed.node?_eq_some_iff, children, List.mem_filterMap]
  constructor
  · rintro ⟨⟨child, held⟩, among, selected⟩
    cases child with
    | nil => cases selected
    | cons inner above =>
      simp only [Option.ite_none_right_eq_some, Option.some.injEq, Prod.mk.injEq] at selected
      obtain ⟨rfl, rfl, rfl⟩ := selected
      exact among
  · intro among
    exact ⟨_, among, by simp⟩

/-- No two children of a place have the same name. -/
theorem WellNamed.children_distinct (wellNamed : tree.WellNamed) (place : Place) :
    ((tree.children place).map Prod.fst).Nodup := by
  -- Two entries that give children of one name under one place would be at the same place.
  have distinct := wellNamed.distinct
  unfold List.Nodup at distinct ⊢
  rw [List.pairwise_map] at distinct
  rw [List.pairwise_map, children, List.pairwise_filterMap]
  refine distinct.imp fun {left right} apart child selected child' selected' same => ?_
  obtain ⟨place', node⟩ := left
  obtain ⟨place'', node'⟩ := right
  cases place' with
  | nil => cases selected
  | cons inner above =>
    cases place'' with
    | nil => cases selected'
    | cons inner' above' =>
      simp only [Option.ite_none_right_eq_some, Option.some.injEq] at selected selected'
      obtain ⟨rfl, rfl⟩ := selected
      obtain ⟨rfl, rfl⟩ := selected'
      exact apart (by simpa using same)

/-- What is listed at a spot that is there is what is found there under a name. -/
theorem WellNamed.mem_entriesAt_iff (wellNamed : tree.WellNamed) :
    (name, node) ∈ tree.entriesAt (.ofPlace place) ↔ tree.node? (name :: place) = some node := by
  -- Sorting the children loses none of them and adds none.
  rw [← wellNamed.mem_children_iff]
  exact (List.mergeSort_perm _ _).mem_iff

/-- A name is listed at a spot exactly if the spot is there and something in it has the name. -/
theorem WellNamed.name_mem_entriesAt_iff (wellNamed : tree.WellNamed) {spot : Spot} :
    (∃ entry ∈ tree.entriesAt spot, entry.1 = name) ↔
      spot.isGone = false ∧ ∃ node, tree.node? (name :: spot.place) = some node := by
  -- A spot that was removed lists nothing at all, so only one that is still there remains.
  obtain ⟨place, lost⟩ := spot
  cases lost with
  | nil =>
    constructor
    · rintro ⟨⟨other, node⟩, among, rfl⟩
      exact ⟨rfl, node, wellNamed.mem_entriesAt_iff.mp among⟩
    · rintro ⟨-, node, held⟩
      exact ⟨(name, node), wellNamed.mem_entriesAt_iff.mpr held, rfl⟩
  | cons mode outer => simp [entriesAt, Spot.isGone]

/-- The names of what is listed are in strict order, so that none occurs twice. -/
theorem WellNamed.entriesAt_ordered (wellNamed : tree.WellNamed) (spot : Spot) :
    (tree.entriesAt spot).Pairwise fun left right => Octets.before left.1 right.1 = true := by
  unfold entriesAt
  split
  · exact .nil
  · -- The sorted children are in order, and since no name occurs twice the order is strict.
    have ordered := List.pairwise_mergeSort (fun left middle right : Octets × Node => by
      simpa using Octets.not_after_trans) (fun left right => Octets.not_after_total left.1 right.1)
      (tree.children spot.place)
    have same := List.mergeSort_perm (tree.children spot.place) fun left right =>
      !Octets.before right.1 left.1
    have distinct := (same.map Prod.fst).nodup_iff.mpr (wellNamed.children_distinct spot.place)
    unfold List.Nodup at distinct
    rw [List.pairwise_map] at distinct
    refine (ordered.and distinct).imp fun {left right} both => Octets.before_of_ne both.2 ?_
    simpa using both.1

/-- Everything that is listed has a name that can be one. -/
theorem WellNamed.isName_of_mem_entriesAt (wellNamed : tree.WellNamed) {spot : Spot}
    {entry : Octets × Node} (among : entry ∈ tree.entriesAt spot) : Path.IsName entry.1 := by
  -- What is listed is held at a place, and the last name of that place is the one listed.
  unfold entriesAt at among
  split at among
  · cases among
  · have child := (List.mergeSort_perm _ _).mem_iff.mp among
    exact wellNamed.names (wellNamed.mem_children_iff.mp child) entry.1 List.mem_cons_self

end FileTree

namespace Workplace

open FileTree (WellNamed)

variable {workplace : Workplace} {path source target name : Octets} {parent : Place}

/--
A directory can be read exactly if it is found and its owner
may read it, and then everything in it is listed.
-/
theorem readDirectory_eq_ok_iff {entries : List (Octets × Node)} :
    workplace.readDirectory path = .ok entries ↔
      ∃ spot node, workplace.find path = .ok (spot, node) ∧ node.isDirectory = true ∧
        node.readable = true ∧
        entries = workplace.tree.entriesAt spot := by
  -- The path is found, then its kind and its read permission are checked in turn.
  constructor
  · intro read
    obtain ⟨⟨spot, node⟩, found, read⟩ := ok_of_bind read
    obtain ⟨directory, read⟩ := ok_of_check read
    obtain ⟨readable, read⟩ := ok_of_check read
    cases read
    exact ⟨spot, node, found, by simpa using directory, by simpa using readable, rfl⟩
  · rintro ⟨spot, node, found, directory, readable, rfl⟩
    simp [readDirectory, found, directory, readable]

/-- A directory is read only along a path that is not too long. -/
theorem length_lt_of_readDirectory {entries : List (Octets × Node)}
    (read : workplace.readDirectory path = .ok entries) : path.length < pathLimit := by
  -- The first thing every lookup does is to check the path itself.
  obtain ⟨spot, node, found, -⟩ := readDirectory_eq_ok_iff.mp read
  obtain ⟨-, located, -⟩ := find_eq_ok_iff.mp found
  obtain ⟨⟨⟩, fine, -⟩ := ok_of_bind located
  exact (checkPath_eq_ok_iff.mp fine).2

/-- A directory that can be read is listed under the path by which it was opened. -/
theorem list_eq_ok {entries : List (Octets × Node)}
    (read : workplace.readDirectory path = .ok entries) :
    workplace.list path = .ok ⟨path, entries.map fun entry =>
      ⟨entry.1, workplace.leadsToDirectory (Path.join path entry.1)⟩⟩ := by
  simp only [list, read, ok_bind, pure_eq_ok]

/-- The names of a place that is free to be given can be names. -/
theorem Nameable.names (nameable : workplace.Nameable path parent name)
    (wellNamed : workplace.tree.WellNamed) : ∀ other ∈ name :: parent, Path.IsName other := by
  -- The parent is a directory of the tree, so its names are
  -- fine, and the last name has been approached.
  obtain ⟨mode, held⟩ := nameable.inside
  exact List.forall_mem_cons.mpr ⟨isName_of_approach nameable.approached, wellNamed.names held⟩

/--
The tree stays well-named after a change that keeps it so, whether it has come out well or not.
-/
theorem wellNamed_attempt {α : Type} {change : Except IoError (α × Workplace)}
    (wellNamed : workplace.tree.WellNamed)
    (keeps : ∀ result after, change = .ok (result, after) → after.tree.WellNamed) :
    (workplace.attempt change).2.tree.WellNamed :=
  @attempt_keeps _ _ (fun after => after.tree.WellNamed) _ wellNamed keeps

/--
The tree stays well-named after every operation, in a
workplace in which everything lies in a directory.
-/
theorem Grounded.wellNamed_perform (grounded : workplace.Grounded)
    (wellNamed : workplace.tree.WellNamed) (operation : Operation) :
    (operation.perform workplace).tree.WellNamed := by
  -- Each operation erases, inserts, moves or leaves the tree alone.
  cases operation with
  | unlink path =>
    -- The two removals only ever erase a place.
    refine wellNamed_attempt wellNamed fun _ after removed => ?_
    obtain ⟨⟨⟩, fit, -⟩ := ok_of_bind removed
    obtain ⟨place, node, -, rfl⟩ := (unlink_ok_iff fit).mp (attempt_ok_iff.mpr removed)
    exact wellNamed.erase place
  | rmdir path =>
    refine wellNamed_attempt wellNamed fun _ after removed => ?_
    obtain ⟨parent, name, mode, -, -, rfl⟩ := rmdir_ok (attempt_ok_iff.mpr removed)
    exact wellNamed.erase (name :: parent)
  | mkdir path =>
    -- What is created has a name that was approached, in a directory that is there.
    simp only [Operation.perform]
    cases workplace.makes path with
    | refused reason same => rwa [same]
    | taken fit claimed same => rwa [same]
    | made nameable same =>
      rw [same]
      exact wellNamed.insert (nameable.names wellNamed) _
  | rename source target =>
    -- The new names are those of the target, and nothing is left below it that could collide.
    refine wellNamed_attempt wellNamed fun _ after renamed => ?_
    rcases rename_ok (attempt_ok_iff.mpr renamed) with
      rfl | ⟨oldName, oldParent, newName, newParent, replaced, movable, isName, rfl⟩
    · exact wellNamed
    · obtain ⟨mode, held⟩ := movable.inside
      exact wellNamed.move (movable.hollow grounded.rooted)
        (List.forall_mem_cons.mpr ⟨isName, wellNamed.names held⟩) _
  | copy breakdown source target =>
    -- A copy that gets as far as its target inserts it, whether or not it breaks down.
    simp only [Operation.perform]
    cases workplace.copies breakdown source target with
    | unopened opened same => rwa [same]
    | uncreated opened created same => rwa [same]
    | transferred opened creatable same =>
      rw [same]
      exact wellNamed.insert (creatable.names wellNamed) _
  | chdir path =>
    -- The tree is not touched at all.
    refine wellNamed_attempt wellNamed fun _ after changed => ?_
    obtain ⟨⟨spot, node⟩, -, changed⟩ := ok_of_bind changed
    obtain ⟨-, changed⟩ := ok_of_check changed
    obtain ⟨-, changed⟩ := ok_of_check changed
    cases changed
    exact wellNamed

/-- The tree stays well-named after all operations one after the other. -/
theorem Grounded.wellNamed_run (grounded : workplace.Grounded)
    (wellNamed : workplace.tree.WellNamed) (operations : List Operation) :
    (operations.foldl Operation.perform workplace).tree.WellNamed := by
  -- By induction on the operations. Groundedness is carried along, since a move relies on it.
  induction operations generalizing workplace with
  | nil => exact wellNamed
  | cons operation operations ih =>
    exact ih (grounded.perform operation) (grounded.wellNamed_perform wellNamed operation)

end Workplace

end Wakeful
