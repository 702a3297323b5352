import Wakeful.Proofs.FileTree.Copy

/-! Whatever is asked of the system, everything still lies in a directory afterwards. -/

namespace Wakeful

namespace FileTree

variable {tree : FileTree} {name : Octets} {place source target parent : Place} {node : Node}

/-- Whether nothing lies in a place or further in. -/
def Hollow (tree : FileTree) (place : Place) : Prop :=
  ∀ inner ≠ [], tree.node? (inner ++ place) = none

/-- What has nothing directly in it is hollow. -/
theorem Rooted.hollow (rooted : tree.Rooted) (bare : ∀ name, tree.node? (name :: place) = none) :
    tree.Hollow place := by
  -- The outermost of the names further in would be one directly in the place.
  intro inner nonempty
  induction inner with
  | nil => exact absurd rfl nonempty
  | cons name inner ih =>
    cases held : tree.node? (name :: inner ++ place) with
    | none => rfl
    | some node =>
      cases inner with
      | nil => exact held.symm.trans (bare name)
      | cons next inner =>
        obtain ⟨mode, above⟩ := rooted.above held
        cases (ih (by simp)).symm.trans above

/-- What is no directory is hollow. -/
theorem Rooted.hollow_of_plain (rooted : tree.Rooted) (other : ¬ tree.DirectoryAt place) :
    tree.Hollow place := by
  -- What lay in it would lie in a directory.
  refine rooted.hollow fun name => ?_
  cases held : tree.node? (name :: place) with
  | none => rfl
  | some node => exact absurd (rooted.above held) other

/-- Nothing lies directly in what has no children. -/
theorem node?_of_isBare (bare : tree.isBare place = true) (name : Octets) :
    tree.node? (name :: place) = none := by
  -- What lay in it would be one of its children.
  cases held : tree.node? (name :: place) with
  | none => rfl
  | some node =>
    obtain ⟨before, behind, whole, -⟩ := List.lookup_eq_some_iff.mp held
    simp [isBare, children, whole] at bare

/-- A directory stays when something else is taken away. -/
theorem DirectoryAt.erase (directory : tree.DirectoryAt parent) (elsewhere : parent ≠ place) :
    (tree.erase place).DirectoryAt parent := by
  -- Only what is taken away is not found any more.
  obtain ⟨mode, held⟩ := directory
  exact ⟨mode, (tree.node?_erase_of_ne elsewhere).trans held⟩

/-- What is hollow can be taken away, but for the root. -/
theorem Rooted.erase (rooted : tree.Rooted) (hollow : tree.Hollow (name :: place)) :
    (tree.erase (name :: place)).Rooted where
  -- What is left lies in directories that are left, as nothing lay in what is taken away.
  root := rooted.root.erase (List.cons_ne_nil _ _).symm
  above := by
    intro inner outer node held
    have elsewhere : inner :: outer ≠ name :: place := by
      intro same
      rw [same, tree.node?_erase_self] at held
      cases held
    rw [tree.node?_erase_of_ne elsewhere] at held
    refine (rooted.above held).erase ?_
    rintro rfl
    cases (hollow [inner] (by simp)).symm.trans held

/-- What lies at a place or further in comes to lie at the same names in another place. -/
theorem movedPlace_append (source target inner : Place) :
    movedPlace source target (inner ++ source) = inner ++ target := by
  -- The names behind the place are kept.
  have within : source.isSuffixOf (inner ++ source) = true :=
    List.isSuffixOf_iff_suffix.mpr (List.suffix_append inner source)
  simp [movedPlace, within]

/-- What does not lie at a place or further in stays. -/
theorem movedPlace_of_not_suffix (outside : ¬ source <:+ place) :
    movedPlace source target place = place := by
  simp [movedPlace, List.isSuffixOf_iff_suffix, outside]

/-- What is found under a changed key had been found under a key. -/
theorem exists_of_lookup_map {entries : List (Place × Node)} {change : Place → Place}
    (found : (entries.map fun entry => (change entry.1, entry.2)).lookup place = some node) :
    ∃ former, entries.lookup former = some node ∧ change former = place := by
  -- The induction is over the entries, and the first one with the changed key is found.
  induction entries with
  | nil => cases found
  | cons entry rest ih =>
    obtain ⟨key, value⟩ := entry
    rw [List.map_cons, List.lookup_cons] at found
    by_cases same : place = change key
    · rw [beq_iff_eq.mpr same] at found
      cases found
      exact ⟨key, List.lookup_cons_self, same.symm⟩
    · rw [beq_eq_false_iff_ne.mpr same] at found
      obtain ⟨former, held, rfl⟩ := ih found
      have apart : former ≠ key := fun equal => same (congrArg change equal)
      refine ⟨former, ?_, rfl⟩
      rw [List.lookup_cons, beq_eq_false_iff_ne.mpr apart]
      exact held

/-- What is found under a key is found under the changed one if no other key becomes the same. -/
theorem lookup_map_of_unique {entries : List (Place × Node)} {change : Place → Place}
    (unique : ∀ other value, entries.lookup other = some value → change other = change place →
      other = place)
    (found : entries.lookup place = some node) :
    (entries.map fun entry => (change entry.1, entry.2)).lookup (change place) = some node := by
  -- The induction is over the entries, none of which comes to stand before the one that is found.
  induction entries with
  | nil => cases found
  | cons entry rest ih =>
    obtain ⟨key, value⟩ := entry
    rw [List.lookup_cons] at found
    rw [List.map_cons, List.lookup_cons]
    by_cases same : place = key
    · subst same
      rw [beq_self_eq_true] at found ⊢
      exact found
    · -- Another key would have to become the same.
      rw [beq_eq_false_iff_ne.mpr same] at found
      have apart : change place ≠ change key := fun equal =>
        same (unique key value List.lookup_cons_self equal.symm).symm
      rw [beq_eq_false_iff_ne.mpr apart]
      refine ih (fun other value held equal => ?_) found
      by_cases first : other = key
      · exact absurd (first ▸ equal).symm apart
      · refine unique other value ?_ equal
        rw [List.lookup_cons, beq_eq_false_iff_ne.mpr first]
        exact held

/-- What is found after a move had been somewhere before. -/
theorem exists_of_node?_move (found : (tree.move source target).node? place = some node) :
    ∃ former, former ≠ target ∧ tree.node? former = some node ∧
      movedPlace source target former = place := by
  -- What had the new place has been taken away before.
  obtain ⟨former, held, moved⟩ := exists_of_lookup_map found
  have elsewhere : former ≠ target := by
    rintro rfl
    cases (tree.node?_erase_self former).symm.trans held
  exact ⟨former, elsewhere, (tree.node?_erase_of_ne elsewhere).symm.trans held, moved⟩

/-- Nothing meets anything else in a move, if nothing lies in the place to which something moves. -/
theorem movedPlace_inj {other : Place} {value : Node} (hollow : tree.Hollow target)
    (elsewhere : place ≠ target) (different : other ≠ target) (held : tree.node? place = some node)
    (found : tree.node? other = some value)
    (same : movedPlace source target other = movedPlace source target place) : other = place := by
  -- What lies in neither place stays, and so does not meet what moves.
  have apart {inner former : Place} {held : Node} (there : tree.node? former = some held)
      (moved : former ≠ target) (meets : inner ++ target = former) : False := by
    subst meets
    refine absurd (hollow inner ?_) (by simp [there])
    rintro rfl
    exact moved rfl
  by_cases within : source <:+ place <;> by_cases within' : source <:+ other
  · obtain ⟨inner, rfl⟩ := within
    obtain ⟨inner', rfl⟩ := within'
    rw [movedPlace_append, movedPlace_append] at same
    rw [List.append_cancel_right same]
  · obtain ⟨inner, rfl⟩ := within
    rw [movedPlace_append, movedPlace_of_not_suffix within'] at same
    exact (apart found different same.symm).elim
  · obtain ⟨inner', rfl⟩ := within'
    rw [movedPlace_append, movedPlace_of_not_suffix within] at same
    exact (apart held elsewhere same).elim
  · rwa [movedPlace_of_not_suffix within, movedPlace_of_not_suffix within'] at same

/--
What was there before a move is found after it, if nothing
lies in the place to which something moves.
-/
theorem node?_move (hollow : tree.Hollow target) (elsewhere : place ≠ target)
    (held : tree.node? place = some node) :
    (tree.move source target).node? (movedPlace source target place) = some node := by
  -- No two things come to lie in one place, as nothing lies where something moves.
  refine lookup_map_of_unique (fun other value found same => ?_)
    ((tree.node?_erase_of_ne elsewhere).trans held)
  have different : other ≠ target := by
    rintro rfl
    cases (tree.node?_erase_self other).symm.trans found
  exact movedPlace_inj hollow elsewhere different held
    ((tree.node?_erase_of_ne different).symm.trans found) same

/-- A directory that nothing takes the stead of is found after a move. -/
theorem DirectoryAt.move (directory : tree.DirectoryAt place) (source : Place)
    (hollow : tree.Hollow target) (elsewhere : place ≠ target) :
    (tree.move source target).DirectoryAt (movedPlace source target place) := by
  -- It is found where its place moves.
  obtain ⟨mode, held⟩ := directory
  exact ⟨mode, node?_move hollow elsewhere held⟩

/-- A tree hangs together after a move into a directory that does not lie in what moves. -/
theorem Rooted.move {oldName newName : Octets} {oldParent newParent : Place} (rooted : tree.Rooted)
    (hollow : tree.Hollow (newName :: newParent)) (inside : tree.DirectoryAt newParent)
    (outside : ¬ (oldName :: oldParent) <:+ (newName :: newParent)) :
    (tree.move (oldName :: oldParent) (newName :: newParent)).Rooted := by
  have stays {place : Place} (directory : tree.DirectoryAt place)
      (elsewhere : place ≠ newName :: newParent) :=
    directory.move (oldName :: oldParent) hollow elsewhere
  constructor
  · have root := stays rooted.root (List.cons_ne_nil _ _).symm
    rwa [movedPlace_of_not_suffix (by simp)] at root
  · intro name place node found
    obtain ⟨former, elsewhere, held, moved⟩ := exists_of_node?_move found
    by_cases within : (oldName :: oldParent) <:+ former
    · obtain ⟨inner, rfl⟩ := within
      rw [movedPlace_append] at moved
      cases inner with
      | nil =>
        -- The directory into which something moves stays where it is.
        cases moved
        have stayed := stays inside (List.cons_ne_self _ _).symm
        rwa [movedPlace_of_not_suffix fun below =>
          outside (below.trans (List.suffix_cons _ _))] at stayed
      | cons inmost inner =>
        rw [List.cons_append, List.cons.injEq] at moved
        obtain ⟨rfl, rfl⟩ := moved
        rw [List.cons_append] at held
        have stayed := stays (rooted.above held) fun same => outside (same ▸ List.suffix_append _ _)
        rwa [movedPlace_append] at stayed
    · rw [movedPlace_of_not_suffix within] at moved
      subst moved
      have different : place ≠ newName :: newParent := by
        rintro rfl
        cases (hollow [name] (by simp)).symm.trans held
      have stayed := stays (rooted.above held) different
      rwa [movedPlace_of_not_suffix fun below =>
        within (below.trans (List.suffix_cons _ _))] at stayed

end FileTree

namespace Workplace

open FileTree (Hollow movedPlace)

variable {workplace after : Workplace} {path source target name : Octets} {parent place : Place}
  {node : Node}

/-- Whoever works in a directory that is taken away works in the one above from then on. -/
theorem Grounded.lose (grounded : workplace.Grounded) (lost : Nat)
    (inside : workplace.tree.DirectoryAt parent) :
    (workplace.directory.lose (name :: parent) lost).place ≠ name :: parent ∧
      workplace.tree.DirectoryAt (workplace.directory.lose (name :: parent) lost).place := by
  -- Whoever works elsewhere stays there.
  unfold Spot.lose
  split
  · exact ⟨(List.cons_ne_self _ _).symm, inside⟩
  · rename_i elsewhere
    exact ⟨elsewhere, grounded.inside⟩

/-- A workplace stays grounded when something hollow is taken away in which nobody works. -/
theorem Grounded.erase (grounded : workplace.Grounded)
    (hollow : workplace.tree.Hollow (name :: parent)) {directory : Spot}
    (elsewhere : directory.place ≠ name :: parent)
    (inside : workplace.tree.DirectoryAt directory.place) :
    ({ workplace with tree := workplace.tree.erase (name :: parent), directory := directory } :
      Workplace).Grounded where
  rooted := grounded.rooted.erase hollow
  inside := inside.erase elsewhere

/-- A workplace stays grounded when a name is to be removed. -/
theorem Grounded.unlink (grounded : workplace.Grounded) (path : Octets) :
    (workplace.unlink path).2.Grounded := by
  refine attempt_keeps grounded fun _ after removed => ?_
  obtain ⟨⟨⟩, fit, -⟩ := ok_of_bind removed
  obtain ⟨place, node, removable, rfl⟩ := (unlink_ok_iff fit).mp (attempt_ok_iff.mpr removed)
  obtain ⟨parent, name, slash, -, rfl, -, held⟩ := occupant?_eq_some_iff.mp removable.occupies
  have other : ¬ workplace.tree.DirectoryAt (name :: parent) := by
    rintro ⟨mode, directory⟩
    cases held.symm.trans directory
    cases removable.plain
  -- Somebody works in a directory, and so not in what is removed.
  have elsewhere : workplace.directory.place ≠ name :: parent :=
    fun same => other (same ▸ grounded.inside)
  exact grounded.erase (grounded.rooted.hollow_of_plain other) elsewhere grounded.inside

/-- What is removed as a directory is one that holds nothing. -/
theorem rmdir_ok (removed : workplace.rmdir path = (.ok (), after)) :
    ∃ parent name mode, (∃ node, workplace.tree.node? (name :: parent) = some node) ∧
      workplace.tree.isBare (name :: parent) = true ∧
      after = { workplace with
        tree := workplace.tree.erase (name :: parent)
        directory := workplace.directory.lose (name :: parent) mode } := by
  -- Each check is passed on the way, in the order in which they are made.
  obtain ⟨⟨⟩, -, removed⟩ := ok_of_bind (attempt_ok_iff.mp removed)
  obtain ⟨⟨parent, ending, slash⟩, -, removed⟩ := ok_of_bind (refusal_eq_ok_iff.mp removed)
  cases ending with
  | name name =>
    obtain ⟨held, present, removed⟩ := ok_of_bind removed
    cases held with
    | none => cases removed
    | some node =>
      obtain ⟨⟨⟩, -, removed⟩ := ok_of_bind removed
      obtain ⟨-, removed⟩ := ok_of_check removed
      obtain ⟨-, removed⟩ := ok_of_check removed
      obtain ⟨bare, removed⟩ := ok_of_check removed
      cases removed
      exact ⟨parent.place, name, node.mode,
        ⟨node, FileTree.node_of_entry present⟩, by simpa using bare, rfl⟩
  | _ => cases removed

/-- A workplace stays grounded when a directory is to be removed. -/
theorem Grounded.rmdir (grounded : workplace.Grounded) (path : Octets) :
    (workplace.rmdir path).2.Grounded := by
  -- Nothing lies in what is removed, so that what is left hangs together.
  refine attempt_keeps grounded fun _ after removed => ?_
  obtain ⟨parent, name, lost, ⟨node, held⟩, bare, rfl⟩ := rmdir_ok (attempt_ok_iff.mpr removed)
  obtain ⟨elsewhere, inside⟩ := grounded.lose lost (grounded.rooted.above held)
  exact grounded.erase (grounded.rooted.hollow (FileTree.node?_of_isBare bare)) elsewhere inside

/--
What can be moved to another place: it does not hold that place,
and takes the stead of nothing but what is like it.
-/
structure Movable (workplace : Workplace) (source target : Place)
    (replaced : Option Node) : Prop where
  /-- Something moves. -/
  moves : ∃ node, workplace.tree.node? source = some node ∧ checkKinds node replaced = .ok () ∧
    (node.isDirectory = true → workplace.tree.isBare target = true)
  /-- What has the new name is replaced. -/
  replaces : workplace.tree.node? target = replaced
  /-- A directory holds the new name. -/
  inside : workplace.tree.DirectoryAt target.tail
  /-- The new name does not lie in what moves. -/
  outside : ¬ source <:+ target

/--
What is renamed can be moved to a name that can be one, if it does not have the new name already.
-/
theorem rename_ok (renamed : workplace.rename source target = (.ok (), after)) :
    after = workplace ∨ ∃ oldName oldParent newName newParent replaced,
      workplace.Movable (oldName :: oldParent) (newName :: newParent) replaced ∧
      Path.IsName newName ∧
      after = { workplace with
        tree := workplace.tree.move (oldName :: oldParent) (newName :: newParent)
        directory := movedDirectory (oldName :: oldParent)
          (newName :: newParent) replaced workplace.directory } := by
  -- Each check is passed on the way, in the order in which they are made.
  obtain ⟨⟨⟩, -, renamed⟩ := ok_of_bind (attempt_ok_iff.mp renamed)
  obtain ⟨⟨⟩, -, renamed⟩ := ok_of_bind renamed
  obtain ⟨⟨oldParent, oldEnding, oldSlash⟩, -, renamed⟩ := ok_of_bind (refusal_eq_ok_iff.mp renamed)
  obtain ⟨⟨newParent, newEnding, newSlash⟩, approached, renamed⟩ := ok_of_bind renamed
  obtain ⟨-, renamed⟩ := ok_of_check renamed
  cases oldEnding with
  | name oldName =>
    cases newEnding with
    | name newName =>
      obtain ⟨held, present, renamed⟩ := ok_of_bind renamed
      cases held with
      | none => cases renamed
      | some node =>
        obtain ⟨replaced, found, renamed⟩ := ok_of_bind renamed
        obtain ⟨there, renamed⟩ := ok_of_check renamed
        obtain ⟨-, renamed⟩ := ok_of_check renamed
        obtain ⟨outside, renamed⟩ := ok_of_check renamed
        obtain ⟨-, renamed⟩ := ok_of_check renamed
        -- Something that keeps its place is not moved at all.
        by_cases same : oldName :: oldParent.place = newName :: newParent.place
        · rw [if_pos same] at renamed
          cases renamed
          exact .inl rfl
        · rw [if_neg same] at renamed
          obtain ⟨⟨⟩, -, renamed⟩ := ok_of_bind renamed
          obtain ⟨⟨⟩, -, renamed⟩ := ok_of_bind renamed
          obtain ⟨⟨⟩, kinds, renamed⟩ := ok_of_bind renamed
          obtain ⟨-, renamed⟩ := ok_of_check renamed
          obtain ⟨-, renamed⟩ := ok_of_check renamed
          obtain ⟨bare, renamed⟩ := ok_of_check renamed
          cases renamed
          -- What moves has been found, and it may move there.
          obtain ⟨newParent, rfl⟩ := Spot.exists_ofPlace (Bool.eq_false_iff.mpr there)
          refine .inr ⟨oldName, oldParent.place, newName, newParent, replaced, ?_,
            isName_of_approach approached, rfl⟩
          refine ⟨⟨node, FileTree.node_of_entry present, kinds, ?_⟩,
            (entry?_ofPlace_iff.mp found).2, ?_, ?_⟩
          · intro directory
            have empty : workplace.tree.isBare (newName :: (Spot.ofPlace newParent).place) =
                true := by
              simpa [directory] using bare
            exact empty
          · exact FileTree.directory_of_checkSearch (locate_eq_walk approached).1
          · intro within
            rcases List.suffix_cons_iff.mp within with equal | below
            · exact same equal
            · exact outside (List.isSuffixOf_iff_suffix.mpr below)
    | _ => cases renamed
  | _ => cases renamed

/-- Nothing lies in the place to which something can be moved. -/
theorem Movable.hollow {source target : Place} {replaced : Option Node}
    (movable : workplace.Movable source target replaced) (rooted : workplace.tree.Rooted) :
    workplace.tree.Hollow target := by
  obtain ⟨node, -, kinds, bare⟩ := movable.moves
  cases kind : node.isDirectory with
  | true => exact rooted.hollow (FileTree.node?_of_isBare (bare kind))
  | false =>
    -- Only a directory takes the stead of a directory.
    refine rooted.hollow_of_plain fun ⟨mode, held⟩ => ?_
    cases movable.replaces.symm.trans held
    simp only [checkKinds, kind, Bool.false_and, Bool.false_eq_true, if_false, Bool.not_false,
      Bool.true_and] at kinds
    cases kinds

/--
Whoever works in a directory that is replaced works in the one above when something moves there.
-/
theorem Grounded.leave (grounded : workplace.Grounded) {source : Place} {replaced : Option Node}
    (movable : workplace.Movable source (name :: parent) replaced) :
    (replaced.elim workplace.directory fun node =>
      workplace.directory.lose (name :: parent) node.mode).place ≠
        name :: parent ∧
      workplace.tree.DirectoryAt
        (replaced.elim workplace.directory fun node =>
          workplace.directory.lose (name :: parent) node.mode).place := by
  -- If nothing is replaced, nobody works in its place.
  cases replaced with
  | some node => exact grounded.lose node.mode movable.inside
  | none =>
    refine ⟨fun same => ?_, grounded.inside⟩
    obtain ⟨mode, held⟩ := grounded.inside
    cases (same ▸ movable.replaces).symm.trans held

/-- A workplace stays grounded when something is to be renamed. -/
theorem Grounded.rename (grounded : workplace.Grounded) (source target : Octets) :
    (workplace.rename source target).2.Grounded := by
  -- What moves takes the stead of something in which nothing lies.
  refine attempt_keeps grounded fun _ after renamed => ?_
  rcases rename_ok (attempt_ok_iff.mpr renamed) with
    rfl | ⟨oldName, oldParent, newName, newParent, replaced, movable, -, rfl⟩
  · exact grounded
  · have hollow := movable.hollow grounded.rooted
    obtain ⟨elsewhere, inside⟩ := grounded.leave movable
    exact ⟨grounded.rooted.move hollow movable.inside movable.outside,
      inside.move _ hollow elsewhere⟩

/-- A workplace stays grounded when somebody is to work in another directory. -/
theorem Grounded.chdir (grounded : workplace.Grounded) (path : Octets) :
    (workplace.chdir path).2.Grounded := by
  -- Nobody comes to work in what is no directory.
  refine attempt_keeps grounded fun _ after changed => ?_
  obtain ⟨⟨spot, node⟩, found, changed⟩ := ok_of_bind changed
  obtain ⟨kind, changed⟩ := ok_of_check changed
  obtain ⟨-, changed⟩ := ok_of_check changed
  cases changed
  obtain ⟨stands, held⟩ := grounded.stands_of_find found
  refine ⟨grounded.rooted, ?_⟩
  cases node with
  | directory mode => exact stands.directory held
  | _ => exact absurd rfl kind

/-- What can be asked of the system to change what is there, or where somebody works. -/
inductive Operation where
  /-- A name is removed. -/
  | unlink (path : Octets)
  /-- A directory is removed. -/
  | rmdir (path : Octets)
  /-- A directory is made. -/
  | mkdir (path : Octets)
  /-- What has a name gets another one. -/
  | rename (source target : Octets)
  /-- A file is copied, and the transfer may break off. -/
  | copy (breakdown : Option Breakdown) (source target : Octets)
  /-- The work goes on in another directory. -/
  | chdir (path : Octets)

/-- The workplace after an operation, whether it has come out well or not. -/
def Operation.perform (workplace : Workplace) : Operation → Workplace
  | unlink path => (workplace.unlink path).2
  | rmdir path => (workplace.rmdir path).2
  | mkdir path => (workplace.mkdir path).2
  | rename source target => (workplace.rename source target).2
  | copy breakdown source target => (workplace.copyDuring breakdown source target).2
  | chdir path => (workplace.chdir path).2

/-- A workplace stays grounded after every operation. -/
theorem Grounded.perform (grounded : workplace.Grounded) (operation : Operation) :
    (operation.perform workplace).Grounded := by
  -- Each operation has been shown to keep it so.
  cases operation with
  | unlink path => exact grounded.unlink path
  | rmdir path => exact grounded.rmdir path
  | mkdir path => exact grounded.mkdir path
  | rename source target => exact grounded.rename source target
  | copy breakdown source target => exact grounded.copyDuring breakdown source target
  | chdir path => exact grounded.chdir path

/-- A workplace stays grounded after all operations one after the other. -/
theorem Grounded.run (grounded : workplace.Grounded) (operations : List Operation) :
    (operations.foldl Operation.perform workplace).Grounded := by
  -- The induction is over the operations.
  induction operations generalizing workplace with
  | nil => exact grounded
  | cons operation operations ih => exact ih (grounded.perform operation)

end Workplace

end Wakeful
