import Wakeful.Proofs.FileTree.Creation

/-!
A copy adds at most one file and changes nothing that was there, but
it may leave a part of that file behind when it fails.
-/

namespace Wakeful

/--
Whether a separator follows the last name of a path, so that
the path asks for a directory of that name.
-/
def Path.asksForDirectory (path : Octets) : Bool :=
  -- Behind dots a separator asks for nothing that is not there already.
  match (names path).getLast?.map Step.ofName with
  | some (.enter _) => endsWithSlash path
  | _ => false

/-- A node that is put in the stead of a new one is put there at once. -/
theorem FileTree.insert_insert (tree : FileTree) (place : Place) (node other : Node) :
    (tree.insert place node).insert place other = tree.insert place other := by
  simp [insert, erase, List.filter_filter]

/-- How the system breaks a transfer off. -/
structure Breakdown where
  /-- How many octets have been written until then. -/
  written : Nat
  /-- The reason. -/
  reason : Errno
  deriving DecidableEq, Repr

namespace Workplace

variable {workplace after : Workplace} {breakdown : Option Breakdown}
  {source target name contents : Octets}
variable {parent place : Place} {node : Node}

/-- What arrives of the contents of an opened file, and what is told of it. -/
def transfer (breakdown : Option Breakdown) (node : Node) : Octets × Except IoError Nat :=
  -- From a directory nothing arrives at all.
  match Workplace.contents node, breakdown with
  | .error reason, _ => ([], .error reason)
  | .ok octets, none => (octets, .ok octets.length)
  | .ok octets, some breakdown =>
    (octets.take breakdown.written, .error (.refused breakdown.reason))

/-- The workplace with a new file in a directory. -/
def withFile (workplace : Workplace) (parent : Place) (name contents : Octets) : Workplace :=
  { workplace with
    tree := workplace.tree.insert (name :: parent) (.file (workplace.granted 0o666) contents) }

/-- Copies a file to a new name while the system may break the transfer off. -/
def copyDuring (workplace : Workplace) (breakdown : Option Breakdown)
    (source target : Octets) : Outcome Nat :=
  -- What has arrived until then stays.
  match workplace.openRead source with
  | .error reason => (.error reason, workplace)
  | .ok node =>
    match workplace.createNew target with
    | .error reason => (.error reason, workplace)
    | .ok (place, after) =>
      let (octets, told) := transfer breakdown node
      (told, { after with
        tree := after.tree.insert place (.file (workplace.granted 0o666) octets) })

/-- A name that is free to be given to a file. -/
structure Creatable (workplace : Workplace) (path : Octets) (parent : Place) (name : Octets) : Prop
    extends workplace.Nameable path parent name where
  /-- The path does not ask for a directory. -/
  bare : Path.endsWithSlash path = false

/-- What a copy comes to. -/
inductive Copies (workplace : Workplace) (breakdown : Option Breakdown)
    (source target : Octets) : Prop where
  /-- The file cannot be opened. -/
  | unopened {reason : IoError} (opened : workplace.openRead source = .error reason)
      (same : workplace.copyDuring breakdown source target = (.error reason, workplace)) :
      Copies workplace breakdown source target
  /-- The new name cannot be given. -/
  | uncreated {node : Node} {reason : IoError} (opened : workplace.openRead source = .ok node)
      (created : workplace.createNew target = .error reason)
      (same : workplace.copyDuring breakdown source target = (.error reason, workplace)) :
      Copies workplace breakdown source target
  /-- There is a new file, with what has arrived. -/
  | transferred {node : Node} {parent : Place} {name : Octets}
      (opened : workplace.openRead source = .ok node)
      (creatable : workplace.Creatable target parent name)
      (same : workplace.copyDuring breakdown source target =
        ((transfer breakdown node).2, workplace.withFile parent name (transfer breakdown node).1)) :
      Copies workplace breakdown source target

/-- Where a name is free to be given, what can be opened is copied. -/
theorem Creatable.copyDuring (creatable : workplace.Creatable target parent name)
    (opened : workplace.openRead source = .ok node) : workplace.copyDuring breakdown source target =
      ((transfer breakdown node).2,
        workplace.withFile parent name (transfer breakdown node).1) := by
  have created :=
    createNew_ok_iff.mpr ⟨parent, name, creatable.toNameable, creatable.bare, rfl, rfl⟩
  -- The file is empty at first, and what arrives takes its place.
  simp only [Workplace.copyDuring, opened, created, FileTree.insert_insert, withFile]

/-- Every copy comes to one of these cases. -/
theorem copies (workplace : Workplace) (breakdown : Option Breakdown) (source target : Octets) :
    workplace.Copies breakdown source target := by
  -- The source is opened before the target is made, and then the transfer begins.
  cases opened : workplace.openRead source with
  | error reason => exact .unopened opened (by simp only [copyDuring, opened])
  | ok node =>
    cases created : workplace.createNew target with
    | error reason => exact .uncreated opened created (by simp only [copyDuring, opened, created])
    | ok made =>
      obtain ⟨place, after⟩ := made
      obtain ⟨parent, name, nameable, bare, rfl, rfl⟩ := createNew_ok_iff.mp created
      have creatable : workplace.Creatable target parent name := ⟨nameable, bare⟩
      exact .transferred opened creatable (creatable.copyDuring opened)

/-- Nothing arrives of what cannot be read. -/
theorem transfer_of_error {reason : IoError}
    (unreadable : Workplace.contents node = .error reason) :
    transfer breakdown node = ([], .error reason) := by
  simp only [transfer, unreadable]

/-- What can be read arrives as a whole if nothing breaks the transfer off. -/
theorem transfer_of_ok (readable : Workplace.contents node = .ok contents) :
    transfer none node = (contents, .ok contents.length) := by
  simp only [transfer, readable]

/-- A copy is one during which nothing breaks the transfer off. -/
theorem copyDuring_none :
    workplace.copyDuring none source target = workplace.copy source target := by
  unfold copyDuring copy
  cases workplace.openRead source with
  | error reason => rfl
  | ok node =>
    cases created : workplace.createNew target with
    | error reason => rfl
    | ok made =>
      obtain ⟨place, after⟩ := made
      obtain ⟨parent, name, -, -, rfl, rfl⟩ := createNew_ok_iff.mp created
      cases readable : Workplace.contents node with
      | error reason =>
        -- The new file is empty already when nothing arrives.
        simp only [readable, transfer_of_error readable, FileTree.insert_insert]
      | ok octets => simp only [readable, transfer_of_ok readable]

/-- A new file changes the workplace. -/
theorem Creatable.withFile_ne (creatable : workplace.Creatable target parent name)
    (contents : Octets) : workplace.withFile parent name contents ≠ workplace := by
  -- The name was free before.
  intro same
  have lies : (workplace.withFile parent name contents).tree.node? (name :: parent) = some _ :=
    workplace.tree.node?_insert_self _ _
  rw [same, creatable.free] at lies
  cases lies

/-- A new file leaves everything that was there as it was. -/
theorem Creatable.retains (creatable : workplace.Creatable target parent name) (contents : Octets)
    (held : workplace.tree.node? place = some node) :
    (workplace.withFile parent name contents).tree.node? place = some node := by
  -- What was there lies in another place than the new file.
  have elsewhere : place ≠ name :: parent := by
    rintro rfl
    cases creatable.free.symm.trans held
  exact (workplace.tree.node?_insert_of_ne _ elsewhere).trans held

/-- A new file is found along its path. -/
theorem Creatable.found (creatable : workplace.Creatable target parent name) (contents : Octets) :
    (workplace.withFile parent name contents).find target =
      .ok (.ofPlace (name :: parent), .file (workplace.granted 0o666) contents) :=
  creatable.toNameable.found _ rfl fun slash => by cases creatable.bare.symm.trans slash

/-- A copy is told to have failed exactly if nothing can be read or the transfer breaks off. -/
theorem transfer_error_iff : (∃ reason, (transfer breakdown node).2 = .error reason) ↔
    (∃ reason, Workplace.contents node = .error reason) ∨ breakdown.isSome = true := by
  -- Either reason is enough.
  unfold transfer
  cases Workplace.contents node <;> cases breakdown <;> simp

/-- What has been opened has been found, and is no socket. -/
theorem found_of_openRead (opened : workplace.openRead source = .ok node) :
    ∃ spot, workplace.find source = .ok (spot, node) ∧
    ∀ mode listening, node ≠ .socket mode listening := by
  -- A socket is refused when it is to be opened.
  obtain ⟨⟨spot, other⟩, found, kept⟩ := ok_of_bind opened
  cases other with
  | socket mode listening => cases kept
  | _ =>
    simp only at kept
    split at kept
    · cases kept
      exact ⟨spot, found, by simp⟩
    · cases kept

/-- What can be opened and cannot be read is a directory, in a tree that hangs together. -/
theorem Grounded.contents_error_iff (grounded : workplace.Grounded)
    (opened : workplace.openRead source = .ok node) :
    (∃ reason, Workplace.contents node = .error reason) ↔ ∃ mode, node = .directory mode := by
  -- No link is found at the end of a path that is followed, and no socket is opened.
  obtain ⟨spot, found, other⟩ := found_of_openRead opened
  have plain := grounded.plain_of_find found
  cases node with
  | link target => cases plain
  | socket mode listening => exact absurd rfl (other mode listening)
  | _ => simp [Workplace.contents]

/--
A copy during which a transfer may break off fails and still
changes something exactly if a new file had been made.
-/
theorem copyDuring_changes_iff :
    ((∃ reason, workplace.copyDuring breakdown source target = (.error reason, after)) ∧
      after ≠ workplace) ↔
      ∃ node, workplace.openRead source = .ok node ∧
        ((∃ reason, Workplace.contents node = .error reason) ∨ breakdown.isSome = true) ∧
        ∃ parent name, workplace.Creatable target parent name ∧
          after = workplace.withFile parent name (transfer breakdown node).1 := by
  -- Only a transfer that has begun leaves something behind.
  constructor
  · rintro ⟨⟨reason, failed⟩, changed⟩
    cases workplace.copies breakdown source target with
    | unopened opened same => exact absurd (Prod.mk.inj (failed.symm.trans same)).2 changed
    | uncreated opened created same => exact absurd (Prod.mk.inj (failed.symm.trans same)).2 changed
    | transferred opened creatable same =>
      obtain ⟨told, rfl⟩ := Prod.mk.inj (same.symm.trans failed)
      exact ⟨_, opened, transfer_error_iff.mp ⟨reason, told⟩, _, _, creatable, rfl⟩
  · -- A new file is always a change.
    rintro ⟨node, opened, broken, parent, name, creatable, rfl⟩
    obtain ⟨reason, told⟩ := transfer_error_iff.mpr broken
    refine ⟨⟨reason, ?_⟩, creatable.withFile_ne _⟩
    rw [creatable.copyDuring opened, told]

/--
What a copy is told to have counted is the whole of a file, which is the only thing that is new.
-/
theorem copy_ok_iff {count : Nat} :
    workplace.copy source target = (.ok count, after) ↔
      ∃ octets parent name, workplace.contentsOf source = .ok octets ∧ count = octets.length ∧
        workplace.Creatable target parent name ∧ after = workplace.withFile parent name octets := by
  -- A copy is one during which nothing breaks the transfer off.
  rw [← copyDuring_none]
  constructor
  · intro copied
    cases workplace.copies none source target with
    | unopened opened same => cases same.symm.trans copied
    | uncreated opened created same => cases same.symm.trans copied
    | @transferred node parent name opened creatable same =>
      cases readable : Workplace.contents node with
      | error reason =>
        rw [transfer_of_error readable] at same
        cases same.symm.trans copied
      | ok octets =>
        rw [transfer_of_ok readable] at same
        cases same.symm.trans copied
        refine ⟨octets, parent, name, ?_, rfl, creatable, rfl⟩
        simp only [contentsOf, opened, ok_bind, readable]
  · rintro ⟨octets, parent, name, read, rfl, creatable, rfl⟩
    obtain ⟨node, opened, readable⟩ := ok_of_bind read
    rw [creatable.copyDuring opened, transfer_of_ok readable]

/-- Everything that was there stays as it was, whatever a copy comes to. -/
theorem copyDuring_retains (held : workplace.tree.node? place = some node) :
    (workplace.copyDuring breakdown source target).2.tree.node? place = some node := by
  -- The only thing that can be new is a file at a free place.
  cases workplace.copies breakdown source target with
  | unopened opened same => rwa [same]
  | uncreated opened created same => rwa [same]
  | transferred opened creatable same =>
    rw [same]
    exact creatable.retains _ held

/-- A workplace stays grounded, whatever a copy comes to. -/
theorem Grounded.copyDuring (grounded : workplace.Grounded) (breakdown : Option Breakdown)
    (source target : Octets) : (workplace.copyDuring breakdown source target).2.Grounded := by
  -- The only thing that can be new is a file in a directory that is there.
  cases workplace.copies breakdown source target with
  | unopened opened same => rwa [same]
  | uncreated opened created same => rwa [same]
  | transferred opened creatable same =>
    rw [same]
    exact grounded.insert creatable.free creatable.inside _

/--
Something is at the end of a path exactly if the path leads
there without a link at its end being followed.
-/
theorem isNamed_iff : workplace.isNamed target = true ↔
    checkOctets target = .ok () ∧ ∃ spot, workplace.locate false target = .ok spot := by
  -- Both parts are answered by a check of their own.
  unfold isNamed checkOctets
  rw [Bool.and_eq_true, Bool.not_eq_true']
  refine and_congr ?_ ?_
  · cases target.contains 0 <;> simp
  · cases workplace.locate false target <;> simp [Except.toOption]

/-- Nothing is at the end of a path where a name is free to be given. -/
theorem Nameable.unnamed (nameable : workplace.Nameable target parent name) :
    workplace.isNamed target = false := by
  -- The way along the path ends at a name that nothing has.
  obtain ⟨searched, left, -, located⟩ := locate_eq_walk nameable.approached
  refine Bool.eq_false_iff.mpr fun named => ?_
  obtain ⟨-, spot, there⟩ := isNamed_iff.mp named
  cases ((located false).trans (FileTree.walk_enter_free searched nameable.absent)).symm.trans there

/--
A path asks for a directory of its last name exactly if a
separator follows the name up to which it leads.
-/
theorem asksForDirectory_of_approach {way : Approach}
    (approached : workplace.approach target = .ok way) :
    Path.asksForDirectory target = true ↔ way.slash = true ∧ ∃ name, way.ending = .name name := by
  -- Both look at the last name of the path and at the separator behind it.
  obtain ⟨⟨⟩, -, approached⟩ := ok_of_bind approached
  unfold Path.asksForDirectory
  cases last : (Path.names target).getLast? with
  | none =>
    simp only [last] at approached
    cases approached
    simp
  | some name =>
    simp only [last] at approached
    obtain ⟨there, -, approached⟩ := ok_of_bind approached
    obtain ⟨⟨⟩, -, approached⟩ := ok_of_bind approached
    cases approached
    cases kind : Step.ofName name <;> simp [kind]

/-- Where something is at the end of a path, no new file can be made. -/
theorem createNew_named (named : workplace.isNamed target = true) :
    workplace.createNew target =
      .error
        (.refused (if Path.asksForDirectory target then .isADirectory else .alreadyExists)) := by
  -- What the path ends with decides what is told.
  obtain ⟨fit, spot, located⟩ := isNamed_iff.mp named
  obtain ⟨⟨parent, ending, slash⟩, approached, stands⟩ := approach_of_locate located
  have asks := asksForDirectory_of_approach approached
  cases ending with
  | name name =>
    obtain ⟨node, present⟩ := stands name rfl
    cases slash with
    | true => simp [createNew, fit, approached, asks]
    | false => simp [createNew, fit, approached, asks, present]
  | _ => simp [createNew, fit, approached, asks]

/--
A failed copy changes something exactly if a directory is to
be copied to a name that is free to be given.

Then an empty file is left, and one with what has arrived until then if the transfer breaks off.
-/
theorem failed_copy_changes_iff (workplace : Workplace) (source target : Octets)
    (grounded : workplace.Grounded) (after : Workplace) :
    (((∃ reason, workplace.copy source target = (.error reason, after)) ∧ after ≠ workplace) ↔
      (∃ mode, workplace.openRead source = .ok (.directory mode)) ∧
        ∃ parent name,
        workplace.Creatable target parent name ∧ after = workplace.withFile parent name []) ∧
    ∀ breakdown,
    ((∃ reason, workplace.copyDuring (some breakdown) source target = (.error reason, after)) ∧
        after ≠ workplace) ↔
      ∃ node, workplace.openRead source = .ok node ∧
        ∃ parent name, workplace.Creatable target parent name ∧
          after = workplace.withFile parent name (transfer (some breakdown) node).1 := by
  -- A copy is one during which nothing breaks the transfer off.
  constructor
  · rw [← copyDuring_none, copyDuring_changes_iff]
    constructor
    · -- Only the contents can fail, and they are those of a directory.
      rintro ⟨node, opened, broken, parent, name, creatable, rfl⟩
      obtain ⟨reason, unreadable⟩ := broken.resolve_right (by simp)
      obtain ⟨mode, rfl⟩ := (grounded.contents_error_iff opened).mp ⟨reason, unreadable⟩
      exact ⟨⟨mode, opened⟩, parent, name, creatable, rfl⟩
    · rintro ⟨⟨mode, opened⟩, parent, name, creatable, rfl⟩
      exact ⟨_, opened, .inl ⟨_, rfl⟩, parent, name, creatable, rfl⟩
  · -- A transfer that breaks off always fails.
    intro breakdown
    rw [copyDuring_changes_iff]
    simp only [Option.isSome_some, or_true, true_and]

/-- An empty file tells that a directory was to be copied to a free name. -/
theorem failed_copy_changes_furnished :
    furnished.Grounded ∧ (∃ mode, furnished.openRead [100] = .ok (.directory mode)) ∧
      ∃ parent name, furnished.Creatable [116] parent name ∧
        furnished.withFile [] [116] [] = furnished.withFile parent name [] := by
  -- The empty file is left by a copy that can be computed.
  refine ⟨furnished_grounded, (failed_copy_changes_iff furnished [100] [116] furnished_grounded
    (furnished.withFile [] [116] [])).1.mp ⟨⟨_, rfl⟩, fun same => ?_⟩⟩
  cases congrArg (fun workplace => workplace.tree.nodes.length) same

/-- The copy of a directory fails and leaves an empty file behind. -/
theorem copy_leaves_empty_file :
    furnished.copy [100] [116] = (.error (.refused .isADirectory), furnished.withFile [] [116] []) ∧
    furnished.tree.node? [[116]] = none ∧
    (furnished.withFile [] [116] []).tree.node? [[116]] = some (.file 0o644 []) :=
  ⟨rfl, rfl, rfl⟩

/--
A copy leaves everything that was there as it was, whatever
it comes to, also if the transfer breaks off.

Where something is at the new name already, nothing is copied, and what is told depends
on whether the path asks for a directory. Where a copy succeeds, the new name stands
for a new file with all the contents, and nothing else has changed.
-/
theorem copy_only_adds (workplace : Workplace) (source target : Octets) :
    (∀ place node, workplace.tree.node? place = some node →
      (workplace.copy source target).2.tree.node? place = some node ∧
      ∀ breakdown, (workplace.copyDuring breakdown source target).2.tree.node? place = some node) ∧
    ((∃ node, workplace.openRead source = .ok node) → workplace.isNamed target = true →
      workplace.copy source target =
        (.error (.refused (if Path.asksForDirectory target then .isADirectory else .alreadyExists)),
          workplace)) ∧
    ∀ count after, workplace.copy source target = (.ok count, after) →
      workplace.isNamed target = false ∧ ∃ octets parent name,
        workplace.contentsOf source = .ok octets ∧ count = octets.length ∧
        workplace.tree.node? (name :: parent) = none ∧
        after = workplace.withFile parent name octets ∧
        after.find target =
          .ok (.ofPlace (name :: parent), .file (workplace.granted 0o666) octets) := by
  -- The three parts follow from what every copy comes to.
  refine ⟨fun place node held => ?_, fun ⟨node, opened⟩ named => ?_, fun count after copied => ?_⟩
  · -- A copy is one during which nothing breaks the transfer off.
    rw [← copyDuring_none]
    exact ⟨copyDuring_retains held, fun _ => copyDuring_retains held⟩
  · -- The target cannot be made, and so nothing is transferred.
    simp only [copy, opened, createNew_named named]
  · -- A success tells where the new file is.
    obtain ⟨octets, parent, name, read, counted, creatable, rfl⟩ := copy_ok_iff.mp copied
    exact ⟨creatable.unnamed, octets, parent, name, read, counted, creatable.free, rfl,
      creatable.found octets⟩

/-- A file is copied to a new name, and not to one that something has. -/
theorem copy_only_adds_furnished :
    furnished.isNamed [116] = false ∧
    furnished.copy [102] [102] = (.error (.refused .alreadyExists), furnished) := by
  -- One copy succeeds and the other one finds its target taken.
  constructor
  · exact ((copy_only_adds furnished [102] [116]).2.2 1 _ rfl).1
  · exact (copy_only_adds furnished [102] [102]).2.1 ⟨_, rfl⟩ rfl

/-- A copy onto a directory is refused for another reason if the path asks for one. -/
theorem copy_onto_directory :
    furnished.isNamed [100, 47] = true ∧ (∃ node, furnished.openRead [102] = .ok node) ∧
    furnished.copy [102] [100, 47] = (.error (.refused .isADirectory), furnished) :=
  ⟨rfl, ⟨_, rfl⟩, rfl⟩

end Workplace

end Wakeful
