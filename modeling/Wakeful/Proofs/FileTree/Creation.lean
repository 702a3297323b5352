import Wakeful.Proofs.FileTree.Grounded
import Wakeful.Proofs.FileTree.Occupant

/-!
A directory or a file is made exactly where a name is free to be given,
and a directory is said to exist wherever the name is taken.
-/

namespace Wakeful

open Workplace (insistence walk_insistence)

namespace FileTree

variable {tree : FileTree} {start parent : Spot} {links left : Nat} {steps : List Step}
  {slash : Bool}
variable {name : Octets} {node : Node}

/--
Whether what has a name in a directory leads to a directory: it
is one, or a link along a path that leads to one.
-/
def OpensInto (tree : FileTree) (parent : Place) : Node → Prop
  -- A link may use up all the links that may be followed.
  | .directory _ => True
  | .link target =>
    tree.EndsInDirectory
      (tree.walk true linkLimit (if Path.isAbsolute target then .root else .ofPlace parent)
      (Step.ofPath target))
  | _ => False

/--
What a separator asks for at the end of a walk is there exactly if the walk leads to a directory.
-/
inductive Insists (tree : FileTree) (walked insisted : Except Errno Spot) : Prop where
  /-- The walk fails in any case. -/
  | failed {reason : Errno} (stopped : walked = .error reason) (same : insisted = .error reason)
  /-- A directory is there. -/
  | directory {spot : Spot} {mode : Nat} (reached : walked = .ok spot)
      (held : tree.at? spot = some (.directory mode)) (same : insisted = .ok spot)
  /-- Something else is there, which only matters to a separator. -/
  | other {spot : Spot} (reached : walked = .ok spot)
      (held : ∀ mode, tree.at? spot ≠ some (.directory mode))
      (same : insisted = .ok spot ∨ insisted = .error .notADirectory)

/--
A separator at the end of a path makes a difference only where something else than a directory is.
-/
theorem insists (tree : FileTree) (links : Nat) (start : Spot) (steps : List Step) (slash : Bool) :
    tree.Insists (tree.walk true links start steps)
      (tree.walk true links start (steps ++ insistence slash)) := by
  -- Without a separator both walks are the same.
  cases slash with
  | false =>
    have bare : steps ++ insistence false = steps := List.append_nil steps
    rw [bare]
    cases walked : tree.walk true links start steps with
    | error reason => exact .failed rfl rfl
    | ok spot =>
      by_cases held : ∃ mode, tree.at? spot = some (.directory mode)
      · obtain ⟨mode, held⟩ := held
        exact .directory rfl held rfl
      · exact .other rfl (not_exists.mp held) (.inl rfl)
  | true =>
    -- With one, the walk goes on by one step that only a directory allows.
    cases tree.walk_append links start steps with
    | failed stopped same => exact .failed stopped (same _ _ _)
    | led fewer reached same =>
      rename_i spot left
      by_cases held : ∃ mode, tree.at? spot = some (.directory mode)
      · obtain ⟨mode, held⟩ := held
        exact .directory reached held ((same _ _ _).trans ((walk_insist held).trans walk_nil))
      · exact .other reached (not_exists.mp held)
          (.inr ((same _ _ _).trans (walk_insist_error (not_exists.mp held))))

/-- A walk ends in a directory no matter whether a separator asks for one. -/
theorem Insists.endsInDirectory_iff {walked insisted : Except Errno Spot}
    (insists : tree.Insists walked insisted) :
    tree.EndsInDirectory insisted ↔ tree.EndsInDirectory walked := by
  -- A walk that ends in something else is refused or ends there all the same.
  cases insists with
  | failed stopped same => rw [stopped, same]
  | directory reached held same => rw [reached, same]
  | other reached held same =>
    constructor
    · rintro ⟨spot, mode, ended, there⟩
      rcases same with same | same
      · exact ⟨spot, mode, reached.trans (same.symm.trans ended), there⟩
      · cases same.symm.trans ended
    · rintro ⟨spot, mode, ended, there⟩
      cases reached.symm.trans ended
      exact absurd there (held mode)

/-- A walk leads through too many links no matter whether a separator asks for a directory. -/
theorem Insists.tooManyLinks_iff {walked insisted : Except Errno Spot}
    (insists : tree.Insists walked insisted) :
    insisted = .error .tooManyLinks ↔ walked = .error .tooManyLinks := by
  -- A separator is one step that follows no link.
  cases insists with
  | failed stopped same => rw [stopped, same]
  | directory reached held same => simp [reached, same]
  | other reached held same => rcases same with same | same <;> simp [reached, same]

/-- A walk that ends in a directory has not led through too many links. -/
theorem EndsInDirectory.few {walked : Except Errno Spot} (ends : tree.EndsInDirectory walked) :
    walked ≠ .error .tooManyLinks := by
  -- It has ended.
  obtain ⟨spot, mode, rfl, -⟩ := ends
  exact nofun

/--
From a directory a name leads to a directory exactly if what has it does, unless the links run out.
-/
theorem endsInDirectory_enter_iff {parent : Place}
    (searched : tree.checkSearch (.ofPlace parent) = .ok ())
    (held : tree.entry? (.ofPlace parent) name = .ok (some node)) (fewer : left ≤ linkLimit) :
    tree.EndsInDirectory (tree.walk true left (.ofPlace parent) (.enter name :: insistence slash)) ↔
      tree.walk true left (.ofPlace parent) (.enter name :: insistence slash) ≠
        .error .tooManyLinks ∧
        tree.OpensInto parent node := by
  cases linked : node.isLink with
  | false =>
    -- What is no link is there in any case, and at most a
    -- separator may ask for a directory in vain.
    have insisted := tree.insists left (.ofPlace (name :: parent)) [] slash
    rw [walk_nil, List.nil_append] at insisted
    rw [walk_enter searched held linked]
    have lies : tree.at? (.ofPlace (name :: parent)) = some node := node_of_entry held
    have few : tree.walk true left (.ofPlace (name :: parent)) (insistence slash) ≠
        .error .tooManyLinks :=
      fun many => nomatch insisted.tooManyLinks_iff.mp many
    refine insisted.endsInDirectory_iff.trans (Iff.trans ?_ (and_iff_right few).symm)
    cases node with
    | link target => cases linked
    | _ => simp [EndsInDirectory, OpensInto, lies]
  | true =>
    cases node with
    | link target =>
      have on : ((insistence slash).isEmpty && !true) = false := by simp
      cases left with
      | zero =>
        -- No link may be followed any more.
        rw [walk_link_zero searched held on]
        simp [EndsInDirectory]
      | succ left =>
        rw [walk_link_succ searched held on]
        have insisted :=
          tree.insists left (if Path.isAbsolute target then .root else .ofPlace parent)
            (Step.ofPath target) slash
        rw [insisted.endsInDirectory_iff, Ne, insisted.tooManyLinks_iff]
        have fewer : left ≤ linkLimit := Nat.le_of_succ_le fewer
        rcases walk_fewer fewer (if Path.isAbsolute target then .root else .ofPlace parent)
          (Step.ofPath target) with same | many
        · -- The links that are left are as good as all of them.
          rw [same]
          exact ⟨fun ends => ⟨ends.few, ends⟩, And.right⟩
        · rw [many]
          simp [EndsInDirectory]
    | _ => cases linked

end FileTree

namespace Workplace

open FileTree (agreeBut_insert shut_of_free)

variable {workplace after : Workplace} {path name : Octets} {parent place : Place} {node : Node}

/-- A name at the end of a path that is free to be given, also to a directory. -/
structure Nameable (workplace : Workplace) (path : Octets) (parent : Place)
    (name : Octets) : Prop where
  /-- The path has no octet that would end it early. -/
  fit : checkOctets path = .ok ()
  /-- The path leads up to the name. -/
  approached : workplace.approach path = .ok ⟨.ofPlace parent, .name name, Path.endsWithSlash path⟩
  /-- The name is not too long. -/
  short : name.length ≤ nameLimit
  /-- Nothing has it. -/
  free : workplace.tree.node? (name :: parent) = none
  /-- Names can be added there. -/
  changeable : workplace.checkChange (.ofPlace parent) = .ok ()

/--
Whether the end of a path is taken: something has its name, or
it has none since it is the root or made of dots.
-/
inductive Claimed (workplace : Workplace) (path : Octets) : Prop where
  /-- Something has the name. -/
  | held {place : Place} {node : Node} (occupies : workplace.occupant? path = some (place, node)) :
      Claimed workplace path
  /-- The path ends at the root or with dots. -/
  | nameless {way : Approach} (approached : workplace.approach path = .ok way)
      (unnamed : ∀ name, way.ending ≠ .name name) : Claimed workplace path

/-- A name that can be looked up, that nothing has and that can be added is free to be given. -/
theorem nameable_of_entry {parent : Spot} {slash : Bool} (fit : checkOctets path = .ok ())
    (approached : workplace.approach path = .ok ⟨parent, .name name, slash⟩)
    (absent : workplace.tree.entry? parent name = .ok none)
    (changeable : workplace.checkChange parent = .ok ()) :
    ∃ place, parent = .ofPlace place ∧ workplace.Nameable path place name := by
  -- Names can be changed only in a directory that is there.
  obtain ⟨place, rfl⟩ := Spot.exists_ofPlace (present_of_checkChange changeable)
  obtain ⟨short, free⟩ := entry?_ofPlace_iff.mp absent
  obtain rfl := slash_of_approach approached
  exact ⟨place, rfl, fit, approached, short, free, changeable⟩

/-- Nothing is found under a name that is free to be given. -/
theorem Nameable.absent (nameable : workplace.Nameable path parent name) :
    workplace.tree.entry? (.ofPlace parent) name = .ok none :=
  entry?_ofPlace_iff.mpr ⟨nameable.short, nameable.free⟩

/--
A file is made exactly where a name is free to be given and no
separator follows it, and then nothing else changes.
-/
theorem createNew_ok_iff :
    workplace.createNew path = .ok (place, after) ↔
      ∃ parent name, workplace.Nameable path parent name ∧ Path.endsWithSlash path = false ∧
        place = name :: parent ∧
        after = { workplace with
          tree := workplace.tree.insert (name :: parent)
            (.file (workplace.granted 0o666) []) } := by
  -- Each check is passed on the way, in the order in which they are made.
  constructor
  · intro made
    obtain ⟨⟨⟩, fit, made⟩ := ok_of_bind made
    obtain ⟨⟨parent, ending, slash⟩, approached, made⟩ := ok_of_bind (refusal_eq_ok_iff.mp made)
    cases ending with
    | name name =>
      obtain ⟨bare, made⟩ := ok_of_check made
      obtain ⟨held, present, made⟩ := ok_of_bind made
      cases held with
      | some node => cases made
      | none =>
        obtain ⟨⟨⟩, changeable, made⟩ := ok_of_bind made
        cases made
        obtain ⟨place, rfl, nameable⟩ := nameable_of_entry fit approached present changeable
        rw [slash_of_approach approached] at bare
        exact ⟨place, name, nameable, Bool.eq_false_iff.mpr bare, rfl, rfl⟩
    | _ => cases made
  · -- A name that is free to be given passes all of them.
    rintro ⟨parent, name, nameable, bare, rfl, rfl⟩
    have approached := nameable.approached
    rw [bare] at approached
    simp only [createNew, nameable.fit, ok_bind, approached, nameable.absent, nameable.changeable]
    rfl

/-- The workplace with a new directory in another one. -/
def withDirectory (workplace : Workplace) (parent : Place) (name : Octets)
    (mode : Nat) : Workplace :=
  { workplace with tree := workplace.tree.insert (name :: parent) (.directory mode) }

/-- What the making of a directory comes to. -/
inductive Makes (workplace : Workplace) (path : Octets) : Prop where
  /-- It fails, and nothing changes. -/
  | refused (reason : IoError) (same : workplace.mkdir path = (.error reason, workplace)) :
      Makes workplace path
  /-- The end of the path is taken, and nothing changes. -/
  | taken (fit : checkOctets path = .ok ()) (claimed : workplace.Claimed path)
      (same : workplace.mkdir path = (.ok .exists, workplace)) : Makes workplace path
  /-- There is a new directory. -/
  | made {parent : Place} {name : Octets} {mode : Nat}
      (nameable : workplace.Nameable path parent name)
      (same : workplace.mkdir path = (.ok .created, workplace.withDirectory parent name mode)) :
        Makes workplace path

/-- The making of a directory comes to one of these cases. -/
theorem makes (workplace : Workplace) (path : Octets) : workplace.Makes path := by
  cases fit : checkOctets path with
  | error reason => exact .refused reason (by simp [mkdir, attempt, fit])
  | ok _ =>
    cases approached : workplace.approach path with
    | error reason => exact .refused (.refused reason) (by simp [mkdir, attempt, fit, approached])
    | ok way =>
      obtain ⟨parent, ending, slash⟩ := way
      cases ending with
      | name name =>
        cases present : workplace.tree.entry? parent name with
        | error reason =>
          exact .refused (.refused reason) (by simp [mkdir, attempt, fit, approached, present])
        | ok held =>
          cases held with
          | some node =>
            exact .taken fit (.held (occupant?_of_entry approached present))
              (by simp [mkdir, attempt, fit, approached, present])
          | none =>
            cases changeable : workplace.checkChange parent with
            | error reason =>
              exact .refused (.refused reason)
                (by simp [mkdir, attempt, fit, approached, present, changeable])
            | ok _ =>
              obtain ⟨place, rfl, nameable⟩ := nameable_of_entry fit approached present changeable
              have same : workplace.mkdir path = (.ok .created, workplace.withDirectory place name
                  (workplace.grantedIn (.ofPlace place) 0o755)) := by
                simp only [mkdir, attempt, fit, ok_bind, approached, present, changeable]
                rfl
              exact .made nameable same
      | _ =>
        -- The root and dots cannot be given as names.
        exact .taken fit (.nameless approached (by simp))
          (by simp [mkdir, attempt, fit, approached])

/--
What is put where a name is free to be given is found along
the path, if it is what the path asks for.
-/
theorem Nameable.found (nameable : workplace.Nameable path parent name) (node : Node)
    (plain : node.isLink = false)
    (suits : Path.endsWithSlash path = true → node.isDirectory = true) :
    ({ workplace with tree := workplace.tree.insert (name :: parent) node } : Workplace).find path =
      .ok (.ofPlace (name :: parent), node) := by
  -- The way up to the name does not lead through the place, since nothing was there.
  have approached :=
    approach_agree (agreeBut_insert _ _ node) (shut_of_free nameable.free) nameable.approached
  obtain ⟨searched, left, -, located⟩ := locate_eq_walk approached
  have lies : (workplace.tree.insert (name :: parent) node).at? (.ofPlace (name :: parent)) =
      some node :=
    workplace.tree.node?_insert_self _ _
  have present := entry?_ofPlace_iff.mpr ⟨nameable.short, lies⟩
  refine find_eq_ok_iff.mpr ⟨nameable.fit, ?_, lies⟩
  rw [located, FileTree.walk_enter searched present plain]
  cases slash : Path.endsWithSlash path with
  | false => exact FileTree.walk_nil
  | true =>
    have directory := suits slash
    cases node with
    | directory mode => exact walk_insistence lies true
    | _ => cases directory

/-- A directory in which a name is free to be given is there. -/
theorem Nameable.inside (nameable : workplace.Nameable path parent name) :
    workplace.tree.DirectoryAt parent :=
  FileTree.directory_of_checkSearch (locate_eq_walk nameable.approached).1

/-- A workplace stays grounded when a directory is to be made. -/
theorem Grounded.mkdir (grounded : workplace.Grounded) (path : Octets) :
    (workplace.mkdir path).2.Grounded := by
  -- A new directory lies in one that is there.
  cases workplace.makes path with
  | refused reason same => rwa [same]
  | taken fit claimed same => rwa [same]
  | made nameable same =>
    rw [same]
    exact grounded.insert nameable.free nameable.inside _

/--
A path whose end is taken leads to a directory exactly if what has
the name does, unless it leads through too many links.
-/
theorem Grounded.leadsToDirectory_iff_opensInto (grounded : workplace.Grounded)
    (fit : checkOctets path = .ok ()) (claimed : workplace.Claimed path) :
    workplace.leadsToDirectory path = true ↔ workplace.locate true path ≠ .error .tooManyLinks ∧
      ∀ place node, workplace.occupant? path = some (place, node) →
        workplace.tree.OpensInto place.tail node := by
  -- The path ends with a name that something has, or with none.
  cases claimed with
  | @held place node occupies =>
    obtain ⟨parent, name, slash, approached, rfl, short, held⟩ := occupant?_eq_some_iff.mp occupies
    obtain ⟨searched, left, fewer, located⟩ := locate_eq_walk approached
    have present := entry?_ofPlace_iff.mpr ⟨short, held⟩
    -- The last step leads into what has the name.
    have leads_iff : workplace.leadsToDirectory path = true ↔
        workplace.locate true path ≠ .error .tooManyLinks ∧
        workplace.tree.OpensInto parent node := by
      rw [leadsToDirectory_iff, located, FileTree.endsInDirectory_enter_iff searched present fewer]
      exact and_iff_right fit
    refine leads_iff.trans (and_congr_right fun _ =>
      ⟨fun opens place other also => ?_, fun opens => opens _ _ occupies⟩)
    cases occupies.symm.trans also
    exact opens
  | nameless approached unnamed =>
    have leads := grounded.leadsToDirectory_of_nameless fit approached unnamed
    refine iff_of_true leads ⟨(leadsToDirectory_iff.mp leads).2.few, fun place node occupies => ?_⟩
    obtain ⟨parent, name, slash, named, -⟩ := occupant?_eq_some_iff.mp occupies
    cases named.symm.trans approached
    exact absurd rfl (unnamed name)

/--
A directory that is said to be made is there, new, and nothing else has changed.

One that is said to exist is only a name that is taken: by a directory, by a link that leads to
one, or by anything else. In that case, and if no directory can be made, nothing has changed.
-/
theorem mkdir_tells (workplace : Workplace) (path : Octets) (grounded : workplace.Grounded) :
    match workplace.mkdir path with
    | (.ok .created, after) =>
      after.leadsToDirectory path = true ∧
        ∃ parent name mode, workplace.tree.node? (name :: parent) = none ∧
          after = workplace.withDirectory parent name mode
    | (.ok .exists, after) =>
      after = workplace ∧ workplace.Claimed path ∧
        (after.leadsToDirectory path = true ↔ after.locate true path ≠ .error .tooManyLinks ∧
          ∀ place node, after.occupant? path = some (place, node) →
            after.tree.OpensInto place.tail node)
    | (.error _, after) => after = workplace := by
  -- Whatever is told, there is one case of what has been done.
  cases workplace.makes path with
  | refused reason same => rw [same]
  | taken fit claimed same =>
    rw [same]
    exact ⟨rfl, claimed, grounded.leadsToDirectory_iff_opensInto fit claimed⟩
  | @made parent name mode nameable same =>
    rw [same]
    have found := nameable.found (.directory mode) rfl fun _ => rfl
    exact ⟨leadsToDirectory_of_find found, parent, name, mode, nameable.free, rfl⟩

/-- A workplace with a file and a directory besides the root. -/
def furnished : Workplace :=
  ⟨(FileTree.empty.insert [[102]] (.file 0o644 [120])).insert [[100]] (.directory 0o755), .root,
    0o022, []⟩

/-- A workplace with a file and a directory is grounded. -/
theorem furnished_grounded : furnished.Grounded :=
  ⟨(FileTree.rooted_empty.insert rfl ⟨_, rfl⟩ _).insert rfl ⟨_, rfl⟩ _, _, rfl⟩

/-- A new directory is found, and a name that is taken exists. -/
theorem mkdir_tells_apart :
    furnished.Grounded ∧ (furnished.mkdir [101]).2.leadsToDirectory [101] = true ∧
    furnished.Claimed [102] := by
  -- The general result is read for a free name and for one that is taken.
  refine ⟨furnished_grounded, ?_, ?_⟩
  · exact (mkdir_tells furnished [101] furnished_grounded).1
  · exact (mkdir_tells furnished [102] furnished_grounded).2.1

/-- Where a file has the name, a directory is said to exist. -/
theorem mkdir_takes_file_for_directory :
    furnished.mkdir [102] = (.ok .exists, furnished) ∧ furnished.leadsToDirectory [102] = false :=
  ⟨rfl, rfl⟩

end Workplace

end Wakeful
