import Wakeful.FileTree.Operations
import Wakeful.Proofs.FileTree.Walk
import Wakeful.Proofs.Path.Names

/-!
A path leads up to its last step, and from there to what it
names, up to which it is walked alike for every request.
-/

namespace Wakeful

/-- A path without names consists of separators alone. -/
theorem Path.eq_slash_of_names_eq_nil {path : Octets} (nameless : names path = []) :
    ∀ octet ∈ path, octet = Octets.slash := by
  -- The induction is over the octets, of which each but a separator belongs to a piece.
  have pieces : ∀ octets : Octets, (∀ piece ∈ Octets.parts Octets.slash octets, piece = []) →
      ∀ octet ∈ octets, octet = Octets.slash := by
    intro octets
    induction octets with
    | nil => simp
    | cons octet rest ih =>
      intro empty
      unfold Octets.parts at empty ih
      rw [List.foldr_cons] at empty
      by_cases separates : octet = Octets.slash
      · rw [if_pos separates] at empty
        exact List.forall_mem_cons.mpr ⟨separates,
          ih fun piece among => empty piece (List.mem_cons_of_mem _ among)⟩
      · rw [if_neg separates] at empty
        split at empty <;> simp at empty
  refine pieces path ?_
  simpa [names, split, List.filter_eq_nil_iff] using nameless

/-- A path without names that is not empty starts at the root and asks for a directory. -/
theorem Path.root_of_names_eq_nil {path : Octets} (nonempty : path ≠ [])
    (nameless : names path = []) : isAbsolute path = true ∧ endsWithSlash path = true := by
  -- Such a path consists of separators only, its first and its last octet among them.
  have slashes := eq_slash_of_names_eq_nil nameless
  obtain ⟨first, rest, rfl⟩ := List.exists_cons_of_ne_nil nonempty
  constructor
  · simp [isAbsolute, slashes first List.mem_cons_self]
  · simp [endsWithSlash, List.getLast?_eq_some_getLast, slashes _ (List.getLast_mem _)]

namespace Workplace

open FileTree (AgreeBut Shut)

variable {workplace : Workplace} {path name : Octets} {parent : Spot} {slash : Bool} {node : Node}

/-- What the system does not refuse is done. -/
@[simp] theorem refusal_ok {α : Type} (result : α) : refusal (.ok result) = .ok result := rfl

/-- What the system refuses fails for its reason. -/
@[simp] theorem refusal_error {α : Type} (reason : Errno) :
    refusal (.error reason : Except Errno α) = .error (.refused reason) := rfl

/-- The system refuses nothing if the result is there. -/
theorem refusal_eq_ok_iff {α : Type} {outcome : Except Errno α} {result : α} :
    refusal outcome = .ok result ↔ outcome = .ok result :=
  mapError_eq_ok_iff

/-- Only the octet that ends paths is refused. -/
theorem checkOctets_eq_ok_iff : checkOctets path = .ok () ↔ 0 ∉ path := by
  -- The check is a single test for that octet.
  unfold checkOctets
  split <;> simp_all

/-- A path is walked along if it is not empty and not too long. -/
theorem checkPath_eq_ok_iff : checkPath path = .ok () ↔ path ≠ [] ∧ path.length < pathLimit := by
  -- The two tests are made one after the other.
  unfold checkPath
  split
  · simp_all
  · split <;> simp_all

/-- Something is found exactly where a path leads to something. -/
theorem find_eq_ok_iff {spot : Spot} :
    workplace.find path = .ok (spot, node) ↔
      checkOctets path = .ok () ∧ workplace.locate true path = .ok spot ∧
      workplace.tree.at? spot = some node := by
  -- The three parts of a lookup fail separately, and the last one yields the node.
  unfold find
  cases checkOctets path with
  | error reason => simp
  | ok _ =>
    cases located : workplace.locate true path with
    | error reason => simp
    | ok goal =>
      simp only [refusal_ok, ok_bind, true_and, Except.ok.injEq]
      cases held : workplace.tree.at? goal with
      | none =>
        simp only [throw_eq_error, reduceCtorEq, false_iff, not_and]
        rintro rfl
        simp [held]
      | some found =>
        simp only [pure_eq_ok, Except.ok.injEq, Prod.mk.injEq]
        constructor
        · rintro ⟨rfl, rfl⟩
          exact ⟨rfl, held⟩
        · rintro ⟨rfl, also⟩
          exact ⟨rfl, Option.some.inj (held.symm.trans also)⟩

/-- A step that asks for what a path ends with. -/
inductive Ending.Asked : Step → Ending → Prop where
  /-- A name is entered. -/
  | name (name : Octets) : Asked (.enter name) (.name name)
  /-- The directory itself is stayed in. -/
  | stay : Asked .stay .stay
  /-- The directory above is gone to. -/
  | rise : Asked .rise .rise

/-- What a separator at the end of a path asks for. -/
def insistence (slash : Bool) : List Step :=
  if slash then [.insist] else []

/-- Where a directory is, what a separator asks for is there. -/
theorem walk_insistence {tree : FileTree} {spot : Spot} {mode links : Nat} {followLast : Bool}
    (held : tree.at? spot = some (.directory mode)) (slash : Bool) :
    tree.walk followLast links spot (insistence slash) = .ok spot := by
  -- Without a separator no step is left, and with one the directory satisfies it.
  cases slash with
  | false => exact FileTree.walk_nil
  | true => exact (FileTree.walk_insist held).trans FileTree.walk_nil

/-- How a path leads up to its last step and on from there. -/
inductive Approaches (workplace : Workplace) (path : Octets) : Prop where
  /-- It cannot be walked up to there. -/
  | refused (reason : Errno) (approached : workplace.approach path = .error reason)
      (located : ∀ followLast, workplace.locate followLast path = .error reason) :
        Approaches workplace path
  /-- It has no names, and is the root. -/
  | root (approached : workplace.approach path = .ok ⟨.root, .root, false⟩)
      (located : ∀ followLast,
        workplace.locate followLast path =
          workplace.tree.walk followLast linkLimit .root [.insist]) :
      Approaches workplace path
  /--
  It leads to a directory that may be searched, from which the
  last step is taken with the links that are left.
  -/
  | leads {parent : Spot} {ending : Ending} {step : Step} {left : Nat} {steps : List Step}
      (asked : Ending.Asked step ending) (fewer : left ≤ linkLimit)
      (reached : workplace.tree.walk true linkLimit (workplace.startOf path) steps = .ok parent)
      (searched : workplace.tree.checkSearch parent = .ok ())
      (approached : workplace.approach path = .ok ⟨parent, ending, Path.endsWithSlash path⟩)
      (located : ∀ followLast, workplace.locate followLast path =
        workplace.tree.walk followLast left parent (step :: insistence (Path.endsWithSlash path))) :
      Approaches workplace path

/-- Every path leads up to its last step in one of these ways. -/
theorem approaches (workplace : Workplace) (path : Octets) : workplace.Approaches path := by
  cases fine : checkPath path with
  | error reason => exact .refused reason (by simp [approach, fine]) fun _ => by simp [locate, fine]
  | ok _ =>
    cases last : (Path.names path).getLast? with
    | none =>
      have nameless : Path.names path = [] := List.getLast?_eq_none_iff.mp last
      have nonempty : path ≠ [] := by
        rintro rfl
        cases fine
      obtain ⟨absolute, ends⟩ := Path.root_of_names_eq_nil nonempty nameless
      refine .root (by simp [approach, fine, nameless]) fun _ => ?_
      simp [locate, fine, startOf, absolute, Step.ofPath, nameless, ends]
    | some name =>
      obtain ⟨front, whole⟩ := List.getLast?_eq_some_iff.mp last
      have located (followLast : Bool) : workplace.locate followLast path =
          workplace.tree.walk followLast linkLimit (workplace.startOf path)
            (front.map Step.ofName ++
              Step.ofName name :: insistence (Path.endsWithSlash path)) := by
        simp [locate, fine, Step.ofPath, whole, insistence]
      cases workplace.tree.walk_append linkLimit (workplace.startOf path)
        (front.map Step.ofName) with
      | failed stopped same =>
        exact .refused _ (by simp [approach, fine, whole, stopped]) fun followLast =>
          (located followLast).trans (same _ _ _)
      | led fewer reached same =>
        rename_i parent left
        cases searched : workplace.tree.checkSearch parent with
        | error reason =>
          -- The last step needs a directory that may be searched, whatever it is.
          refine .refused reason
            (by simp [approach, fine, whole, reached, searched]) fun followLast => ?_
          rw [located, same]
          exact FileTree.walk_of_checkSearch_error searched (Step.ofName_ne_insist name)
        | ok _ =>
          have located' (followLast : Bool) := (located followLast).trans (same _ _ _)
          cases kind : Step.ofName name with
          | insist => exact absurd kind (Step.ofName_ne_insist name)
          | enter found =>
            rw [kind] at located'
            exact .leads (.name found) fewer reached searched
              (by simp [approach, fine, whole, reached, searched, kind]) located'
          | stay =>
            rw [kind] at located'
            exact .leads .stay fewer reached searched
              (by simp [approach, fine, whole, reached, searched, kind]) located'
          | rise =>
            rw [kind] at located'
            exact .leads .rise fewer reached searched
              (by simp [approach, fine, whole, reached, searched, kind]) located'

/-- A path leads up to a name if its other names lead to a directory that may be searched. -/
theorem approach_eq_ok_iff :
    workplace.approach path = .ok ⟨parent, .name name, slash⟩ ↔
      ∃ front last, checkPath path = .ok () ∧ Path.names path = front ++ [last] ∧
        Step.ofName last = .enter name ∧
        workplace.tree.walk true linkLimit (workplace.startOf path) (front.map Step.ofName) =
          .ok parent ∧
        workplace.tree.checkSearch parent = .ok () ∧ Path.endsWithSlash path = slash := by
  -- An approach walks along all names but the last and only classifies that one.
  constructor
  · -- What succeeded is taken apart guard by guard.
    intro approached
    obtain ⟨⟨⟩, fine, approached⟩ := ok_of_bind approached
    simp only at approached
    split at approached
    · cases approached
    · rename_i last found
      obtain ⟨front, whole⟩ := List.getLast?_eq_some_iff.mp found
      obtain ⟨there, walked, approached⟩ := ok_of_bind approached
      obtain ⟨⟨⟩, searched, approached⟩ := ok_of_bind approached
      simp only [pure_eq_ok, Except.ok.injEq, Approach.mk.injEq] at approached
      obtain ⟨rfl, ending, ends⟩ := approached
      rw [whole, List.dropLast_concat] at walked
      refine ⟨front, last, fine, whole, ?_, walked, searched, ends⟩
      split at ending <;> simp_all
  · -- Each guard is known to pass, so the definition runs through.
    rintro ⟨front, last, fine, whole, enters, walked, searched, ends⟩
    unfold approach
    simp [fine, whole, walked, searched, enters, ends]

/-- A way ends with the last name of its path, if that name is to be entered. -/
theorem ending_of_enters {last : Octets} {way : Approach}
    (ends : (Path.names path).getLast? = some last) (enters : Step.ofName last = .enter name)
    (approached : workplace.approach path = .ok way) : way.ending = .name name := by
  -- Neither the way up to the name nor the check there has a say in what the end is.
  obtain ⟨⟨⟩, -, approached⟩ := ok_of_bind approached
  simp only [ends] at approached
  obtain ⟨parent, -, approached⟩ := ok_of_bind approached
  obtain ⟨⟨⟩, -, approached⟩ := ok_of_bind approached
  cases approached
  simp only [enters]

/-- Only a name that can be one in a directory is entered. -/
theorem isName_of_step {last : Octets} (among : last ∈ Path.names path)
    (enters : Step.ofName last = .enter name) : Path.IsName name := by
  -- The names of a path are nonempty and free of separators, and dots are no names to enter.
  obtain ⟨nonempty, free⟩ := Path.single_of_mem_names among
  unfold Step.ofName at enters
  split at enters
  · cases enters
  · split at enters
    · cases enters
    · cases enters
      exact ⟨nonempty, free, ‹_›, ‹_›⟩

/-- A path leads up to nothing but a name that can be one in a directory. -/
theorem isName_of_approach
    (approached : workplace.approach path = .ok ⟨parent, .name name, slash⟩) :
    Path.IsName name := by
  -- The name that is approached is the last one of the path.
  obtain ⟨front, last, -, whole, enters, -⟩ := approach_eq_ok_iff.mp approached
  have among : last ∈ Path.names path := by simp [whole]
  exact isName_of_step among enters

/-- A way that ends with a name ends with a separator exactly if the path does. -/
theorem slash_of_approach (approached : workplace.approach path = .ok ⟨parent, .name name, slash⟩) :
    slash = Path.endsWithSlash path := by
  -- The separator is the last thing an approach records.
  obtain ⟨-, -, -, -, -, -, -, ends⟩ := approach_eq_ok_iff.mp approached
  exact ends.symm

/-- What lies at a shut place makes no difference to the way along a path. -/
theorem approach_agree {tree : FileTree} {place : Place}
    (agree : AgreeBut place workplace.tree tree) (shut : workplace.tree.Shut place)
    (approached : workplace.approach path = .ok ⟨parent, .name name, slash⟩) :
    ({ workplace with tree := tree } : Workplace).approach path =
      .ok ⟨parent, .name name, slash⟩ := by
  rw [approach_eq_ok_iff] at approached ⊢
  obtain ⟨front, last, fine, whole, enters, walked, searched, ends⟩ := approached
  -- The way leads to a directory, and so to another place.
  have elsewhere : parent ≠ .ofPlace place := by
    rintro rfl
    obtain ⟨mode, held⟩ := FileTree.directory_of_checkSearch searched
    exact shut.not_directory mode held
  exact ⟨front, last, fine, whole, enters, agree.walk shut elsewhere walked,
    agree.checkSearch shut searched, ends⟩

/-- A path that leads up to a name goes on from there with the links that are left. -/
theorem locate_eq_walk (approached : workplace.approach path = .ok ⟨parent, .name name, slash⟩) :
    workplace.tree.checkSearch parent = .ok () ∧ ∃ left, left ≤ linkLimit ∧
      ∀ followLast, workplace.locate followLast path =
        workplace.tree.walk followLast left parent (.enter name :: insistence slash) := by
  -- The walk along the whole path passes through the parent that the approach reached.
  cases workplace.approaches path with
  | refused reason refused => cases refused.symm.trans approached
  | root rooted => cases rooted.symm.trans approached
  | leads asked fewer reached searched led located =>
    cases led.symm.trans approached
    cases asked
    exact ⟨searched, _, fewer, located⟩

/-- A path with a name at its end that is no link leads to what has that name. -/
theorem locate_of_approach (approached : workplace.approach path = .ok ⟨parent, .name name, false⟩)
    (present : workplace.tree.entry? parent name = .ok (some node)) (plain : node.isLink = false) :
    workplace.locate true path = .ok (.ofPlace (name :: parent.place)) := by
  -- From the parent on, one name is entered and no separator follows.
  obtain ⟨searched, left, -, located⟩ := locate_eq_walk approached
  rw [located, FileTree.walk_enter searched present plain]
  exact FileTree.walk_nil

/-- A path whose last name is free leads nowhere. -/
theorem locate_of_free (approached : workplace.approach path = .ok ⟨parent, .name name, false⟩)
    (free : workplace.tree.entry? parent name = .ok none) :
    workplace.locate true path = .error .notFound := by
  -- The last step asks for a name under which nothing is found.
  obtain ⟨searched, left, -, located⟩ := locate_eq_walk approached
  rw [located, FileTree.walk_enter_free searched free]

/-- A path that leads somewhere leads up to its end, and a name at its end stands for something. -/
theorem approach_of_locate {followLast : Bool} {goal : Spot}
    (located : workplace.locate followLast path = .ok goal) :
    ∃ way, workplace.approach path = .ok way ∧
      ∀ name, way.ending = .name name →
        ∃ node, workplace.tree.entry? way.parent name = .ok (some node) := by
  -- A walk along the whole path can only succeed if its part up to the last name does.
  cases workplace.approaches path with
  | refused reason _ same => cases (same followLast).symm.trans located
  | root approached => exact ⟨_, approached, by simp⟩
  | leads asked fewer reached searched approached same =>
    -- The last step succeeded too, so the name it entered stands for something.
    rename_i parent ending step left steps
    refine ⟨_, approached, ?_⟩
    rintro name rfl
    cases asked
    rw [same] at located
    cases found : workplace.tree.entry? parent name with
    | error reason => cases (FileTree.walk_enter_error searched found).symm.trans located
    | ok held =>
      cases held with
      | none => cases (FileTree.walk_enter_free searched found).symm.trans located
      | some node => exact ⟨node, rfl⟩

end Workplace

end Wakeful
