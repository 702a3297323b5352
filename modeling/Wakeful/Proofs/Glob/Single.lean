import Wakeful.Proofs.FileTree.Copy
import Wakeful.Proofs.Glob.Way

/-! No path is found twice where the names of a way tell the way, as they do for simple patterns. -/

namespace Wakeful.Glob

open Wakeful.Path (IsName)

variable {workplace : Workplace} {onlyDirectories : Bool} {component : List Token}
  {rest components : List (List Token)}
variable {reached next goal goal' : Reached} {way way' : List Pick} {path : Octets}

/-- The names that a way goes along. -/
def namesOf (way : List Pick) : List Octets :=
  way.flatMap fun pick => Path.names pick.name

@[simp] theorem namesOf_cons (pick : Pick) (way : List Pick) :
    namesOf (pick :: way) = Path.names pick.name ++ namesOf way := rfl

/-- A listed name is gone along as it is. -/
theorem namesOf_listed {name : Octets} (isName : IsName name) (way : List Pick) :
    namesOf (.listed name :: way) = name :: namesOf way := by
  rw [namesOf_cons, Pick.name, isName.names, List.singleton_append]

/-- So is the name of a directory that is passed through. -/
theorem namesOf_passed {name : Octets} (isName : IsName name) (way : List Pick) :
    namesOf (.passed name :: way) = name :: namesOf way := by
  rw [namesOf_cons, Pick.name, isName.names, List.singleton_append]

/-- So is a name made of dots. -/
theorem namesOf_dots {name : Octets} (special : name ∈ specialNames component) (way : List Pick) :
    namesOf (.dots name :: way) = name :: namesOf way := by
  rcases eq_of_mem_specialNames special with rfl | rfl <;> rfl

/-- The number of components that take up a name, of which one that spells nothing is none. -/
def breadth (components : List (List Token)) : Nat :=
  components.countP fun component => plainName? component != some []

/--
Whether directories in any number are asked for once at most, where several times in a row are once.
-/
def DeepOnce (components : List (List Token)) : Prop :=
  -- None may come behind the first ones.
  ∀ component ∈ afterDepth (components.dropWhile fun component => !isRecursive component),
    isRecursive component = false

/--
Whether no component with wildcards matches the self-reference
before directories in any number are asked for.
-/
def Anchored (components : List (List Token)) : Prop :=
  ∀ component ∈ components.takeWhile fun component => !isRecursive component,
    plainName? component = none → Path.self ∉ specialNames component

/-- A component that asks for no directories in any number does not count. -/
theorem deepOnce_cons_of_single (once : isRecursive component = false) :
    DeepOnce (component :: rest) ↔ DeepOnce rest := by
  simp [DeepOnce, once]

/-- A component that asks for no directories in any number is one of those before them. -/
theorem anchored_cons_of_single (once : isRecursive component = false) :
    Anchored (component :: rest) ↔
    (plainName? component = none → Path.self ∉ specialNames component) ∧ Anchored rest := by
  simp [Anchored, once]

/-- Behind a component that asks for directories in any number no other one may. -/
theorem deepOnce_cons_of_recursive (deep : isRecursive component = true) :
    DeepOnce (component :: rest) ↔ ∀ other ∈ afterDepth rest, isRecursive other = false := by
  simp [DeepOnce, deep, afterDepth]

/-- Where directories in any number are not asked for at all, they are asked for once at most. -/
theorem deepOnce_of_single (single : ∀ component ∈ components, isRecursive component = false) :
    DeepOnce components := by
  -- The induction is over the components.
  induction components with
  | nil => exact nofun
  | cons component rest ih =>
    obtain ⟨here, later⟩ := List.forall_mem_cons.mp single
    exact (deepOnce_cons_of_single here).mpr (ih later)

/-- What is left once directories in any number have begun does not begin with them. -/
theorem afterDepth_of_single (single : ∀ other ∈ afterDepth rest, isRecursive other = false) :
    afterDepth (afterDepth rest) = afterDepth rest := by
  -- What is left begins with no component that would be left out.
  cases left : afterDepth rest with
  | nil => rfl
  | cons component later =>
    rw [left] at single
    rw [afterDepth, if_neg (by simp [single component List.mem_cons_self])]

/-- A component that means directories in any number matches no name made of dots. -/
theorem specialNames_of_recursive (isComponent : IsComponent component)
    (deep : isRecursive component = true) : specialNames component = [] := by
  -- It consists of that one token, which matches no dot at the beginning.
  rw [isComponent.alone deep]
  rfl

/-- So a component that matches a name made of dots does not mean directories in any number. -/
theorem not_recursive_of_special (isComponent : IsComponent component) {name : Octets}
    (special : name ∈ specialNames component) : isRecursive component = false := by
  -- Otherwise it would match none.
  refine Bool.eq_false_iff.mpr fun deep => ?_
  rw [specialNames_of_recursive isComponent deep] at special
  cases special

/-- Nor does a component that spells a name. -/
theorem not_recursive_of_spelled {characters : List Char}
    (spells : plainName? component = some characters) : isRecursive component = false :=
  Bool.eq_false_iff.mpr fun deep => by cases (plainName?_of_recursive deep).symm.trans spells

/-- What is left once directories in any number have ended. -/
theorem Meets.left_of_recursive {left : List (List Token)}
    (meets : Meets (component :: rest) next left) (deep : isRecursive component = true) :
    left = (afterDepth rest).tail := by
  -- Behind such a component one more is met, if there is one.
  cases meets with
  | single once => cases once.symm.trans deep
  | behind _ ends => rw [ends, List.tail_cons]
  | depth _ ends => rw [ends, List.tail_nil]

/-- What is left behind a component that does not mean directories in any number. -/
theorem Meets.left_of_single {left : List (List Token)}
    (meets : Meets (component :: rest) next left) (once : isRecursive component = false) :
    left = rest := by
  -- Such a component is met alone.
  cases meets with
  | single => rfl
  | behind deep => cases once.symm.trans deep
  | depth deep => cases once.symm.trans deep

/-- Whatever a listed path meets, directories in any number are asked for once at most behind it. -/
theorem Meets.deepOnce {left : List (List Token)} (meets : Meets (component :: rest) next left)
    (once : DeepOnce (component :: rest)) : DeepOnce left := by
  -- Behind directories in any number none may be asked for again.
  cases deep : isRecursive component with
  | false =>
    rw [meets.left_of_single deep]
    exact (deepOnce_cons_of_single deep).mp once
  | true =>
    rw [meets.left_of_recursive deep]
    exact deepOnce_of_single fun other among =>
      (deepOnce_cons_of_recursive deep).mp once other (List.mem_of_mem_tail among)

/-- A component and those behind it take up names one after the other. -/
theorem breadth_cons (component : List Token) (rest : List (List Token)) :
    breadth (component :: rest) = breadth [component] + breadth rest := by
  simp [breadth, List.countP_cons, Nat.add_comm]

/-- A component that spells nothing takes up a name. -/
theorem breadth_of_unspelled (unspelled : plainName? component = none) :
    breadth [component] = 1 := by
  simp [breadth, unspelled]

/-- A component that spells something spells one name. -/
theorem IsComponent.names_spelled (isComponent : IsComponent component) {characters : List Char}
    (spells : plainName? component = some characters) :
    (Path.names (spelled characters)).length = breadth [component] := by
  -- The name is empty, or it is a single one as it has no separator.
  cases characters with
  | nil => simp [breadth, spells, spelled]; rfl
  | cons first others =>
    have nonempty : spelled (first :: others) ≠ [] := by
      rw [spelled, Octets.ofText_ofList, List.flatMap_cons]
      simp [String.utf8EncodeChar_ne_nil]
    have free : Octets.slash ∉ spelled (first :: others) := fun within => by
      refine isComponent.single _ spells ?_
      rwa [spelled, Octets.slash_mem_ofText_iff, String.toList_ofList] at within
    rw [Path.names_of_not_mem nonempty free]
    simp [breadth, spells]

/--
Without directories in any number a way has as many names as there are components that take up one.
-/
theorem Leads.length_namesOf (leads : Leads workplace onlyDirectories components reached way goal)
    (wellNamed : workplace.tree.WellNamed)
    (proper : ∀ component ∈ components, IsComponent component)
    (single : ∀ component ∈ components, isRecursive component = false) :
    (namesOf way).length = breadth components := by
  -- The induction is over the way, and each pick adds the names of its component.
  induction leads with
  | arrived => rfl
  | asked spells _ _ ih =>
    obtain ⟨here, proper⟩ := List.forall_mem_cons.mp proper
    rw [namesOf_cons, List.length_append, breadth_cons, Pick.name, here.names_spelled spells,
      ih proper (List.forall_mem_cons.mp single).2]
  | dots unspelled _ _ special _ ih =>
    rw [namesOf_dots special, List.length_cons, breadth_cons, breadth_of_unspelled unspelled,
      ih (List.forall_mem_cons.mp proper).2 (List.forall_mem_cons.mp single).2, Nat.add_comm]
  | listed unspelled lists meets _ ih =>
    obtain ⟨once, single⟩ := List.forall_mem_cons.mp single
    cases meets.left_of_single once
    rw [namesOf_listed (lists.isName wellNamed), List.length_cons, breadth_cons,
      breadth_of_unspelled unspelled, ih (List.forall_mem_cons.mp proper).2 single, Nat.add_comm]
  | passed deep => cases ((List.forall_mem_cons.mp single).1).symm.trans deep

/--
Directories in any number take up a name at least, besides those that the later components take up.
-/
theorem Leads.lt_length_namesOf
    (leads : Leads workplace onlyDirectories (component :: rest) reached way goal)
    (deep : isRecursive component = true) (wellNamed : workplace.tree.WellNamed)
    (proper : ∀ other ∈ component :: rest, IsComponent other)
    (single : ∀ other ∈ afterDepth rest, isRecursive other = false) :
    breadth (afterDepth rest).tail < (namesOf way).length := by
  -- The induction is over the directories that are passed
  -- through, up to the path that meets the next component.
  generalize whole : component :: rest = components at leads
  induction leads generalizing component rest with
  | arrived => cases whole
  | asked spells =>
    cases whole
    cases (plainName?_of_recursive deep).symm.trans spells
  | dots _ _ _ special =>
    cases whole
    rw [specialNames_of_recursive (proper _ List.mem_cons_self) deep] at special
    cases special
  | listed _ lists meets onwards =>
    cases whole
    obtain rfl := meets.left_of_recursive deep
    have proper' := (List.forall_mem_cons.mp (proper_deeper proper)).2
    have counted :=
      onwards.length_namesOf wellNamed
        (fun other among => proper' other (List.mem_of_mem_tail among))
      (fun other among => single other (List.mem_of_mem_tail among))
    rw [namesOf_listed (lists.isName wellNamed), List.length_cons, counted]
    exact Nat.lt_succ_self _
  | passed _ lists _ onwards ih =>
    cases whole
    have again := afterDepth_of_single single
    have counted := ih deep (proper_deeper proper) (again.symm ▸ single) rfl
    rw [again] at counted
    rw [namesOf_passed (lists.isName wellNamed), List.length_cons]
    exact Nat.lt_succ_of_lt counted

/--
What has been matched behind directories in any number goes
along fewer names than what lies further down.
-/
theorem namesOf_ne_of_recursive {left : List (List Token)} {other : Reached}
    (deep : isRecursive component = true) (wellNamed : workplace.tree.WellNamed)
    (proper : ∀ other ∈ component :: rest, IsComponent other)
    (single : ∀ other ∈ afterDepth rest, isRecursive other = false)
    (meets : Meets (component :: rest) next left)
    (leads : Leads workplace onlyDirectories left next way goal)
    (leads' : Leads workplace onlyDirectories (component :: afterDepth rest) other way' goal') :
    namesOf way ≠ namesOf way' := by
  -- The way behind the component has one name for each that is left, and the other one has more.
  obtain rfl := meets.left_of_recursive deep
  have proper' := (List.forall_mem_cons.mp (proper_deeper proper)).2
  have again := afterDepth_of_single single
  have fewer :=
    leads.length_namesOf wellNamed (fun other among => proper' other (List.mem_of_mem_tail among))
    (fun other among => single other (List.mem_of_mem_tail among))
  have more := leads'.lt_length_namesOf deep wellNamed (proper_deeper proper) (again.symm ▸ single)
  rw [again] at more
  intro same
  rw [same] at fewer
  omega

/-- No name that can be one is made of dots. -/
theorem not_special_of_isName {name : Octets} (isName : IsName name) :
    name ∉ specialNames component := by
  -- Both names made of dots stand for directories.
  intro special
  rcases eq_of_mem_specialNames special with rfl | rfl
  · exact isName.proper rfl
  · exact isName.other rfl

/-- A way that goes through a listed path goes along its name first. -/
theorem Through.namesOf (through : Through workplace onlyDirectories component rest next way goal)
    (isName : IsName next.name) : ∃ names, namesOf way = next.name :: names := by
  -- The first pick is the path itself, whether it is met or passed through.
  rcases through with ⟨-, -, later, rfl, -⟩ | ⟨-, -, later, rfl, -⟩
  · exact ⟨_, namesOf_listed isName later⟩
  · exact ⟨_, namesOf_passed isName later⟩

/-- A way that goes along the name of a listed path first goes through that path. -/
theorem Leads.through (leads : Leads workplace onlyDirectories (component :: rest) reached way goal)
    (unspelled : plainName? component = none) (lists : reached.Lists workplace next)
    (wellNamed : workplace.tree.WellNamed) {names : List Octets}
    (first : namesOf way = next.name :: names) :
    Through workplace onlyDirectories component rest next way goal := by
  -- The first pick is either a name made of dots or something listed under that name.
  have isName := lists.isName wellNamed
  obtain ⟨directory, entries, read, ⟨name, special, later, rfl, -⟩ | ⟨entry, among, through⟩⟩ :=
    (leads_unspelled_iff unspelled).mp leads
  · -- A name that can be one is not made of dots,
    rw [namesOf_dots special] at first
    exact absurd ((List.cons.inj first).1 ▸ special) (not_special_of_isName isName)
  · -- and no two entries have the same name.
    have lists' : reached.Lists workplace (.ofEntry workplace reached.path entry) :=
      ⟨directory, entries, read, entry, among, rfl⟩
    obtain ⟨names', first'⟩ := through.namesOf (lists'.isName wellNamed)
    rwa [lists.unique lists' wellNamed (List.cons.inj (first.symm.trans first')).1]

/-- Where directories in any number are asked for once at most, the names of a way tell the way. -/
theorem Leads.eq_of_namesOf (leads : Leads workplace onlyDirectories components reached way goal)
    (leads' : Leads workplace onlyDirectories components reached way' goal')
    (wellNamed : workplace.tree.WellNamed)
    (proper : ∀ component ∈ components, IsComponent component) (once : DeepOnce components)
    (same : namesOf way = namesOf way') : way = way' := by
  -- The induction is over one way, and each pick is compared with that of the other one.
  induction leads generalizing way' with
  | arrived => exact (leads_nil_iff.mp leads').1.symm
  | asked spells _ _ ih =>
    obtain ⟨-, later', rfl, onwards'⟩ := (leads_spelled_iff spells).mp leads'
    have shallow := not_recursive_of_spelled spells
    rw [ih onwards' (List.forall_mem_cons.mp proper).2 ((deepOnce_cons_of_single shallow).mp once)
      (List.append_cancel_left same)]
  | dots unspelled _ _ special _ ih =>
    obtain ⟨here, later⟩ := List.forall_mem_cons.mp proper
    rw [namesOf_dots special] at same
    obtain ⟨directory, entries, read,
        ⟨name, special', later', rfl, onwards'⟩ | ⟨entry, among, through⟩⟩ :=
      (leads_unspelled_iff unspelled).mp leads'
    · rw [namesOf_dots special'] at same
      obtain ⟨rfl, further⟩ := List.cons.inj same
      rw [ih onwards' later
        ((deepOnce_cons_of_single (not_recursive_of_special here special)).mp once) further]
    · -- The other way goes through a listed path, which has no name made of dots.
      have lists : Reached.Lists workplace _ (.ofEntry workplace _ entry) :=
        ⟨directory, entries, read, entry, among, rfl⟩
      obtain ⟨names, first⟩ := through.namesOf (lists.isName wellNamed)
      exact absurd ((List.cons.inj (same.trans first)).1 ▸ special)
        (not_special_of_isName (lists.isName wellNamed))
  | @listed component rest left reached next goal way unspelled lists meets onwards ih =>
    obtain ⟨here, later⟩ := List.forall_mem_cons.mp proper
    have isName := lists.isName wellNamed
    rw [namesOf_listed isName] at same
    rcases leads'.through unspelled lists wellNamed same.symm with
      ⟨left', meets', later', rfl, onwards'⟩ | ⟨deep, -, later', rfl, onwards'⟩
    · rw [namesOf_listed isName] at same
      obtain rfl := meets.unique meets'
      rw [ih onwards' (fun other among => later other (meets.suffix.subset among))
        (meets.deepOnce once) (List.cons.inj same).2]
    · rw [namesOf_passed isName] at same
      have single := (deepOnce_cons_of_recursive deep).mp once
      exact absurd (List.cons.inj same).2
        (namesOf_ne_of_recursive deep wellNamed proper single meets onwards onwards')
  | @passed component rest reached next goal way deep lists inside onwards ih =>
    -- The other way cannot have met the next component here, as it would be too short.
    have isName := lists.isName wellNamed
    have single := (deepOnce_cons_of_recursive deep).mp once
    rw [namesOf_passed isName] at same
    rcases leads'.through (plainName?_of_recursive deep) lists wellNamed same.symm with
      ⟨left', meets', later', rfl, onwards'⟩ | ⟨-, -, later', rfl, onwards'⟩
    · rw [namesOf_listed isName] at same
      exact absurd (List.cons.inj same).2.symm
        (namesOf_ne_of_recursive deep wellNamed proper single meets' onwards' onwards)
    · rw [namesOf_passed isName] at same
      have kept : DeepOnce (component :: afterDepth rest) := by
        rw [deepOnce_cons_of_recursive deep, afterDepth_of_single single]
        exact single
      rw [ih onwards' (proper_deeper proper) kept (List.cons.inj same).2]

/-- No name of a way starts at the root. -/
theorem Leads.relative (leads : Leads workplace onlyDirectories components reached way goal)
    (wellNamed : workplace.tree.WellNamed)
    (proper : ∀ component ∈ components, IsComponent component) :
    ∀ pick ∈ way, Path.isAbsolute pick.name = false := by
  -- The induction is over the way, and no pick has a name from the root.
  induction leads with
  | arrived => simp
  | asked spells _ _ ih =>
    obtain ⟨here, later⟩ := List.forall_mem_cons.mp proper
    exact List.forall_mem_cons.mpr ⟨here.relative spells, ih later⟩
  | dots _ _ _ special _ ih =>
    refine List.forall_mem_cons.mpr ⟨?_, ih (List.forall_mem_cons.mp proper).2⟩
    rcases eq_of_mem_specialNames special with rfl | rfl <;> rfl
  | listed _ lists meets _ ih =>
    refine List.forall_mem_cons.mpr ⟨(lists.isName wellNamed).relative, ih fun other among => ?_⟩
    exact (List.forall_mem_cons.mp proper).2 other (meets.suffix.subset among)
  | passed _ lists _ _ ih =>
    exact List.forall_mem_cons.mpr ⟨(lists.isName wellNamed).relative, ih (proper_deeper proper)⟩

/-- Behind a path that does not mean the working directory each name is joined to the path. -/
theorem onto_away (away : isHere path = false) (pick : Pick) :
    pick.onto path = Path.join path pick.name := by
  cases pick <;> simp [Pick.onto, Pick.name, pathIn, away]

/-- From a path that does not mean the working directory a way adds its names. -/
theorem names_along_away (away : isHere path = false) (nonempty : path ≠ [])
    (relative : ∀ pick ∈ way, Path.isAbsolute pick.name = false) :
    Path.names (along path way) = Path.names path ++ namesOf way := by
  -- The induction is over the way, on which the path never means the working directory again.
  induction way generalizing path with
  | nil => exact (List.append_nil _).symm
  | cons pick way ih =>
    obtain ⟨here, later⟩ := List.forall_mem_cons.mp relative
    have onto := onto_away away pick
    have further : Path.join path pick.name ≠ [] := fun empty =>
      nonempty (List.prefix_nil.mp (empty ▸ Path.prefix_join here))
    rw [along, List.foldl_cons, onto, ← along, ih (isHere_join here nonempty away) further later,
      Path.names_join here, namesOf_cons, List.append_assoc]

/-- Behind the working directory a name is joined to its path or takes its stead. -/
theorem names_onto (here : isHere path = true) (pick : Pick)
    (relative : Path.isAbsolute pick.name = false) :
    Path.names (pick.onto path) = Path.names path ++ Path.names pick.name ∨
      Path.names (pick.onto path) = Path.names pick.name := by
  -- A name made of dots is joined, and any other one takes the stead of the path.
  cases pick with
  | dots name => exact .inl (Path.names_join relative)
  | _ => exact .inr (by rw [Pick.onto, pathIn, if_pos here, Pick.name])

/-- From any path a way adds its names, where self-references may be left out before them. -/
theorem names_along (path : Octets) (relative : ∀ pick ∈ way, Path.isAbsolute pick.name = false) :
    ∃ count, Path.names path ++ namesOf way =
      List.replicate count Path.self ++ Path.names (along path way) := by
  -- The induction is over the way, and each time a path may
  -- be left out it has only self-references.
  induction way generalizing path with
  | nil => exact ⟨0, List.append_nil _⟩
  | cons pick way ih =>
    obtain ⟨first, later⟩ := List.forall_mem_cons.mp relative
    obtain ⟨count, whole⟩ := ih (pick.onto path) later
    rw [along, List.foldl_cons, ← along, namesOf_cons, ← List.append_assoc]
    cases here : isHere path with
    | false =>
      rw [onto_away here, Path.names_join first] at whole
      exact ⟨count, by rw [whole, onto_away here]⟩
    | true =>
      rcases names_onto here pick first with kept | dropped
      · exact ⟨count, by rw [← kept, whole]⟩
      · -- What is left out of the path when a name takes its stead are self-references only.
        have selves : Path.names path = List.replicate (Path.names path).length Path.self :=
          List.eq_replicate_iff.mpr ⟨rfl, (isHere_iff.mp here).2.2⟩
        refine ⟨(Path.names path).length + count, ?_⟩
        rw [← List.replicate_append_replicate, ← selves, List.append_assoc, List.append_assoc,
          ← whole, dropped]

/-- Without directories in any number the path to which a way leads tells its names. -/
theorem Leads.namesOf_eq_of_single
    (leads : Leads workplace onlyDirectories components reached way goal)
    (leads' : Leads workplace onlyDirectories components reached way' goal')
    (wellNamed : workplace.tree.WellNamed)
    (proper : ∀ component ∈ components, IsComponent component)
    (single : ∀ component ∈ components, isRecursive component = false)
    (same : along reached.path way = along reached.path way') : namesOf way = namesOf way' := by
  obtain ⟨count, whole⟩ := names_along reached.path (leads.relative wellNamed proper)
  obtain ⟨count', whole'⟩ := names_along reached.path (leads'.relative wellNamed proper)
  -- Both ways have as many names, and so they leave out as many self-references.
  have lengths : (namesOf way).length = (namesOf way').length :=
    (leads.length_namesOf wellNamed proper single).trans
    (leads'.length_namesOf wellNamed proper single).symm
  have total := congrArg List.length whole
  have total' := congrArg List.length whole'
  simp only [List.length_append, List.length_replicate] at total total'
  rw [same] at whole total
  obtain rfl : count = count' := by omega
  exact List.append_cancel_left (whole.trans whole'.symm)

/-- Nothing is found along an empty path. -/
theorem isNamed_nil : workplace.isNamed [] = false := by
  -- An empty path leads nowhere.
  refine Bool.eq_false_iff.mpr fun named => ?_
  obtain ⟨-, spot, located⟩ := Workplace.isNamed_iff.mp named
  cases located

/-- What is asked for in the working directory is not the empty path. -/
theorem ne_nil_of_has {name : Octets} (here : isHere reached.path = true)
    (found : reached.has workplace name = true) : name ≠ [] := by
  -- The empty path would be asked for, and nothing is there.
  rintro rfl
  have missing : reached.has workplace [] = false := by
    rw [Reached.has, if_neg (by decide), pathIn, if_pos here, isNamed_nil]
  cases missing.symm.trans found

/--
From the working directory a way through a listed path goes
along all names of the path to which it leads.
-/
theorem Through.names_along
    (through : Through workplace onlyDirectories component rest next way goal)
    (isName : IsName next.name) (here : isHere path = true)
    (relative : ∀ pick ∈ way, Path.isAbsolute pick.name = false) :
    Path.names (along path way) = Glob.namesOf way := by
  -- The listed name takes the stead of the path, and from there on names are added.
  rcases through with ⟨-, -, later, rfl, -⟩ | ⟨-, -, later, rfl, -⟩ <;>
    rw [along, List.foldl_cons, Pick.onto, pathIn, if_pos here, ← along,
      names_along_away (away_of_isName isName) isName.nonempty (List.forall_mem_cons.mp relative).2,
      namesOf_cons, Pick.name]

/-- From any path a way that goes up first keeps the names of the path. -/
theorem names_along_parent (path : Octets)
    (relative : ∀ pick ∈ Pick.dots Path.parent :: way, Path.isAbsolute pick.name = false) :
    Path.names (along path (.dots Path.parent :: way)) =
      Path.names path ++ namesOf (.dots Path.parent :: way) := by
  -- With the name for the directory above, the path no longer means the working directory.
  have joined : Path.names (Path.join path Path.parent) = Path.names path ++ [Path.parent] :=
    Path.names_join rfl
  have among : Path.parent ∈ Path.names (Path.join path Path.parent) := by simp [joined]
  have nonempty : Path.join path Path.parent ≠ [] := fun empty => by
    rw [empty] at among
    cases among
  rw [along, List.foldl_cons, Pick.onto, ← along,
    names_along_away (away_of_mem_names among (by decide)) nonempty
      (List.forall_mem_cons.mp relative).2, joined,
    List.append_assoc]
  rfl

/--
From the working directory a way keeps all of its names, or
leaves out those before a name that can be one.
-/
theorem Leads.names_along_here
    (leads : Leads workplace onlyDirectories (component :: rest) reached way goal)
    (unspelled : plainName? component = none) (wellNamed : workplace.tree.WellNamed)
    (proper : ∀ other ∈ component :: rest, IsComponent other)
    (anchored : Path.self ∉ specialNames component) (here : isHere reached.path = true) :
    Path.names (along reached.path way) = Path.names reached.path ++ namesOf way ∨
      Path.names (along reached.path way) = namesOf way ∧
        ∃ name names, IsName name ∧ namesOf way = name :: names := by
  -- The first pick goes up, or its name takes the stead of the path.
  have relative := leads.relative wellNamed proper
  obtain ⟨directory, entries, read, ⟨name, special, later, rfl, -⟩ | ⟨entry, among, through⟩⟩ :=
    (leads_unspelled_iff unspelled).mp leads
  · -- The working directory itself is not asked for.
    rcases eq_of_mem_specialNames special with rfl | rfl
    · exact .inl (names_along_parent reached.path relative)
    · exact absurd special anchored
  · -- A listed name can be one.
    have lists : reached.Lists workplace (.ofEntry workplace reached.path entry) :=
      ⟨directory, entries, read, entry, among, rfl⟩
    have isName := lists.isName wellNamed
    obtain ⟨names, first⟩ := through.namesOf isName
    exact .inr ⟨through.names_along isName here relative, _, names, isName, first⟩

/--
From the working directory two ways whose first component does
not stay there tell their names by their paths.
-/
theorem Leads.namesOf_eq_of_unspelled
    (leads : Leads workplace onlyDirectories (component :: rest) reached way goal)
    (leads' : Leads workplace onlyDirectories (component :: rest) reached way' goal')
    (unspelled : plainName? component = none) (wellNamed : workplace.tree.WellNamed)
    (proper : ∀ other ∈ component :: rest, IsComponent other)
    (anchored : Path.self ∉ specialNames component) (here : isHere reached.path = true)
    (same : Path.names (along reached.path way) = Path.names (along reached.path way')) :
    namesOf way = namesOf way' := by
  -- A self-reference is where a name that can be one would be if only one of the ways left it out.
  obtain ⟨names, selves⟩ : ∃ names, Path.names reached.path = Path.self :: names := by
    obtain ⟨-, nonempty, all⟩ := isHere_iff.mp here
    obtain ⟨name, names, whole⟩ := List.exists_cons_of_ne_nil nonempty
    exact ⟨names, by rw [whole, all name (whole ▸ List.mem_cons_self)]⟩
  rcases leads.names_along_here unspelled wellNamed proper anchored here with
    kept | ⟨left, name, _, isName, whole⟩ <;>
    rcases leads'.names_along_here unspelled wellNamed proper anchored here with
      kept' | ⟨left', name', _, isName', whole'⟩
  · rw [kept, kept'] at same
    exact List.append_cancel_left same
  · rw [kept, left', selves, whole'] at same
    exact absurd (List.cons.inj same).1.symm isName'.other
  · rw [left, kept', selves, whole] at same
    exact absurd (List.cons.inj same).1 isName.other
  · rw [left, left'] at same
    exact same

/--
Where no component with wildcards matches the self-reference,
the path to which a way leads tells its names.
-/
theorem Leads.namesOf_eq_of_anchored
    (leads : Leads workplace onlyDirectories components reached way goal)
    (leads' : Leads workplace onlyDirectories components reached way' goal')
    (wellNamed : workplace.tree.WellNamed)
    (proper : ∀ component ∈ components, IsComponent component) (anchored : Anchored components)
    (here : isHere reached.path = true) (same : along reached.path way = along reached.path way') :
    namesOf way = namesOf way' := by
  -- The induction is over the components that spell a name, as long as they lead nowhere else.
  induction components generalizing reached way way' with
  | nil => rw [(leads_nil_iff.mp leads).1, (leads_nil_iff.mp leads').1]
  | cons component rest ih =>
    obtain ⟨first, later⟩ := List.forall_mem_cons.mp proper
    cases spells : plainName? component with
    | some characters =>
      obtain ⟨found, way, rfl, onwards⟩ := (leads_spelled_iff spells).mp leads
      obtain ⟨-, way', rfl, onwards'⟩ := (leads_spelled_iff spells).mp leads'
      have shallow := not_recursive_of_spelled spells
      rw [namesOf_cons, namesOf_cons]
      refine congrArg _ ?_
      cases stays : isHere (pathIn reached.path (spelled characters)) with
      | true =>
        exact ih onwards onwards' later ((anchored_cons_of_single shallow).mp anchored).2 stays same
      | false =>
        have nonempty : pathIn reached.path (spelled characters) ≠ [] := by
          rw [pathIn, if_pos here]
          exact ne_nil_of_has here found
        have further := congrArg Path.names same
        rw [along, along, List.foldl_cons, List.foldl_cons, ← along, ← along] at further
        rw [Pick.onto, names_along_away stays nonempty (onwards.relative wellNamed later),
          names_along_away stays nonempty (onwards'.relative wellNamed later)] at further
        exact List.append_cancel_left further
    | none =>
      have special : Path.self ∉ specialNames component := by
        cases deep : isRecursive component with
        | true => simp [specialNames_of_recursive first deep]
        | false => exact ((anchored_cons_of_single deep).mp anchored).1 spells
      exact leads.namesOf_eq_of_unspelled leads' spells wellNamed proper special here
        (congrArg Path.names same)

/--
Whether a pattern asks for directories in any number once at
most, and not behind what may stay where it is.
-/
def IsSimple (pattern : String) : Prop :=
  -- What stays in the working directory leaves no trace in the path, as it does below the root.
  ∀ fromRoot components, plan pattern.toList = .ok (fromRoot, components) → DeepOnce components ∧
    (fromRoot = true ∨ (∀ component ∈ components, isRecursive component = false) ∨
      Anchored components)

/-- A simple pattern leads to no path in two ways. -/
theorem IsSimple.unique {pattern : String} (simple : IsSimple pattern)
    (wellNamed : workplace.tree.WellNamed) (isWay : IsWay workplace pattern way)
    (isWay' : IsWay workplace pattern way')
    (same : along (origin pattern) way = along (origin pattern) way') : way = way' := by
  -- It is enough that both ways go along the same names.
  obtain ⟨fromRoot, components, goal, planned, leads⟩ := isWay
  obtain ⟨fromRoot', components', goal', planned', leads'⟩ := isWay'
  cases planned.symm.trans planned'
  obtain ⟨begins, -, proper⟩ := plan_ok planned
  obtain ⟨once, start⟩ := simple fromRoot components planned
  refine leads.eq_of_namesOf leads' wellNamed proper once ?_
  -- From the root all names are kept.
  by_cases root : fromRoot = true
  · have slash : origin pattern = [Octets.slash] := if_pos (begins.mp root)
    have further := congrArg Path.names same
    rw [slash, names_along_away rfl (List.cons_ne_nil _ _) (leads.relative wellNamed proper),
      names_along_away rfl (List.cons_ne_nil _ _) (leads'.relative wellNamed proper)] at further
    exact List.append_cancel_left further
  · -- From the working directory it depends on how the pattern begins.
    rcases start with fromRoot | single | anchored
    · exact absurd fromRoot root
    · exact leads.namesOf_eq_of_single leads' wellNamed proper single same
    · have here : origin pattern = Path.self := if_neg fun slash => root (begins.mpr slash)
      exact leads.namesOf_eq_of_anchored leads' wellNamed proper anchored (by rw [here]; rfl) same

/--
A search finds a path once for each way in which its pattern leads there.

So no path is found twice exactly if none is led to in two
ways, and none is if the pattern is simple.
-/
theorem search_once_per_way {pattern : String} {found : List Match}
    (wellNamed : workplace.tree.WellNamed) (searched : search workplace pattern = .ok found) :
    (∃ ways : List (List Pick), ways.Nodup ∧ (∀ way, way ∈ ways ↔ IsWay workplace pattern way) ∧
      found.map Match.path = ways.map (along (origin pattern))) ∧
    ((found.map Match.path).Nodup ↔
      ∀ way way', IsWay workplace pattern way → IsWay workplace pattern way' →
      along (origin pattern) way = along (origin pattern) way' → way = way') ∧
    (IsSimple pattern → (found.map Match.path).Nodup) := by
  -- There are as many paths as ways, so that only ways with the same path repeat one.
  obtain ⟨ways, distinct, all, whole⟩ := search_ways wellNamed searched
  have distinctness : (found.map Match.path).Nodup ↔ ∀ way way', IsWay workplace pattern way →
      IsWay workplace pattern way' → along (origin pattern) way = along (origin pattern) way' →
        way = way' := by
    rw [whole, List.nodup_map_iff_inj_on distinct]
    constructor
    · intro apart way way' isWay isWay' same
      exact apart way ((all way).mpr isWay) way' ((all way').mpr isWay') same
    · intro apart way among way' among' same
      exact apart way way' ((all way).mp among) ((all way').mp among') same
  exact ⟨⟨ways, distinct, all, whole⟩, distinctness,
    fun simple => distinctness.mpr fun way way' => simple.unique wellNamed⟩

/-- A workplace with three directories a, b and c, each of which lies in the one before it. -/
def nested : Workplace :=
  ⟨⟨[([], .directory 0o755), ([[0x61]], .directory 0o755), ([[0x62], [0x61]], .directory 0o755),
    ([[0x63], [0x62], [0x61]], .directory 0o755)]⟩, .root, 0o022, []⟩

/-- The innermost directory is found once by a simple pattern, for the one way that leads there. -/
theorem nested_found_once :
    search nested "**/c" = .ok [⟨[0x61, 0x2F, 0x62, 0x2F, 0x63], true⟩] ∧ IsSimple "**/c" ∧
    ∃ ways : List (List Pick), ways.Nodup ∧ (∀ way, way ∈ ways ↔ IsWay nested "**/c" way) ∧
      [[0x61, 0x2F, 0x62, 0x2F, 0x63]] = ways.map (along (origin "**/c")) := by
  -- There is one such directory, and the pattern asks for directories in any number once.
  have wellNamed : nested.tree.WellNamed := by decide
  have searched : search nested "**/c" = .ok [⟨[0x61, 0x2F, 0x62, 0x2F, 0x63], true⟩] := by
    decide +kernel
  have planned : plan "**/c".toList = .ok (false, [[.anyDepth], [.literal 'c']]) := rfl
  refine ⟨searched, fun fromRoot components planned' => ?_,
    (search_once_per_way wellNamed searched).1⟩
  cases planned.symm.trans planned'
  exact ⟨by unfold DeepOnce; decide, .inr (.inr (by unfold Anchored; decide))⟩

/--
It is found twice by a pattern in which the star can stand for either of the directories before it.
-/
theorem nested_found_twice : nested.tree.WellNamed ∧
    search nested "**/*/**" =
      .ok [⟨[0x61, 0x2F, 0x62], true⟩, ⟨[0x61, 0x2F, 0x62, 0x2F, 0x63], true⟩,
      ⟨[0x61, 0x2F, 0x62, 0x2F, 0x63], true⟩] ∧
    ¬ [[0x61, 0x2F, 0x62], [0x61, 0x2F, 0x62, 0x2F, 0x63], [0x61, 0x2F, 0x62, 0x2F, 0x63]].Nodup :=
  ⟨by decide, by decide +kernel, by decide⟩

end Wakeful.Glob
