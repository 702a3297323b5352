import Mathlib.Data.List.Nodup
import Wakeful.Proofs.FileTree.WellNamed
import Wakeful.Proofs.Glob.Search
import Wakeful.Proofs.Path.Display

/-! A search finds a path once for each way in which the components of its pattern lead to it. -/

namespace Wakeful.Glob

open Workplace (readDirectory_eq_ok_iff)

/-- The paths among what is found. -/
def arrivals (findings : List Finding) : List Reached :=
  findings.filterMap Except.toOption

@[simp] theorem arrivals_nil : arrivals [] = [] := rfl

@[simp] theorem arrivals_append (front back : List Finding) :
    arrivals (front ++ back) = arrivals front ++ arrivals back :=
  List.filterMap_append

@[simp] theorem arrivals_flatMap {ι : Type} (items : List ι) (found : ι → List Finding) :
    arrivals (items.flatMap found) = items.flatMap fun item => arrivals (found item) := by
  -- The induction is over what is searched one after the other.
  induction items with
  | nil => rfl
  | cons item items ih => rw [List.flatMap_cons, List.flatMap_cons, arrivals_append, ih]

@[simp] theorem arrivals_map_ok (reached : List Reached) :
    arrivals (reached.map .ok) = reached := by
  -- The induction is over the paths, none of which is a failure.
  induction reached with
  | nil => rfl
  | cons first reached ih => exact congrArg (first :: ·) ih

/-- Whether paths are those to which something leads, once for each way in which it does. -/
def Enumerates (found : List Reached) (leads : List Pick → Reached → Prop) : Prop :=
  ∃ ways : List (List Pick × Reached), (ways.map Prod.fst).Nodup ∧ found = ways.map Prod.snd ∧
    ∀ way goal, (way, goal) ∈ ways ↔ leads way goal

namespace Enumerates

variable {found more : List Reached} {leads leads' : List Pick → Reached → Prop}

/-- Ways can be described otherwise. -/
theorem congr (enumerates : Enumerates found leads)
    (same : ∀ way goal, leads' way goal ↔ leads way goal) : Enumerates found leads' := by
  -- The same ways count, whichever way they are described.
  obtain ⟨ways, distinct, paths, all⟩ := enumerates
  exact ⟨ways, distinct, paths, fun way goal => (all way goal).trans (same way goal).symm⟩

/-- Without a way there is no path. -/
theorem nil (none : ∀ way goal, ¬ leads way goal) : Enumerates [] leads :=
  ⟨[], List.nodup_nil, rfl, fun way goal => iff_of_false List.not_mem_nil (none way goal)⟩

/-- A single way that is at its end leads to a single path. -/
theorem single (goal : Reached) : Enumerates [goal] fun way goal' => way = [] ∧ goal' = goal :=
  ⟨[([], goal)], List.nodup_singleton _, rfl, fun way goal' => by simp⟩

/-- Before all ways another pick can be made. -/
theorem cons (pick : Pick) (enumerates : Enumerates found leads) :
    Enumerates found fun way goal => ∃ later, way = pick :: later ∧ leads later goal := by
  -- The pick is put before each way that there is.
  obtain ⟨ways, distinct, rfl, all⟩ := enumerates
  refine ⟨ways.map fun way => (pick :: way.1, way.2),
    ?_, by simp [Function.comp_def], fun way goal => ?_⟩
  · -- Ways that differ still do with the same pick before them.
    have picked := distinct.map (List.cons_injective (a := pick))
    simpa [Function.comp_def] using picked
  · simp only [List.mem_map, Prod.mk.injEq, Prod.exists, ← all]
    constructor
    · rintro ⟨later, _, among, rfl, rfl⟩
      exact ⟨later, rfl, among⟩
    · rintro ⟨later, rfl, among⟩
      exact ⟨later, goal, among, rfl, rfl⟩

/-- What leads on in one way or another leads to the paths of both if no way is common to them. -/
theorem append (first : Enumerates found leads) (second : Enumerates more leads')
    (apart : ∀ way goal goal', leads way goal → ¬ leads' way goal') :
    Enumerates (found ++ more) fun way goal => leads way goal ∨ leads' way goal := by
  -- The ways of both are put in a row.
  obtain ⟨ways, distinct, rfl, all⟩ := first
  obtain ⟨ways', distinct', rfl, all'⟩ := second
  refine ⟨ways ++ ways', ?_, List.map_append.symm,
    fun way goal => by rw [List.mem_append, all, all']⟩
  rw [List.map_append]
  -- None of them is there twice, as no way is common to both.
  refine distinct.append distinct' fun way among among' => ?_
  obtain ⟨⟨way', goal⟩, within, same⟩ := List.mem_map.mp among
  obtain ⟨⟨way'', goal'⟩, within', same'⟩ := List.mem_map.mp among'
  obtain rfl : way' = way := same
  obtain rfl : way'' = way' := same'
  exact apart _ goal goal' ((all _ _).mp within) ((all' _ _).mp within')

/--
What leads on at one of several places leads to the paths of all if no way is common to two of them.
-/
theorem flatMap {ι : Type} {items : List ι} {found : ι → List Reached}
    {leads : ι → List Pick → Reached → Prop}
    (each : ∀ item ∈ items, Enumerates (found item) (leads item))
    (apart : items.Pairwise fun one other =>
      ∀ way goal goal', leads one way goal → ¬ leads other way goal') :
    Enumerates (items.flatMap found) fun way goal => ∃ item ∈ items, leads item way goal := by
  -- The induction is over the places, where those of the first one come before all others.
  induction items with
  | nil => exact nil (by simp)
  | cons item items ih =>
    obtain ⟨here, later⟩ := List.forall_mem_cons.mp each
    obtain ⟨other, others⟩ := List.pairwise_cons.mp apart
    refine (here.append (ih later others) ?_).congr fun way goal => by simp
    rintro way goal goal' leads ⟨item', among, leads'⟩
    exact other item' among way goal goal' leads leads'

end Enumerates

section Length

variable {path name : Octets}

/--
A path means the working directory if it does not start at
the root and has no names but self-references.
-/
theorem isHere_iff : isHere path = true ↔
    Path.isAbsolute path = false ∧ Path.names path ≠ [] ∧
    ∀ name ∈ Path.names path, name = Path.self := by
  simp [isHere, and_assoc]

/-- A path with a name other than a self-reference does not mean the working directory. -/
theorem away_of_mem_names {other : Octets} (among : other ∈ Path.names path)
    (different : other ≠ Path.self) : isHere path = false :=
  Bool.eq_false_iff.mpr fun here => different ((isHere_iff.mp here).2.2 other among)

/-- A name that can be one does not mean the working directory. -/
theorem away_of_isName (isName : Path.IsName name) : isHere name = false :=
  away_of_mem_names (isName.names ▸ List.mem_singleton_self name) isName.other

/-- How long a path is, where the working directory does not count. -/
def weight (path : Octets) : Nat :=
  if isHere path then 0 else path.length

/-- No path counts for more than its length. -/
theorem weight_le_length (path : Octets) : weight path ≤ path.length := by
  -- It counts for its length or for nothing.
  unfold weight
  split <;> simp

/-- A path that counts does not mean the working directory when something is joined to it. -/
theorem isHere_join (relative : Path.isAbsolute name = false) (nonempty : path ≠ [])
    (away : isHere path = false) : isHere (Path.join path name) = false := by
  -- The names of a path are among those of the whole, and so they would be self-references.
  refine Bool.eq_false_iff.mpr fun here => Bool.eq_false_iff.mp away (isHere_iff.mpr ?_)
  obtain ⟨relative', -, all⟩ := isHere_iff.mp here
  rw [Path.isAbsolute_join relative] at relative'
  rw [Path.names_join relative] at all
  refine ⟨relative', fun nameless => ?_, fun name among => all name (List.mem_append_left _ among)⟩
  cases relative'.symm.trans (Path.root_of_names_eq_nil nonempty nameless).1

/-- A path does not lose weight when something is joined to it. -/
theorem weight_le_join (relative : Path.isAbsolute name = false) :
    weight path ≤ weight (Path.join path name) := by
  -- What counts for nothing loses nothing, and any other path is in front of the whole.
  cases away : isHere path with
  | true => simp [weight, away]
  | false =>
    by_cases nonempty : path = []
    · simp [nonempty, weight]
    · rw [weight, weight, away, isHere_join relative nonempty away]
      exact (Path.prefix_join relative).length_le

/-- A path does not lose weight when a name is asked for in it. -/
theorem weight_le_pathIn (relative : Path.isAbsolute name = false) :
    weight path ≤ weight (pathIn path name) := by
  -- In the working directory the path had no weight to lose.
  cases away : isHere path with
  | true => simp [weight, away]
  | false =>
    rw [pathIn, away]
    exact weight_le_join relative

/-- The path of something in a directory counts for more than that of the directory. -/
theorem weight_lt_pathIn (isName : Path.IsName name) : weight path < weight (pathIn path name) := by
  -- A name has octets, and these are more than what stood for the working directory.
  cases away : isHere path with
  | true =>
    simpa [weight, away, pathIn, away_of_isName isName] using List.length_pos_of_ne_nil
      isName.nonempty
  | false =>
    -- Behind any other path it is a name of the whole, which then counts.
    have among : name ∈ Path.names (Path.join path name) := by
      rw [Path.names_join isName.relative, isName.names]
      exact List.mem_append_right _ (List.mem_singleton_self name)
    have apart := away_of_mem_names among isName.other
    -- The whole is longer by the name at least.
    have longer : path.length < (Path.join path name).length := by
      have counts := List.length_pos_of_ne_nil isName.nonempty
      unfold Path.join
      rw [if_neg (by simp [isName.relative])]
      split <;> rw [List.length_append]
      · omega
      · rw [List.length_cons]
        omega
    rw [pathIn, away]
    simpa [weight, away, apart] using longer

end Length

variable {workplace : Workplace} {onlyDirectories : Bool} {component : List Token}
  {rest left later : List (List Token)}
variable {reached next goal : Reached} {way : List Pick}

/-- A listed path is matched in one way at most. -/
theorem Meets.unique (meets : Meets (component :: rest) next left)
    (meets' : Meets (component :: rest) next later) :
    left = later := by
  -- What kind of component it is decides how it is met.
  cases meets with
  | single once named =>
    cases meets' with
    | single => rfl
    | behind deep => cases once.symm.trans deep
    | depth deep => cases once.symm.trans deep
  | behind deep ends named =>
    cases meets' with
    | single once => cases once.symm.trans deep
    | behind deep' ends' => cases ends.symm.trans ends'; rfl
    | depth deep' ends' => cases ends.symm.trans ends'
  | depth deep ends directory =>
    cases meets' with
    | single once => cases once.symm.trans deep
    | behind deep' ends' => cases ends.symm.trans ends'
    | depth => rfl

/-- What is left once directories in any number have begun is the end of what was left. -/
theorem afterDepth_suffix (components : List (List Token)) :
    afterDepth components <:+ components := by
  -- The induction is over the components that mean directories in any number.
  induction components with
  | nil => exact List.suffix_rfl
  | cons component components ih =>
    rw [afterDepth]
    split
    · exact ih.trans (List.suffix_cons component components)
    · exact List.suffix_rfl

/-- What is left below a directory that is passed through is made of components, too. -/
theorem proper_deeper (proper : ∀ other ∈ component :: rest, IsComponent other) :
    ∀ other ∈ component :: afterDepth rest, IsComponent other := by
  -- Only components in front have been left out.
  obtain ⟨here, later⟩ := List.forall_mem_cons.mp proper
  exact List.forall_mem_cons.mpr ⟨here,
    fun other among => later other ((afterDepth_suffix rest).subset among)⟩

/-- What is left once a listed path is matched is the end of what is left behind the component. -/
theorem Meets.suffix (meets : Meets (component :: rest) next left) : left <:+ rest := by
  -- Each way of meeting leaves out components in front.
  cases meets with
  | single => exact List.suffix_rfl
  | behind deep ends => exact (List.suffix_cons _ left).trans (ends ▸ afterDepth_suffix rest)
  | depth => exact List.nil_suffix

/-- Without a component left a way is at its end. -/
theorem leads_nil_iff : Leads workplace onlyDirectories [] reached way goal ↔
    way = [] ∧ goal = reached ∧ (onlyDirectories = true → reached.isDirectory = true) := by
  -- No pick can be made without a component.
  constructor
  · intro leads
    cases leads with
    | arrived fits => exact ⟨rfl, rfl, fits⟩
  · rintro ⟨rfl, rfl, fits⟩
    exact .arrived fits

/-- Where a component spells a name, all ways go on from what has that name. -/
theorem leads_spelled_iff {characters : List Char}
    (spells : plainName? component = some characters) :
    Leads workplace onlyDirectories (component :: rest) reached way goal ↔
      reached.has workplace (spelled characters) = true ∧
        ∃ later, way = .asked (spelled characters) :: later ∧ Leads workplace onlyDirectories rest
          (.ofPath workplace (pathIn reached.path (spelled characters))) later goal := by
  -- A component that spells a name is met by asking for it only.
  constructor
  · intro leads
    cases leads with
    | asked spells' found onwards =>
      cases spells.symm.trans spells'
      exact ⟨found, _, rfl, onwards⟩
    | dots unspelled => cases unspelled.symm.trans spells
    | listed unspelled => cases unspelled.symm.trans spells
    | passed deep => cases (plainName?_of_recursive deep).symm.trans spells
  · rintro ⟨found, later, rfl, onwards⟩
    exact .asked spells found onwards

/-- The ways that go through a listed path. -/
def Through (workplace : Workplace) (onlyDirectories : Bool) (component : List Token)
    (rest : List (List Token)) (next : Reached) (way : List Pick) (goal : Reached) : Prop :=
  (∃ left, Meets (component :: rest) next left ∧
    ∃ later, way = .listed next.name :: later ∧
      Leads workplace onlyDirectories left next later goal) ∨
  (isRecursive component = true ∧ next.isDirectory = true ∧
    ∃ later, way = .passed next.name :: later ∧
      Leads workplace onlyDirectories (component :: afterDepth rest) next later goal)

/--
Where a component spells no name, all ways go by a name made
of dots or a listed one in a readable directory.
-/
theorem leads_unspelled_iff (unspelled : plainName? component = none) :
    Leads workplace onlyDirectories (component :: rest) reached way goal ↔
      reached.isDirectory = true ∧
      ∃ entries, workplace.readDirectory reached.path = .ok entries ∧
        ((∃ name ∈ specialNames component, ∃ later, way = .dots name :: later ∧
          Leads workplace onlyDirectories rest
            (.ofPath workplace (Path.join reached.path name)) later goal) ∨
        ∃ entry ∈ entries,
          Through workplace onlyDirectories component rest
            (.ofEntry workplace reached.path entry) way goal) := by
  -- Such a component needs a directory that can be read, whatever the pick.
  constructor
  · intro leads
    cases leads with
    | asked spells => cases unspelled.symm.trans spells
    | dots _ directory readable special onwards =>
      obtain ⟨entries, read⟩ := readable
      exact ⟨directory, entries, read, .inl ⟨_, special, _, rfl, onwards⟩⟩
    | listed _ lists meets onwards =>
      obtain ⟨directory, entries, read, entry, among, rfl⟩ := lists
      exact ⟨directory, entries, read, .inr ⟨entry, among, .inl ⟨_, meets, _, rfl, onwards⟩⟩⟩
    | passed deep lists inside onwards =>
      obtain ⟨directory, entries, read, entry, among, rfl⟩ := lists
      exact ⟨directory, entries, read, .inr ⟨entry, among, .inr ⟨deep, inside, _, rfl, onwards⟩⟩⟩
  · -- Each pick is one of the ways to go on.
    rintro ⟨directory, entries, read,
      ⟨name, special, later, rfl, onwards⟩ | ⟨entry, among, through⟩⟩
    · exact .dots unspelled directory ⟨entries, read⟩ special onwards
    · have lists : reached.Lists workplace (.ofEntry workplace reached.path entry) :=
        ⟨directory, entries, read, entry, among, rfl⟩
      rcases through with ⟨left, meets, later, rfl, onwards⟩ | ⟨deep, inside, later, rfl, onwards⟩
      · exact .listed unspelled lists meets onwards
      · exact .passed deep lists inside onwards

/-- From a path that was reached on the way, whatever is found is found in one way. -/
theorem onwards_enumerates {fuel : Nat}
    (on : rest ≠ [] → Enumerates (arrivals (below workplace onlyDirectories fuel rest next))
      (Leads workplace onlyDirectories rest next)) :
    Enumerates (arrivals (onwards workplace onlyDirectories fuel rest next))
      (Leads workplace onlyDirectories rest next) := by
  -- At the end of the pattern the path itself is what is found, if it fits.
  by_cases done : rest = []
  · subst done
    rw [onwards_nil]
    split
    · rename_i fits
      exact (Enumerates.single next).congr fun way goal => leads_nil_iff.trans
        (and_congr_right fun _ => and_iff_left fits)
    · rename_i unfit
      exact .nil fun way goal leads => unfit (leads_nil_iff.mp leads).2.2
  · rw [onwards_of_ne_nil done]
    exact on done

/-- Below a listed path, whatever is found is found in one way. -/
theorem visit_enumerates {fuel : Nat}
    (on : ∀ left, Meets (component :: rest) next left →
      Enumerates (arrivals (onwards workplace onlyDirectories fuel left next))
        (Leads workplace onlyDirectories left next))
    (deep : isRecursive component = true → next.isDirectory = true →
      Enumerates
        (arrivals (below workplace onlyDirectories fuel (component :: afterDepth rest) next))
        (Leads workplace onlyDirectories (component :: afterDepth rest) next)) :
    Enumerates (arrivals (visit workplace onlyDirectories (fuel + 1) (component :: rest) next))
      (Through workplace onlyDirectories component rest next) := by
  -- What is met here is found first, and then what lies deeper: only directories in any number go
  -- there, and only into a directory.
  have beyond : Enumerates
      (arrivals (deeper workplace onlyDirectories fuel component rest next)) fun way goal =>
        isRecursive component = true ∧ next.isDirectory = true ∧
          ∃ later, way = .passed next.name :: later ∧
        Leads workplace onlyDirectories (component :: afterDepth rest) next later goal := by
    unfold deeper
    split
    · rename_i both
      obtain ⟨recursive, directory⟩ := Bool.and_eq_true_iff.mp both
      exact ((deep recursive directory).cons (.passed next.name)).congr fun way goal =>
        (and_iff_right recursive).trans (and_iff_right directory)
    · rename_i neither
      exact .nil fun way goal leads => neither (Bool.and_eq_true_iff.mpr ⟨leads.1, leads.2.1⟩)
  -- A path is met in one way or in none.
  by_cases met : ∃ left, Meets (component :: rest) next left
  · obtain ⟨left, meets⟩ := met
    rw [visit_of_meets meets, arrivals_append]
    refine (((on left meets).cons (.listed next.name)).append beyond ?_).congr fun way goal => ?_
    · -- What is found here begins with another pick than what lies deeper.
      rintro way goal goal' ⟨later, rfl, -⟩ ⟨-, -, later', same, -⟩
      cases same
    · refine or_congr ⟨?_, fun leads => ⟨left, meets, leads⟩⟩ Iff.rfl
      rintro ⟨left', meets', leads⟩
      rwa [meets.unique meets']
  · rw [visit_of_not_meets fun left meets => met ⟨left, meets⟩]
    refine beyond.congr fun way goal => or_iff_right ?_
    rintro ⟨left, meets, -⟩
    exact met ⟨left, meets⟩

/--
The names made of dots that a component matches are those of
a directory itself and of the one above it.
-/
theorem eq_of_mem_specialNames {name : Octets} (among : name ∈ specialNames component) :
    name = Path.parent ∨ name = Path.self := by
  -- Only these two are tried at all.
  unfold specialNames at among
  split at among
  · simpa using (List.mem_filter.mp among).1
  · cases among

/-- Each of them is tried once. -/
theorem specialNames_nodup (component : List Token) : (specialNames component).Nodup := by
  -- They are two different names.
  unfold specialNames
  split
  · exact List.Nodup.filter _ (by decide)
  · exact List.nodup_nil

/-- No two names in a directory are the same. -/
theorem entries_apart (wellNamed : workplace.tree.WellNamed) {path : Octets}
    {entries : List (Octets × Node)} (read : workplace.readDirectory path = .ok entries) :
    entries.Pairwise fun one other => one.1 ≠ other.1 := by
  -- The entries of a directory are in the order of their names.
  obtain ⟨spot, node, -, -, -, rfl⟩ := readDirectory_eq_ok_iff.mp read
  refine (wellNamed.entriesAt_ordered spot).imp fun {one other} ordered same => ?_
  rw [same, Octets.before_irrefl] at ordered
  cases ordered

/-- What is listed has a name that can be one. -/
theorem Reached.Lists.isName (lists : reached.Lists workplace next)
    (wellNamed : workplace.tree.WellNamed) : Path.IsName next.name := by
  -- It is an entry of a directory.
  obtain ⟨-, entries, read, entry, among, rfl⟩ := lists
  obtain ⟨spot, node, -, -, -, rfl⟩ := readDirectory_eq_ok_iff.mp read
  exact wellNamed.isName_of_mem_entriesAt among

/-- What is listed under the same name is the same. -/
theorem Reached.Lists.unique {other : Reached} (lists : reached.Lists workplace next)
    (lists' : reached.Lists workplace other) (wellNamed : workplace.tree.WellNamed)
    (same : next.name = other.name) :
    next = other := by
  -- Both are entries of one directory, where no name is given twice.
  obtain ⟨-, entries, read, entry, among, rfl⟩ := lists
  obtain ⟨-, entries', read', entry', among', rfl⟩ := lists'
  cases read.symm.trans read'
  have distinct : (entries.map Prod.fst).Nodup :=
    List.pairwise_map.mpr (entries_apart wellNamed read)
  rw [List.inj_on_of_nodup_map distinct among among' same]

/-- By a name that is spelled, whatever is found is found in one way. -/
theorem spelled_enumerates {fuel : Nat} {characters : List Char}
    (spells : plainName? component = some characters)
    (on : Enumerates (arrivals (onwards workplace onlyDirectories fuel rest
        (.ofPath workplace (pathIn reached.path (spelled characters)))))
      (Leads workplace onlyDirectories rest
        (.ofPath workplace (pathIn reached.path (spelled characters))))) :
    Enumerates (arrivals (below workplace onlyDirectories (fuel + 1) (component :: rest) reached))
      (Leads workplace onlyDirectories (component :: rest) reached) := by
  -- The name is there or not, and only one pick asks for it.
  rw [below_of_spelled spells]
  split
  · rename_i found
    exact (on.cons (.asked (spelled characters))).congr fun way goal =>
      (leads_spelled_iff spells).trans (and_iff_right found)
  · rename_i missing
    exact .nil fun way goal leads => missing ((leads_spelled_iff spells).mp leads).1

/-- Where no directory can be read nothing is found in any way. -/
theorem unlisted_enumerates {fuel : Nat} (unspelled : plainName? component = none)
    (unlisted : reached.isDirectory = true →
      ∀ entries, workplace.readDirectory reached.path ≠ .ok entries) :
    Enumerates (arrivals (below workplace onlyDirectories (fuel + 1) (component :: rest) reached))
      (Leads workplace onlyDirectories (component :: rest) reached) := by
  -- Nothing arrives, as neither a file nor an unreadable directory lists anything.
  have nothing :
      arrivals (below workplace onlyDirectories (fuel + 1) (component :: rest) reached) = [] := by
    cases directory : reached.isDirectory with
    | false => rw [below_of_file unspelled directory, arrivals_nil]
    | true =>
      cases read : workplace.readDirectory reached.path with
      | error reason =>
        rw [below_of_unreadable unspelled directory read]
        rfl
      | ok entries => exact absurd read (unlisted directory entries)
  rw [nothing]
  refine .nil fun way goal leads => ?_
  obtain ⟨directory, entries, read, -⟩ := (leads_unspelled_iff unspelled).mp leads
  exact unlisted directory entries read

/-- In a directory, whatever is found is found in one way. -/
theorem listed_enumerates {fuel : Nat} {entries : List (Octets × Node)}
    (wellNamed : workplace.tree.WellNamed) (unspelled : plainName? component = none)
    (directory : reached.isDirectory = true)
    (read : workplace.readDirectory reached.path = .ok entries)
    (special : ∀ name ∈ specialNames component,
      Enumerates (arrivals (onwards workplace onlyDirectories fuel rest
          (.ofPath workplace (Path.join reached.path name))))
        (Leads workplace onlyDirectories rest (.ofPath workplace (Path.join reached.path name))))
    (listed : ∀ entry ∈ entries,
      Enumerates (arrivals (visit workplace onlyDirectories fuel (component :: rest)
          (.ofEntry workplace reached.path entry)))
        (Through workplace onlyDirectories component rest
          (.ofEntry workplace reached.path entry))) :
    Enumerates (arrivals (below workplace onlyDirectories (fuel + 1) (component :: rest) reached))
      (Leads workplace onlyDirectories (component :: rest) reached) := by
  rw [below_of_listed unspelled directory read, arrivals_append, arrivals_flatMap, arrivals_flatMap]
  have dots := Enumerates.flatMap (fun name among => (special name among).cons (.dots name))
    ((specialNames_nodup component).imp fun {one other} different => by
      rintro way goal goal' ⟨later, rfl, -⟩ ⟨later', same, -⟩
      cases same
      exact different rfl)
  have names :=
    Enumerates.flatMap listed ((entries_apart wellNamed read).imp fun {one other} different => by
    -- Ways through two entries could be the same only if both went by the same name.
    rintro way goal goal' (⟨-, -, later, rfl, -⟩ | ⟨-, -, later, rfl, -⟩)
      (⟨-, -, later', same, -⟩ | ⟨-, -, later', same, -⟩)
    · exact different (by simpa [Reached.ofEntry] using (List.cons.inj same).1)
    · cases same
    · cases same
    · exact different (by simpa [Reached.ofEntry] using (List.cons.inj same).1))
  refine (dots.append names ?_).congr fun way goal => ?_
  · rintro way goal goal' ⟨name, -, later, rfl, -⟩
      ⟨entry, -, ⟨-, -, later', same, -⟩ | ⟨-, -, later', same, -⟩⟩
    · cases same
    · cases same
  · rw [leads_unspelled_iff unspelled]
    constructor
    · rintro ⟨-, entries', read', leads⟩
      cases read.symm.trans read'
      exact leads
    · intro leads
      exact ⟨directory, entries, read, leads⟩

/-- A name that a component spells does not start at the root. -/
theorem IsComponent.relative (isComponent : IsComponent component) {characters : List Char}
    (spells : plainName? component = some characters) :
    Path.isAbsolute (spelled characters) = false := by
  -- No component has a separator.
  refine Path.isAbsolute_of_not_mem fun within => isComponent.single characters spells ?_
  rwa [spelled, Octets.slash_mem_ofText_iff, String.toList_ofList] at within

/--
With turns enough for all components and for all names that a
path can still take up, each way is gone once.
-/
theorem below_enumerates (wellNamed : workplace.tree.WellNamed) {fuel : Nat}
    {components : List (List Token)} (nonempty : components ≠ [])
    (proper : ∀ component ∈ components, IsComponent component)
    (enough : components.length + 2 * (pathLimit - weight reached.path) ≤ fuel) :
    Enumerates (arrivals (below workplace onlyDirectories fuel components reached))
      (Leads workplace onlyDirectories components reached) := by
  -- The induction is over the turns, of which one goes to a component or two to a longer path.
  induction fuel using Nat.strongRecOn generalizing components reached with
  | ind fuel ih =>
    obtain ⟨component, rest, rfl⟩ := List.exists_cons_of_ne_nil nonempty
    obtain ⟨here, later⟩ := List.forall_mem_cons.mp proper
    rw [List.length_cons] at enough
    obtain ⟨fuel, rfl⟩ : ∃ turns, fuel = turns + 1 := ⟨fuel - 1, by omega⟩
    cases spells : plainName? component with
    | some characters =>
      have heavier : weight reached.path ≤ weight (pathIn reached.path (spelled characters)) :=
        weight_le_pathIn (here.relative spells)
      refine spelled_enumerates spells (onwards_enumerates fun nonempty =>
        ih fuel (by omega) nonempty later ?_)
      simp only [Reached.ofPath]
      omega
    | none =>
      by_cases listed : reached.isDirectory = true ∧
        ∃ entries, workplace.readDirectory reached.path = .ok entries
      · obtain ⟨directory, entries, read⟩ := listed
        have short := Nat.lt_of_le_of_lt (weight_le_length reached.path)
          (Workplace.length_lt_of_readDirectory read)
        refine listed_enumerates wellNamed spells directory read
          (fun name among => ?_) fun entry among => ?_
        · have heavier : weight reached.path ≤ weight (Path.join reached.path name) := by
            refine weight_le_join ?_
            rcases eq_of_mem_specialNames among with rfl | rfl <;> rfl
          refine onwards_enumerates fun nonempty => ih fuel (by omega) nonempty later ?_
          simp only [Reached.ofPath]
          omega
        · have lists : reached.Lists workplace (.ofEntry workplace reached.path entry) :=
            ⟨directory, entries, read, entry, among, rfl⟩
          have heavier :
              weight reached.path < weight (Reached.ofEntry workplace reached.path entry).path :=
            weight_lt_pathIn (lists.isName wellNamed)
          obtain ⟨fuel, rfl⟩ : ∃ turns, fuel = turns + 1 := ⟨fuel - 1, by omega⟩
          refine visit_enumerates
            (fun left meets => onwards_enumerates fun nonempty => ?_) fun deep inside => ?_
          · have fewer := meets.suffix.length_le
            exact ih fuel (by omega) nonempty
              (fun other among => later other (meets.suffix.subset among)) (by omega)
          · have fewer := (afterDepth_suffix rest).length_le
            refine ih fuel (by omega) (List.cons_ne_nil _ _) (proper_deeper proper) ?_
            rw [List.length_cons]
            omega
      · exact unlisted_enumerates spells fun directory entries read =>
          listed ⟨directory, entries, read⟩

/-- The names of a way lead along it. -/
theorem Leads.path_eq (leads : Leads workplace onlyDirectories rest reached way goal) :
    goal.path = along reached.path way := by
  -- The induction is over the way, and what is listed is joined by its name.
  induction leads with
  | arrived => rfl
  | asked _ _ _ ih => exact ih
  | dots _ _ _ _ _ ih => exact ih
  | listed _ lists _ _ ih =>
    obtain ⟨-, entries, -, entry, -, rfl⟩ := lists
    exact ih
  | passed _ lists _ _ ih =>
    obtain ⟨-, entries, -, entry, -, rfl⟩ := lists
    exact ih

/-- A search that comes out well finds a path once for each way in which its pattern leads there. -/
theorem search_ways (wellNamed : workplace.tree.WellNamed) {pattern : String} {found : List Match}
    (searched : search workplace pattern = .ok found) :
    ∃ ways : List (List Pick), ways.Nodup ∧ (∀ way, way ∈ ways ↔ IsWay workplace pattern way) ∧
      found.map Match.path = ways.map (along (origin pattern)) := by
  -- Everything that has arrived is found once for each way, and nothing has failed.
  obtain ⟨fromRoot, components, paths, planned, whole, rfl⟩ := search_eq_ok_iff.mp searched
  obtain ⟨-, nonempty, proper⟩ := plan_ok planned
  have enumerates :
      Enumerates (arrivals (below workplace (pattern.toList.getLast? == some '/')
        (turns components.length) components (.ofPath workplace (origin pattern)))) _ :=
    below_enumerates wellNamed nonempty proper (by unfold turns; omega)
  rw [whole, arrivals_map_ok] at enumerates
  obtain ⟨ways, distinct, rfl, all⟩ := enumerates
  refine ⟨ways.map Prod.fst, distinct, fun way => ?_, ?_⟩
  · constructor
    · intro among
      obtain ⟨⟨way, goal⟩, within, rfl⟩ := List.mem_map.mp among
      exact ⟨fromRoot, components, goal, planned, (all way goal).mp within⟩
    · rintro ⟨fromRoot', components', goal, planned', leads⟩
      cases planned.symm.trans planned'
      exact List.mem_map.mpr ⟨(way, goal), (all way goal).mpr leads, rfl⟩
  · -- The path of what is found is the one along its way.
    rw [List.map_map, List.map_map, List.map_map]
    exact List.map_congr_left fun way among => ((all way.1 way.2).mp among).path_eq

end Wakeful.Glob
