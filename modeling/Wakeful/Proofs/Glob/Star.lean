import Mathlib
import Wakeful.Proofs.FileTree.Copy
import Wakeful.Proofs.FileTree.WellNamed
import Wakeful.Proofs.Glob.Search
import Wakeful.Proofs.Path.Display

/-!
A star behind the path of a directory finds what the directory lists, as far as its names are text.
-/

namespace Wakeful

namespace Workplace

variable {workplace : Workplace} {path whole : Octets} {goal : Spot}

/--
Where a path leads somewhere, each beginning of it that
takes the first of its steps names something.
-/
theorem isNamed_of_prefix (fit : checkOctets whole = .ok ())
    (located : workplace.locate true whole = .ok goal) (nonempty : path ≠ [])
    (within : path <+: whole) {more : List Step}
    (steps : Step.ofPath whole = Step.ofPath path ++ more) : workplace.isNamed path = true := by
  obtain ⟨⟨⟩, fine, walked⟩ := ok_of_bind located
  have fit' : checkOctets path = .ok () :=
    checkOctets_eq_ok_iff.mpr fun among => checkOctets_eq_ok_iff.mp fit (within.subset among)
  have fine' : checkPath path = .ok () :=
    checkPath_eq_ok_iff.mpr ⟨nonempty,
      Nat.lt_of_le_of_lt within.length_le (checkPath_eq_ok_iff.mp fine).2⟩
  obtain ⟨rest, rfl⟩ := within
  have start : workplace.startOf (path ++ rest) = workplace.startOf path := by
    obtain ⟨first, later, rfl⟩ := List.exists_cons_of_ne_nil nonempty
    rfl
  rw [steps, start] at walked
  have stopped : ∃ spot,
      workplace.tree.walk true linkLimit (workplace.startOf path) (Step.ofPath path) =
        .ok spot := by
    -- Either nothing follows, or what follows is walked from where these steps lead.
    cases more with
    | nil => exact ⟨goal, by rwa [List.append_nil] at walked⟩
    | cons next later =>
      cases workplace.tree.walk_append linkLimit (workplace.startOf path) (Step.ofPath path) with
      | failed stopped same => cases (same _ _ _).symm.trans walked
      | led fewer reached same => exact ⟨_, reached⟩
  obtain ⟨spot, walked⟩ := stopped
  obtain ⟨there, walked⟩ := FileTree.walk_stops walked
  refine isNamed_iff.mpr ⟨fit', there, ?_⟩
  simp only [locate, fine', ok_bind, walked]

end Workplace

namespace Glob

open Workplace
  (readDirectory_eq_ok_iff list_eq_ok leadsToDirectory_iff_find leadsToDirectory_of_find)

variable {workplace : Workplace} {onlyDirectories : Bool} {fuel : Nat} {path : Octets}
  {names : List (List Char)}

/-- Characters that can be a name in a directory and mean themselves in a pattern. -/
structure IsPlainName (name : List Char) : Prop where
  /-- They can be a name. -/
  isName : Path.IsName (spelled name)
  /-- Each of them means itself. -/
  literal : ∀ character ∈ name, IsLiteral character

/--
Whether a path leads from the root along names without wildcards
or dots, with one separator before each of them.
-/
def IsPlainPath (path : String) : Prop :=
  ∃ names, names ≠ [] ∧ (∀ name ∈ names, IsPlainName name) ∧ path.toList = names.flatMap ('/' :: ·)

/--
The name of a directory itself or of the one above it is
asked for otherwise than the names in the directory.
-/
theorem has_of_isName {reached : Reached} {name : Octets} (isName : Path.IsName name) :
    reached.has workplace name = workplace.isNamed (pathIn reached.path name) :=
  if_neg (by simp [isName.other, isName.proper])

/-- From the root every name is joined to the path before it. -/
theorem pathIn_of_absolute {name : Octets} (absolute : Path.isAbsolute path = true) :
    pathIn path name = Path.join path name :=
  if_neg (by simp [isHere, absolute])

/-- Names that are spelled and can be found are gone along. -/
theorem below_along {last : List Token} (plain : ∀ name ∈ names, IsPlainName name)
    (absolute : Path.isAbsolute path = true)
    (named : ∀ front, front ≠ [] → front <+: names.map spelled →
      workplace.isNamed (front.foldl Path.join path) = true) :
    below workplace onlyDirectories (names.length + fuel) (names.map (·.map .literal) ++ [last])
        (.ofPath workplace path) =
      below workplace onlyDirectories fuel [last]
        (.ofPath workplace ((names.map spelled).foldl Path.join path)) := by
  -- The induction is over the names, each of which takes one turn.
  induction names generalizing path with
  | nil => simp
  | cons name names ih =>
    obtain ⟨here, later⟩ := List.forall_mem_cons.mp plain
    have joined : pathIn path (spelled name) = Path.join path (spelled name) :=
      pathIn_of_absolute absolute
    -- The first name is there, as all that begin the path are.
    have found : Reached.has workplace (.ofPath workplace path) (spelled name) = true := by
      rw [has_of_isName here.isName]
      exact joined ▸ named [spelled name] (by simp) (by simp)
    have reached : (Reached.ofPath workplace path).path = path := rfl
    rw [List.length_cons, Nat.add_right_comm, List.map_cons, List.cons_append,
      below_of_spelled (plainName?_literals name), if_pos found, onwards_of_ne_nil (by simp),
      reached, joined, List.map_cons, List.foldl_cons]
    refine ih later
      ((Path.isAbsolute_join here.isName.relative).trans absolute) fun front nonempty within => ?_
    exact named (spelled name :: front) (List.cons_ne_nil _ _)
      (List.cons_prefix_cons.mpr ⟨rfl, within⟩)

/-- A star matches a listed name exactly if the name is text. -/
theorem meets_star_iff {next : Reached} {later : List (List Token)} :
    Meets [[.anyRun]] next later ↔ later = [] ∧ (Octets.text? next.name).isSome = true := by
  -- A run of any characters matches every text.
  have named : nameMatches [.anyRun] next = (Octets.text? next.name).isSome := by
    unfold nameMatches
    cases Octets.text? next.name with
    | none => rfl
    | some name => exact matchesName_anyRun name.toList
  constructor
  · intro meets
    cases meets with
    | single once matched => exact ⟨rfl, named ▸ matched⟩
    | behind deep left matched => cases left
    | depth deep left directory => cases deep
  · rintro ⟨rfl, text⟩
    exact .single rfl (named ▸ text)

/-- A star finds all entries of a directory whose names are text. -/
theorem below_star {reached : Reached} {entries : List (Octets × Node)}
    (directory : reached.isDirectory = true)
    (readable : workplace.readDirectory reached.path = .ok entries) :
    below workplace false (fuel + 2) [[.anyRun]] reached =
      ((entries.filter fun entry => (Octets.text? entry.1).isSome).map
        (.ofEntry workplace reached.path)).map .ok := by
  -- No name is made of dots only, so that just the entries are matched.
  rw [below_of_listed rfl directory readable]
  have special : specialNames [.anyRun] = [] := rfl
  rw [special, List.flatMap_nil, List.nil_append]
  clear readable
  induction entries with
  | nil => rfl
  | cons entry entries ih =>
    rw [List.flatMap_cons, ih]
    cases text : (Octets.text? entry.1).isSome with
    | true =>
      -- A name that is text is matched, and nothing lies deeper,
      have meets : Meets [[.anyRun]] (.ofEntry workplace reached.path entry) [] :=
        meets_star_iff.mpr ⟨rfl, text⟩
      rw [visit_of_meets meets, onwards_nil, List.filter_cons, if_pos text]
      rfl
    | false =>
      -- and no other one is.
      have unmet : ∀ later, ¬ Meets [[.anyRun]] (.ofEntry workplace reached.path entry) later :=
        fun later meets => by
          cases text.symm.trans (meets_star_iff.mp meets).2
      rw [visit_of_not_meets unmet, List.filter_cons, if_neg (by simp [text])]
      rfl

/-- Separators stand before names as well as behind them. -/
theorem flatMap_separated (names : List (List Char)) :
    names.flatMap ('/' :: ·) ++ ['/'] = '/' :: names.flatMap (· ++ ['/']) := by
  -- The induction is over the names.
  induction names with
  | nil => rfl
  | cons name names ih => rw [List.flatMap_cons, List.flatMap_cons, List.append_assoc, ih]; simp

/-- A star behind a plain path makes a pattern of the names of the path and the star. -/
theorem plan_star (plain : ∀ name ∈ names, IsPlainName name) :
    plan (names.flatMap ('/' :: ·) ++ ['/'] ++ ['*']) =
      .ok (true, names.map (·.map .literal) ++ [[.anyRun]]) := by
  -- All characters but the star mean themselves, and no name has a separator, so that each of them
  -- is one component.
  have free : ∀ name ∈ names, '/' ∉ name := by
    intro name among within
    refine (plain name among).isName.free (Octets.slash_mem_ofText_iff.mpr ?_)
    rwa [String.toList_ofList]
  have literal : ∀ character ∈ names.flatMap ('/' :: ·) ++ ['/'], IsLiteral character := by
    have slash : IsLiteral '/' := by decide
    intro character among
    rcases List.mem_append.mp among with among | last
    · obtain ⟨name, among, within⟩ := List.mem_flatMap.mp among
      rcases List.mem_cons.mp within with rfl | within
      · exact slash
      · exact (plain name among).literal character within
    · exact List.mem_singleton.mp last ▸ slash
  have fine := tokens_literals_star literal
  rw [flatMap_separated, List.cons_append] at fine ⊢
  refine plan_slash (by simp) fine ?_
  rw [components_joined free (List.cons_ne_nil _ _) (by decide), List.map_append, List.map_append,
    List.map_map]
  congr 1
  exact List.map_congr_left fun name among => tokens_literals (plain name among).literal

/-- A plain path is written as the root with all names joined to it. -/
theorem ofText_plain {directory : String} (nonempty : names ≠ [])
    (plain : ∀ name ∈ names, IsPlainName name)
    (whole : directory.toList = names.flatMap ('/' :: ·)) :
    Octets.ofText directory = (names.map spelled).foldl Path.join [Octets.slash] := by
  -- Each name is written behind a separator, as it is when it is joined.
  have isNames : ∀ name ∈ names.map spelled, Path.IsName name := by
    intro octets among
    obtain ⟨name, inner, rfl⟩ := List.mem_map.mp among
    exact (plain name inner).isName
  rw [(Path.joined_root isNames (by simpa using nonempty)).1, Octets.ofText_eq, whole,
    List.flatMap_assoc, List.flatMap_map]
  congr 1
  funext name
  rw [List.flatMap_cons, spelled, Octets.ofText_ofList]
  rfl

/-- A plain path starts at the root, and ends with a name. -/
theorem IsPlainPath.shape {directory : String} (plain : IsPlainPath directory) :
    Path.isAbsolute (Octets.ofText directory) = true ∧ Octets.ofText directory ≠ [] ∧
      Path.endsWithSlash (Octets.ofText directory) = false := by
  -- A path that is joined to the root starts there and ends with its last name.
  obtain ⟨names, nonempty, plainNames, whole⟩ := plain
  have isNames : ∀ name ∈ names.map spelled, Path.IsName name :=
    List.forall_mem_map.mpr fun name among => (plainNames name among).isName
  have written := ofText_plain nonempty plainNames whole
  have absolute : Path.isAbsolute (Octets.ofText directory) = true :=
    written ▸ Path.isAbsolute_joined isNames _
  refine ⟨absolute, ?_, written ▸ (Path.joined_root isNames (by simpa using nonempty)).2⟩
  intro empty
  rw [empty] at absolute
  cases absolute

/-- Names that are joined to the root are steps one after the other. -/
theorem steps_joined {further : List Octets} (isNames : ∀ name ∈ further, Path.IsName name)
    (nonempty : further ≠ []) :
    Step.ofPath (further.foldl Path.join [Octets.slash]) = further.map Step.ofName := by
  -- The root has no name, and none of the others is empty.
  have named : Path.names [Octets.slash] = [] := rfl
  simp [Step.ofPath, Path.names_joined isNames, named, (Path.joined_root isNames nonempty).2]

/-- Where names from the root lead somewhere, each of them is found on the way. -/
theorem isNamed_of_joined {front back : List Octets} {goal : Spot}
    (isNames : ∀ name ∈ front ++ back, Path.IsName name) (nonempty : front ≠ [])
    (fit : Workplace.checkOctets ((front ++ back).foldl Path.join [Octets.slash]) = .ok ())
    (located : workplace.locate true ((front ++ back).foldl Path.join [Octets.slash]) = .ok goal) :
    workplace.isNamed (front.foldl Path.join [Octets.slash]) = true := by
  -- The path of the first names begins the whole, so that it has been walked along.
  obtain ⟨first, rest⟩ := List.forall_mem_append.mp isNames
  have within : front.foldl Path.join [Octets.slash] <+:
      (front ++ back).foldl Path.join [Octets.slash] := by
    rw [List.foldl_append]
    exact Path.prefix_joined rest _
  -- It begins with the root.
  have begins : front.foldl Path.join [Octets.slash] ≠ [] := by
    intro empty
    have start := Path.prefix_joined first [Octets.slash]
    rw [empty, List.prefix_nil] at start
    cases start
  -- The steps of the whole are those of the first names and the rest.
  have steps : Step.ofPath ((front ++ back).foldl Path.join [Octets.slash]) =
      Step.ofPath (front.foldl Path.join [Octets.slash]) ++ back.map Step.ofName := by
    rw [steps_joined isNames (List.append_ne_nil_of_left_ne_nil nonempty back),
      steps_joined first nonempty, List.map_append]
  exact Workplace.isNamed_of_prefix fit located begins within steps

/--
A star behind the path of a directory that can be read finds all its entries whose names are text.
-/
theorem search_star {directory : String} {entries : List (Octets × Node)}
    (plain : IsPlainPath directory)
    (read : workplace.readDirectory (Octets.ofText directory) = .ok entries) :
    search workplace (directory ++ "/*") =
      .ok (((entries.filter fun entry => (Octets.text? entry.1).isSome).map
        (.ofEntry workplace (Octets.ofText directory))).map (Reached.told workplace)) := by
  obtain ⟨names, nonempty, plainNames, whole⟩ := plain
  have written := ofText_plain nonempty plainNames whole
  obtain ⟨spot, node, found, isDirectory, -, -⟩ := readDirectory_eq_ok_iff.mp read
  have leads := (leadsToDirectory_of_find found).trans isDirectory
  obtain ⟨fit, located, -⟩ := Workplace.find_eq_ok_iff.mp found
  have isNames : ∀ name ∈ names.map spelled, Path.IsName name :=
    List.forall_mem_map.mpr fun name among => (plainNames name among).isName
  have characters : (directory ++ "/*").toList = names.flatMap ('/' :: ·) ++ ['/'] ++ ['*'] := by
    rw [String.toList_append, whole, List.append_assoc]
    rfl
  have start : origin (directory ++ "/*") = [Octets.slash] := by
    rw [origin, characters, flatMap_separated]
    rfl
  have all : ((directory ++ "/*").toList.getLast? == some '/') = false := by
    rw [characters, List.getLast?_concat]
    rfl
  refine search_eq_ok_iff.mpr ⟨true, _, _, characters ▸ plan_star plainNames, ?_, rfl⟩
  -- There are turns enough for all names, and for two more.
  rw [all, start, List.length_append, List.length_map, List.length_singleton,
    show turns (names.length + 1) =
      names.length + (2 * pathLimit - 1 + 2) by unfold turns pathLimit; omega]
  rw [below_along plainNames rfl, ← written]
  · exact below_star leads read
  · intro front begun within
    obtain ⟨back, split⟩ := within
    rw [← split] at written isNames
    exact isNamed_of_joined isNames begun (written ▸ fit) (written ▸ located)

/--
A directory lists what is in it in the order of the names, and
a star finds just that, as far as these are text.
-/
theorem star_finds_listed {directory : String} {spot : Spot} {node : Node}
    (wellNamed : workplace.tree.WellNamed) (plain : IsPlainPath directory)
    (found : workplace.find (Octets.ofText directory) = .ok (spot, node))
    (isDirectory : node.isDirectory = true) (readable : node.readable = true) :
    ∃ listing, workplace.list (Octets.ofText directory) = .ok listing ∧
      search workplace (directory ++ "/*") =
        .ok ((listing.entries.filter fun entry => (Octets.text? entry.name).isSome).map fun entry =>
          ⟨Octets.ofText directory ++ Octets.slash :: entry.name, entry.isDirectory⟩) ∧
      (listing.entries.Pairwise fun left right => Octets.before left.name right.name = true) ∧
      (∀ name, (∃ entry ∈ listing.entries, entry.name = name) ↔
        spot.isGone = false ∧ ∃ node, workplace.tree.node? (name :: spot.place) = some node) ∧
      ∀ entry ∈ listing.entries, Path.IsName entry.name ∧ (entry.isDirectory = true ↔
        ∃ goal mode,
          workplace.find (Octets.ofText directory ++ Octets.slash :: entry.name) =
            .ok (goal, .directory mode)) := by
  -- Both read the same entries of the directory.
  have read : workplace.readDirectory (Octets.ofText directory) =
      .ok (workplace.tree.entriesAt spot) :=
    readDirectory_eq_ok_iff.mpr ⟨spot, node, found, isDirectory, readable, rfl⟩
  have isNames : ∀ entry ∈ workplace.tree.entriesAt spot, Path.IsName entry.1 :=
    fun _ => wellNamed.isName_of_mem_entriesAt
  obtain ⟨absolute, nonempty, bare⟩ := plain.shape
  have joined : ∀ entry ∈ workplace.tree.entriesAt spot,
      Path.join (Octets.ofText directory) entry.1 =
        Octets.ofText directory ++ Octets.slash :: entry.1 :=
    fun entry among => (isNames entry among).join nonempty bare
  refine ⟨_, list_eq_ok read, ?_, ?_, fun name => ?_, ?_⟩
  · -- The star finds each entry whose name is text under its path.
    rw [search_star plain read, List.filter_map, List.map_map, List.map_map]
    congr 1
    refine List.map_congr_left fun entry among => ?_
    have told := joined entry (List.mem_filter.mp among).1
    simp only [Function.comp_apply, Reached.told, Reached.ofEntry,
      pathIn_of_absolute absolute, told]
  · -- The entries are in order from the beginning,
    exact List.pairwise_map.mpr (wellNamed.entriesAt_ordered spot)
  · -- and there is one for each name in the directory,
    rw [← wellNamed.name_mem_entriesAt_iff]
    constructor
    · rintro ⟨_, among, rfl⟩
      obtain ⟨entry, inner, rfl⟩ := List.mem_map.mp among
      exact ⟨entry, inner, rfl⟩
    · rintro ⟨entry, among, rfl⟩
      exact ⟨_, List.mem_map_of_mem among, rfl⟩
  · -- which is a directory if its path leads to one.
    intro listed among
    obtain ⟨entry, inner, rfl⟩ := List.mem_map.mp among
    exact ⟨isNames entry inner, joined entry inner ▸ leadsToDirectory_iff_find⟩

/--
A directory d with a directory s, links to it and to nothing,
a hidden file, and a file whose name is no text.
-/
def pantry : Workplace :=
  -- The links are l and n, and the hidden file is .h.
  ⟨⟨[([], .directory 0o755), ([[0x64]], .directory 0o755), ([[0x73], [0x64]], .directory 0o755),
    ([[0x6C], [0x64]], .link [0x73]), ([[0x6E], [0x64]], .link [0x67]),
    ([[0x2E, 0x68], [0x64]], .file 0o644 []), ([[0xFF], [0x64]], .file 0o644 [])]⟩, .root,
    0o022, []⟩

/-- Of what the directory d lists, the star finds all but the name that is no text. -/
theorem star_finds_pantry :
    pantry.list (Octets.ofText "/d") = .ok ⟨[0x2F, 0x64], [⟨[0x2E, 0x68], false⟩, ⟨[0x6C], true⟩,
      ⟨[0x6E], false⟩, ⟨[0x73], true⟩, ⟨[0xFF], false⟩]⟩ ∧
    search pantry ("/d" ++ "/*") = .ok [⟨[0x2F, 0x64, 0x2F, 0x2E, 0x68], false⟩,
      ⟨[0x2F, 0x64, 0x2F, 0x6C], true⟩, ⟨[0x2F, 0x64, 0x2F, 0x6E], false⟩,
      ⟨[0x2F, 0x64, 0x2F, 0x73], true⟩] := by
  -- The directory is listed and searched by computation.
  have wellNamed : pantry.tree.WellNamed := by decide
  have plainName : IsPlainName ['d'] := ⟨by decide, List.forall_mem_singleton.mpr (by decide)⟩
  have plain : IsPlainPath "/d" := ⟨[['d']], by decide, by simpa using plainName, rfl⟩
  have found : pantry.find (Octets.ofText "/d") = .ok (.ofPlace [[0x64]], .directory 0o755) := by
    cbv
  have listed : pantry.list (Octets.ofText "/d") =
      .ok ⟨[0x2F, 0x64], [⟨[0x2E, 0x68], false⟩, ⟨[0x6C], true⟩,
    ⟨[0x6E], false⟩, ⟨[0x73], true⟩, ⟨[0xFF], false⟩]⟩ := by cbv
  obtain ⟨listing, same, searched, -⟩ := star_finds_listed wellNamed plain found rfl (by decide)
  cases listed.symm.trans same
  refine ⟨listed, searched.trans ?_⟩
  cbv

end Glob

end Wakeful
