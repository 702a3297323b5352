import Wakeful.Glob.Way
import Wakeful.Proofs.Glob.Pattern

/-!
A search turn by turn: a name that is spelled is looked up,
and otherwise each name in the directory is tried.
-/

namespace Wakeful.Glob

variable {workplace : Workplace} {onlyDirectories : Bool} {fuel : Nat} {component : List Token}
variable {rest later : List (List Token)} {reached next : Reached} {entries : List (Octets × Node)}

/-- What is found once a path has been reached and these components are left. -/
def onwards (workplace : Workplace) (onlyDirectories : Bool) (fuel : Nat) (rest : List (List Token))
    (next : Reached) : List Finding :=
  -- Without components it is the path itself, unless only directories are asked for.
  if rest.isEmpty then
    if onlyDirectories && !next.isDirectory then [] else [.ok next]
  else below workplace onlyDirectories fuel rest next

/--
Once no component is left, a path has been found that is a directory if only these are asked for.
-/
theorem onwards_nil : onwards workplace onlyDirectories fuel [] next =
    if onlyDirectories = true → next.isDirectory = true then [.ok next] else [] := by
  -- Only whether it is a directory matters now.
  unfold onwards
  cases onlyDirectories <;> cases next.isDirectory <;> rfl

/-- As long as components are left the search goes on below. -/
theorem onwards_of_ne_nil (nonempty : rest ≠ []) :
    onwards workplace onlyDirectories fuel rest next =
    below workplace onlyDirectories fuel rest next :=
  if_neg (by simpa using nonempty)

/-- A name that is spelled is looked up. -/
theorem below_of_spelled {characters : List Char}
    (spells : plainName? component = some characters) :
    below workplace onlyDirectories (fuel + 1) (component :: rest) reached =
      if reached.has workplace (spelled characters) then
        onwards workplace onlyDirectories fuel rest
          (.ofPath workplace (pathIn reached.path (spelled characters)))
      else [] := by
  -- No directory is listed for it.
  simp only [below, spells]
  rfl

/-- Nothing is listed in what is no directory. -/
theorem below_of_file (unspelled : plainName? component = none)
    (file : reached.isDirectory = false) :
    below workplace onlyDirectories (fuel + 1) (component :: rest) reached = [] := by
  simp only [below, unspelled, file, Bool.not_false, if_true]

/-- A directory that cannot be read makes the search fail. -/
theorem below_of_unreadable {reason : IoError} (unspelled : plainName? component = none)
    (directory : reached.isDirectory = true)
    (unreadable : workplace.readDirectory reached.path = .error reason) :
    below workplace onlyDirectories (fuel + 1) (component :: rest) reached =
      [.error (.unreadable reached.path reason)] := by
  simp only [below, unspelled, directory, Bool.not_true, Bool.false_eq_true, if_false, unreadable]

/--
In a directory that can be read the names made of dots are tried before those that are listed.
-/
theorem below_of_listed (unspelled : plainName? component = none)
    (directory : reached.isDirectory = true)
    (readable : workplace.readDirectory reached.path = .ok entries) :
    below workplace onlyDirectories (fuel + 1) (component :: rest) reached =
      (specialNames component).flatMap (fun name =>
          onwards workplace onlyDirectories fuel rest
            (.ofPath workplace (Path.join reached.path name)))
        ++ entries.flatMap fun entry =>
          visit workplace onlyDirectories fuel (component :: rest)
            (.ofEntry workplace reached.path entry) := by
  -- Neither is a name spelled nor is the directory missing or unreadable.
  simp only [below, unspelled, directory, Bool.not_true, Bool.false_eq_true, if_false, readable]
  rfl

/-- What is found below a listed path that directories in any number pass through. -/
def deeper (workplace : Workplace) (onlyDirectories : Bool) (fuel : Nat) (component : List Token)
    (rest : List (List Token)) (next : Reached) : List Finding :=
  -- Only a directory has something below it.
  if isRecursive component && next.isDirectory then
    below workplace onlyDirectories fuel (component :: afterDepth rest) next
  else []

/-- A listed path that is matched is found before what lies below it. -/
theorem visit_of_meets (meets : Meets (component :: rest) next later) :
    visit workplace onlyDirectories (fuel + 1) (component :: rest) next =
      onwards workplace onlyDirectories fuel later next ++
        deeper workplace onlyDirectories fuel component rest next := by
  -- Each way of meeting a path is one way to go on from it.
  cases meets with
  | single once named =>
    simp only [visit, deeper, once, Bool.false_eq_true, if_false, named, Bool.not_true,
      Bool.false_and, List.append_nil]
    rfl
  | behind deep left named =>
    simp only [visit, onwards, deeper, deep, if_true, left, named, Bool.not_true,
      Bool.false_eq_true, if_false, List.isEmpty_cons, Bool.true_and]
    cases next.isDirectory <;> simp
  | depth deep left directory =>
    simp only [visit, deeper, deep, if_true, left, directory, List.isEmpty_nil, Bool.and_self,
      onwards_nil, implies_true, List.singleton_append]

/-- Below a listed path that is not matched there may still be something. -/
theorem visit_of_not_meets (unmet : ∀ later, ¬ Meets (component :: rest) next later) :
    visit workplace onlyDirectories (fuel + 1) (component :: rest) next =
      deeper workplace onlyDirectories fuel component rest next := by
  -- Nothing is put before what lies deeper.
  cases deep : isRecursive component with
  | false =>
    -- A component that stands for one path does not match its name.
    have unnamed : nameMatches component next = false :=
      Bool.eq_false_iff.mpr fun named => unmet rest (.single deep named)
    simp only [visit, deeper, deep, Bool.false_eq_true, if_false, unnamed, Bool.not_false, if_true,
      Bool.false_and]
  | true =>
    -- Otherwise what is left behind the component is not met,
    cases left : afterDepth rest with
    | nil =>
      -- as the path would have to be a directory,
      have file : next.isDirectory = false :=
        Bool.eq_false_iff.mpr fun directory => unmet [] (.depth deep left directory)
      simp only [visit, deeper, deep, if_true, left, file, Bool.false_eq_true, if_false,
        Bool.and_false]
    | cons component' later =>
      -- or to have a name that matches.
      have unnamed : nameMatches component' next = false :=
        Bool.eq_false_iff.mpr fun named => unmet later (.behind deep left named)
      simp only [visit, deeper, deep, if_true, left, unnamed, Bool.not_false, List.isEmpty_cons,
        Bool.false_eq_true, if_false, List.nil_append, Bool.true_and]

/-- What a search has reached as what it tells. -/
def Reached.told (workplace : Workplace) (reached : Reached) : Match :=
  -- Whether the path leads to a directory is asked once more.
  ⟨reached.path, workplace.leadsToDirectory reached.path⟩

/--
A search comes out well exactly if its pattern makes sense
and each directory on the way can be read.
-/
theorem search_eq_ok_iff {pattern : String} {found : List Match} :
    search workplace pattern = .ok found ↔
    ∃ (fromRoot : Bool) (components : List (List Token)) (paths : List Reached),
      plan pattern.toList = .ok (fromRoot, components) ∧
      below workplace (pattern.toList.getLast? == some '/') (turns components.length) components
        (.ofPath workplace (origin pattern)) = paths.map .ok ∧
      found = paths.map (Reached.told workplace) := by
  -- The search fails exactly where its pattern or one of the paths does.
  have start {fromRoot : Bool} {components : List (List Token)}
      (planned : plan pattern.toList = .ok (fromRoot, components)) :
      origin pattern = if fromRoot then [Octets.slash] else Path.self := by
    simp only [origin, ← (plan_ok planned).1]
  constructor
  · intro searched
    obtain ⟨⟨fromRoot, components⟩, planned, searched⟩ := ok_of_bind searched
    obtain ⟨paths, read, searched⟩ := ok_of_bind searched
    cases searched
    rw [mapError_eq_ok_iff] at planned
    rw [mapM_eq_ok_iff, List.map_id, ← start planned] at read
    exact ⟨fromRoot, components, paths, planned, read, rfl⟩
  · rintro ⟨fromRoot, components, paths, planned, read, rfl⟩
    rw [← List.map_id (below ..), ← mapM_eq_ok_iff, start planned] at read
    have planned' : (plan pattern.toList).mapError GlobError.pattern = .ok (fromRoot, components) :=
      mapError_eq_ok_iff.mpr planned
    simp only [search, planned', ok_bind, read, pure_eq_ok]
    rfl

end Wakeful.Glob
