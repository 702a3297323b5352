import Wakeful.FileTree.Listing
import Wakeful.Glob.Pattern
import Wakeful.Text.Utf8

/-!
Searching the tree for the paths that match a pattern, in the order
of their names, each directory before what lies in it.
-/

namespace Wakeful

namespace Glob

/-- Why a search failed. -/
inductive GlobError where
  /-- The pattern makes no sense. -/
  | pattern (error : PatternError)
  /-- A directory on the way could not be read. -/
  | unreadable (path : Octets) (reason : IoError)
  deriving DecidableEq, Repr

/-- The words for a search that failed. -/
def GlobError.message : GlobError → String
  -- The path is quoted as text.
  | pattern error => error.message
  | unreadable path reason =>
    "attempting to read \x60" ++ Utf8.lossy path ++ "\x60 resulted in an error: " ++ reason.message

/-- A path that a search has reached. -/
structure Reached where
  /-- The path. -/
  path : Octets
  /-- Its last name. -/
  name : Octets
  /-- Whether it leads to a directory. -/
  isDirectory : Bool

/-- A path that was reached by asking for it. -/
def Reached.ofPath (workplace : Workplace) (path : Octets) : Reached :=
  -- All links are followed.
  ⟨path, (Path.names path).getLast?.getD [], workplace.leadsToDirectory path⟩

/-- Whether a path means the working directory without going anywhere. -/
def isHere (path : Octets) : Bool :=
  -- It consists of self-references only.
  let names := Path.names path
  !Path.isAbsolute path && !names.isEmpty && names.all (· == Path.self)

/-- The path of a name in a directory, where the working directory itself is not mentioned. -/
def pathIn (directory name : Octets) : Octets :=
  -- Everywhere else the two are joined.
  if isHere directory then name else Path.join directory name

/-- A path that was reached by listing a directory. -/
def Reached.ofEntry (workplace : Workplace) (directory : Octets)
    (entry : Octets × Node) : Reached :=
  -- Only for a link it has to be asked where it leads.
  let path := pathIn directory entry.1
  ⟨path, entry.1, if entry.2.isLink then workplace.leadsToDirectory path else entry.2.isDirectory⟩

/-- What a search finds on its way: a path that matches, or a directory that cannot be read. -/
abbrev Finding := Except GlobError Reached

/-- The components that are left once directories in any number have begun, without repetitions. -/
def afterDepth : List (List Token) → List (List Token)
  -- Directories in any number twice are the same as once.
  | component :: rest => if isRecursive component then afterDepth rest else component :: rest
  | [] => []

/-- Whether the name of a reached path matches a component. -/
def nameMatches (component : List Token) (reached : Reached) : Bool :=
  -- A name that is no text matches nothing.
  match Octets.text? reached.name with
  | some name => matchesName component name.toList
  | none => false

/-- The self-references that a component matches, of which the upward one comes first. -/
def specialNames (component : List Token) : List Octets :=
  -- They have to be announced by a dot.
  if component.head? == some (.literal '.') then
    [Path.parent, Path.self].filter fun name =>
      matchesName component (name.map fun octet => Char.ofNat octet.toNat)
  else []

mutual

/-- What matches components below a path. -/
def below (workplace : Workplace) (onlyDirectories : Bool) :
    (fuel : Nat) → (components : List (List Token)) → Reached → List Finding
  -- A name without wildcards is looked up, and otherwise the directory is listed.
  | 0, _, _ => []
  | _ + 1, [], _ => []
  | fuel + 1, component :: rest, reached =>
    let onwards (next : Reached) : List Finding :=
      if rest.isEmpty then
        if onlyDirectories && !next.isDirectory then [] else [.ok next]
      else below workplace onlyDirectories fuel rest next
    match plainName? component with
    | some characters =>
      let name := Octets.ofText (String.ofList characters)
      let next := pathIn reached.path name
      let there := if name = Path.self ∨ name = Path.parent then reached.isDirectory
        else workplace.isNamed next
      if there then onwards (.ofPath workplace next) else []
    | none =>
      if !reached.isDirectory then []
      else
        match workplace.readDirectory reached.path with
        | .error reason => [.error (.unreadable reached.path reason)]
        | .ok entries =>
          (specialNames component).flatMap
            (fun name => onwards (.ofPath workplace (Path.join reached.path name))) ++
              entries.flatMap fun entry =>
              visit workplace onlyDirectories fuel (component :: rest)
                (.ofEntry workplace reached.path entry)

/-- What matches components at or below a path that was reached by listing. -/
def visit (workplace : Workplace) (onlyDirectories : Bool) :
    (fuel : Nat) → (components : List (List Token)) → Reached → List Finding
  -- Directories in any number may end here or go on below.
  | 0, _, _ => []
  | _ + 1, [], _ => []
  | fuel + 1, component :: rest, reached =>
    let here (components : List (List Token)) : List Finding :=
      match components with
      | [] => []
      | component :: rest =>
        if !nameMatches component reached then []
        else if rest.isEmpty then
          if onlyDirectories && !reached.isDirectory then [] else [.ok reached]
        else below workplace onlyDirectories fuel rest reached
    if isRecursive component then
      let onwards := afterDepth rest
      if reached.isDirectory then
        let deeper := below workplace onlyDirectories fuel (component :: onwards) reached
        if onwards.isEmpty then .ok reached :: deeper else here onwards ++ deeper
      else here onwards
    else here (component :: rest)

end

/-- The components of a pattern between its separators, where a separator at the end opens none. -/
def components (pattern : List Char) : List (List Char) :=
  -- Characters are collected from the end, and every separator opens a new component.
  let parts := pattern.foldr (fun character parts =>
    if character = '/' then [] :: parts
    else match parts with
      | [] => [[character]]
      | first :: rest => (character :: first) :: rest) [[]]
  if parts.getLast? = some [] then parts.dropLast else parts

/-- The tokens of every component of a pattern, and whether it starts at the root. -/
def plan (pattern : List Char) : Except PatternError (Bool × List (List Token)) := do
  -- The pattern is judged as a whole before its components are.
  let _ ← tokens pattern
  match pattern with
  | ['/'] => return (true, [[]])
  | [] => return (false, [[]])
  | '/' :: rest => return (true, ← (components rest).mapM tokens)
  | _ => return (false, ← (components pattern).mapM tokens)

/-- The number of turns that suffices for so many components. -/
def turns (components : Nat) : Nat :=
  -- Every turn uses up a component or makes the path longer.
  2 * pathLimit + components

/-- A path that matches a pattern. -/
structure Match where
  /-- The path. -/
  path : Octets
  /-- Whether it leads to a directory. -/
  isDirectory : Bool
  deriving DecidableEq, Repr

/-- The paths that match a pattern. -/
def search (workplace : Workplace) (pattern : String) : Except GlobError (List Match) := do
  -- The first directory that cannot be read makes the whole search fail.
  let characters := pattern.toList
  let (fromRoot, components) ← (plan characters).mapError .pattern
  let start := Reached.ofPath workplace (if fromRoot then [Octets.slash] else Path.self)
  let onlyDirectories := characters.getLast? == some '/'
  let findings := below workplace onlyDirectories (turns components.length) components start
  let found ← findings.mapM id
  return found.map fun reached => ⟨reached.path, workplace.leadsToDirectory reached.path⟩

end Glob

end Wakeful
