import Wakeful.Glob.Search

/-!
The ways in which the components of a pattern lead to a
path, with a name or several for each of them.
-/

namespace Wakeful.Glob

/-- How a name comes into a path that matches. -/
inductive Pick where
  /-- A component spells it, and it is asked for. -/
  | asked (name : Octets)
  /-- It is made of dots, and a component matches it. -/
  | dots (name : Octets)
  /-- It is listed in a directory, and a component matches it. -/
  | listed (name : Octets)
  /-- It is listed in a directory, and directories in any number go on below it. -/
  | passed (name : Octets)
  deriving DecidableEq, Repr

namespace Pick

/-- The name. -/
def name : Pick → Octets
  | asked name | dots name | listed name | passed name => name

/-- The path with the name behind it. -/
def onto (path : Octets) : Pick → Octets
  -- Only names made of dots are put even behind the working directory.
  | dots name => Path.join path name
  | asked name | listed name | passed name => pathIn path name

end Pick

/-- The path to which names lead one after the other. -/
def along (start : Octets) (way : List Pick) : Octets :=
  way.foldl Pick.onto start

/-- The octets with which a name is written. -/
def spelled (name : List Char) : Octets :=
  Octets.ofText (String.ofList name)

/-- Whether asking for a name at a path that was reached finds something. -/
def Reached.has (workplace : Workplace) (reached : Reached) (name : Octets) : Bool :=
  -- Names made of dots are in every directory.
  if name = Path.self ∨ name = Path.parent then reached.isDirectory
  else workplace.isNamed (pathIn reached.path name)

/-- Whether a path is reached by listing another one. -/
def Reached.Lists (workplace : Workplace) (reached next : Reached) : Prop :=
  reached.isDirectory = true ∧ ∃ entries, workplace.readDirectory reached.path = .ok entries ∧
    ∃ entry ∈ entries, next = .ofEntry workplace reached.path entry

/-- The components that are left once a listed path has been matched. -/
inductive Meets : List (List Token) → Reached → List (List Token) → Prop where
  /-- A single component matches its name. -/
  | single {component : List Token} {rest : List (List Token)} {next : Reached}
      (once : isRecursive component = false) (named : nameMatches component next = true) :
        Meets (component :: rest) next rest
  /-- Directories in any number end before it, and the component behind them matches its name. -/
  | behind {depth component : List Token} {rest later : List (List Token)} {next : Reached}
      (deep : isRecursive depth = true) (left : afterDepth rest = component :: later)
      (named : nameMatches component next = true) : Meets (depth :: rest) next later
  /-- Directories in any number are the last component, and it is a directory. -/
  | depth {depth : List Token} {rest : List (List Token)} {next : Reached}
      (deep : isRecursive depth = true) (left : afterDepth rest = [])
      (directory : next.isDirectory = true) : Meets (depth :: rest) next []

/-- The ways in which components lead from a path that was reached to one that matches. -/
inductive Leads (workplace : Workplace) (onlyDirectories : Bool) :
    List (List Token) → Reached → List Pick → Reached → Prop where
  /-- No component is left, and the path is a directory if only these are asked for. -/
  | arrived {reached : Reached} (fits : onlyDirectories = true → reached.isDirectory = true) :
      Leads workplace onlyDirectories [] reached [] reached
  /-- A component spells a name, which is found. -/
  | asked {component : List Token} {rest : List (List Token)} {reached goal : Reached}
      {way : List Pick} {characters : List Char} (spells : plainName? component = some characters)
      (found : reached.has workplace (spelled characters) = true)
      (onwards : Leads workplace onlyDirectories rest
        (.ofPath workplace (pathIn reached.path (spelled characters))) way goal) :
      Leads workplace onlyDirectories (component :: rest) reached
        (.asked (spelled characters) :: way) goal
  /-- A component matches a name made of dots, in a directory that can be read. -/
  | dots {component : List Token} {rest : List (List Token)} {reached goal : Reached}
      {way : List Pick} {name : Octets} (unspelled : plainName? component = none)
      (directory : reached.isDirectory = true) (readable : ∃ entries,
        workplace.readDirectory reached.path = .ok entries)
      (special : name ∈ specialNames component)
      (onwards : Leads workplace onlyDirectories rest
        (.ofPath workplace (Path.join reached.path name)) way goal) :
      Leads workplace onlyDirectories (component :: rest) reached (.dots name :: way) goal
  /-- A listed path is matched. -/
  | listed {component : List Token} {rest later : List (List Token)} {reached next goal : Reached}
      {way : List Pick} (unspelled : plainName? component = none)
      (lists : reached.Lists workplace next) (meets : Meets (component :: rest) next later)
      (onwards : Leads workplace onlyDirectories later next way goal) :
      Leads workplace onlyDirectories (component :: rest) reached (.listed next.name :: way) goal
  /-- A listed directory is passed through. -/
  | passed {depth : List Token} {rest : List (List Token)} {reached next goal : Reached}
      {way : List Pick} (deep : isRecursive depth = true) (lists : reached.Lists workplace next)
      (directory : next.isDirectory = true)
      (onwards : Leads workplace onlyDirectories (depth :: afterDepth rest) next way goal) :
        Leads workplace onlyDirectories (depth :: rest) reached (.passed next.name :: way) goal

/-- The path at which a pattern starts. -/
def origin (pattern : String) : Octets :=
  -- Only a pattern that begins with a separator starts at the root.
  if pattern.toList.head? = some '/' then [Octets.slash] else Path.self

/-- Whether a pattern leads to a path in a certain way. -/
def IsWay (workplace : Workplace) (pattern : String) (way : List Pick) : Prop :=
  ∃ fromRoot components goal, plan pattern.toList = .ok (fromRoot, components) ∧
    Leads workplace (pattern.toList.getLast? == some '/') components
      (.ofPath workplace (origin pattern)) way goal

end Wakeful.Glob
