import Wakeful.FileTree.Operations
import Wakeful.SharedLibrary.Header
import Wakeful.SharedLibrary.Name
import Wakeful.System.Log

/-! Opening a shared library, either one that the system has by its name or a file by its path. -/

namespace Wakeful.SharedLibrary

/-- A library that the system has. -/
structure Installed where
  /-- Its name. -/
  name : String
  /-- The names that it offers, its own and those of the libraries that it needs. -/
  symbols : List String
  deriving DecidableEq, Repr

/-- A library that has been opened. -/
structure Opened where
  /-- The path by which it was opened. -/
  path : Octets
  /-- The names that it offers. -/
  symbols : List String
  deriving DecidableEq, Repr

/-- Why a library could not be opened. -/
structure OpenError where
  /-- Its path. -/
  path : Octets
  /-- What is wrong. -/
  reason : String
  deriving DecidableEq, Repr

/-- The words for a library that could not be opened. -/
def OpenError.message (fault : OpenError) : String :=
  -- The loader names the path once more.
  "Could not load library " ++ Utf8.lossy fault.path ++ ": " ++ fault.reason

/-- The directories of libraries, in the order in which they are searched. -/
def directories : List Octets :=
  -- Those for one kind of machine come first.
  ["/lib/x86_64-linux-gnu/", "/usr/lib/x86_64-linux-gnu/", "/lib/", "/usr/lib/", "/lib64/",
    "/usr/lib64/"].map Octets.ofText

/-- What is wrong with a file that is to be loaded. -/
def fileFault (workplace : Workplace) (path : Octets) : LoaderFault :=
  -- A directory can be opened and not read.
  match workplace.openRead path with
  | .error (.refused reason) => .unopened reason
  | .error _ => .unopened .notFound
  | .ok (.file _ contents) => Header.fault contents
  | .ok (.device _) => Header.fault []
  | .ok _ => .unreadable (some .isADirectory)

/-- What the system has at a path or under a name. -/
def installedAt? (installed : List Installed) (path : Octets) : Option Installed :=
  -- A library can be named by its path too.
  installed.find? fun library =>
    let name := Octets.ofText library.name
    name == path || directories.any fun directory => directory ++ name == path

/-- Loads a path, or tells what is wrong with it or with the file that was found for it. -/
def load (workplace : Workplace) (installed : List Installed) (path : Octets) :
    Except (Octets × LoaderFault) Opened :=
  -- Only a name without a separator is looked for in the
  -- directories, and the first file there counts.
  match installedAt? installed path with
  | some library => .ok ⟨path, library.symbols⟩
  | none =>
    if path.contains Octets.slash then .error (path, fileFault workplace path)
    else if nameLimit < path.length then .error (path, .unopened .nameTooLong)
    else match (directories.map (· ++ path)).find? fun found => (workplace.openRead found).isOk with
      | some found => .error (found, fileFault workplace found)
      | none => .error (path, .unopened .notFound)

/-- Opens a library. -/
def openNamed (workplace : Workplace) (installed : List Installed) (name : Octets) :
    Except OpenError Opened × List LogEvent :=
  -- The loader's refusal is reported, and a name that it cannot even be given is not.
  let path := fileName name
  if path.contains 0 then (.error ⟨path, "path contains a NUL byte"⟩, [])
  else match load workplace installed path with
    | .ok opened => (.ok opened, [])
    | .error (found, fault) =>
      let reason := Utf8.lossy found ++ ": " ++ fault.message
      (.error ⟨path, reason⟩, [⟨.error, .library, "Could not load library",
        [("path", Utf8.lossy path), ("message", reason)]⟩])

/-- Whether a library offers a name. -/
def Opened.offers (opened : Opened) (symbol : String) : Bool :=
  -- Names with the octet that ends them are never offered.
  opened.symbols.contains symbol

end Wakeful.SharedLibrary
