import Wakeful.Child.Environment
import Wakeful.FileTree.Operations

/-! Starting the program that a name stands for. -/

namespace Wakeful

/-- The variable that names the directories of programs. -/
def searchVariable : Octets := Octets.ofText "PATH"

/-- The directories of programs when no variable names them. -/
def searchDefault : Octets := Octets.ofText "/bin:/usr/bin"

/-- The beginning of a line that names the directories of programs. -/
def searchLine : Octets := searchVariable ++ [Environment.equals]

/-- The directories of programs as the lines of a child name them. -/
def searchPath (lines : List Octets) : Octets :=
  -- The first such line counts, even if it is made by a variable whose name goes on.
  ((lines.find? searchLine.isPrefixOf).map (·.drop searchLine.length)).getD searchDefault

/--
The directories that are tried for the parts of a search path,
of which an empty one is the working directory.
-/
def searched : List Octets → List Octets
  -- A part that is too long counts as empty, and as nothing at the end.
  | [] => []
  | [last] => if pathLimit ≤ last.length then [] else [last]
  | part :: others => (if pathLimit ≤ part.length then [] else part) :: searched others

/-- The path that a name has in a directory, of which an empty one is the working directory. -/
def candidate (name directory : Octets) : Octets :=
  -- Nothing is put before the name there.
  if directory.isEmpty then name else directory ++ Octets.slash :: name

/-- Tries the paths that a name has in several directories until something comes of one of them. -/
def tryIn {α : Type} (attempt : Octets → Except Errno α) (name : Octets) :
    (refusal : Errno) → List Octets → Except Errno α
  -- A forbidden program is remembered, and a missing one is not.
  | refusal, [] => .error refusal
  | refusal, directory :: others =>
    match attempt (candidate name directory) with
    | .ok result => .ok result
    | .error reason =>
      if reason = .permissionDenied then tryIn attempt name reason others
      else if reason = .notFound ∨ reason = .notADirectory then
        tryIn attempt name (if refusal = .permissionDenied then refusal else reason) others
      else .error reason

/-- Tries what a name stands for, given the lines of a child. -/
def tryNamed {α : Type} (attempt : Octets → Except Errno α) (lines : List Octets) (name : Octets) :
    Except Errno α :=
  -- A name with a separator is a path, and only so much of a
  -- name is looked at as shows that it is too long.
  if name.isEmpty then .error .notFound
  else if name.contains Octets.slash then attempt name
  else
    tryIn attempt (name.take (nameLimit + 1)) .notFound
      (searched (Octets.parts 0x3A (searchPath lines)))

/-- Whether a path leads to a program, or why it does not. -/
def Workplace.checkProgram (workplace : Workplace) (path : Octets) : Except Errno Unit := do
  -- Only a file that the owner may execute is a program.
  let spot ← workplace.locate true path
  match workplace.tree.at? spot with
  | some (.file mode _) => if mode.testBit 6 then return else .error .permissionDenied
  | some _ => .error .permissionDenied
  | none => .error .notFound

end Wakeful
