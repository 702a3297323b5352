import Wakeful.Text.Octets

/-! Paths are octets, and only the separator and the names made of dots have a meaning in them. -/

namespace Wakeful.Path

/-- The name by which a directory calls itself. -/
def self : Octets := [Octets.dot]

/-- The name by which a directory calls the one above it. -/
def parent : Octets := [Octets.dot, Octets.dot]

/-- Whether a path starts at the root. -/
def isAbsolute (path : Octets) : Bool :=
  -- Only the first octet decides.
  path.head? == some Octets.slash

/-- Whether a path ends with a separator. -/
def endsWithSlash (path : Octets) : Bool :=
  -- Only the last octet decides.
  path.getLast? == some Octets.slash

/-- The pieces of a path between its separators, empty ones included. -/
def split (path : Octets) : List Octets :=
  -- Only the separator parts them.
  Octets.parts Octets.slash path

/-- The names of a path in order, without the empty ones. -/
def names (path : Octets) : List Octets :=
  -- Repeated, leading and closing separators name nothing.
  (split path).filter fun name => !name.isEmpty

/-- Reads a second path from where a first one leads. -/
def join (first second : Octets) : Octets :=
  -- A path that starts at the root needs no first part, and separators are not doubled.
  if isAbsolute second then second
  else if first.isEmpty || endsWithSlash first then first ++ second
  else first ++ Octets.slash :: second

/-- The last name of a path, if it has one that is not made of dots. -/
def lastName (path : Octets) : Option Octets :=
  -- Separators and self-references at the end are passed over, but a step upwards is no name.
  match ((names path).filter (· != self)).getLast? with
  | none => none
  | some name => if name = parent then none else some name

end Wakeful.Path
