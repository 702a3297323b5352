import Wakeful.Text.Utf8

/-! The file name of a shared library gets its usual ending unless it has it somewhere already. -/

namespace Wakeful.SharedLibrary

/-- The usual ending. -/
def ending : Octets := Octets.ofText ".so"

/-- Whether a name has the usual ending somewhere. -/
def hasEnding (name : Octets) : Bool :=
  -- The name is looked at as text, in which what is no text is replaced.
  Octets.hasPart ending (Octets.ofText (Utf8.lossy name))

/-- The file name of a library. -/
def fileName (name : Octets) : Octets :=
  -- Versions may follow the ending, so it need not be at the end.
  if hasEnding name then name else name ++ ending

end Wakeful.SharedLibrary
