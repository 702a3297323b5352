/-! Lists of names, written in rows. -/

namespace Wakeful.SharedLibrary

/-- Names in a row, parted by blanks. -/
def names (row : String) : List String :=
  -- Nothing but a blank parts two names.
  row.splitOn " "

end Wakeful.SharedLibrary
