import Wakeful.SharedLibrary.General
import Wakeful.SharedLibrary.Mathematical
import Wakeful.SharedLibrary.Open

/-! The libraries that every system has. -/

namespace Wakeful.SharedLibrary.Standard

/-- Names of the library that unwinds calls. -/
def unwinding : List String :=
  -- Those that only replace operations on numbers are left out.
  names "_Unwind_Backtrace _Unwind_DeleteException _Unwind_FindEnclosingFunction"
  ++ names "_Unwind_Find_FDE _Unwind_ForcedUnwind _Unwind_GetCFA _Unwind_GetDataRelBase"
  ++ names "_Unwind_GetGR _Unwind_GetIP _Unwind_GetIPInfo _Unwind_GetLanguageSpecificData"
  ++ names "_Unwind_GetRegionStart _Unwind_GetTextRelBase _Unwind_RaiseException _Unwind_Resume"
  ++ names "_Unwind_Resume_or_Rethrow _Unwind_SetGR _Unwind_SetIP"

/-- The libraries that every system has. -/
def installed : List Installed :=
  -- Each offers its own names and those of the general library, in which some have become empty.
  let besides := ["libdl.so.2", "libpthread.so.0", "librt.so.1", "libutil.so.1", "libanl.so.1"]
  [⟨"libc.so.6", general⟩, ⟨"libm.so.6", mathematical ++ general⟩,
    ⟨"libgcc_s.so.1", unwinding ++ general⟩]
    ++ besides.map fun name => ⟨name, general⟩

end Wakeful.SharedLibrary.Standard
