import Wakeful.SharedLibrary.Header

/-! The form in which the system's own programs lie in files. -/

namespace Wakeful.Shell.Image

/-- A number in so many octets, the least significant one first. -/
def number (width value : Nat) : Octets :=
  -- Higher places are left out.
  (List.range width).map fun place => UInt8.ofNat (value / Nat.pow 256 place % 256)

/-- An entry of the list of segments. -/
def segment (kind flags offset size alignment : Nat) : Octets :=
  -- Everything lies in memory where it lies in the file.
  number 4 kind ++ number 4 flags ++ number 8 offset ++ number 8 offset ++ number 8 offset ++
    number 8 size
    ++ number 8 size ++ number 8 alignment

/-- What all programs begin with. -/
def heading : Octets :=
  -- Two segments follow the header, the second of which says that this is a program.
  SharedLibrary.Header.magic ++ [2, 1, 1, 0] ++ number 8 0 ++ number 2 3 ++ number 2 62 ++
    number 4 1 ++ number 8 0
    ++ number 8 64 ++ number 8 0 ++ number 4 0 ++ number 2 64 ++ number 2 56 ++ number 2 2 ++
      number 6 0
    ++ segment 1 5 0 208 4096 ++ segment 2 6 176 32 8 ++ number 8 0x6FFFFFFB ++
      number 8 0x08000000 ++ number 16 0

/-- The contents of the file of a program. -/
def ofName (name : String) : Octets :=
  -- The name comes after what all programs have in common.
  heading ++ Octets.ofText name

/-- The name of the program whose file has certain contents. -/
def name? (contents : Octets) : Option String :=
  -- Other files do not begin so.
  if heading.isPrefixOf contents then Octets.text? (contents.drop heading.length) else none

end Wakeful.Shell.Image
