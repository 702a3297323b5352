import Wakeful.System.Errno
import Wakeful.Text.Octets

/-! The header by which the loader recognises a file that it can load. -/

namespace Wakeful.SharedLibrary

/-- Why the loader does not load a file. -/
inductive LoaderFault where
  /-- It cannot be opened. -/
  | unopened (reason : Errno)
  /-- It cannot be read, for a reason or because it ends too early. -/
  | unreadable (reason : Option Errno)
  /-- It ends within the header. -/
  | tooShort
  /-- It does not begin as such files do. -/
  | noHeader
  /-- It is made for machines with other words. -/
  | otherClass
  /-- It is made for machines with the other order of octets. -/
  | otherOrder
  /-- The header has another version. -/
  | otherHeaderVersion
  /-- It is made for another system. -/
  | otherSystem
  /-- It is made for another version of the system. -/
  | otherSystemVersion
  /-- Reserved octets of the header are used. -/
  | usedPadding
  /-- The format has another version. -/
  | otherVersion
  /-- It is neither a library nor a program. -/
  | otherKind
  /-- Its list of segments has entries of another size. -/
  | otherEntrySize
  /-- Its list of segments has an entry whose place in the file does not fit its place in memory. -/
  | misplacedSegment
  /-- It has nothing to load. -/
  | noSegments
  /-- It is a program. -/
  | program
  /-- It does not say what it needs and offers. -/
  | noDynamicSection
  /-- It says that it is a program that can lie anywhere. -/
  | movableProgram
  deriving DecidableEq, Repr

/-- The loader's words. -/
def LoaderFault.message : LoaderFault → String
  -- The system's own words follow where it refused something.
  | unopened reason => "cannot open shared object file: " ++ reason.text
  | unreadable reason => "cannot read file data" ++ reason.elim "" fun reason => ": " ++ reason.text
  | tooShort => "file too short"
  | noHeader => "invalid ELF header"
  | otherClass => "wrong ELF class: ELFCLASS32"
  | otherOrder => "ELF file data encoding not little-endian"
  | otherHeaderVersion => "ELF file version ident does not match current one"
  | otherSystem => "ELF file OS ABI invalid"
  | otherSystemVersion => "ELF file ABI version invalid"
  | usedPadding => "nonzero padding in e_ident"
  | otherVersion => "ELF file version does not match current one"
  | otherKind => "only ET_DYN and ET_EXEC can be loaded"
  | otherEntrySize => "ELF file's phentsize not the expected size"
  | misplacedSegment => "ELF load command address/offset not page-aligned"
  | noSegments => "object file has no loadable segments"
  | program => "cannot dynamically load executable"
  | noDynamicSection => "object file has no dynamic section"
  | movableProgram => "cannot dynamically load position-independent executable"

namespace Header

/-- The octets with which a file begins. -/
def magic : Octets := [0x7F, 0x45, 0x4C, 0x46]

/-- The length of the header. -/
def length : Nat := 64

/-- The length of an entry in the list of segments. -/
def entrySize : Nat := 56

/-- The length of a page of memory. -/
def pageSize : Nat := 4096

/-- The number at a place that takes so many octets, the least significant one first. -/
def number (octets : Octets) (place width : Nat) : Nat :=
  -- Octets that are missing count as zero.
  ((octets.drop place).take width).foldr (fun octet value => octet.toNat + 256 * value) 0

/-- What a header is checked for before the segments are looked at. -/
def faultOfIdent (octets : Octets) : Option LoaderFault :=
  -- The checks come in the order of the loader; a newer
  -- system has three versions besides the common one.
  let ident (place : Nat) := number octets place 1
  let kind := number octets 16 2
  if octets.length < length then some .tooShort
  else if octets.take 4 ≠ magic then some .noHeader
  else if ident 4 ≠ 2 then some .otherClass
  else if ident 5 ≠ 1 then some .otherOrder
  else if ident 6 ≠ 1 then some .otherHeaderVersion
  else if ident 7 ≠ 0 ∧ ident 7 ≠ 3 then some .otherSystem
  else if ident 8 ≠ 0 ∧ (ident 7 = 0 ∨ 3 < ident 8) then some .otherSystemVersion
  else if number octets 9 7 ≠ 0 then some .usedPadding
  else if number octets 20 4 ≠ 1 then some .otherVersion
  else if number octets 18 2 ≠ 62 then some (.unopened .notFound)
  else if kind ≠ 3 ∧ kind ≠ 2 then some .otherKind
  else if number octets 54 2 ≠ entrySize then some .otherEntrySize
  else none

/-- The entries of the list of segments, if the file holds them. -/
def segments (octets : Octets) : Except LoaderFault (List Octets) :=
  -- Places are signed words, and one that lies beyond all words holds nothing to load.
  let place := number octets 32 8
  let count := number octets 56 2
  let ending := place + count * entrySize
  if 0x10000000000000000 ≤ ending then .ok []
  else if 0x8000000000000000 ≤ ending then .error (.unreadable (some .invalid))
  else if 0 < count ∧ octets.length < ending then .error (.unreadable none)
  else
    .ok ((List.range count).map fun index =>
      (octets.drop (place + index * entrySize)).take entrySize)

/-- Whether a file says that it is a program that can lie anywhere. -/
def saysProgram (octets entry : Octets) : Bool :=
  -- One of the numbers in pairs has a bit for this.
  let pairs := (List.range (min (number entry 32 8) octets.length / 16)).map fun index =>
    (number octets (number entry 8 8 + 16 * index) 8,
      number octets (number entry 8 8 + 16 * index + 8) 8)
  pairs.any fun (tag, value) => tag == 0x6FFFFFFB && value.testBit 27

/-- What is wrong with a list of segments. -/
def faultOfSegments (octets : Octets) (isProgram : Bool) (entries : List Octets) : LoaderFault :=
  -- A segment to load has the kind one, and one with what is needed and offered has the kind two.
  let ofKind (kind : Nat) := entries.filter fun entry => number entry 0 4 = kind
  let isMisplaced (entry : Octets) := number entry 16 8 % pageSize ≠ number entry 8 8 % pageSize
  if (ofKind 1).any (isMisplaced ·) then .misplacedSegment
  else if (ofKind 1).isEmpty then .noSegments
  else if isProgram then .program
  else if (ofKind 2).any (saysProgram octets) then .movableProgram
  else .noDynamicSection

/-- What is wrong with a file. -/
def fault (octets : Octets) : LoaderFault :=
  -- A file without any other fault is taken to say nothing about what it needs and offers.
  match faultOfIdent octets with
  | some fault => fault
  | none =>
    match segments octets with
    | .error fault => fault
    | .ok entries => faultOfSegments octets (number octets 16 2 = 2) entries

end Header

end Wakeful.SharedLibrary
