import Wakeful.Text.Octets

/-! The length before a text is one octet where it fits and an escaped number otherwise. -/

namespace Wakeful.Wire

/-- Why octets are no message. -/
inductive DecodeError where
  /-- The octets end too early. -/
  | endOfInput
  /-- Octets are left over. -/
  | leftOver
  /-- An escaped number has no known width. -/
  | unknownPacking
  /-- A length is out of all proportion. -/
  | hugeLength
  /-- A text is not well-formed. -/
  | malformedText
  deriving DecidableEq, Repr

/-- The words for octets that are no message. -/
def DecodeError.message : DecodeError → String
  -- Each fault has a fixed text.
  | endOfInput => "EOF"
  | leftOver => "Expected EOF"
  | unknownPacking => "invalid packing"
  | hugeLength => "huge length"
  | malformedText => "invalid utf8"

/-- Takes so many octets from the front. -/
def takeOctets (count : Nat) (octets : Octets) : Except DecodeError (Octets × Octets) :=
  -- Too few octets are an early end.
  if octets.length < count then .error .endOfInput
  else .ok (octets.take count, octets.drop count)

/-- Takes one octet from the front. -/
def takeOctet : Octets → Except DecodeError (UInt8 × Octets)
  -- No octet is an early end.
  | [] => .error .endOfInput
  | octet :: rest => .ok (octet, rest)

/-- The octets of a number, least first. -/
def littleOctets : (width value : Nat) → Octets
  -- What does not fit into the width is dropped.
  | 0, _ => []
  | width + 1, value => UInt8.ofNat (value % 256) :: littleOctets width (value / 256)

/-- The number that octets spell, least first. -/
def littleValue : Octets → Nat
  -- Every further octet weighs 256 times as much.
  | [] => 0
  | octet :: rest => octet.toNat + 256 * littleValue rest

/-- The octet that announces an escaped number. -/
def escape : UInt8 := 255

/-- The number of values that eight octets tell apart. -/
def wordRange : Nat := 0x10000000000000000

/-- The least length that is refused, so that no text can exhaust the memory. -/
def hugeLength : Nat := 0x7FFFFFFFFFFFFFFF / 4096

/-- The octets before a text of so many octets. -/
def writeLength (length : Nat) : Octets :=
  -- A length that does not fit into one octet takes the narrowest of four widths.
  if length < 255 then [UInt8.ofNat length]
  else if length < 0x100 then escape :: 6 :: littleOctets 1 length
  else if length < 0x10000 then escape :: 4 :: littleOctets 2 length
  else if length < 0x100000000 then escape :: 2 :: littleOctets 4 length
  else escape :: 0 :: littleOctets 8 length

/-- The width of an escaped number, if its packing is one of the plain ones. -/
def plainWidth? (packing : UInt8) : Option Nat :=
  -- Even packings give the number itself.
  if packing = 0 then some 8
  else if packing = 2 then some 4
  else if packing = 4 then some 2
  else if packing = 6 then some 1
  else none

/--
The width of the part that is added to a least value, if the packing is one of the shifted ones.
-/
def shiftedWidth? (packing : UInt8) : Option Nat :=
  -- Odd packings give a least value of full width first.
  if packing = 1 then some 4
  else if packing = 3 then some 2
  else if packing = 5 then some 1
  else none

/-- Reads an escaped number. -/
def readPacked (octets : Octets) : Except DecodeError (Nat × Octets) := do
  -- The packing decides about the octets that follow, and a shifted sum wraps around.
  let (packing, rest) ← takeOctet octets
  match plainWidth? packing with
  | some width =>
    let (digits, rest) ← takeOctets width rest
    return (littleValue digits, rest)
  | none =>
    match shiftedWidth? packing with
    | some width =>
      let (least, rest) ← takeOctets 8 rest
      let (digits, rest) ← takeOctets width rest
      return ((littleValue least + littleValue digits) % wordRange, rest)
    | none => throw .unknownPacking

/-- Reads the length before a text. -/
def readLength (octets : Octets) : Except DecodeError (Nat × Octets) := do
  -- The escape is the one octet that is no length itself.
  let (first, rest) ← takeOctet octets
  if first = escape then readPacked rest else return (first.toNat, rest)

end Wakeful.Wire
