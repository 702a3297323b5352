import Wakeful.Wire.Length
import Wakeful.Wire.Message

/-!
Messages are written as one variant octet and then their contents, and nothing may follow them.
-/

namespace Wakeful

namespace Wire

/-- The octets of a text after its length. -/
def writeText (text : String) : Octets :=
  -- The length counts octets, not characters.
  let octets := Octets.ofText text
  writeLength octets.length ++ octets

/-- Reads a text after its length. -/
def readText (octets : Octets) : Except DecodeError (String × Octets) := do
  -- The length is judged before the octets are, and these before they are read as text.
  let (length, rest) ← readLength octets
  if hugeLength ≤ length then throw .hugeLength
  let (body, rest) ← takeOctets length rest
  match Octets.text? body with
  | some text => return (text, rest)
  | none => throw .malformedText

/-- Accepts a message only if nothing is left over. -/
def finish {Message : Type} (read : Message × Octets) : Except DecodeError Message :=
  -- A connection carries exactly one message.
  if read.2.isEmpty then .ok read.1 else .error .leftOver

end Wire

namespace Request

/-- The octet of a request. -/
def variant : Request → UInt8
  -- Requests are numbered in the order of their declaration.
  | status => 0
  | inhibit => 1
  | uninhibit => 2
  | kill => 3

/-- The request of an octet, of which only the two lowest bits count. -/
def ofVariant (octet : UInt8) : Request :=
  -- Four values use up the two bits.
  match octet.toNat % 4 with
  | 0 => status
  | 1 => inhibit
  | 2 => uninhibit
  | _ => kill

/-- The octets of a request. -/
def encode (request : Request) : Octets :=
  -- A request has no contents.
  [request.variant]

/-- The request that octets spell. -/
def decode (octets : Octets) : Except Wire.DecodeError Request := do
  -- One octet is read and none may follow.
  let (variant, rest) ← Wire.takeOctet octets
  Wire.finish (ofVariant variant, rest)

end Request

namespace Response

/-- The octets of a response. -/
def encode : Response → Octets
  -- Responses are numbered in the order of their declaration.
  | done => [0]
  | unchanged => [1]
  | status active reason => 2 :: (if active then 1 else 0) :: Wire.writeText reason
  | failed message => 3 :: Wire.writeText message

/-- Reads a response from the front of octets. -/
def read (octets : Octets) : Except Wire.DecodeError (Response × Octets) := do
  -- Only the two lowest bits of the variant and the lowest bit of the flag count.
  let (variant, rest) ← Wire.takeOctet octets
  match variant.toNat % 4 with
  | 0 => return (done, rest)
  | 1 => return (unchanged, rest)
  | 2 =>
    let (flag, rest) ← Wire.takeOctet rest
    let (reason, rest) ← Wire.readText rest
    return (status (flag.toNat % 2 == 1) reason, rest)
  | _ =>
    let (message, rest) ← Wire.readText rest
    return (failed message, rest)

/-- The response that octets spell. -/
def decode (octets : Octets) : Except Wire.DecodeError Response := do
  -- One response is read and nothing may follow.
  Wire.finish (← read octets)

end Response

end Wakeful
