import Wakeful.Client.Exchange
import Wakeful.Daemon.Answer
import Wakeful.Proofs.Attempt

/-!
What is written for a message is read back as the same message,
as long as its text is not out of all proportion.
-/

namespace Wakeful

namespace Wire

/-- So many octets are written as the width says. -/
@[simp] theorem length_littleOctets (width value : Nat) :
    (littleOctets width value).length = width := by
  -- By induction on the width, one octet at a time.
  induction width generalizing value with
  | zero => rfl
  | succ width ih => simp [littleOctets, ih]

/-- A number that fits into the width is spelled by the octets that are written for it. -/
theorem littleValue_littleOctets {width value : Nat} (fits : value < Nat.pow 256 width) :
    littleValue (littleOctets width value) = value := by
  -- The induction is over the width, and each octet is a remainder.
  induction width generalizing value with
  | zero =>
    have none : value < 1 := fits
    simp only [littleOctets, littleValue]
    omega
  | succ width ih =>
    have scaled : value < Nat.pow 256 width * 256 := fits
    have quotient : value / 256 < Nat.pow 256 width := Nat.div_lt_of_lt_mul (by omega)
    have remainder : (UInt8.ofNat (value % 256)).toNat = value % 256 := by
      simp [UInt8.toNat_ofNat']
    simp only [littleOctets, littleValue, ih quotient, remainder]
    omega

/-- Octets that stand in front are taken as they are. -/
theorem takeOctets_append {front rest : Octets} {count : Nat} (whole : front.length = count) :
    takeOctets count (front ++ rest) = .ok (front, rest) := by
  -- The list splits where it was put together.
  subst whole
  simp [takeOctets]

/-- A number behind one of the plain packings is read back. -/
theorem readPacked_littleOctets {packing : UInt8} {width value : Nat}
    (plain : plainWidth? packing = some width) (fits : value < Nat.pow 256 width) (rest : Octets) :
    readPacked (packing :: (littleOctets width value ++ rest)) = .ok (value, rest) := by
  -- The packing tells the width, and so many octets stand behind it.
  simp [readPacked, takeOctet, plain, takeOctets_append (length_littleOctets width value),
    littleValue_littleOctets fits, Bind.bind, Except.bind, Pure.pure, Except.pure]

/-- A length is read back in whichever of its five forms it is written. -/
theorem readLength_writeLength {length : Nat} (fits : length < wordRange) (rest : Octets) :
    readLength (writeLength length ++ rest) = .ok (length, rest) := by
  have escaped (packing : UInt8) (width : Nat) (plain : plainWidth? packing = some width)
      (narrow : length < Nat.pow 256 width) :
      readLength (escape :: packing :: littleOctets width length ++ rest) = .ok (length, rest) := by
    simpa [readLength, takeOctet, Bind.bind, Except.bind] using readPacked_littleOctets plain
      narrow rest
  unfold writeLength
  split
  · -- One octet that is not the escape is the length itself.
    rename_i short
    have same : (UInt8.ofNat length).toNat = length := by
      rw [UInt8.toNat_ofNat']
      omega
    have plain : UInt8.ofNat length ≠ escape := by
      intro equal
      have values := congrArg UInt8.toNat equal
      rw [same, show escape.toNat = 255 from rfl] at values
      omega
    simp [readLength, takeOctet, plain, same, Bind.bind, Except.bind, Pure.pure, Except.pure]
  · -- Behind the escape stands the narrowest of the four widths.
    split
    · exact escaped 6 1 rfl ‹_›
    · split
      · exact escaped 4 2 rfl ‹_›
      · split
        · exact escaped 2 4 rfl ‹_›
        · exact escaped 0 8 rfl fits

/-- A text that is not out of all proportion is read back. -/
theorem readText_writeText {text : String} (fits : (Octets.ofText text).length < hugeLength)
    (rest : Octets) : readText (writeText text ++ rest) = .ok (text, rest) := by
  -- The length comes first, and then as many octets as it says.
  have counted : (Octets.ofText text).length < wordRange := Nat.lt_trans fits (by decide)
  simp [readText, writeText, readLength_writeLength counted, Nat.not_le.mpr fits,
    takeOctets_append, Octets.text?_ofText, Bind.bind, Except.bind, Pure.pure, Except.pure]

/-- Octets are only taken if there are enough of them. -/
theorem length_of_takeOctets {octets taken rest : Octets} {count : Nat}
    (took : takeOctets count octets = .ok (taken, rest)) : taken.length = count := by
  -- Too few octets are refused.
  unfold takeOctets at took
  split at took
  · cases took
  · cases took
    rw [List.length_take]
    omega

/-- No text that is read is out of all proportion. -/
theorem length_of_readText {octets rest : Octets} {text : String}
    (read : readText octets = .ok (text, rest)) : (Octets.ofText text).length < hugeLength := by
  obtain ⟨⟨length, behind⟩, -, read⟩ := ok_of_bind read
  by_cases huge : hugeLength ≤ length
  · -- The length is judged before anything is taken.
    simp [huge] at read
  · simp only [huge, if_false] at read
    obtain ⟨⟨body, behind⟩, took, read⟩ := ok_of_bind read
    -- What is taken has the judged length, and the text is written with nothing else.
    have counted := length_of_takeOctets took
    split at read
    · rename_i found spelled
      cases read
      rw [Octets.ofText_of_text? spelled]
      show body.length < hugeLength
      omega
    · cases read

/-- Only what is read to the end is a message. -/
theorem finish_eq_ok_iff {Message : Type} {found : Message × Octets} {message : Message} :
    finish found = .ok message ↔ found = (message, []) := by
  -- Whatever is left over is an error.
  obtain ⟨value, rest⟩ := found
  cases rest <;> simp [finish]

end Wire

namespace Request

/-- A request is read back as it was written. -/
theorem decode_encode (request : Request) : decode request.encode = .ok request := by
  cases request <;> rfl

end Request

namespace Response

/-- The octets of the text in a response, of which there are none without a text. -/
def contents : Response → Octets
  | done | unchanged => []
  | status _ text | failed text => Octets.ofText text

/-- A response in front of other octets is read back as it was written. -/
theorem read_encode {response : Response} (fits : response.contents.length < Wire.hugeLength)
    (rest : Octets) : read (response.encode ++ rest) = .ok (response, rest) := by
  -- By the kind of response. Two of them have no text at all.
  cases response with
  | done => rfl
  | unchanged => rfl
  | status active reason =>
    have text := Wire.readText_writeText fits rest
    cases active <;> simp [read, encode, Wire.takeOctet, text]
  | failed message =>
    have text := Wire.readText_writeText fits rest
    simp [read, encode, Wire.takeOctet, text]

/-- No response that is read has a text out of all proportion. -/
theorem length_of_read {octets rest : Octets} {response : Response}
    (whole : read octets = .ok (response, rest)) : response.contents.length < Wire.hugeLength := by
  -- By the first octet. A response has no text, or one whose length was checked.
  have none : ([] : Octets).length < Wire.hugeLength := by decide
  obtain ⟨⟨variant, behind⟩, -, whole⟩ := ok_of_bind whole
  simp only at whole
  split at whole
  · cases whole
    exact none
  · cases whole
    exact none
  · obtain ⟨⟨flag, behind⟩, -, whole⟩ := ok_of_bind whole
    obtain ⟨⟨reason, behind⟩, text, whole⟩ := ok_of_bind whole
    cases whole
    exact Wire.length_of_readText text
  · obtain ⟨⟨message, behind⟩, text, whole⟩ := ok_of_bind whole
    cases whole
    exact Wire.length_of_readText text

/--
Exactly the responses whose text is not out of all proportion are read back as they were written.
-/
theorem decode_encode_iff {response : Response} :
    decode response.encode = .ok response ↔ response.contents.length < Wire.hugeLength := by
  -- Reading a text checks its length, and writing one does not.
  constructor
  · intro decoded
    obtain ⟨found, whole, finished⟩ := ok_of_bind decoded
    obtain rfl := Wire.finish_eq_ok_iff.mp finished
    exact length_of_read whole
  · intro fits
    have whole := read_encode fits []
    rw [List.append_nil] at whole
    simp [decode, whole, Wire.finish]

end Response

/-- The client takes what it has read for a response exactly if that is what the octets spell. -/
theorem Client.exchange_eq_ok_iff {octets : Octets} {response : Response} :
    Client.exchange (.ok octets) = .ok response ↔ Response.decode octets = .ok response :=
  mapError_eq_ok_iff

/-- The daemon takes what it has received for a request exactly if that is what the octets spell. -/
theorem Daemon.readRequest_eq_ok_iff {octets : Octets} {request : Request} :
    Daemon.readRequest (.received octets) = .ok request ↔ Request.decode octets = .ok request :=
  mapError_eq_ok_iff

/-- The daemon carries out the request that the client has written. -/
theorem Daemon.response_encode (inhibitor : Inhibitor) (request : Request)
    (circumstances : Circumstances) :
    (Daemon.answer inhibitor ⟨.received request.encode, none⟩ circumstances).response =
      (Daemon.carryOut inhibitor request circumstances).response := by
  -- The daemon reads the request and answers what carrying it out gives.
  have heard : Daemon.readRequest (.received request.encode) = .ok request :=
    Daemon.readRequest_eq_ok_iff.mpr request.decode_encode
  simp [Daemon.answer, Daemon.respond, heard]

/--
Messages reach the other side unchanged.

Every request that a client writes is the one that the daemon reads and carries out. A response
that the daemon writes is read back, and told to the client, exactly if its text has fewer
octets than the least length that is refused; that length is a whole number, the quotient
without its remainder. So it is with whatever the daemon answers to a request.
-/
theorem Wire.messages_arrive :
    (∀ request : Request, Request.decode request.encode = .ok request ∧
      Daemon.readRequest (.received request.encode) = .ok request) ∧
    (∀ response : Response,
      (Response.decode response.encode = .ok response ↔
        response.contents.length < Wire.hugeLength) ∧
      (Client.exchange (.ok response.encode) = .ok response ↔
        response.contents.length < Wire.hugeLength)) ∧
    ∀ (inhibitor : Inhibitor) (request : Request) (circumstances : Circumstances),
      let told := (Daemon.carryOut inhibitor request circumstances).response
      Client.exchange
        (.ok (Daemon.answer inhibitor ⟨.received request.encode, none⟩
          circumstances).response.encode) = .ok told ↔ told.contents.length < Wire.hugeLength := by
  -- Whatever a client or a daemon decodes is decoded by the message itself.
  have told (response : Response) :
      Client.exchange (.ok response.encode) = .ok response ↔
        response.contents.length < Wire.hugeLength :=
    Client.exchange_eq_ok_iff.trans Response.decode_encode_iff
  refine ⟨fun request => ?_, fun response => ?_, fun inhibitor request circumstances => ?_⟩
  · exact ⟨request.decode_encode, Daemon.readRequest_eq_ok_iff.mpr request.decode_encode⟩
  · exact ⟨Response.decode_encode_iff, told response⟩
  · rw [Daemon.response_encode]
    exact told _

end Wakeful
