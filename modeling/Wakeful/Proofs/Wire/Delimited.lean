import Wakeful.Proofs.Wire.RoundTrip

/-!
Every message says by itself where it ends, so that no message is the beginning of another one.
-/

namespace Wakeful

namespace Wire

variable {α β : Type} {Message : Type}

/--
Whether a reader judges only by what it takes.

Either the octets end too early for it, or it says the same
whatever follows them, and leaves that alone.
-/
def Steady (read : Octets → Except DecodeError (α × Octets)) : Prop :=
  ∀ octets, read octets = .error .endOfInput ∨
    ∀ extra, read (octets ++ extra) = (read octets).map fun found => (found.1, found.2 ++ extra)

/-- To give a value without taking anything is steady. -/
theorem Steady.give (value : α) : Steady fun octets => .ok (value, octets) :=
  fun _ => Or.inr fun _ => rfl

/-- To fail for another reason than an early end is steady. -/
theorem Steady.fail (fault : DecodeError) :
    Steady fun _ => (.error fault : Except DecodeError (α × Octets)) :=
  fun _ => Or.inr fun _ => rfl

/-- Steady readers one after the other are steady. -/
theorem Steady.bind {first : Octets → Except DecodeError (α × Octets)}
    {next : α × Octets → Except DecodeError (β × Octets)} (begins : Steady first)
    (goes : ∀ value, Steady fun rest => next (value, rest)) :
    Steady fun octets => first octets >>= next := by
  intro octets
  rcases begins octets with short | same
  · -- Where the first one stops, the whole stops.
    left
    simp [short]
  · cases found : first octets with
    | error fault =>
      right
      intro extra
      have longer := same extra
      rw [found] at longer
      simp [longer, found, Except.map]
    | ok taken =>
      -- What follows stays behind what the first one has left for the second.
      obtain ⟨value, rest⟩ := taken
      have longer (extra : Octets) : first (octets ++ extra) = .ok (value, rest ++ extra) := by
        rw [same extra, found]
        rfl
      rcases goes value rest with short | same
      · left
        simpa [found] using short
      · right
        intro extra
        simpa [found, longer extra] using same extra

/-- Taking one octet is steady. -/
theorem steady_takeOctet : Steady takeOctet := by
  -- One octet is enough, and without any the end comes early.
  intro octets
  cases octets with
  | nil => exact Or.inl rfl
  | cons octet rest => exact Or.inr fun extra => rfl

/-- Taking several octets is steady. -/
theorem steady_takeOctets (count : Nat) : Steady (takeOctets count) := by
  -- Either there are too few, or what is taken does not depend on what follows.
  intro octets
  by_cases short : octets.length < count
  · left
    simp [takeOctets, short]
  · right
    intro extra
    have enough : count ≤ octets.length := Nat.not_lt.mp short
    have longer : ¬ octets.length + extra.length < count := by omega
    simp [takeOctets, short, longer, Except.map, List.take_append_of_le_length enough,
      List.drop_append_of_le_length enough]

/-- Reading an escaped number is steady, whatever its packing. -/
theorem steady_readPacked : Steady readPacked := by
  -- After the packing so many octets are taken as it announces, or it is refused.
  unfold readPacked
  refine steady_takeOctet.bind fun packing => ?_
  cases plain : plainWidth? packing with
  | some width =>
    simp only [plain]
    exact (steady_takeOctets width).bind fun digits => .give (littleValue digits)
  | none =>
    cases shifted : shiftedWidth? packing with
    | some width =>
      simp only [plain, shifted]
      refine (steady_takeOctets 8).bind fun least => ?_
      simp only
      refine (steady_takeOctets width).bind fun digits => ?_
      exact .give ((littleValue least + littleValue digits) % wordRange)
    | none =>
      simp only [plain, shifted]
      exact .fail .unknownPacking

/-- Reading a length is steady, in all forms that are accepted. -/
theorem steady_readLength : Steady readLength := by
  -- The first octet is the length or the escape before a packing.
  unfold readLength
  refine steady_takeOctet.bind fun first => ?_
  by_cases escaped : first = escape
  · simp only [escaped, if_true]
    exact steady_readPacked
  · simp only [escaped, if_false]
    exact .give first.toNat

/-- Reading a text is steady. -/
theorem steady_readText : Steady readText := by
  -- Only what is taken is judged, never what follows.
  unfold readText
  refine steady_readLength.bind fun length => ?_
  by_cases huge : hugeLength ≤ length
  · simp only [huge, if_true]
    exact .fail .hugeLength
  · simp only [huge, if_false]
    refine (steady_takeOctets length).bind fun body => ?_
    cases spelled : Octets.text? body with
    | some text =>
      simp only [spelled]
      exact .give text
    | none =>
      simp only [spelled]
      exact .fail .malformedText

/--
Whether every message ends by itself, so that less of it is
an early end and anything more is left over.
-/
structure SelfDelimiting (decode : Octets → Except DecodeError Message) : Prop where
  /-- A message that is cut short ends too early. -/
  cut : ∀ {front back : Octets} {message : Message}, decode (front ++ back) = .ok message →
    back ≠ [] →
    decode front = .error .endOfInput
  /-- What follows a message is left over. -/
  extended : ∀ {octets extra : Octets} {message : Message}, decode octets = .ok message →
    extra ≠ [] →
    decode (octets ++ extra) = .error .leftOver

/-- Octets behind what was read are left over. -/
theorem finish_append {value : Message} {rest extra : Octets} (more : extra ≠ []) :
    finish (value, rest ++ extra) = .error .leftOver := by
  simp [finish, more]

/-- Messages end by themselves if they are read steadily, and with nothing left over. -/
theorem Steady.selfDelimiting {read : Octets → Except DecodeError (Message × Octets)}
    (steady : Steady read) : SelfDelimiting fun octets => read octets >>= finish where
  -- Steady reading stops at the same octet, whatever comes after it.
  cut := by
    intro front back message decoded more
    rcases steady front with short | same
    · simp [short]
    · -- What the front says by itself would leave the back over.
      obtain ⟨found, whole, finished⟩ := ok_of_bind decoded
      rw [same back] at whole
      cases early : read front with
      | error fault =>
        rw [early] at whole
        cases whole
      | ok taken =>
        rw [early] at whole
        cases whole
        rw [finish_append more] at finished
        cases finished
  extended := by
    intro octets extra message decoded more
    obtain ⟨found, whole, finished⟩ := ok_of_bind decoded
    rcases steady octets with short | same
    · rw [short] at whole
      cases whole
    · simp only [same extra, whole, Except.map, ok_bind, finish_append more]

/--
Octets that are a message are neither the beginning of another one nor have one as their beginning.
-/
theorem SelfDelimiting.refuses {decode : Octets → Except DecodeError Message}
    (delimiting : SelfDelimiting decode) {octets other : Octets} {message : Message}
    (decoded : decode octets = .ok message) (different : other ≠ octets)
    (along : other <+: octets ∨ octets <+: other) : ∃ fault, decode other = .error fault := by
  -- Different octets along the message are a real part of it or go on after it.
  rcases along with ⟨back, rfl⟩ | ⟨extra, rfl⟩
  · have more : back ≠ [] := by
      rintro rfl
      simp at different
    exact ⟨_, delimiting.cut decoded more⟩
  · have more : extra ≠ [] := by
      rintro rfl
      simp at different
    exact ⟨_, delimiting.extended decoded more⟩

end Wire

/-- Reading a response is steady. -/
theorem Response.steady_read : Wire.Steady Response.read := by
  unfold Response.read
  refine Wire.steady_takeOctet.bind fun variant => ?_
  -- Only two of the four variants go on.
  simp only
  split
  · exact .give done
  · exact .give unchanged
  · refine Wire.steady_takeOctet.bind fun flag => ?_
    simp only
    refine Wire.steady_readText.bind fun reason => ?_
    exact .give (status (flag.toNat % 2 == 1) reason)
  · exact Wire.steady_readText.bind fun message => .give (failed message)

/-- Responses end by themselves. -/
theorem Response.selfDelimiting : Wire.SelfDelimiting Response.decode :=
  Response.steady_read.selfDelimiting

/-- Requests end by themselves. -/
theorem Request.selfDelimiting : Wire.SelfDelimiting Request.decode := by
  -- A request is its one octet, whose unused bits do not matter.
  have steady : Wire.Steady fun octets => Wire.takeOctet octets >>= fun found =>
      .ok (ofVariant found.1, found.2) :=
    Wire.steady_takeOctet.bind fun octet => .give (ofVariant octet)
  have whole : Request.decode = fun octets =>
      (Wire.takeOctet octets >>= fun found => .ok (ofVariant found.1, found.2)) >>=
        Wire.finish := by
    funext octets
    cases octets <;> rfl
  rw [whole]
  exact steady.selfDelimiting

/--
No message is the beginning of another one.

Less than a response or a request is an early end, and whatever follows one is left over, in every
form that is accepted. So the client takes nothing for a response that is one cut short or drawn
out, and the daemon answers such a request with a failure, goes on, and leaves its inhibitor alone.
-/
theorem Wire.messages_end_by_themselves :
    SelfDelimiting Response.decode ∧ SelfDelimiting Request.decode ∧
    (∀ {octets other : Octets} {response : Response}, Client.exchange (.ok octets) = .ok response →
      other ≠ octets → (other <+: octets ∨ octets <+: other) →
      ∃ report, Client.exchange (.ok other) = .error report) ∧
    ∀ {octets other : Octets} {request : Request},
      Daemon.readRequest (.received octets) = .ok request →
      other ≠ octets → (other <+: octets ∨ octets <+: other) →
      ∀ (inhibitor : Inhibitor) (refusal : Option Errno) (circumstances : Circumstances),
        let answer := Daemon.answer inhibitor ⟨.received other, refusal⟩ circumstances
        answer.inhibitor = inhibitor ∧ answer.keepRunning = true ∧
        ∃ message, answer.response = .failed message := by
  -- Both sides decode what arrives and report whatever does not decode.
  refine ⟨Response.selfDelimiting, Request.selfDelimiting, ?_, ?_⟩
  · intro octets other response exchanged different along
    obtain ⟨fault, refused⟩ :=
      Response.selfDelimiting.refuses (Client.exchange_eq_ok_iff.mp exchanged) different along
    cases found : Client.exchange (.ok other) with
    | error report => exact ⟨report, rfl⟩
    | ok taken => cases refused.symm.trans (Client.exchange_eq_ok_iff.mp found)
  · -- A request that cannot be read is answered with why, and nothing is carried out.
    intro octets other request heard different along inhibitor refusal circumstances
    obtain ⟨fault, refused⟩ :=
      Request.selfDelimiting.refuses (Daemon.readRequest_eq_ok_iff.mp heard) different along
    cases found : Daemon.readRequest (.received other) with
    | error report =>
      cases refusal <;> simp [Daemon.answer, Daemon.respond, found, Daemon.Answer.unwritten]
    | ok taken => cases refused.symm.trans (Daemon.readRequest_eq_ok_iff.mp found)

/-- A response in a form that nobody writes, with unused bits set and a short length escaped. -/
def Response.looseStatus : Octets := [254, 3, 255, 6, 2, 104, 105]

/-- Also a message in a form that nobody writes is refused when it is cut short or drawn out. -/
theorem Wire.loose_messages_end_by_themselves :
    Client.exchange (.ok Response.looseStatus) = .ok (.status true "hi") ∧
    (∃ report, Client.exchange (.ok (Response.looseStatus.take 6)) = .error report) ∧
    (∃ report, Client.exchange (.ok (Response.looseStatus ++ [0])) = .error report) ∧
    Daemon.readRequest (.received [7]) = .ok .kill ∧
    (Daemon.answer (Inhibitor.build "hi" (.given none) none).1 ⟨.received [7, 0], none⟩
      ⟨⟨0⟩, false⟩).keepRunning = true := by
  -- Its length is written in three octets where one would do.
  have told : Client.exchange (.ok Response.looseStatus) = .ok (.status true "hi") := by
    refine Client.exchange_eq_ok_iff.mpr ?_
    rfl
  have heard : Daemon.readRequest (.received [7]) = .ok .kill := rfl
  have ends := Wire.messages_end_by_themselves
  refine ⟨told, ?_, ?_, heard, ?_⟩
  · exact ends.2.2.1 told (by decide) (Or.inl ⟨[105], rfl⟩)
  · exact ends.2.2.1 told (by decide) (Or.inr ⟨[0], rfl⟩)
  · exact (ends.2.2.2 heard (by decide) (Or.inr ⟨[0], rfl⟩) _ none ⟨⟨0⟩, false⟩).2.1

end Wakeful
