import Wakeful.Proofs.Wire.RoundTrip

/-!
Every spelling that is accepted for a response is at least
as long as the one that is written for it.
-/

namespace Wakeful

namespace Wire

variable {octets taken rest front digits : Octets} {packing : UInt8} {count width length : Nat}

/-- Octets are taken exactly if they are the front of what is there. -/
theorem takeOctets_eq_ok_iff :
    takeOctets count octets = .ok (taken, rest) ↔
      octets = taken ++ rest ∧ taken.length = count := by
  -- What is taken and what is left make up the whole.
  constructor
  · intro took
    refine ⟨?_, length_of_takeOctets took⟩
    unfold takeOctets at took
    split at took
    · cases took
    · cases took
      exact (List.take_append_drop count octets).symm
  · rintro ⟨rfl, whole⟩
    exact takeOctets_append whole

/-- One octet is taken exactly if it is the first one. -/
theorem takeOctet_eq_ok_iff {octet : UInt8} :
    takeOctet octets = .ok (octet, rest) ↔ octets = octet :: rest := by
  cases octets <;> simp [takeOctet]

/-- Octets spell a number that fits into as many of them. -/
theorem littleValue_lt (digits : Octets) : littleValue digits < Nat.pow 256 digits.length := by
  -- By induction on the octets. One more of them scales the bound by 256.
  induction digits with
  | nil => exact Nat.one_pos
  | cons octet rest ih =>
    have small := octet.toNat_lt
    have scaled : Nat.pow 256 (octet :: rest).length = Nat.pow 256 rest.length * 256 := rfl
    rw [littleValue, scaled]
    omega

/-- A packing that announces a shifted number announces no plain one. -/
theorem plainWidth?_of_shifted (shifted : shiftedWidth? packing = some width) :
    plainWidth? packing = none := by
  -- There are three such packings, and none of them is plain.
  unfold shiftedWidth? at shifted
  split at shifted
  · subst packing
    rfl
  · split at shifted
    · subst packing
      rfl
    · split at shifted
      · subst packing
        rfl
      · cases shifted

/-- The spellings of a length that are accepted. -/
inductive SpellsLength (length : Nat) : Octets → Prop where
  /-- One octet other than the escape is the length itself. -/
  | single {octet : UInt8} (plain : octet ≠ escape) (value : octet.toNat = length) :
      SpellsLength length [octet]
  /--
  Behind the escape the length stands in any of the plain
  widths, also in one that is wider than needed.
  -/
  | escaped {packing : UInt8} {width : Nat} {digits : Octets}
      (known : plainWidth? packing = some width) (whole : digits.length = width)
      (value : littleValue digits = length) : SpellsLength length (escape :: packing :: digits)
  /--
  Behind the escape stand a least value of full width and
  what is added to it, and the sum wraps around.
  -/
  | shifted {packing : UInt8} {width : Nat} {least digits : Octets}
      (known : shiftedWidth? packing = some width) (full : least.length = 8)
      (whole : digits.length = width)
      (value : (littleValue least + littleValue digits) % wordRange = length) :
        SpellsLength length (escape :: packing :: (least ++ digits))

/-- A length is read exactly from its spellings. -/
theorem readLength_eq_ok_iff :
    readLength octets = .ok (length, rest) ↔
      ∃ front, octets = front ++ rest ∧ SpellsLength length front := by
  -- The first octet decides between the two forms, and the
  -- packing between the plain and the shifted one.
  constructor
  · intro read
    obtain ⟨⟨first, behind⟩, began, onward⟩ := ok_of_bind read
    obtain rfl := takeOctet_eq_ok_iff.mp began
    simp only at onward
    split at onward
    · rename_i escaped
      subst first
      obtain ⟨⟨packing, behind⟩, packed, further⟩ := ok_of_bind onward
      obtain rfl := takeOctet_eq_ok_iff.mp packed
      simp only at further
      split at further
      · rename_i width known
        obtain ⟨⟨digits, behind⟩, took, given⟩ := ok_of_bind further
        obtain ⟨rfl, whole⟩ := takeOctets_eq_ok_iff.mp took
        cases given
        exact ⟨escape :: packing :: digits, rfl, .escaped known whole rfl⟩
      · split at further
        · rename_i width known
          obtain ⟨⟨least, behind⟩, took, added⟩ := ok_of_bind further
          obtain ⟨rfl, full⟩ := takeOctets_eq_ok_iff.mp took
          obtain ⟨⟨digits, behind⟩, took, given⟩ := ok_of_bind added
          obtain ⟨rfl, whole⟩ := takeOctets_eq_ok_iff.mp took
          cases given
          refine ⟨escape :: packing :: (least ++ digits), ?_, .shifted known full whole rfl⟩
          simp
        · cases further
    · rename_i plain
      cases onward
      exact ⟨[first], rfl, .single plain rfl⟩
  · -- Each way to spell a length is read along its own branch.
    rintro ⟨front, rfl, spells⟩
    cases spells with
    | single plain value => simp [readLength, takeOctet, plain, value]
    | escaped known whole value =>
      simp [readLength, readPacked, takeOctet, known, takeOctets_append whole, value]
    | shifted known full whole value =>
      simp [readLength, readPacked, takeOctet, plainWidth?_of_shifted known, known,
        takeOctets_append full, takeOctets_append whole, value]

/-- A length that fits into a plain width is written in at most two octets more. -/
theorem length_writeLength_le (known : plainWidth? packing = some width)
    (fits : length < Nat.pow 256 width) : (writeLength length).length ≤ width + 2 := by
  -- The encoder tries the widths from the narrowest on, so that it stops at this one at the latest.
  have widths : width = 8 ∨ width = 4 ∧ length < 0x100000000 ∨ width = 2 ∧ length < 0x10000 ∨
      width = 1 ∧ length < 0x100 := by
    unfold plainWidth? at known
    split at known
    · exact .inl (Option.some.inj known).symm
    · split at known
      · cases known
        exact .inr (.inl ⟨rfl, fits⟩)
      · split at known
        · cases known
          exact .inr (.inr (.inl ⟨rfl, fits⟩))
        · split at known
          · cases known
            exact .inr (.inr (.inr ⟨rfl, fits⟩))
          · cases known
  unfold writeLength
  repeat' split
  all_goals
    simp only [List.length_cons, List.length_nil, length_littleOctets]
    omega

/-- No length is written in more than ten octets. -/
theorem length_writeLength_le_ten (length : Nat) : (writeLength length).length ≤ 10 := by
  -- The longest form has an escape, a packing and eight octets.
  unfold writeLength
  repeat' split
  all_goals
    simp only [List.length_cons, List.length_nil, length_littleOctets]
    omega

/-- A length is written in as few octets as any of its spellings has. -/
theorem SpellsLength.shortest (spells : SpellsLength length front) :
    (writeLength length).length ≤ front.length := by
  cases spells with
  | @single octet plain value =>
    have short : length < 255 := by
      have small := octet.toNat_lt
      have other : octet.toNat ≠ 255 := fun same => plain (UInt8.toNat_inj.mp same)
      omega
    rw [writeLength, if_pos short]
    exact Nat.le_refl 1
  | @escaped packing width digits known whole value =>
    have fits : length < Nat.pow 256 width := by
      rw [← value, ← whole]
      exact littleValue_lt digits
    have written := length_writeLength_le known fits
    simp only [List.length_cons, whole]
    exact written
  | @shifted packing width least digits known full whole value =>
    -- The least value alone is as wide as the widest number
    -- that is written, and something is added to it.
    have added : 1 ≤ width := by
      unfold shiftedWidth? at known
      repeat' split at known
      all_goals cases known
      all_goals decide
    have written := length_writeLength_le_ten length
    simp only [List.length_cons, List.length_append, full, whole]
    omega

/--
A text is read exactly from a spelling of its length and its
own octets, if these are not out of all proportion.
-/
theorem readText_eq_ok_iff {text : String} :
    readText octets = .ok (text, rest) ↔ ∃ front, octets = front ++ (Octets.ofText text ++ rest) ∧
      SpellsLength (Octets.ofText text).length front ∧
      (Octets.ofText text).length < hugeLength := by
  -- A text is its length, spelled in some way, and as many octets, which have to be text.
  constructor
  · intro read
    have small := length_of_readText read
    obtain ⟨⟨length, behind⟩, measured, onward⟩ := ok_of_bind read
    obtain ⟨front, rfl, spells⟩ := readLength_eq_ok_iff.mp measured
    obtain ⟨-, further⟩ := ok_of_check onward
    obtain ⟨⟨body, behind⟩, took, judged⟩ := ok_of_bind further
    obtain ⟨rfl, whole⟩ := takeOctets_eq_ok_iff.mp took
    simp only at judged
    split at judged
    · rename_i found spelled
      cases judged
      obtain rfl := Octets.ofText_of_text? spelled
      exact ⟨front, rfl, whole ▸ spells, small⟩
    · cases judged
  · rintro ⟨front, rfl, spells, small⟩
    have measured : readLength (front ++ (Octets.ofText text ++ rest)) =
        .ok ((Octets.ofText text).length, Octets.ofText text ++ rest) :=
      readLength_eq_ok_iff.mpr ⟨front, rfl, spells⟩
    simp [readText, measured, Nat.not_le.mpr small, takeOctets_append, Octets.text?_ofText]

end Wire

namespace Response

open Wire (SpellsLength hugeLength)

variable {octets : Octets} {response : Response}

/--
The spellings of a response that are accepted, in which only
the lowest bits of the variant and the flag count.
-/
inductive Spells : Response → Octets → Prop where
  /-- The variant is all there is. -/
  | done {variant : UInt8} (bits : variant.toNat % 4 = 0) : Spells done [variant]
  /-- The variant is all there is. -/
  | unchanged {variant : UInt8} (bits : variant.toNat % 4 = 1) : Spells unchanged [variant]
  /-- A flag and a reason follow. -/
  | status {variant flag : UInt8} {active : Bool} {reason : String} {length : Octets}
      (bits : variant.toNat % 4 = 2) (tells : (flag.toNat % 2 == 1) = active)
      (measures : SpellsLength (Octets.ofText reason).length length)
      (small : (Octets.ofText reason).length < hugeLength) :
        Spells (status active reason) (variant :: flag :: (length ++ Octets.ofText reason))
  /-- A message follows. -/
  | failed {variant : UInt8} {message : String} {length : Octets} (bits : variant.toNat % 4 = 3)
      (measures : SpellsLength (Octets.ofText message).length length)
      (small : (Octets.ofText message).length < hugeLength) :
      Spells (failed message) (variant :: (length ++ Octets.ofText message))

/-- A response is decoded exactly from its spellings. -/
theorem decode_eq_ok_iff : decode octets = .ok response ↔ response.Spells octets := by
  -- The low bits of the first octet choose the response, and a text has to be the end of it.
  constructor
  · intro decoded
    obtain ⟨found, whole, finished⟩ := ok_of_bind decoded
    obtain rfl := Wire.finish_eq_ok_iff.mp finished
    obtain ⟨⟨variant, behind⟩, began, onward⟩ := ok_of_bind whole
    obtain rfl := Wire.takeOctet_eq_ok_iff.mp began
    simp only at onward
    split at onward
    · rename_i bits
      cases onward
      exact .done bits
    · rename_i bits
      cases onward
      exact .unchanged bits
    · rename_i bits
      obtain ⟨⟨flag, behind⟩, flagged, further⟩ := ok_of_bind onward
      obtain rfl := Wire.takeOctet_eq_ok_iff.mp flagged
      obtain ⟨⟨reason, behind⟩, text, given⟩ := ok_of_bind further
      cases given
      obtain ⟨length, rfl, measures, small⟩ := Wire.readText_eq_ok_iff.mp text
      rw [List.append_nil]
      exact .status bits rfl measures small
    · -- Of the four numbers only the last one is left.
      rename_i number none one two
      obtain ⟨⟨message, behind⟩, text, given⟩ := ok_of_bind onward
      cases given
      obtain ⟨length, rfl, measures, small⟩ := Wire.readText_eq_ok_iff.mp text
      rw [List.append_nil]
      have bits : variant.toNat % 4 = 3 := by
        change ¬ _ at none one two
        omega
      exact .failed bits measures small
  · -- In each spelling the bits and the text are as they are read.
    intro spells
    cases spells with
    | done bits => simp [decode, read, Wire.takeOctet, bits, Wire.finish]
    | unchanged bits => simp [decode, read, Wire.takeOctet, bits, Wire.finish]
    | @status variant flag active reason length bits tells measures small =>
      have text : Wire.readText (length ++ Octets.ofText reason) = .ok (reason, []) :=
        Wire.readText_eq_ok_iff.mpr ⟨length, by rw [List.append_nil], measures, small⟩
      simp [decode, read, Wire.takeOctet, bits, text, tells, Wire.finish]
    | @failed variant message length bits measures small =>
      have text : Wire.readText (length ++ Octets.ofText message) = .ok (message, []) :=
        Wire.readText_eq_ok_iff.mpr ⟨length, by rw [List.append_nil], measures, small⟩
      simp [decode, read, Wire.takeOctet, bits, text, Wire.finish]

/-- A response is written in as few octets as any of its spellings has. -/
theorem Spells.shortest (spells : response.Spells octets) :
    response.encode.length ≤ octets.length := by
  -- Only the length of a text can be spelled in several ways, and the one written is the shortest.
  cases spells with
  | done bits => exact Nat.le_refl 1
  | unchanged bits => exact Nat.le_refl 1
  | status bits tells measures small =>
    have short := measures.shortest
    simp only [encode, Wire.writeText, List.length_cons, List.length_append]
    omega
  | failed bits measures small =>
    have short := measures.shortest
    simp only [encode, Wire.writeText, List.length_cons, List.length_append]
    omega

/-- A response that has a spelling has a text that is not out of all proportion. -/
theorem Spells.small (spells : response.Spells octets) : response.contents.length < hugeLength := by
  -- Only a response with a text has a bound to keep.
  cases spells with
  | done bits => decide
  | unchanged bits => decide
  | status bits tells measures small => exact small
  | failed bits measures small => exact small

/--
What is decoded is written again in the shortest way.

Whatever octets a response is decoded from, in whichever of the accepted
spellings, the octets that are written for it are decoded to the same
response, by the client as well, and are not more than those.
-/
theorem written_again_shortest (decoded : decode octets = .ok response) :
    response.Spells octets ∧ decode response.encode = .ok response ∧
      Client.exchange (.ok response.encode) = .ok response ∧
      response.encode.length ≤ octets.length := by
  -- What was decoded had a spelling, so its text has a length that is accepted again.
  have spells := decode_eq_ok_iff.mp decoded
  have again := decode_encode_iff.mpr spells.small
  exact ⟨spells, again, Client.exchange_eq_ok_iff.mpr again, spells.shortest⟩

/-- A response with unused bits set, and with a length that comes about by wrapping around. -/
def wrappedStatus : Octets := [254, 3, 255, 5, 255, 255, 255, 255, 255, 255, 255, 255, 3, 104, 105]

/-- A length that wraps around is written again as a single octet. -/
theorem wrapped_written_again :
    decode wrappedStatus = .ok (.status true "hi") ∧
    decode (encode (.status true "hi")) = .ok (.status true "hi") ∧
      (encode (.status true "hi")).length ≤ wrappedStatus.length := by
  -- The length of this response is spelled as a sum that wraps around.
  have decoded : decode wrappedStatus = .ok (.status true "hi") := rfl
  have again := written_again_shortest decoded
  exact ⟨decoded, again.2.1, again.2.2.2⟩

end Response

end Wakeful
