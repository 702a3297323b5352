import Wakeful.Text.Utf8

/-!
A character is read exactly from the octets it is written
with, so that text is shown as it is written.
-/

namespace Wakeful

/-- The octets of a text are those of its characters one after the other. -/
theorem Octets.ofText_eq (text : String) :
    ofText text = text.toList.flatMap String.utf8EncodeChar := by
  -- The library keeps the octets of a text as the encoding of its characters.
  have encoded : text.toByteArray = text.toList.utf8Encode := String.utf8Encode_toList.symm
  unfold ofText
  rw [String.toUTF8_eq_toByteArray, encoded, List.utf8Encode, List.toList_data_toByteArray]

namespace Utf8

variable {due bits : Nat} {low high first octet : UInt8} {octets rest after : Octets} {char : Char}
  {lead : Lead}

/-- What a first octet announces, by its number. -/
inductive Announces (octet : UInt8) : Lead → Prop where
  /-- It is a character by itself. -/
  | alone (small : octet.toNat < 128) : Announces octet ⟨octet.toNat, 0, 0x80, 0xBF⟩
  /-- One more octet is due, and the character is none of those that need no second octet. -/
  | two (least : 194 ≤ octet.toNat) (most : octet.toNat < 224) :
      Announces octet ⟨octet.toNat % 32, 1, 0x80, 0xBF⟩
  /-- Two more octets are due, and the first of them rules out shorter forms and surrogates. -/
  | three (least : 224 ≤ octet.toNat) (most : octet.toNat < 240) :
      Announces octet
        ⟨octet.toNat % 16, 2, if octet.toNat = 224 then 0xA0 else 0x80,
          if octet.toNat = 237 then 0x9F else 0xBF⟩
  /--
  Three more octets are due, and the first of them rules out
  shorter forms and what is past the last character.
  -/
  | four (least : 240 ≤ octet.toNat) (most : octet.toNat < 245) :
      Announces octet
        ⟨octet.toNat % 8, 3, if octet.toNat = 240 then 0x90 else 0x80,
          if octet.toNat = 244 then 0x8F else 0xBF⟩

/-- A first octet announces exactly what its number says. -/
theorem lead?_eq_some_iff : lead? octet = some lead ↔ Announces octet lead := by
  -- The ranges are tried in order, so each one excludes those before it.
  have equal (other : UInt8) : (octet = other) = (octet.toNat = other.toNat) :=
    propext UInt8.toNat_inj.symm
  simp only [lead?, UInt8.lt_iff_toNat_lt, equal, UInt8.reduceToNat]
  constructor
  · -- Four of the six outcomes announce something.
    intro announced
    split at announced
    · cases announced
      exact .alone ‹_›
    split at announced
    · cases announced
    split at announced
    · cases announced
      exact .two (Nat.not_lt.mp ‹_›) ‹_›
    split at announced
    · cases announced
      exact .three (Nat.not_lt.mp ‹_›) ‹_›
    split at announced
    · cases announced
      exact .four (Nat.not_lt.mp ‹_›) ‹_›
    · cases announced
  · intro announces
    cases announces with
    | alone small => rw [if_pos small]
    | two least most => rw [if_neg (by omega), if_neg (by omega), if_pos most]
    | three least most => rw [if_neg (by omega), if_neg (by omega), if_neg (by omega), if_pos most]
    | four least most =>
      rw [if_neg (by omega), if_neg (by omega), if_neg (by omega), if_neg (by omega), if_pos most]

/-- A character of which nothing is due any more is complete. -/
theorem complete_zero_iff : complete 0 bits low high octets = (some char, after) ↔
    Char.ofNat bits = char ∧ octets = after := by
  simp [complete]

/--
A character of which octets are due is completed by an octet within the bounds and by what follows.
-/
theorem complete_succ_iff : complete (due + 1) bits low high octets = (some char, after) ↔
    ∃ octet rest, octets = octet :: rest ∧ low.toNat ≤ octet.toNat ∧ octet.toNat ≤ high.toNat ∧
      complete due (bits * 64 + octet.toNat % 64) 0x80 0xBF rest = (some char, after) := by
  -- One octet is looked at, and the rest completes what is still due.
  cases octets with
  | nil => simp [complete]
  | cons octet rest =>
    simp only [complete, UInt8.le_iff_toNat_le, List.cons.injEq]
    constructor
    · intro completed
      split at completed
      · rename_i within
        exact ⟨octet, rest, ⟨rfl, rfl⟩, within.1, within.2, completed⟩
      · cases completed
    · rintro ⟨_, _, ⟨rfl, rfl⟩, least, most, completed⟩
      rw [if_pos ⟨least, most⟩]
      exact completed

/--
A character and what is left are read after a first octet
that announces the character's other octets.
-/
theorem readPiece_eq_some_iff : readPiece first rest = (some char, after) ↔
    ∃ lead, Announces first lead ∧
      complete lead.due lead.bits lead.low lead.high rest = (some char, after) := by
  -- Without a first octet that announces anything no character can come of it.
  unfold readPiece
  cases announced : lead? first with
  | none => simp [← lead?_eq_some_iff, announced]
  | some lead => simp [← lead?_eq_some_iff, announced]

/-- The number of a character that a number stands for is that number. -/
theorem toNat_of_ofNat {number : Nat} (valid : number.isValidChar)
    (same : Char.ofNat number = char) : char.toNat = number := by
  -- A number that is valid is kept as it is.
  rw [← same, Char.ofNat, dif_pos valid]
  rfl

/-- An octet is the one with its number. -/
theorem ofNat_eq_of_toNat (octet : UInt8) {number : Nat} (same : number = octet.toNat) :
    UInt8.ofNat number = octet := by
  rw [same, UInt8.ofNat_toNat]

/-- An octet with a number that is small enough has that number. -/
theorem toNat_ofNat_octet {number : Nat} (small : number < 256) :
    (UInt8.ofNat number).toNat = number := by
  rw [UInt8.toNat_ofNat', Nat.mod_eq_of_lt small]

/-- The number of a character is within its bounds and not between them. -/
theorem toNat_valid (char : Char) :
    char.toNat < 0xD800 ∨ 0xDFFF < char.toNat ∧ char.toNat < 0x110000 :=
  char.valid

/-- A character of the first 128 is written with one octet. -/
theorem encode_alone (small : char.toNat < 128) :
    String.utf8EncodeChar char = [UInt8.ofNat char.toNat] := by
  -- The encoder tries the lengths in order, and the first fits.
  unfold String.utf8EncodeChar
  exact if_pos (show char.toNat ≤ 0x7F by omega)

/-- A character of the first 2048 is written with at most two octets. -/
theorem encode_two (least : 128 ≤ char.toNat) (most : char.toNat < 2048) :
    String.utf8EncodeChar char =
    [UInt8.ofNat (char.toNat / 64 % 32 + 192), UInt8.ofNat (char.toNat % 64 + 128)] := by
  -- The first length is too short and the second fits.
  unfold String.utf8EncodeChar
  exact (if_neg (show ¬ char.toNat ≤ 0x7F by omega)).trans
    (if_pos (show char.toNat ≤ 0x7FF by omega))

/-- A character of the first 65536 is written with at most three octets. -/
theorem encode_three (least : 2048 ≤ char.toNat) (most : char.toNat < 65536) :
    String.utf8EncodeChar char =
    [UInt8.ofNat (char.toNat / 4096 % 16 + 224), UInt8.ofNat (char.toNat / 64 % 64 + 128),
      UInt8.ofNat (char.toNat % 64 + 128)] := by
  -- The first two lengths are too short and the third fits.
  unfold String.utf8EncodeChar
  exact (if_neg (show ¬ char.toNat ≤ 0x7F by omega)).trans
    ((if_neg (show ¬ char.toNat ≤ 0x7FF by omega)).trans
    (if_pos (show char.toNat ≤ 0xFFFF by omega)))

/-- Every other character is written with four octets. -/
theorem encode_four (least : 65536 ≤ char.toNat) : String.utf8EncodeChar char =
    [UInt8.ofNat (char.toNat / 262144 % 8 + 240), UInt8.ofNat (char.toNat / 4096 % 64 + 128),
      UInt8.ofNat (char.toNat / 64 % 64 + 128), UInt8.ofNat (char.toNat % 64 + 128)] := by
  -- All shorter lengths fail.
  unfold String.utf8EncodeChar
  exact (if_neg (show ¬ char.toNat ≤ 0x7F by omega)).trans
    ((if_neg (show ¬ char.toNat ≤ 0x7FF by omega)).trans
    (if_neg (show ¬ char.toNat ≤ 0xFFFF by omega)))

/-- An octet of the first 128 belongs to no other character than its own. -/
theorem toNat_of_mem_encode (within : octet ∈ String.utf8EncodeChar char)
    (small : octet.toNat < 128) : char.toNat = octet.toNat := by
  -- Only the shortest form has an octet so small, and that is the number itself.
  by_cases alone : char.toNat < 128
  · rw [encode_alone alone, List.mem_singleton] at within
    rw [within, toNat_ofNat_octet (by omega)]
  · -- Every octet of a longer form is at least 128.
    exfalso
    by_cases two : char.toNat < 2048
    · rw [encode_two (by omega) two] at within
      simp only [List.mem_cons, List.not_mem_nil, or_false] at within
      rcases within with rfl | rfl <;> rw [toNat_ofNat_octet (by omega)] at small <;> omega
    by_cases three : char.toNat < 65536
    · rw [encode_three (by omega) three] at within
      simp only [List.mem_cons, List.not_mem_nil, or_false] at within
      rcases within with rfl | rfl | rfl <;> rw [toNat_ofNat_octet (by omega)] at small <;> omega
    · rw [encode_four (by omega)] at within
      simp only [List.mem_cons, List.not_mem_nil, or_false] at within
      rcases within with rfl | rfl | rfl | rfl <;>
        rw [toNat_ofNat_octet (by omega)] at small <;> omega

/-- What has been read as a character is what it is written with. -/
theorem encode_of_readPiece (read : readPiece first rest = (some char, after)) :
    first :: rest = String.utf8EncodeChar char ++ after := by
  -- The completed bits are put together from the octets, and the encoder takes them apart again.
  obtain ⟨lead, announces, completed⟩ := readPiece_eq_some_iff.mp read
  cases announces with
  | alone small =>
    obtain ⟨same, rfl⟩ := complete_zero_iff.mp completed
    have number : char.toNat = first.toNat :=
      toNat_of_ofNat (.inl (Nat.lt_trans small (by decide))) same
    rw [encode_alone (by omega), ofNat_eq_of_toNat first number]
    rfl
  | two least most =>
    obtain ⟨second, rest, rfl, low, high, completed⟩ := complete_succ_iff.mp completed
    obtain ⟨same, rfl⟩ := complete_zero_iff.mp completed
    simp only [UInt8.reduceToNat] at low high same
    have number := toNat_of_ofNat (.inl (by omega)) same
    rw [encode_two (by omega) (by omega), ofNat_eq_of_toNat first (by omega),
      ofNat_eq_of_toNat second (by omega)]
    rfl
  | three least most =>
    -- The bounds on the second octet leave out overlong forms and surrogates.
    obtain ⟨second, rest, rfl, low, high, completed⟩ := complete_succ_iff.mp completed
    obtain ⟨third, rest, rfl, low', high', completed⟩ := complete_succ_iff.mp completed
    obtain ⟨same, rfl⟩ := complete_zero_iff.mp completed
    simp only [UInt8.reduceToNat, apply_ite UInt8.toNat] at low high low' high' same
    have least' : 128 ≤ second.toNat ∧ (first.toNat = 224 → 160 ≤ second.toNat) := by
      split at low <;> omega
    have most' : second.toNat < 192 ∧ (first.toNat = 237 → second.toNat < 160) := by
      split at high <;> omega
    have number := toNat_of_ofNat (by unfold Nat.isValidChar; omega) same
    rw [encode_three (by omega) (by omega), ofNat_eq_of_toNat first (by omega),
      ofNat_eq_of_toNat second (by omega), ofNat_eq_of_toNat third (by omega)]
    rfl
  | four least most =>
    -- Here they leave out overlong forms and all that lies behind the last character.
    obtain ⟨second, rest, rfl, low, high, completed⟩ := complete_succ_iff.mp completed
    obtain ⟨third, rest, rfl, low', high', completed⟩ := complete_succ_iff.mp completed
    obtain ⟨fourth, rest, rfl, low'', high'', completed⟩ := complete_succ_iff.mp completed
    obtain ⟨same, rfl⟩ := complete_zero_iff.mp completed
    simp only [UInt8.reduceToNat, apply_ite UInt8.toNat] at low high low' high' low'' high'' same
    have least' : 128 ≤ second.toNat ∧ (first.toNat = 240 → 144 ≤ second.toNat) := by
      split at low <;> omega
    have most' : second.toNat < 192 ∧ (first.toNat = 244 → second.toNat < 144) := by
      split at high <;> omega
    have number := toNat_of_ofNat (by unfold Nat.isValidChar; omega) same
    rw [encode_four (by omega), ofNat_eq_of_toNat first (by omega),
      ofNat_eq_of_toNat second (by omega), ofNat_eq_of_toNat third (by omega),
      ofNat_eq_of_toNat fourth (by omega)]
    rfl

/-- What a character is written with is read as that character, whatever follows. -/
theorem readPiece_of_encode (written : first :: rest = String.utf8EncodeChar char ++ after) :
    readPiece first rest = (some char, after) := by
  -- For each length, the first octet announces it and the others lie within its bounds.
  have valid := toNat_valid char
  have whole {number : Nat} (same : number = char.toNat) : Char.ofNat number = char := by
    rw [same, Char.ofNat_toNat]
  rw [readPiece_eq_some_iff]
  by_cases alone : char.toNat < 128
  · rw [encode_alone alone, List.singleton_append, List.cons.injEq] at written
    obtain ⟨rfl, rfl⟩ := written
    have number := toNat_ofNat_octet (show char.toNat < 256 by omega)
    exact ⟨_, .alone (by omega), complete_zero_iff.mpr ⟨whole number, rfl⟩⟩
  by_cases two : char.toNat < 2048
  · rw [encode_two (by omega) two] at written
    simp only [List.cons_append, List.nil_append, List.cons.injEq] at written
    obtain ⟨rfl, rfl⟩ := written
    have number := toNat_ofNat_octet (show char.toNat / 64 % 32 + 192 < 256 by omega)
    have second := toNat_ofNat_octet (show char.toNat % 64 + 128 < 256 by omega)
    refine ⟨_, .two (by omega) (by omega), ?_⟩
    refine complete_succ_iff.mpr ⟨_, _, rfl, ?_, ?_, complete_zero_iff.mpr ⟨whole ?_, rfl⟩⟩ <;>
      simp only [number, second, UInt8.reduceToNat] <;> omega
  by_cases three : char.toNat < 65536
  · rw [encode_three (by omega) three] at written
    simp only [List.cons_append, List.nil_append, List.cons.injEq] at written
    obtain ⟨rfl, rfl⟩ := written
    have number := toNat_ofNat_octet (show char.toNat / 4096 % 16 + 224 < 256 by omega)
    have second := toNat_ofNat_octet (show char.toNat / 64 % 64 + 128 < 256 by omega)
    have third := toNat_ofNat_octet (show char.toNat % 64 + 128 < 256 by omega)
    refine ⟨_, .three (by omega) (by omega), ?_⟩
    refine complete_succ_iff.mpr ⟨_, _, rfl, ?_, ?_,
      complete_succ_iff.mpr ⟨_, _, rfl, ?_, ?_, complete_zero_iff.mpr ⟨whole ?_, rfl⟩⟩⟩ <;>
      simp only [number, second, third, UInt8.reduceToNat, apply_ite UInt8.toNat]
    · split <;> omega
    · split <;> omega
    all_goals omega
  · rw [encode_four (by omega)] at written
    simp only [List.cons_append, List.nil_append, List.cons.injEq] at written
    obtain ⟨rfl, rfl⟩ := written
    have number := toNat_ofNat_octet (show char.toNat / 262144 % 8 + 240 < 256 by omega)
    have second := toNat_ofNat_octet (show char.toNat / 4096 % 64 + 128 < 256 by omega)
    have third := toNat_ofNat_octet (show char.toNat / 64 % 64 + 128 < 256 by omega)
    have fourth := toNat_ofNat_octet (show char.toNat % 64 + 128 < 256 by omega)
    refine ⟨_, .four (by omega) (by omega), ?_⟩
    refine complete_succ_iff.mpr ⟨_, _, rfl, ?_, ?_, complete_succ_iff.mpr ⟨_, _, rfl, ?_, ?_,
      complete_succ_iff.mpr ⟨_, _, rfl, ?_, ?_, complete_zero_iff.mpr ⟨whole ?_, rfl⟩⟩⟩⟩ <;>
      simp only [number, second, third, fourth, UInt8.reduceToNat, apply_ite UInt8.toNat]
    · split <;> omega
    · split <;> omega
    all_goals omega

/--
What several characters are written with falls apart into these
characters, and what follows into its own pieces.
-/
theorem pieces_encoded_append (chars : List Char) (rest : Octets) :
    pieces (chars.flatMap String.utf8EncodeChar ++ rest) = chars.map .char ++ pieces rest := by
  -- By induction on the characters, each of which is one piece.
  induction chars with
  | nil => rfl
  | cons char chars ih =>
    rw [List.flatMap_cons]
    obtain ⟨first, due, written⟩ :=
      List.exists_cons_of_ne_nil (String.utf8EncodeChar_ne_nil (c := char))
    rw [written, List.append_assoc, List.cons_append, pieces]
    have read : readPiece first (due ++ (chars.flatMap String.utf8EncodeChar ++ rest)) =
        (some char, _) :=
      readPiece_of_encode (by rw [written, List.cons_append])
    simp [read, ih]

/-- Text is shown as it is. -/
theorem lossy_ofText (text : String) : lossy (Octets.ofText text) = text := by
  -- A text falls into its own characters, and a character is shown as itself.
  have fallen := pieces_encoded_append text.toList []
  have shown : (text.toList.map Piece.char).map Piece.shown = text.toList := by
    simp [Piece.shown, Function.comp_def]
  rw [List.append_nil, pieces, List.append_nil] at fallen
  rw [lossy, Octets.ofText_eq, fallen, shown, String.ofList_toList]

/-- What is left after a character has been completed, or not, is the end of what was there. -/
theorem complete_suffix (due bits : Nat) (low high : UInt8) (octets : Octets) :
    (complete due bits low high octets).2 <:+ octets := by
  -- By induction on the octets that are due. Every octet that is taken comes off the front.
  induction due generalizing bits low high octets with
  | zero => exact List.suffix_refl octets
  | succ due ih =>
    cases octets with
    | nil => exact List.suffix_refl []
    | cons octet rest =>
      unfold complete
      split
      · exact (ih _ _ _ rest).trans (List.suffix_cons octet rest)
      · exact List.suffix_refl _

/-- What is left after a piece is the end of what was there. -/
theorem readPiece_suffix (first : UInt8) (rest : Octets) : (readPiece first rest).2 <:+ rest := by
  -- Either nothing more is taken, or what completes the character.
  unfold readPiece
  split
  · exact List.suffix_refl rest
  · exact complete_suffix _ _ _ _ rest

/-- A character among the pieces has been read from the octets that it is written with. -/
theorem mem_of_char_mem_pieces (among : .char char ∈ pieces octets) :
    ∀ octet ∈ String.utf8EncodeChar char, octet ∈ octets := by
  -- The induction is over the pieces, each of which leaves the end of the octets to the later ones.
  fun_induction pieces octets with
  | case1 => simp at among
  | case2 first rest read shorter piece ih =>
    intro octet within
    rcases List.mem_cons.mp among with same | later
    · have found : readPiece first rest = (some char, read.2) := by
        show read = _
        cases shown : read.1 with
        | none => simp [piece, shown] at same
        | some value =>
          simp only [piece, shown, Piece.char.injEq] at same
          rw [same, ← shown]
      rw [encode_of_readPiece found]
      exact List.mem_append_left _ within
    · exact List.mem_cons_of_mem _ ((readPiece_suffix first rest).subset (ih later octet within))

/-- A character of the first 128 is shown only for its own octet. -/
theorem mem_of_mem_lossy (small : char.toNat < 128) (shown : char ∈ (lossy octets).toList) :
    UInt8.ofNat char.toNat ∈ octets := by
  rw [lossy, String.toList_ofList, List.mem_map] at shown
  obtain ⟨piece, among, same⟩ := shown
  cases piece with
  | char value =>
    obtain rfl : value = char := same
    exact mem_of_char_mem_pieces among _
      (by rw [encode_alone small]; exact List.mem_singleton_self _)
  | broken stretch =>
    -- What stands for a broken stretch comes long after the first 128 characters.
    rw [← same] at small
    exact absurd small (show ¬ replacement.toNat < 128 by decide)

end Utf8

end Wakeful
