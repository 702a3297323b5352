import Wakeful.Proofs.Text.Utf8

/-!
What is written as text within octets is shown as that text,
whatever broken stretches stand around it.
-/

namespace Wakeful.Utf8

/-- The octets that a piece has been read from. -/
def Piece.octets : Piece → Octets
  -- A character is read from exactly what it is written with.
  | .char value => String.utf8EncodeChar value
  | .broken octets => octets

variable {due bits : Nat} {low high first head : UInt8} {octets front rest : Octets} {char : Char}
  {chars : List Char} {lead : Lead} {earlier later : List Piece}

/-- The pieces of octets hold all of them, in order. -/
theorem flatMap_pieces (octets : Octets) : (pieces octets).flatMap Piece.octets = octets := by
  fun_induction pieces octets with
  | case1 => rfl
  | case2 first rest read shorter piece ih =>
    rw [List.flatMap_cons, ih]
    cases shown : read.1 with
    | none =>
      -- A broken stretch is cut off just before what is left of the octets.
      obtain ⟨taken, whole⟩ := readPiece_suffix first rest
      have split : first :: rest = (first :: taken) ++ read.2 := by rw [List.cons_append, whole]
      have length : rest.length + 1 - read.2.length = (first :: taken).length := by
        rw [← List.length_cons (a := first), split, List.length_append, Nat.add_sub_cancel]
      simp only [piece, shown, Piece.octets]
      rw [length, split, List.take_left]
    | some value =>
      have found : readPiece first rest = (some value, read.2) := Prod.ext shown rfl
      simp only [piece, shown, Piece.octets]
      exact (encode_of_readPiece found).symm

/-- Octets with the same pieces are the same. -/
theorem pieces_inj : pieces front = pieces rest ↔ front = rest := by
  -- The pieces hold all the octets, so these can be put together again.
  refine ⟨fun same => ?_, congrArg pieces⟩
  rw [← flatMap_pieces front, same, flatMap_pieces]

/-- No character goes on with an octet outside certain bounds. -/
theorem Announces.bounds (announces : Announces head lead) :
    128 ≤ lead.low.toNat ∧ lead.high.toNat < 192 := by
  -- By the length that is announced. Only the two longer ones narrow the bounds, never widen them.
  cases announces with
  | alone | two => exact (by decide : 128 ≤ 128 ∧ 191 < 192)
  | three | four =>
    simp only [apply_ite UInt8.toNat, UInt8.reduceToNat]
    constructor <;> split <;> decide

/-- Within these bounds is no octet with which a character begins. -/
theorem first_of_encode (written : first :: rest = String.utf8EncodeChar char ++ octets) :
    first.toNat < 128 ∨ 192 ≤ first.toNat := by
  -- A first octet that announces a character is outside those bounds.
  obtain ⟨lead, announces, -⟩ := readPiece_eq_some_iff.mp (readPiece_of_encode written)
  cases announces <;> omega

section Beginning

variable (begins : first.toNat < 128 ∨ 192 ≤ first.toNat)

include begins

/-- The completion of a character never reaches beyond an octet with which no character goes on. -/
theorem complete_append (least : 128 ≤ low.toNat) (most : high.toNat < 192) :
    complete due bits low high (octets ++ first :: rest) =
      ((complete due bits low high octets).1,
        (complete due bits low high octets).2 ++ first :: rest) := by
  -- By induction on the octets that are due. At the seam the next octet cannot complete anything.
  induction due generalizing bits low high octets with
  | zero => rfl
  | succ due ih =>
    cases octets with
    | nil =>
      have outside : ¬ (low ≤ first ∧ first ≤ high) := by
        rw [UInt8.le_iff_toNat_le, UInt8.le_iff_toNat_le]
        omega
      simp [complete, outside]
    | cons octet octets =>
      simp only [List.cons_append, complete]
      split
      · exact ih (by decide) (by decide)
      · rfl

/-- A piece ends at the latest before an octet with which no character goes on. -/
theorem readPiece_append (head : UInt8) : readPiece head (octets ++ first :: rest) =
    ((readPiece head octets).1, (readPiece head octets).2 ++ first :: rest) := by
  -- A first octet that announces nothing stands alone, and any other is completed within bounds.
  unfold readPiece
  cases announced : lead? head with
  | none => rfl
  | some lead =>
    have bounds := (lead?_eq_some_iff.mp announced).bounds
    exact complete_append begins bounds.1 bounds.2

/-- Octets fall apart before an octet with which no character goes on. -/
theorem pieces_append :
    pieces (front ++ first :: rest) = pieces front ++ pieces (first :: rest) := by
  fun_induction pieces front with
  | case1 => rfl
  | case2 head octets read shorter piece ih =>
    have found : readPiece head (octets ++ first :: rest) = (read.1, read.2 ++ first :: rest) :=
      readPiece_append begins head
    rw [List.cons_append, pieces, found, ih, List.cons_append]
    congr 1
    cases shown : read.1 with
    | some value => simp only [piece, shown]
    | none =>
      -- The stretch is as long as before, since as much more is left as there was in addition.
      have length : (octets ++ first :: rest).length + 1 - (read.2 ++ first :: rest).length =
          octets.length + 1 - read.2.length := by
        rw [List.length_append, List.length_append]
        omega
      simp only [piece, shown]
      rw [length, ← List.cons_append, List.take_append_of_le_length (by simp)]

end Beginning

/-- Where the pieces of octets are parted, the octets can be parted. -/
theorem exists_rest_of_pieces (fallen : pieces octets = earlier ++ later) :
    ∃ front rest, octets = front ++ rest ∧ pieces rest = later := by
  -- By induction on the earlier pieces, each of which takes its octets off the front.
  induction earlier generalizing octets with
  | nil => exact ⟨[], octets, rfl, fallen⟩
  | cons piece earlier ih =>
    cases octets with
    | nil => simp [pieces] at fallen
    | cons first rest =>
      rw [pieces, List.cons_append, List.cons.injEq] at fallen
      obtain ⟨taken, whole⟩ := readPiece_suffix first rest
      obtain ⟨front, behind, parted, left⟩ := ih fallen.2
      exact ⟨first :: taken ++ front, behind, by rw [← whole, parted]; simp, left⟩

/-- Characters stand among the pieces exactly where the octets have what they are written with. -/
theorem pieces_eq_append_iff (nonempty : chars ≠ []) :
    pieces octets = earlier ++ (chars.map .char ++ later) ↔
    ∃ front rest, octets = front ++ (chars.flatMap String.utf8EncodeChar ++ rest) ∧
      pieces front = earlier ∧ pieces rest = later := by
  obtain ⟨char, others, rfl⟩ := List.exists_cons_of_ne_nil nonempty
  have parts (front rest : Octets) :
      pieces (front ++ ((char :: others).flatMap String.utf8EncodeChar ++ rest)) =
        pieces front ++ ((char :: others).map .char ++ pieces rest) := by
    obtain ⟨first, due, written⟩ :=
      List.exists_cons_of_ne_nil (String.utf8EncodeChar_ne_nil (c := char))
    have begins :=
      first_of_encode
        (show first :: due = String.utf8EncodeChar char ++ [] by rw [written, List.append_nil])
    rw [← pieces_encoded_append, List.flatMap_cons, written]
    exact pieces_append begins
  constructor
  · intro fallen
    obtain ⟨front, behind, rfl, left⟩ := exists_rest_of_pieces fallen
    -- All that is known of the octets behind is their pieces, and these tell what they are.
    have whole : behind =
        (char :: others).flatMap String.utf8EncodeChar ++ later.flatMap Piece.octets := by
      rw [← flatMap_pieces behind, left, List.flatMap_append, List.flatMap_map]
      rfl
    have last : pieces (later.flatMap Piece.octets) = later := by
      rw [whole, pieces_encoded_append] at left
      exact List.append_cancel_left left
    refine ⟨front, _, congrArg (front ++ ·) whole, ?_, last⟩
    rw [whole, parts, last] at fallen
    exact List.append_cancel_right fallen
  · rintro ⟨front, rest, rfl, rfl, rfl⟩
    exact parts front rest

/--
A text of which nothing stands for broken stretches is shown only for the characters that it has.
-/
theorem map_shown_eq_iff (free : replacement ∉ chars) :
    earlier.map Piece.shown = chars ↔ earlier = chars.map .char := by
  -- A broken stretch would show the character that does not occur.
  constructor
  · rintro rfl
    rw [List.map_map]
    refine (List.map_id _).symm.trans (List.map_congr_left fun piece among => ?_)
    cases piece with
    | char value => rfl
    | broken octets => exact absurd (List.mem_map.mpr ⟨_, among, rfl⟩) free
  · rintro rfl
    rw [List.map_map]
    exact List.map_id chars

section Occurrence

variable {text before after : String} (nonempty : text ≠ "") (free : replacement ∉ text.toList)

include nonempty free

/--
A text is shown between two others exactly if its octets
stand between octets that are shown as these.
-/
theorem lossy_eq_append_iff : lossy octets = before ++ text ++ after ↔ ∃ front rest,
    octets = front ++ Octets.ofText text ++ rest ∧ lossy front = before ∧ lossy rest = after := by
  -- What is shown is parted character by character, and so the pieces are parted too.
  have chars : text.toList ≠ [] := by simpa using nonempty
  have shown (octets : Octets) (text : String) : lossy octets = text ↔
      (pieces octets).map Piece.shown = text.toList := by
    rw [lossy, ← String.toList_inj, String.toList_ofList]
  simp only [shown, String.toList_append, List.append_assoc, Octets.ofText_eq]
  constructor
  · -- The text in the middle has no replacement in it, so its pieces are its characters.
    intro whole
    obtain ⟨earlier, behind, parted, left, right⟩ := List.map_eq_append_iff.mp whole
    obtain ⟨middle, later, rfl, within, last⟩ := List.map_eq_append_iff.mp right
    rw [(map_shown_eq_iff free).mp within] at parted
    obtain ⟨front, rest, placed, rfl, rfl⟩ := (pieces_eq_append_iff chars).mp parted
    exact ⟨front, rest, placed, left, last⟩
  · rintro ⟨front, rest, placed, left, right⟩
    rw [(pieces_eq_append_iff chars).mpr ⟨front, rest, placed, rfl, rfl⟩, List.map_append,
      List.map_append, left, right, (map_shown_eq_iff free).mpr rfl]

/-- A text is shown somewhere exactly if its octets occur. -/
theorem infix_iff :
    Octets.ofText text <:+: octets ↔ ∃ before after, lossy octets = before ++ text ++ after := by
  -- Both say that the octets stand somewhere in the middle.
  constructor
  · rintro ⟨front, rest, whole⟩
    exact ⟨lossy front, lossy rest,
      (lossy_eq_append_iff nonempty free).mpr ⟨front, rest, whole.symm, rfl, rfl⟩⟩
  · rintro ⟨before, after, shown⟩
    obtain ⟨front, rest, whole, -⟩ := (lossy_eq_append_iff nonempty free).mp shown
    exact ⟨front, rest, whole.symm⟩

/-- The octets of a text occur exactly if they occur where all broken stretches are replaced. -/
theorem infix_lossy_iff :
    Octets.ofText text <:+: Octets.ofText (lossy octets) ↔ Octets.ofText text <:+: octets := by
  rw [infix_iff nonempty free, infix_iff nonempty free, lossy_ofText]

end Occurrence

/-- A text that is not empty has one place for as much as is shown before it. -/
theorem front_unique {others : Octets} (text : String) (nonempty : text ≠ "")
    (whole : front ++ Octets.ofText text ++ rest = octets ++ Octets.ofText text ++ others)
    (same : lossy front = lossy octets) : front = octets := by
  have chars : text.toList ≠ [] := by simpa using nonempty
  rw [Octets.ofText_eq, List.append_assoc, List.append_assoc] at whole
  have here := (pieces_eq_append_iff chars).mpr ⟨front, rest, rfl, rfl, rfl⟩
  have there := (pieces_eq_append_iff chars).mpr ⟨octets, others, rfl, rfl, rfl⟩
  rw [whole] at here
  -- There is one piece for each character that is shown.
  have length : (pieces front).length = (pieces octets).length := by
    rw [lossy, lossy, ← String.toList_inj, String.toList_ofList, String.toList_ofList] at same
    simpa using congrArg List.length same
  exact pieces_inj.mp (List.append_inj (here.symm.trans there) length).1

end Wakeful.Utf8
