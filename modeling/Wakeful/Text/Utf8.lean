import Wakeful.Text.Octets

/-!
Reading octets as text piece by piece, where every broken
stretch is told apart from the characters around it.
-/

namespace Wakeful.Utf8

/--
What a first octet announces: the bits it carries, how many
octets are due, and the bounds of the next one.
-/
structure Lead where
  /-- The bits of the character that the first octet carries. -/
  bits : Nat
  /-- The number of octets that must follow. -/
  due : Nat
  /-- The least octet that may follow at once. -/
  low : UInt8
  /-- The greatest octet that may follow at once. -/
  high : UInt8

/-- What a first octet announces, if a character can begin with it. -/
def lead? (octet : UInt8) : Option Lead :=
  -- The bounds of the second octet rule out overlong forms,
  -- surrogates and values past the last character.
  if octet < 0x80 then some ⟨octet.toNat, 0, 0x80, 0xBF⟩
  else if octet < 0xC2 then none
  else if octet < 0xE0 then some ⟨octet.toNat % 32, 1, 0x80, 0xBF⟩
  else if octet < 0xF0 then
    some ⟨octet.toNat % 16, 2, if octet = 0xE0 then 0xA0 else 0x80,
      if octet = 0xED then 0x9F else 0xBF⟩
  else if octet < 0xF5 then
    some ⟨octet.toNat % 8, 3, if octet = 0xF0 then 0x90 else 0x80,
      if octet = 0xF4 then 0x8F else 0xBF⟩
  else none

/--
Completes a character from the octets still due, or stops
before the first octet that cannot belong to it.
-/
def complete : (due bits : Nat) → (low high : UInt8) → Octets → Option Char × Octets
  -- Every further octet adds six bits, and only the first one has narrower bounds.
  | 0, bits, _, _, rest => (some (Char.ofNat bits), rest)
  | _ + 1, _, _, _, [] => (none, [])
  | due + 1, bits, low, high, octet :: rest =>
    if low ≤ octet ∧ octet ≤ high then complete due (bits * 64 + octet.toNat % 64) 0x80 0xBF rest
    else (none, octet :: rest)

/-- Reads one character, or one longest broken beginning of a character, after its first octet. -/
def readPiece (first : UInt8) (rest : Octets) : Option Char × Octets :=
  -- An octet that begins nothing is broken by itself.
  match lead? first with
  | none => (none, rest)
  | some lead => complete lead.due lead.bits lead.low lead.high rest

/-- Completing a character never adds octets. -/
theorem complete_length (due bits : Nat) (low high : UInt8) (octets : Octets) :
    (complete due bits low high octets).2.length ≤ octets.length := by
  -- Each turn takes one octet or stops.
  induction due generalizing bits low high octets with
  | zero => simp [complete]
  | succ due ih =>
    cases octets with
    | nil => simp [complete]
    | cons octet rest =>
      unfold complete
      split
      · exact Nat.le_succ_of_le (ih _ _ _ rest)
      · exact Nat.le_refl _

/-- Reading a piece never adds octets. -/
theorem readPiece_length (first : UInt8) (rest : Octets) :
    (readPiece first rest).2.length ≤ rest.length := by
  -- Either nothing more is taken or the completion bounds the rest.
  unfold readPiece
  split
  · exact Nat.le_refl _
  · exact complete_length ..

/-- A stretch of octets that is one character, or one broken beginning of a character. -/
inductive Piece where
  /-- A well-formed character. -/
  | char (value : Char)
  /-- The octets of a broken stretch. -/
  | broken (octets : Octets)

/-- The octets split into characters and broken stretches. -/
def pieces : Octets → List Piece
  -- Each piece consumes at least its first octet.
  | [] => []
  | first :: rest =>
    let read := readPiece first rest
    have := readPiece_length first rest
    let piece := match read.1 with
      | some value => .char value
      | none => .broken ((first :: rest).take (rest.length + 1 - read.2.length))
    piece :: pieces read.2
termination_by octets => octets.length
decreasing_by simp only [List.length_cons]; omega

/-- The character that stands for a broken stretch. -/
def replacement : Char := Char.ofNat 0xFFFD

/-- The character shown for a piece. -/
def Piece.shown : Piece → Char
  -- A broken stretch shows as one replacement character, however long it is.
  | .char value => value
  | .broken _ => replacement

/-- The text shown for octets, in which every broken stretch is replaced. -/
def lossy (octets : Octets) : String :=
  -- Well-formed stretches are shown as they are.
  String.ofList ((pieces octets).map Piece.shown)

end Wakeful.Utf8
