/-! Octets are the raw bytes of paths, file contents, environment values and messages. -/

namespace Wakeful

/-- A sequence of raw bytes, which need not be text in any encoding. -/
abbrev Octets := List UInt8

namespace Octets

/-- The octets that text is written with. -/
def ofText (text : String) : Octets :=
  -- A string already holds its encoded form.
  text.toUTF8.data.toList

/-- The text that octets spell, if they are well-formed. -/
def text? (octets : Octets) : Option String :=
  -- Only the exact encoded form of some text is accepted.
  String.fromUTF8? ⟨octets.toArray⟩

/-- Written text reads back as itself. -/
theorem text?_ofText (text : String) : text? (ofText text) = some text := by
  -- The octets of a text are its encoded form, which is well-formed by construction.
  have encoded : (⟨(ofText text).toArray⟩ : ByteArray) = text.toUTF8 := by
    simp [ofText]
  unfold text?
  rw [encoded]
  simp [String.fromUTF8?, String.toUTF8, text.isValidUTF8, String.fromUTF8]

/-- Octets that spell a text are exactly the octets that text is written with. -/
theorem ofText_of_text? {octets : Octets} {text : String} (read : text? octets = some text) :
    ofText text = octets := by
  -- A successful reading keeps the encoded form unchanged.
  unfold text? String.fromUTF8? at read
  split at read
  · cases read
    simp [ofText, String.toUTF8, String.fromUTF8]
  · cases read

/-- The octet of the separator between the names of a path. -/
def slash : UInt8 := 0x2F

/-- The octet of a full stop. -/
def dot : UInt8 := 0x2E

/-- The pieces of octets between separators, empty ones included. -/
def parts (separator : UInt8) (octets : Octets) : List Octets :=
  -- Octets are collected from the end, and every separator opens a new piece.
  octets.foldr (fun octet parts =>
    if octet = separator then [] :: parts
    else match parts with
      | [] => [[octet]]
      | first :: rest => (octet :: first) :: rest) [[]]

/-- Octets in which every occurrence of a part that is not empty is replaced. -/
def replace (part other : Octets) (octets : Octets) : Octets :=
  -- After an occurrence the search goes on behind it.
  match octets with
  | [] => []
  | octet :: rest =>
    if part.isPrefixOf (octet :: rest) then
      other ++ replace part other (rest.drop (part.length - 1))
    else octet :: replace part other rest
termination_by octets.length
decreasing_by
  · simp only [List.length_drop, List.length_cons]; omega
  · simp

/-- Whether a stretch of octets occurs somewhere within others. -/
def hasPart (part : Octets) : Octets → Bool
  -- The part begins here or somewhere later.
  | [] => part.isEmpty
  | octet :: rest => part.isPrefixOf (octet :: rest) || hasPart part rest

/-- The order of octets by their first difference, a shorter sequence before its extensions. -/
def before : Octets → Octets → Bool
  -- Equal octets are passed over until one side ends or differs.
  | _, [] => false
  | [], _ :: _ => true
  | left :: lefts, right :: rights => left < right || (left == right && before lefts rights)

end Octets

end Wakeful
