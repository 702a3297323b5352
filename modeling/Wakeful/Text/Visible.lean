import Wakeful.Text.Octets

/-!
Text without the orders to a terminal that it holds: only
what a terminal would put on its screen is left.
-/

namespace Wakeful.Visible

/-- What a terminal is reading. -/
inductive Reading where
  /-- Ordinary text. -/
  | text
  /-- An order of which only the escape has come. -/
  | escape
  /-- A short order that goes on until a letter. -/
  | shortOrder
  /-- An order with numbers that goes on until a letter. -/
  | order
  /-- The start of a message to a device. -/
  | messageStart
  /-- The numbers of a message to a device. -/
  | messageNumbers
  /-- What follows the numbers of a message to a device. -/
  | messageKind
  /-- A message that only an end mark ends. -/
  | message
  /-- A title, which a bell ends. -/
  | title
  deriving DecidableEq, Repr

namespace Reading

/-- Whether an octet lies between two others. -/
def within (first last octet : UInt8) : Bool :=
  -- Both ends belong to it.
  first ≤ octet && octet ≤ last

/-- What an escape goes on to with an octet. -/
def ofEscape (octet : UInt8) : Reading :=
  -- A few characters open something longer, and the others are short orders.
  if octet = 0x5B then order
  else if octet = 0x5D then title
  else if octet = 0x50 then messageStart
  else if octet ∈ [0x58, 0x5E, 0x5F] then message
  else if within 0x20 0x2F octet then shortOrder
  else if within 0x30 0x7E octet then text
  else escape

/-- What the head of a message goes on to with an octet. -/
def ofMessageHead (present : Reading) (octet : UInt8) : Reading :=
  -- Numbers come before the signs of a kind, and anything out of order ends the head.
  if within 0x40 0x7E octet then message
  else if within 0x20 0x2F octet then messageKind
  else if within 0x3C 0x3F octet then (if present = messageStart then messageNumbers else message)
  else if within 0x30 0x3B octet then (if present = messageKind then message else messageNumbers)
  else present

/-- What a terminal reads after an octet. -/
def after (present : Reading) (octet : UInt8) : Reading :=
  -- An escape starts anew everywhere, and two controls give up every order.
  if octet = 0x1B then escape
  else if octet = 0x18 || octet = 0x1A then text
  else match present with
    | text => text
    | escape => ofEscape octet
    | shortOrder => if within 0x30 0x7E octet then text else shortOrder
    | order => if within 0x40 0x7E octet then text else order
    | messageStart | messageNumbers | messageKind => ofMessageHead present octet
    | message => if octet = 0x9C then text else message
    | title => if octet = 0x07 then text else title

/-- Whether blanks within an order are shown nevertheless. -/
def showsBlanks : Reading → Bool
  -- Messages and titles swallow them.
  | text | escape | shortOrder | order => true
  | messageStart | messageNumbers | messageKind | message | title => false

end Reading

/-- How far a text has been read. -/
structure Progress where
  /-- What a terminal is reading. -/
  reading : Reading
  /-- Whether the last character was shown, so that further ones are shown too. -/
  showing : Bool
  deriving DecidableEq, Repr

/-- Whether a character is a blank that moves the place of writing. -/
def isMove (character : Char) : Bool :=
  -- These are the tabulator, the ends of lines and pages, and the return.
  character ∈ ['\t', '\n', '\x0c', '\r']

/-- Whether a character of ordinary text is shown. -/
def isShown (character : Char) : Bool :=
  -- The other controls are not.
  isMove character || (' ' ≤ character && character != '\x7f')

/-- Reads one character and tells whether it is shown. -/
def Progress.read (progress : Progress) (character : Char) : Progress × Bool :=
  -- A blank within an order is shown, and so is what follows it.
  let skipped := (character.toString.toUTF8.toList.foldl Reading.after progress.reading)
  if progress.showing || progress.reading = .text then
    if isShown character then
      (⟨if 0x80 ≤ character.toNat then .text else progress.reading, true⟩, true)
    else (⟨skipped, false⟩, false)
  else if isMove character && progress.reading.showsBlanks then (⟨progress.reading, true⟩, true)
  else (⟨skipped, false⟩, false)

/-- The characters that are shown. -/
def characters (progress : Progress) : List Char → List Char
  | [] => []
  | first :: rest =>
    -- Every character is judged by what came before it.
    let (after, shown) := progress.read first
    if shown then first :: characters after rest else characters after rest

/-- What a terminal shows of a text. -/
def text (value : String) : String :=
  -- Nothing has been read at the start.
  String.ofList (characters ⟨.text, true⟩ value.toList)

end Wakeful.Visible
