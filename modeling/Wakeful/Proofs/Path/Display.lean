import Wakeful.Path.Locations
import Wakeful.Proofs.Path.Names
import Wakeful.Proofs.Text.Utf8

/-!
Displays share a socket exactly if they have the same name,
whether they are given by that name or by a path.
-/

namespace Wakeful

namespace Octets

variable {first second : String} {text : String} {piece : Octets}

/-- Different texts are written with different octets. -/
theorem ofText_inj : ofText first = ofText second ↔ first = second := by
  -- A text is read back from its octets.
  constructor
  · intro same
    have read := text?_ofText first
    rw [same, text?_ofText] at read
    exact (Option.some.inj read).symm
  · rintro rfl
    rfl

/-- The octets of a list of characters are those of the characters one after the other. -/
theorem ofText_ofList (chars : List Char) :
    ofText (String.ofList chars) = chars.flatMap String.utf8EncodeChar := by
  rw [ofText_eq, String.toList_ofList]

/-- A separator is among the octets of a text only if it is among its characters. -/
theorem slash_mem_ofText_iff : slash ∈ ofText text ↔ '/' ∈ text.toList := by
  -- A small octet belongs to a character that is written with it alone.
  rw [ofText_eq, List.mem_flatMap]
  constructor
  · rintro ⟨char, among, within⟩
    have same : char.toNat = '/'.toNat := Utf8.toNat_of_mem_encode within (by decide)
    rwa [← Char.toNat_inj.mp same]
  · intro among
    exact ⟨'/', among, by decide⟩

/-- The pieces of a text between separators are texts. -/
theorem exists_text_of_mem_parts (among : piece ∈ parts slash (ofText text)) :
    ∃ part, piece = ofText part := by
  -- The induction is over the characters, of which only the separator itself parts the others.
  suffices written : ∃ chars : List Char, piece = chars.flatMap String.utf8EncodeChar by
    obtain ⟨chars, rfl⟩ := written
    exact ⟨String.ofList chars, (ofText_ofList chars).symm⟩
  rw [ofText_eq] at among
  generalize text.toList = chars at among
  induction chars generalizing piece with
  | nil => exact ⟨[], by simpa using among⟩
  | cons char chars ih =>
    rw [List.flatMap_cons] at among
    by_cases separates : char = '/'
    · have alone : String.utf8EncodeChar char = [slash] := by
        rw [separates]
        rfl
      rw [alone, List.singleton_append, parts_separator] at among
      rcases List.mem_cons.mp among with rfl | later
      · exact ⟨[], rfl⟩
      · exact ih later
    · have free : slash ∉ String.utf8EncodeChar char := fun within =>
        separates (Char.toNat_inj.mp (Utf8.toNat_of_mem_encode within (by decide)))
      obtain ⟨part, others, split⟩ :=
        exists_parts_eq_cons slash (chars.flatMap String.utf8EncodeChar)
      rw [parts_append free split] at among
      rcases List.mem_cons.mp among with rfl | later
      · obtain ⟨inner, rfl⟩ := ih (split ▸ List.mem_cons_self)
        exact ⟨char :: inner, rfl⟩
      · exact ih (split ▸ List.mem_cons_of_mem _ later)

end Octets

namespace Locations

open Octets (ofText slash)

/--
The name of a display: the last one of its path, or the
usual one if it is not set or its path has none.
-/
inductive Named : Option Octets → Octets → Prop where
  /-- The path of the display ends in a name. -/
  | given {path name : Octets} (ends : Path.EndsIn path name) : Named (some path) name
  /-- The display is not set. -/
  | unset : Named none (ofText defaultDisplay)
  /-- The path of the display has no last name. -/
  | nameless {path : Octets} (none : ∀ name, ¬ Path.EndsIn path name) :
      Named (some path) (ofText defaultDisplay)

variable {display : Option Octets} {name : Octets}

/-- Every display has exactly one name. -/
theorem named_iff :
    Named display name ↔ (display.bind Path.lastName).getD (ofText defaultDisplay) = name := by
  -- Each way to get a name is one case of the last name of the path.
  constructor
  · intro named
    cases named with
    | given ends => rw [Option.bind_some, Path.lastName_eq_some_iff.mpr ends, Option.getD_some]
    | unset => rfl
    | nameless none =>
      rename_i path
      cases last : Path.lastName path with
      | none => simp [last]
      | some other => exact absurd (Path.lastName_eq_some_iff.mp last) (none other)
  · rintro rfl
    cases display with
    | none => exact .unset
    | some path =>
      cases last : Path.lastName path with
      | none =>
        rw [Option.bind_some, last]
        exact .nameless fun name ends => by simp [Path.lastName_eq_some_iff.mpr ends] at last
      | some name =>
        rw [Option.bind_some, last]
        exact .given (Path.lastName_eq_some_iff.mp last)

/-- The name that a display is shown under has no separator. -/
theorem slash_not_mem_displayName (display : Option Octets) :
    '/' ∉ (displayName display).toList := by
  -- A last name has no separator, and what cannot be read is not shown as one.
  unfold displayName
  split
  · rename_i name last
    obtain ⟨path, -, ends⟩ := Option.bind_eq_some_iff.mp last
    intro shown
    exact (Path.lastName_eq_some_iff.mp ends).single.2 (Utf8.mem_of_mem_lossy (by decide) shown)
  · decide

/-- A display that is given as text is shown under its own name. -/
theorem named_displayName (display : Option String) :
    Named (display.map ofText) (ofText (displayName (display.map ofText))) := by
  rw [named_iff]
  unfold displayName
  cases last : (display.map ofText).bind Path.lastName with
  | none => rfl
  | some name =>
    -- The last name of a text is a text, and so is shown as it is.
    obtain ⟨path, given, ends⟩ := Option.bind_eq_some_iff.mp last
    obtain ⟨text, -, rfl⟩ := Option.map_eq_some_iff.mp given
    obtain ⟨part, rfl⟩ := Octets.exists_text_of_mem_parts (Path.mem_split_of_lastName ends)
    simp [Utf8.lossy_ofText]

/-- The name of a socket is one name, which no directory has for itself or the one above. -/
theorem endsIn_socketName (display : Option Octets) :
    Path.EndsIn (socketName display) (socketName display) := by
  -- The name begins with a letter and has no separator, so that it is a name of its own.
  have free : slash ∉ socketName display := by
    rw [socketName, Octets.slash_mem_ofText_iff]
    have inner := slash_not_mem_displayName display
    simp only [String.toList_append, List.mem_append, not_or]
    exact ⟨⟨by decide, inner⟩, by decide⟩
  obtain ⟨rest, begins⟩ : ∃ rest, socketName display = 0x6E :: rest := by
    rw [socketName, Octets.ofText_eq, String.toList_append, String.toList_append]
    exact ⟨_, rfl⟩
  refine ⟨⟨[], [], by simp, .inl rfl, .nil⟩, ⟨?_, free⟩, ?_, ?_⟩ <;> rw [begins] <;>
    simp [Path.self, Path.parent, Octets.dot]

/-- Sockets have the same name exactly if their displays are shown under the same name. -/
theorem socketName_inj {first second : Option Octets} :
    socketName first = socketName second ↔ displayName first = displayName second := by
  -- The names are put between the same words.
  rw [socketName, socketName, Octets.ofText_inj, ← String.toList_inj]
  simp [String.toList_inj]

/-- A socket lies directly in the directory for sockets. -/
theorem names_socketPath (directory : Octets) (display : Option Octets) :
    Path.names (socketPath directory display) = Path.names directory ++ [socketName display] := by
  -- The socket has a single name, which is joined to the directory.
  have single := (endsIn_socketName display).single
  rw [socketPath, Path.names_join (Path.isAbsolute_of_not_mem single.2),
    Path.names_of_not_mem single.1 single.2]

/-- A socket starts where the directory for sockets does. -/
theorem isAbsolute_socketPath (directory : Octets) (display : Option Octets) :
    Path.isAbsolute (socketPath directory display) = Path.isAbsolute directory :=
  Path.isAbsolute_join (Path.isAbsolute_of_not_mem (endsIn_socketName display).single.2)

/--
Displays that are given as texts are shown under the same name exactly if they have the same name.
-/
theorem displayName_eq_iff {first second : Option String} :
    displayName (first.map ofText) = displayName (second.map ofText) ↔
      ∃ name, Named (first.map ofText) name ∧ Named (second.map ofText) name := by
  -- A display has one name only, and it is shown under this name.
  have one := named_displayName first
  have other := named_displayName second
  constructor
  · intro same
    exact ⟨_, one, same ▸ other⟩
  · rintro ⟨name, named, also⟩
    rw [named_iff] at one other named also
    exact Octets.ofText_inj.mp (one.symm.trans (named.trans (also.symm.trans other)))

/--
Displays share a socket exactly if they have the same name.

Whatever octets a display is given by, its socket lies directly in the directory for sockets, under
one name that is made of the name of the display, in which there is no separator. If the display is
given as text, that is its own name: the last one of its path, or the usual one if it is not set or
its path has none. So a display that is given by its name and the same one given by a path have one
socket, and displays with different names have sockets of different names.
-/
theorem displays_meet_iff_named_alike (directory : Octets) :
    (∀ display, ∃ name : String, '/' ∉ name.toList ∧
      socketPath directory display = Path.join directory (ofText ("nodoze-" ++ name ++ ".sock")) ∧
      Path.names (socketPath directory display) =
        Path.names directory ++ [ofText ("nodoze-" ++ name ++ ".sock")] ∧
      Path.isAbsolute (socketPath directory display) = Path.isAbsolute directory) ∧
    (∀ display : Option String, ∃ name : String, Named (display.map ofText) (ofText name) ∧
      (∀ other, Named (display.map ofText) other → other = ofText name) ∧
      socketPath directory (display.map ofText) =
        Path.join directory (ofText ("nodoze-" ++ name ++ ".sock"))) ∧
    ∀ first second : Option String,
      (socketPath directory (first.map ofText) = socketPath directory (second.map ofText) ↔
        ∃ name, Named (first.map ofText) name ∧ Named (second.map ofText) name) ∧
      (Path.names (socketPath directory (first.map ofText)) =
        Path.names (socketPath directory (second.map ofText)) ↔
        ∃ name, Named (first.map ofText) name ∧ Named (second.map ofText) name) := by
  -- What is said of one display follows from the name that it is shown under.
  refine ⟨fun display => ?_, fun display => ?_, fun first second => ?_⟩
  · exact ⟨displayName display, slash_not_mem_displayName display, rfl,
      names_socketPath directory display, isAbsolute_socketPath directory display⟩
  · refine ⟨displayName (display.map ofText), named_displayName display, fun other named => ?_, rfl⟩
    exact (named_iff.mp named).symm.trans (named_iff.mp (named_displayName display))
  · -- Paths with the same names in the same order have the same last name.
    have named : Path.names (socketPath directory (first.map ofText)) =
        Path.names (socketPath directory (second.map ofText)) ↔
          ∃ name, Named (first.map ofText) name ∧ Named (second.map ofText) name := by
      rw [← displayName_eq_iff, ← socketName_inj, names_socketPath, names_socketPath]
      simp
    refine ⟨⟨fun same => named.mp (congrArg Path.names same), fun alike => ?_⟩, named⟩
    rw [← displayName_eq_iff, ← socketName_inj] at alike
    rw [socketPath, socketPath, alike]

end Locations

end Wakeful
