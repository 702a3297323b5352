import Wakeful.FileTree.Listing
import Wakeful.Shell.Pattern

/-!
Words after everything in them has been replaced: they are
divided into fields, and patterns become paths.
-/

namespace Wakeful.Shell

/-- How a letter of a word has come about. -/
inductive Manner where
  /-- It stands in the script by itself. -/
  | plain
  /-- It is a part of a value, in which blanks divide. -/
  | divided
  /-- It stands between quotes. -/
  | quoted
  deriving DecidableEq, Repr

/-- A piece of a word. -/
inductive Mark where
  /-- A letter. -/
  | letter (value : Char) (manner : Manner)
  /-- Quotes, between which there need not be anything. -/
  | quote
  /-- The end of an argument that others follow. -/
  | gap
  deriving DecidableEq, Repr

/-- Letters of which some are quoted. -/
abbrev Spelling := List (Char × Bool)

namespace Mark

/-- The pieces that letters make. -/
def ofLetters (manner : Manner) (letters : Letters) : List Mark :=
  -- Quotes are there even if nothing stands between them.
  (if manner = .quoted then [.quote] else []) ++ letters.map (.letter · manner)

/-- A piece as a part of a value. -/
def divide : Mark → Mark
  -- Only letters that stand by themselves change.
  | .letter value .plain => .letter value .divided
  | mark => mark

/-- The letters of pieces, with a text between arguments. -/
def text (joiner : Letters) (marks : List Mark) : Letters :=
  -- Quotes themselves are no letters.
  marks.flatMap fun mark => match mark with
    | .letter value _ => [value]
    | .quote => []
    | .gap => joiner

/-- The letters of pieces as a field, with blanks between arguments. -/
def field (marks : List Mark) : Spelling :=
  -- Each letter keeps whether it is quoted.
  marks.filterMap fun mark => match mark with
    | .letter value manner => some (value, manner == .quoted)
    | .quote => none
    | .gap => some (' ', false)

/-- Whether a piece divides, and whether it is a blank then. -/
def divides? (separators : Letters) : Mark → Option Bool
  -- Only letters of values divide.
  | .letter value .divided =>
    if separators.contains value then some (value ∈ [' ', '\t', '\n']) else none
  | _ => none

/-- The pieces after a place where something divides; one sign that is no blank may belong to it. -/
def afterDivision (separators : Letters) : (mayPass : Bool) → List Mark → List Mark
  -- Blanks around the sign belong to it too.
  | _, [] => []
  | mayPass, mark :: rest =>
    match divides? separators mark with
    | some true => afterDivision separators mayPass rest
    | some false => if mayPass then afterDivision separators false rest else mark :: rest
    | none => mark :: rest

/-- What comes after a place where something divides is not longer than what was there. -/
theorem afterDivision_length (separators : Letters) (marks : List Mark) :
    ∀ mayPass, (afterDivision separators mayPass marks).length ≤ marks.length := by
  -- Pieces are only passed over.
  induction marks with
  | nil => intro mayPass; simp [afterDivision]
  | cons mark rest ih =>
    intro mayPass
    unfold afterDivision
    split
    · exact Nat.le_trans (ih mayPass) (Nat.le_succ _)
    · split
      · exact Nat.le_trans (ih false) (Nat.le_succ _)
      · exact Nat.le_refl _
    · exact Nat.le_refl _

/--
The fields of pieces, the present one being given in the
reverse order, with at most so many divisions.
-/
def fields (separators : Letters) (present : Option Spelling) (left : Option Nat)
    (marks : List Mark) : List Spelling × List Mark :=
  -- A field that nothing has begun does not exist; what is
  -- left after the last division is given back.
  match left, marks with
  | some 0, rest => ([], rest)
  | _, [] => (present.toList.map List.reverse, [])
  | left, .quote :: rest => fields separators (some (present.getD [])) left rest
  | left, .gap :: rest =>
    let (others, last) := fields separators none left rest
    (present.toList.map List.reverse ++ others, last)
  | left, .letter value manner :: rest =>
    match divides? separators (.letter value manner) with
    | none => fields separators (some ((value, manner == .quoted) :: present.getD [])) left rest
    | some isBlank =>
      if isBlank && present.isNone then
        fields separators none left (afterDivision separators false rest)
      else
        let (others, last) :=
          fields separators none (left.map (· - 1)) (afterDivision separators isBlank rest)
        ((present.getD []).reverse :: others, last)
termination_by marks.length
decreasing_by
  · simp
  · simp
  · simp
  · exact Nat.lt_succ_of_le (afterDivision_length separators rest false)
  · exact Nat.lt_succ_of_le (afterDivision_length separators rest isBlank)

end Mark

/-! ### Paths -/

/-- The parts of a field between separators. -/
def pathParts (field : Spelling) : List Spelling :=
  -- Separators count between quotes too.
  field.foldr (fun letter parts =>
    if letter.1 = '/' then [] :: parts
    else match parts with
      | [] => [[letter]]
      | first :: rest => (letter :: first) :: rest) [[]]

/-- The paths that parts of a path lead to from others, with separators between them. -/
def pathsOf (workplace : Workplace) : List Spelling → List Letters → List Letters
  -- Names with a point before them have to be spelled so.
  | [], paths => paths
  | part :: others, paths =>
    let pattern := Pattern.ofMarked part
    let joiner : Letters := if others.isEmpty then [] else ['/']
    let next := if !pattern.isOpen then
        let name := pattern.filterMap fun piece => match piece with
          | .letter value => some value
          | _ => none
        paths.map (· ++ name ++ joiner)
      else paths.flatMap fun path =>
        let directory := if path.isEmpty then ['.'] else path
        let entries := match workplace.readDirectory (octetsOf directory) with
          | .ok entries => entries.map fun entry => lettersOf entry.1
          | .error _ => []
        let all := if pattern.head? = some (.letter '.') then ['.'] :: ['.', '.'] :: entries
          else entries
        let found := all.filter fun name =>
          (name.head? ≠ some '.' || pattern.head? = some (.letter '.')) && pattern.holds name
        found.map (path ++ · ++ joiner)
    pathsOf workplace others next

/-- The paths that a field stands for, or its letters if there are none. -/
def expandPath (workplace : Workplace) (field : Spelling) : List Letters :=
  -- A field without signs of a pattern stands for itself.
  let plain := field.map (·.1)
  if !(Pattern.ofMarked field).isOpen then [plain]
  else
    let found := (pathsOf workplace (pathParts field) [[]]).filter fun path =>
      workplace.isNamed (octetsOf path)
    if found.isEmpty then [plain]
    else found.mergeSort fun left right => !Octets.before (octetsOf right) (octetsOf left)

end Wakeful.Shell
