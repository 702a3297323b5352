import Wakeful.Shell.Letters

/-!
Patterns of a shell: signs for any letters, for one letter, and for one letter out of several.
-/

namespace Wakeful.Shell

/-- A choice of letters. -/
structure LetterSet where
  /-- The first and the last letter of each range. -/
  ranges : List (Char × Char)
  /-- Whether the letters outside the ranges are meant. -/
  isNegated : Bool
  deriving DecidableEq, Repr

namespace LetterSet

/-- Whether a letter is meant. -/
def holds (set : LetterSet) (letter : Char) : Bool :=
  -- A range whose last letter comes before its first one holds nothing.
  (set.ranges.any fun range => range.1 ≤ letter && letter ≤ range.2) != set.isNegated

/-- The ranges of the classes that have names. -/
def classes : List (String × List (Char × Char)) :=
  -- Only the letters of the alphabet and the usual signs belong to any class.
  [("alnum", [('0', '9'), ('A', 'Z'), ('a', 'z')]), ("alpha", [('A', 'Z'), ('a', 'z')]),
    ("blank", [(' ', ' '), ('\t', '\t')]), ("cntrl", [('\x00', '\x1f'), ('\x7f', '\x7f')]),
    ("digit", [('0', '9')]), ("graph", [('!', '~')]), ("lower", [('a', 'z')]),
    ("print", [(' ', '~')]), ("punct", [('!', '/'), (':', '@'), ('[', '\x60'), ('\x7b', '~')]),
    ("space", [('\t', '\x0d'), (' ', ' ')]), ("upper", [('A', 'Z')]),
    ("xdigit", [('0', '9'), ('A', 'F'), ('a', 'f')])]

/-- The ranges of a class at the beginning of letters, after its opening, and what follows it. -/
def readClass (letters : Letters) : Option (List (Char × Char) × Letters) := do
  -- A class ends with a colon and a bracket.
  let name := letters.takeWhile (·.isAlpha)
  match letters.drop name.length with
  | ':' :: ']' :: rest => return (← classes.lookup (String.ofList name), rest)
  | _ => none

/-- Reads ranges up to the closing bracket, and gives what follows it. -/
def readRanges : (fuel : Nat) → (isFirst : Bool) → Letters → Option (List (Char × Char) × Letters)
  -- A closing bracket in the first place stands for itself.
  | 0, _, _ => none
  | _ + 1, _, [] => none
  | fuel + 1, isFirst, letter :: rest =>
    let goOn (ranges : List (Char × Char)) (after : Letters) :=
      (readRanges fuel false after).map fun (others, last) => (ranges ++ others, last)
    if letter = ']' && !isFirst then some ([], rest)
    else match letter, rest with
      | '[', ':' :: inner =>
        match readClass inner with
        | some (ranges, after) => goOn ranges after
        | none => goOn [('[', '[')] rest
      | _, '-' :: last :: after =>
        if last = ']' then goOn [(letter, letter)] rest else goOn [(letter, last)] after
      | _, _ => goOn [(letter, letter)] rest

/--
Reads a choice of letters after its opening bracket, with the
signs that negate it, and gives what follows it.
-/
def read (negations : List Char) (letters : Letters) : Option (LetterSet × Letters) :=
  -- Such a sign comes first.
  let isNegated := letters.head?.any negations.contains
  let inner := if isNegated then letters.drop 1 else letters
  (readRanges (letters.length + 1) true inner).map fun (ranges, rest) => (⟨ranges, isNegated⟩, rest)

end LetterSet

/-- A piece of a pattern. -/
inductive PatternPiece where
  /-- A letter that stands for itself. -/
  | letter (value : Char)
  /-- Any letter. -/
  | one
  /-- Any letters. -/
  | many
  /-- A letter out of several. -/
  | oneOf (set : LetterSet)
  deriving DecidableEq, Repr

/-- A pattern. -/
abbrev Pattern := List PatternPiece

namespace Pattern

/-- The pattern that letters spell, of which some are quoted and stand for themselves. -/
def ofLetters : (fuel : Nat) → List (Char × Bool) → Pattern
  -- A bracket that is never closed stands for itself.
  | 0, _ => []
  | _ + 1, [] => []
  | fuel + 1, (letter, true) :: rest => .letter letter :: ofLetters fuel rest
  | fuel + 1, ('*', false) :: rest => .many :: ofLetters fuel rest
  | fuel + 1, ('?', false) :: rest => .one :: ofLetters fuel rest
  | fuel + 1, ('\\', false) :: (letter, _) :: rest => .letter letter :: ofLetters fuel rest
  | fuel + 1, ('[', false) :: rest =>
    match LetterSet.read ['!', '^'] (rest.map (·.1)) with
    | some (set, after) => .oneOf set :: ofLetters fuel (rest.drop (rest.length - after.length))
    | none => .letter '[' :: ofLetters fuel rest
  | fuel + 1, (letter, false) :: rest => .letter letter :: ofLetters fuel rest

/-- The pattern that letters spell, of which some are quoted. -/
def ofMarked (letters : List (Char × Bool)) : Pattern :=
  -- Every piece takes at least one letter.
  ofLetters (letters.length + 1) letters

/-- Whether a pattern matches letters as a whole. -/
def holds : Pattern → Letters → Bool
  -- Any letters are none, or one and any more.
  | [], letters => letters.isEmpty
  | .many :: rest, [] => holds rest []
  | .many :: rest, letter :: letters =>
    holds rest (letter :: letters) || holds (.many :: rest) letters
  | .letter value :: rest, letter :: letters => value = letter && holds rest letters
  | .one :: rest, _ :: letters => holds rest letters
  | .oneOf set :: rest, letter :: letters => set.holds letter && holds rest letters
  | _ :: _, [] => false
  termination_by pattern letters => pattern.length + letters.length

/-- Whether a pattern may match anything but what it spells. -/
def isOpen (pattern : Pattern) : Bool :=
  -- Letters alone match only themselves.
  pattern.any fun piece => match piece with
    | .letter _ => false
    | _ => true

/-- The letters without what a pattern matches at one end of them. -/
def trim (pattern : Pattern) (atEnd longest : Bool) (letters : Letters) : Letters :=
  -- The cuts are tried in order of the length that goes away.
  let lengths := List.range (letters.length + 1)
  let ordered := if longest then lengths.reverse else lengths
  let keep (length : Nat) := letters.length - length
  if atEnd then
    (ordered.find? fun length => pattern.holds (letters.drop (keep length))).elim letters
      fun length => letters.take (keep length)
  else
    (ordered.find? fun length => pattern.holds (letters.take length)).elim letters letters.drop

end Pattern

end Wakeful.Shell
