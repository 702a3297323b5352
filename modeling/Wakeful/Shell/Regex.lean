import Wakeful.Shell.Pattern

/-! Regular expressions, of which the first and then the longest match counts. -/

namespace Wakeful.Shell

/-- A condition on a place between letters. -/
inductive Edge where
  /-- Nothing comes before it. -/
  | beginning
  /-- Nothing comes after it. -/
  | ending
  /-- A word begins here. -/
  | wordBeginning
  /-- A word ends here. -/
  | wordEnding
  /-- A word begins or ends here. -/
  | wordEdge
  /-- No word begins or ends here. -/
  | noWordEdge
  /-- After anything but a letter of a word. -/
  | afterNoWord
  /-- Before anything but a letter of a word. -/
  | beforeNoWord
  /-- A line begins here. -/
  | lineBeginning
  /-- A line ends here. -/
  | lineEnding
  deriving DecidableEq, Repr

/-- A regular expression. -/
inductive Regex where
  /-- Nothing at all. -/
  | empty
  /-- A letter that stands for itself. -/
  | letter (value : Char)
  /-- Any letter. -/
  | any
  /-- A letter out of several. -/
  | oneOf (set : LetterSet)
  /-- A condition on the place. -/
  | edge (edge : Edge)
  /-- One expression after another. -/
  | followed (first second : Regex)
  /-- One expression or another. -/
  | either (first second : Regex)
  /-- An expression again and again, with the least and the greatest number of times. -/
  | repeated (inner : Regex) (least : Nat) (most : Option Nat)
  /-- An expression whose match is remembered under a number. -/
  | group (number : Nat) (inner : Regex)
  /-- The match that is remembered under a number. -/
  | again (number : Nat)
  deriving DecidableEq, Repr

/-- How an expression is written. -/
structure RegexStyle where
  /-- Whether signs lose their meaning by a backslash, or else get it from a backslash. -/
  isExtended : Bool
  /-- Whether signs that can have no meaning at their place are faults even so. -/
  isStrict : Bool
  /-- Whether a range may hold no letter at all. -/
  allowsEmptyRange : Bool
  deriving DecidableEq, Repr

namespace RegexStyle

/-- Signs get their meaning from a backslash. -/
def basic : RegexStyle := ⟨false, false, false⟩

/-- Signs have a meaning of their own. -/
def extended : RegexStyle := ⟨true, false, false⟩

/-- Signs have a meaning of their own, and none may stand where it has no meaning. -/
def strict : RegexStyle := ⟨true, true, false⟩

/-- Signs get their meaning from a backslash, and none may stand where it has no meaning. -/
def strictBasic : RegexStyle := ⟨false, true, false⟩

/-- Signs get their meaning from a backslash, and ranges may be empty. -/
def loose : RegexStyle := ⟨false, false, true⟩

end RegexStyle

/-- A place in a text while an expression is matched. -/
structure RegexPlace where
  /-- The letter before the place. -/
  before : Option Char
  /-- What comes after it. -/
  rest : Letters
  /-- What has been remembered, the latest first. -/
  groups : List (Nat × Letters)

/-- A match of an expression. -/
structure RegexMatch where
  /-- What comes before it. -/
  before : Letters
  /-- What matches. -/
  found : Letters
  /-- What comes after it. -/
  after : Letters
  /-- What has been remembered on the way. -/
  groups : List (Nat × Letters)

namespace Regex

/-- Whether a letter belongs to words. -/
def isWordLetter (letter : Char) : Bool := letter.isAlphanum || letter = '_'

/-- Whether a condition holds at a place. -/
def holdsAt (edge : Edge) (place : RegexPlace) : Bool :=
  -- A word lies on one side of its edges only.
  let left := place.before.any isWordLetter
  let right := place.rest.head?.any isWordLetter
  match edge with
  | .beginning => place.before.isNone
  | .ending => place.rest.isEmpty
  | .wordBeginning => !left && right
  | .wordEnding => left && !right
  | .wordEdge => left != right
  | .noWordEdge => left == right
  | .afterNoWord => !left
  | .beforeNoWord => !right
  | .lineBeginning => place.before.all (· = '\n')
  | .lineEnding => place.rest.head?.all (· = '\n')

/-- The place after so many letters. -/
def skip (place : RegexPlace) (count : Nat) : RegexPlace :=
  -- The letter before the place moves too.
  if count = 0 then place
  else
    { place with before := place.rest[count - 1]?.or place.before, rest := place.rest.drop count }

/-- Places of which none lies where an earlier one does. -/
def distinct (places : List RegexPlace) : List RegexPlace :=
  -- What is left of the text tells where a place lies.
  places.foldr (fun place others =>
    place :: others.filter fun other => other.rest.length != place.rest.length) []

/-- Places in the order of how far they lie in the text, the farthest first. -/
def farthestFirst (places : List RegexPlace) : List RegexPlace :=
  -- The farther a place lies, the less is left.
  places.mergeSort fun left right => left.rest.length ≤ right.rest.length

/--
The places that are reached from others by steps, with at
most so many of them and none reached twice.
-/
def reach (step : RegexPlace → List RegexPlace) :
    (steps : Nat) → (seen front : List RegexPlace) → List RegexPlace
  -- Only places that are new go on.
  | 0, seen, _ => seen
  | steps + 1, seen, front =>
    let isNew (place : RegexPlace) := seen.all fun other => other.rest.length != place.rest.length
    let next := (distinct (front.flatMap step)).filter isNew
    if next.isEmpty then seen else reach step steps (seen ++ next) next

/-- The places to which matches of an expression lead. -/
def ends : Regex → RegexPlace → List RegexPlace
  -- Every place is reached once, and the longest match comes first.
  | empty, place => [place]
  | letter value, place => if place.rest.head? = some value then [skip place 1] else []
  | any, place => if place.rest.isEmpty then [] else [skip place 1]
  | oneOf set, place => if place.rest.head?.any set.holds then [skip place 1] else []
  | edge condition, place => if holdsAt condition place then [place] else []
  | followed first second, place =>
    farthestFirst (distinct ((ends first place).flatMap (ends second)))
  | either first second, place => farthestFirst (distinct (ends first place ++ ends second place))
  | repeated inner least most, place =>
    let step := ends inner
    let start := (List.range least).foldl (fun places _ => distinct (places.flatMap step)) [place]
    let more := most.elim (place.rest.length + 1) (· - least)
    farthestFirst (reach step more start start)
  | group number inner, place =>
    (ends inner place).map fun last =>
      { last with
        groups := (number, place.rest.take (place.rest.length - last.rest.length)) :: last.groups }
  | again number, place =>
    match place.groups.lookup number with
    | some value => if value.isPrefixOf place.rest then [skip place value.length] else []
    | none => []

/-- The first match at or after a place, with the letters passed over before it. -/
def firstFrom (regex : Regex) :
    (passed : Letters) → (before : Option Char) → Letters → Option RegexMatch
  -- The longest match at the first place counts.
  | passed, before, [] =>
    (regex.ends ⟨before, [], []⟩).head?.map fun last => ⟨passed.reverse, [], [], last.groups⟩
  | passed, before, first :: rest =>
    match regex.ends ⟨before, first :: rest, []⟩ with
    | last :: _ =>
      some ⟨passed.reverse, (first :: rest).take (rest.length + 1 - last.rest.length), last.rest,
        last.groups⟩
    | [] => regex.firstFrom (first :: passed) (some first) rest

/-- The first match in a text. -/
def first? (regex : Regex) (text : Letters) : Option RegexMatch := regex.firstFrom [] none text

/-- A list of matches with letters more before the first one. -/
def delayed (passed : Char) : List RegexMatch → List RegexMatch
  | [] => []
  | next :: others => { next with before := passed :: next.before } :: others

/-- All matches in a text one after the other, from a place on. -/
def allFrom (regex : Regex) :
    (fuel : Nat) → (before : Option Char) → (afterMatch : Bool) → Letters → List RegexMatch
  -- An empty match right after another one does not count, and
  -- after an empty match a letter is passed over.
  | 0, _, _, _ => []
  | fuel + 1, before, afterMatch, text =>
    match regex.firstFrom [] before text with
    | none => []
    | some found =>
      let isIdle := afterMatch && found.before.isEmpty && found.found.isEmpty
      let here := if isIdle then [] else [found]
      match found.found.getLast?, found.after with
      | some last, after => here ++ allFrom regex fuel (some last) true after
      | none, [] => here
      | none, passed :: rest => here ++ delayed passed (allFrom regex fuel (some passed) false rest)

/--
All matches in a text one after the other; the letters before each come after the match before it.
-/
def all (regex : Regex) (text : Letters) : List RegexMatch :=
  -- Every match takes a letter or passes over one.
  regex.allFrom (text.length + 2) none false text

/-- Why letters are no expression. -/
inductive Fault where
  /-- A choice of letters is never closed. -/
  | openSet
  /-- A class of letters is unknown. -/
  | unknownClass
  /-- The name of a letter is unknown. -/
  | unknownLetter
  /-- A range ends before it begins. -/
  | emptyRange
  /-- A class of letters stands alone. -/
  | bareClass
  /-- A group is never closed. -/
  | openGroup
  /-- A group is closed that has never been opened. -/
  | unopenedGroup
  /-- A number of times is never closed. -/
  | openCount
  /-- A number of times is none. -/
  | badCount
  /-- A number of times is too great. -/
  | hugeCount
  /-- Nothing is there to be repeated. -/
  | idleRepeat
  /-- A match is meant that is not there. -/
  | badGroup
  /-- The expression ends with a backslash. -/
  | openEscape
  deriving DecidableEq, Repr

/-- The words for a fault in an expression. -/
def Fault.message : Fault → String
  | openSet => "Unmatched [, [^, [:, [., or [="
  | unknownClass => "Invalid character class name"
  | unknownLetter => "Invalid collation character"
  | emptyRange => "Invalid range end"
  | bareClass => "character class syntax is [[:space:]], not [:space:]"
  | openGroup => "Unmatched ( or \\("
  | unopenedGroup => "Unmatched ) or \\)"
  | openCount => "Unmatched \\\x7b"
  | badCount => "Invalid content of \\\x7b\\\x7d"
  | hugeCount => "Regular expression too big"
  | idleRepeat => "Invalid preceding regular expression"
  | badGroup => "Invalid back reference"
  | openEscape => "Trailing backslash"

/-- What is left of an expression to read, with the number of groups so far. -/
abbrev Reading := StateT (Letters × Nat) (Except Fault)

/-- The letters that are left. -/
def left : Reading Letters := return (← get).1

/-- Passes over so many letters. -/
def pass (count : Nat) : Reading Unit := modify fun (rest, groups) => (rest.drop count, groups)

/-- How a sign with a meaning is written. -/
def spelling (style : RegexStyle) (sign : Char) : Letters :=
  -- Only one style needs the backslash.
  if style.isExtended then [sign] else ['\\', sign]

/-- Takes a sign with a meaning if it comes next. -/
def takeSign (style : RegexStyle) (sign : Char) : Reading Bool := do
  -- Nothing else is taken.
  let signs := spelling style sign
  if signs.isPrefixOf (← left) then pass signs.length *> pure true else pure false

/-! ### Numbers of times -/

/-- The greatest number of times. -/
def mostTimes : Nat := 32767

/-- What stands in the place of a number of times. -/
inductive Count where
  /-- Nothing. -/
  | missing
  /-- Something else. -/
  | wrong
  /-- A number. -/
  | times (number : Nat)

/-- What stands before a comma or the end of the numbers, with what follows it. -/
def readCount (closing : Letters) : (fuel : Nat) → Letters → Count × Letters
  -- Without such an end nothing is right.
  | 0, letters => (.wrong, letters)
  | _ + 1, [] => (.wrong, [])
  | fuel + 1, next :: rest =>
    if next = ',' || closing.isPrefixOf (next :: rest) then (.missing, next :: rest)
    else
      let digits := (next :: rest).takeWhile Char.isDigit
      match number? digits, (next :: rest).drop digits.length with
      | some number, after =>
        if after.head? = some ',' || closing.isPrefixOf after && !after.isEmpty then
          (.times number, after)
        else (.wrong, (readCount closing fuel after).2)
      | none, _ => (.wrong, (readCount closing fuel rest).2)

/--
Reads numbers of times after their opening, which are none if something else may be meant by it.
-/
def readCounts (style : RegexStyle) : Reading (Option (Nat × Option Nat)) := do
  -- A comma without a number after it sets no bound.
  let closing := spelling style '\x7d'
  let letters ← left
  let (first, rest) := readCount closing (letters.length + 1) letters
  let hasComma := rest.head? = some ','
  let (last, after) :=
    if hasComma then readCount closing (letters.length + 1) (rest.drop 1) else (first, rest)
  let isWrong := match first, last with
    | .wrong, _ | _, .wrong => true
    | _, _ => false
  if isWrong then
    if style.isExtended && !style.isStrict then return none
    throw (if after.isEmpty then .openCount else .badCount)
  let least ← match first with
    | .times number => pure number
    | _ => if hasComma then pure 0 else throw .badCount
  let most := match last with
    | .times number => some number
    | _ => none
  if most.any (· < least) || !closing.isPrefixOf after then throw .badCount
  if mostTimes < most.getD least then throw .hugeCount
  pass (letters.length - after.length + closing.length)
  return some (least, most)

/-! ### Choices of letters -/

/-- Letters up to a sign before a bracket, and what follows them. -/
def namedPart (sign : Char) : Letters → Option (Letters × Letters)
  -- Without these signs there is no name.
  | first :: second :: rest =>
    if first = sign && second = ']' then some ([], rest)
    else (namedPart sign (second :: rest)).map fun (name, after) => (first :: name, after)
  | _ => none

/-- The letter at the end of a range or alone in a choice, and what follows it. -/
def readEnd : Letters → Except Fault (Char × Letters)
  -- Signs may stand around it.
  | [] => .error .openSet
  | '[' :: sign :: rest =>
    if sign = '.' || sign = '=' then
      match namedPart sign rest with
      | none => .error .openSet
      | some ([value], after) => .ok (value, after)
      | some _ => .error .unknownLetter
    else .ok ('[', sign :: rest)
  | value :: rest => .ok (value, rest)

/-- Reads ranges up to the closing bracket, and gives what follows it. -/
def readRanges (style : RegexStyle) :
    (fuel : Nat) → (isFirst : Bool) → Letters → Except Fault (List (Char × Char) × Letters)
  -- A closing bracket in the first place stands for itself.
  | 0, _, _ => .error .openSet
  | _ + 1, _, [] => .error .openSet
  | fuel + 1, isFirst, value :: rest => do
    if value = ']' && !isFirst then return ([], rest)
    if value = '-' && !isFirst && rest.head? ≠ some ']' then throw .emptyRange
    match value, rest with
    | '[', ':' :: inner =>
      match namedPart ':' inner with
      | none => throw .openSet
      | some (name, after) =>
        match LetterSet.classes.lookup (String.ofList name) with
        | none => throw .unknownClass
        | some ranges =>
          let (others, last) ← readRanges style fuel false after
          return (ranges ++ others, last)
    | _, _ =>
      let (least, after) ← readEnd (value :: rest)
      match after with
      | '-' :: next :: more =>
        if next = ']' then
          let (others, last) ← readRanges style fuel false after
          return ((least, least) :: others, last)
        else
          let (greatest, after) ← readEnd (next :: more)
          if greatest < least && !style.allowsEmptyRange then throw .emptyRange
          let (others, last) ← readRanges style fuel false after
          return ((least, greatest) :: others, last)
      | _ =>
        let (others, last) ← readRanges style fuel false after
        return ((least, least) :: others, last)

/-- Reads a choice of letters after its opening bracket, and gives what follows it. -/
def readSet (style : RegexStyle) (letters : Letters) : Except Fault (LetterSet × Letters) := do
  -- A sign in front negates it, and a class needs brackets around its own ones.
  let isNegated := letters.head? = some '^'
  let inner := if isNegated then letters.drop 1 else letters
  let (ranges, rest) ← readRanges style (letters.length + 1) true inner
  let content := inner.take (inner.length - rest.length - 1)
  if !style.allowsEmptyRange && !isNegated && 2 ≤ content.length && content.head? = some ':' &&
      content.getLast? = some ':' then
    throw .bareClass
  return (⟨ranges, isNegated⟩, rest)

/-! ### Expressions -/

/-- The expressions that a backslash makes of single letters. -/
def escape? (letter : Char) : Option Regex :=
  -- Some stand for classes of letters, and some for conditions on the place.
  let word : List (Char × Char) := [('0', '9'), ('A', 'Z'), ('a', 'z'), ('_', '_')]
  match letter with
  | 'w' => some (.oneOf ⟨word, false⟩)
  | 'W' => some (.oneOf ⟨word, true⟩)
  | 's' => some (.oneOf ⟨[('\t', '\x0d'), (' ', ' ')], false⟩)
  | 'S' => some (.oneOf ⟨[('\t', '\x0d'), (' ', ' ')], true⟩)
  | '<' => some (.edge .wordBeginning)
  | '>' => some (.edge .wordEnding)
  | 'b' => some (.edge .wordEdge)
  | 'B' => some (.edge .noWordEdge)
  | '\x60' => some (.edge .beginning)
  | '\'' => some (.edge .ending)
  | _ => none

/-- Whether an expression ends here or at a sign. -/
def endsBranch (style : RegexStyle) (depth : Nat) (letters : Letters) : Bool :=
  -- In one style a closing sign counts only within a group.
  letters.isEmpty || (spelling style '|').isPrefixOf letters
    || (spelling style ')').isPrefixOf letters && (depth ≠ 0 || !style.isExtended || style.isStrict)

/-- Passes over signs for repeats that come before anything that could be repeated. -/
def passRepeats (style : RegexStyle) : (fuel : Nat) → Reading Unit
  -- One style lets them be, and another one does not.
  | 0 => return
  | fuel + 1 => do
    match ← left with
    | [] => return
    | next :: _ =>
      if style.isExtended && "*+?\x7b".toList.contains next then
        if style.isStrict then throw .idleRepeat
        if next = '\x7b' then
          let before ← get
          pass 1
          if (← readCounts style).isSome then passRepeats style fuel else set before
        else
          pass 1
          passRepeats style fuel

mutual

/-- Reads expressions of which one has to match. -/
def readEither (style : RegexStyle) : (fuel depth : Nat) → Reading Regex
  | 0, _ => throw .openEscape
  | fuel + 1, depth => do
    -- Signs part them.
    let first ← readBranch style fuel depth true
    if ← takeSign style '|' then
      return .either first (← readEither style fuel depth)
    else
      return first

/-- Reads expressions one after another. -/
def readBranch (style : RegexStyle) : (fuel depth : Nat) → (isFirst : Bool) → Reading Regex
  | 0, _, _ => throw .openEscape
  | fuel + 1, depth, isFirst => do
    -- A branch may be empty.
    if isFirst then passRepeats style fuel
    if endsBranch style depth (← left) then return .empty
    let atom ← readAtom style fuel depth isFirst
    let piece ← match atom with
      | .edge .beginning =>
        if style.isExtended && !style.isStrict then readTimes style fuel atom else pure atom
      | _ => readTimes style fuel atom
    return .followed piece (← readBranch style fuel depth (atom == .edge .beginning))

/-- Reads how often an expression has to match. -/
def readTimes (style : RegexStyle) : (fuel : Nat) → Regex → Reading Regex
  | 0, regex => return regex
  | fuel + 1, regex => do
    -- Several such signs may follow each other.
    let before ← get
    let isRepeat := match regex with
      | .repeated .. => true
      | _ => false
    if style.isStrict && !style.isExtended && isRepeat then
      if (← left).head? = some '*' || (spelling style '\x7b').isPrefixOf (← left) then
        throw .idleRepeat
    if (← left).head? = some '*' then
      pass 1
      readTimes style fuel (.repeated regex 0 none)
    else if ← takeSign style '+' then readTimes style fuel (.repeated regex 1 none)
    else if ← takeSign style '?' then readTimes style fuel (.repeated regex 0 (some 1))
    else if ← takeSign style '\x7b' then
      match ← readCounts style with
      | some (least, most) => readTimes style fuel (.repeated regex least most)
      | none =>
        set before
        return regex
    else return regex

/-- Reads a single expression. -/
def readAtom (style : RegexStyle) : (fuel depth : Nat) → (isFirst : Bool) → Reading Regex
  | 0, _, _ => throw .openEscape
  | fuel + 1, depth, isFirst => do
    -- In one style the signs for the ends of a text have a meaning only there.
    if ← takeSign style '(' then
      let number := (← get).2 + 1
      modify fun (rest, _) => (rest, number)
      let inner ← readEither style fuel (depth + 1)
      if !(← takeSign style ')') then throw .openGroup
      return .group number inner
    match ← left with
    | '\\' :: sign :: _ =>
      pass 2
      if sign.isDigit && sign ≠ '0' then
        let number := sign.toNat - 48
        if (← get).2 < number then throw .badGroup
        return .again number
      return (escape? sign).getD (.letter sign)
    | ['\\'] => throw .openEscape
    | '.' :: _ => pass 1 *> pure .any
    | '[' :: rest =>
      let (set, after) ← (readSet style rest : Except Fault (LetterSet × Letters))
      pass (rest.length + 1 - after.length)
      return .oneOf set
    | '^' :: _ =>
      pass 1 *> pure (if isFirst || style.isExtended then .edge .beginning else .letter '^')
    | '$' :: rest =>
      pass 1
      return if style.isExtended || endsBranch style (depth + 1) rest then .edge .ending
        else .letter '$'
    | sign :: _ => pass 1 *> pure (.letter sign)
    | [] => return .empty

end

/-- The expression that letters spell in a style. -/
def read (style : RegexStyle) (letters : Letters) : Except Fault Regex := do
  -- Every piece takes at least one letter.
  let (regex, rest, _) ← (readEither style (4 * letters.length + 8) 0).run (letters, 0)
  if rest.isEmpty then return regex else throw .unopenedGroup

/-- The expression for letters that stand for themselves. -/
def literal (letters : Letters) : Regex :=
  -- They have to follow each other.
  letters.foldr (fun value others => .followed (.letter value) others) .empty

/--
The expression without regard to capital and small letters, in texts that have only small ones.
-/
def small : Regex → Regex
  -- A choice of letters gets the small form of those in it.
  | letter value => .letter value.toLower
  | oneOf set => oneOf { set with ranges := set.ranges.flatMap fun (least, greatest) =>
      if 'A' ≤ greatest && least ≤ 'Z' then
        [(least, greatest),
          ((if least < 'A' then 'A' else least).toLower,
            (if 'Z' < greatest then 'Z' else greatest).toLower)]
      else [(least, greatest)] }
  | followed first second => followed first.small second.small
  | either first second => either first.small second.small
  | repeated inner least most => repeated inner.small least most
  | group number inner => group number inner.small
  | other => other

end Regex

end Wakeful.Shell
