import Wakeful.Shell.Letters

/-! Where two lists of lines differ, with as few lines as possible that go or come. -/

namespace Wakeful.Shell.Differences

/--
How far a search has come on each diagonal, which is a place
in the first list less a place in the second one.
-/
structure Frontier where
  /-- The places in the first list, from the lowest diagonal on. -/
  reach : Array Int
  /-- The lowest diagonal that is searched. -/
  low : Int
  /-- The highest diagonal that is searched. -/
  high : Int

/-- The part of two lists in which a search goes on. -/
structure Window where
  /-- Where it begins in the first list. -/
  left : Nat
  /-- Where it ends in the first list. -/
  leftEnd : Nat
  /-- Where it begins in the second list. -/
  right : Nat
  /-- Where it ends in the second list. -/
  rightEnd : Nat

namespace Window

/-- The lowest diagonal. -/
def lowest (window : Window) : Int := (window.left : Int) - window.rightEnd

/-- The highest diagonal. -/
def highest (window : Window) : Int := (window.leftEnd : Int) - window.right

/-- How many lines lie in the window. -/
def size (window : Window) : Nat :=
  (window.leftEnd - window.left) + (window.rightEnd - window.right)

end Window

namespace Frontier

/-- The slot of a diagonal. -/
def slot (window : Window) (diagonal : Int) : Nat := (diagonal - window.lowest + 1).toNat

/-- How far the search has come on a diagonal. -/
def placeOn (frontier : Frontier) (window : Window) (diagonal : Int) : Int :=
  frontier.reach.getD (slot window diagonal) 0

/-- The frontier after the search has come to a place on a diagonal. -/
def put (frontier : Frontier) (window : Window) (diagonal place : Int) : Frontier :=
  { frontier with reach := frontier.reach.setIfInBounds (slot window diagonal) place }

/-- A search that stands at a place on its only diagonal. -/
def start (window : Window) (diagonal : Int) (place : Nat) : Frontier :=
  put ⟨Array.replicate (window.size + 3) 0, diagonal, diagonal⟩ window diagonal place

/--
The frontier with its bounds moved by a step, where new
diagonals beyond them have been reached nowhere.
-/
def widen (frontier : Frontier) (window : Window) (nowhere : Int) : Frontier :=
  -- Diagonals outside of the window are given up.
  let frontier := if window.lowest < frontier.low then
      { frontier.put window (frontier.low - 2) nowhere with low := frontier.low - 1 }
    else { frontier with low := frontier.low + 1 }
  if frontier.high < window.highest then
    { frontier.put window (frontier.high + 2) nowhere with high := frontier.high + 1 }
  else { frontier with high := frontier.high - 1 }

/-- Every other diagonal from the highest one on. -/
def diagonals (frontier : Frontier) : List Int :=
  -- There may be none.
  (List.range (((frontier.high - frontier.low) / 2 + 1).toNat)).map fun (step : Nat) =>
    frontier.high - 2 * (step : Int)

/-- Whether a diagonal is searched. -/
def holds (frontier : Frontier) (diagonal : Int) : Bool :=
  frontier.low ≤ diagonal && diagonal ≤ frontier.high

end Frontier

/-- The place to which equal lines lead on a diagonal. -/
def slideDown (left right : Array Nat) (window : Window) (diagonal : Int) : (fuel : Nat) → Int → Int
  -- It does not leave the window.
  | 0, place => place
  | fuel + 1, place =>
    let other := place - diagonal
    if place < window.leftEnd && other < window.rightEnd &&
        left.getD place.toNat 0 = right.getD other.toNat 0 then
      slideDown left right window diagonal fuel (place + 1)
    else place

/-- The place from which equal lines lead to another one on a diagonal. -/
def slideUp (left right : Array Nat) (window : Window) (diagonal : Int) : (fuel : Nat) → Int → Int
  -- It does not leave the window.
  | 0, place => place
  | fuel + 1, place =>
    let other := place - diagonal
    if window.left < place && window.right < other &&
        left.getD (place - 1).toNat 0 = right.getD (other - 1).toNat 0 then
      slideUp left right window diagonal fuel (place - 1)
    else place

/-- A place in the first list and a diagonal where searches from both ends of a window meet. -/
def meeting (left right : Array Nat) (window : Window) :
    (fuel : Nat) → (down up : Frontier) → Int × Int
  -- Each search makes one more change in turn.
  | 0, down, _ => (window.left, down.low)
  | fuel + 1, down, up =>
    let isOdd := (down.high - up.high) % 2 ≠ 0
    let wide := down.widen window (-1)
    let (down, found) := wide.diagonals.foldl (fun (down, found) diagonal =>
      if found.isSome then (down, found)
      else
        let lower := down.placeOn window (diagonal - 1)
        let upper := down.placeOn window (diagonal + 1)
        let place := slideDown left right window diagonal (window.size + 1)
          (if lower < upper then upper else lower + 1)
        (down.put window diagonal place,
          if isOdd && up.holds diagonal && up.placeOn window diagonal ≤ place then
            some (place, diagonal)
          else
            none))
      (wide, (none : Option (Int × Int)))
    match found with
    | some found => found
    | none =>
      let wide := up.widen window 0x4000000000000000
      let (up, found) := wide.diagonals.foldl (fun (up, found) diagonal =>
        if found.isSome then (up, found)
        else
          let lower := up.placeOn window (diagonal - 1)
          let upper := up.placeOn window (diagonal + 1)
          let place := slideUp left right window diagonal (window.size + 1)
            (if lower < upper then lower else upper - 1)
          (up.put window diagonal place,
            if !isOdd && down.holds diagonal && place ≤ down.placeOn window diagonal then
              some (place, diagonal)
            else
              none))
        (wide, (none : Option (Int × Int)))
      match found with
      | some found => found
      | none => meeting left right window fuel down up

/-- The places of lines in a window that go and of those that come. -/
def changes (left right : Array Nat) : (fuel : Nat) → Window → List Nat × List Nat
  -- Equal lines at both ends of it stay.
  | 0, _ => ([], [])
  | fuel + 1, window =>
    let diagonal := (window.left : Int) - window.right
    let first := slideDown left right window diagonal (window.size + 1) window.left
    let passed := first.toNat - window.left
    let window := { window with left := window.left + passed, right := window.right + passed }
    let diagonal := (window.leftEnd : Int) - window.rightEnd
    let last := slideUp left right window diagonal (window.size + 1) window.leftEnd
    let passed := window.leftEnd - last.toNat
    let window :=
      { window with leftEnd := window.leftEnd - passed, rightEnd := window.rightEnd - passed }
    if window.leftEnd ≤ window.left then
      ([], (List.range (window.rightEnd - window.right)).map (· + window.right))
    else if window.rightEnd ≤ window.right then
      ((List.range (window.leftEnd - window.left)).map (· + window.left), [])
    else
      let (place, diagonal) := meeting left right window (window.size + 1)
        (.start window ((window.left : Int) - window.right) window.left)
        (.start window ((window.leftEnd : Int) - window.rightEnd) window.leftEnd)
      let middle := place.toNat
      let other := (place - diagonal).toNat
      let (gone, come) :=
        changes left right fuel { window with leftEnd := middle, rightEnd := other }
      let (goneToo, comeToo) :=
        changes left right fuel { window with left := middle, right := other }
      (gone ++ goneToo, come ++ comeToo)

/-! ### Moving changes -/

/-- Marks of the lines that change in one of two lists. -/
abbrev Marks := Array Bool

/-- Whether the line at a place changes; nothing outside of the list does. -/
def marked (marks : Marks) (place : Int) : Bool := 0 ≤ place && marks.getD place.toNat false

/-- The first place from one on at which no line changes. -/
def afterRun (marks : Marks) : (fuel : Nat) → Int → Int
  | 0, place => place
  | fuel + 1, place => if marked marks place then afterRun marks fuel (place + 1) else place

/-- The last place up to one at which no line changes. -/
def beforeRun (marks : Marks) : (fuel : Nat) → Int → Int
  | 0, place => place
  | fuel + 1, place => if marked marks place then beforeRun marks fuel (place - 1) else place

/-- A run of changes that is moved, with its place in the other list. -/
structure Run where
  /-- The marks of its own list. -/
  marks : Marks
  /-- Where it begins. -/
  first : Int
  /-- Where it has ended. -/
  last : Int
  /-- The place in the other list. -/
  other : Int
  /-- The last end at which it lay beside changes in the other list. -/
  beside : Int

namespace Run

/-- The marks with another one at a place. -/
def mark (run : Run) (place : Int) (isChanged : Bool) : Run :=
  { run with marks := run.marks.setIfInBounds place.toNat isChanged }

/-- Moves a run back for as long as the line before it is the same as its last one. -/
def moveBack (lines : Array Nat) (others : Marks) : (fuel : Nat) → Run → Run
  -- It takes up runs that it comes to.
  | 0, run => run
  | fuel + 1, run =>
    if 0 < run.first && lines[(run.first - 1).toNat]? = lines[(run.last - 1).toNat]? then
      let moved := (run.mark (run.first - 1) true).mark (run.last - 1) false
      let first := beforeRun moved.marks (lines.size + 1) (run.first - 2) + 1
      moveBack lines others fuel { moved with
        first, last := run.last - 1, other := beforeRun others (others.size + 1) (run.other - 1) }
    else run

/-- Moves a run on for as long as its first line is the same as the one after it. -/
def moveOn (lines : Array Nat) (others : Marks) : (fuel : Nat) → Run → Run
  -- It takes up runs that it comes to.
  | 0, run => run
  | fuel + 1, run =>
    if run.last < lines.size && lines[run.first.toNat]? = lines[run.last.toNat]? then
      let moved := (run.mark run.first false).mark run.last true
      let last := afterRun moved.marks (lines.size + 1) (run.last + 1)
      let other := afterRun others (others.size + 1) (run.other + 1)
      let beside := if run.other + 1 < other then last else run.beside
      moveOn lines others fuel { moved with first := run.first + 1, last, other, beside }
    else run

/-- Moves a run back and on until it does not grow any more. -/
def settle (lines : Array Nat) (others : Marks) : (fuel : Nat) → Run → Run
  -- It ends as far on as possible.
  | 0, run => run
  | fuel + 1, run =>
    let back := moveBack lines others (lines.size + 1) run
    let here :=
      { back with beside := if marked others (back.other - 1) then back.last else lines.size }
    let on := moveOn lines others (lines.size + 1) here
    if on.last - on.first = run.last - run.first then on else settle lines others fuel on

/-- Moves a run back to where it lay beside changes in the other list. -/
def align (others : Marks) : (fuel : Nat) → Run → Run
  -- Nothing happens if there was no such place.
  | 0, run => run
  | fuel + 1, run =>
    if run.beside < run.last then
      let moved := (run.mark (run.first - 1) true).mark (run.last - 1) false
      align others fuel { moved with
        first := run.first - 1, last := run.last - 1,
        other := beforeRun others (others.size + 1) (run.other - 1) }
    else run

end Run

/--
The marks of a list after all its runs of changes have been
moved, beginning at a place in each list.
-/
def moveAll (lines : Array Nat) (others : Marks) :
    (fuel : Nat) → (place other : Int) → Marks → Marks
  -- A place without changes leads on in both lists.
  | 0, _, _, marks => marks
  | fuel + 1, place, other, marks =>
    if lines.size ≤ place then marks
    else if !marked marks place then
      moveAll lines others fuel (place + 1) (afterRun others (others.size + 1) other + 1) marks
    else
      let last := afterRun marks (lines.size + 1) place
      let run : Run := ⟨marks, place, last, afterRun others (others.size + 1) other, 0⟩
      let moved := (run.settle lines others (lines.size + 1)).align others (lines.size + 1)
      moveAll lines others fuel moved.last moved.other moved.marks

/-! ### Lines -/

/-- A place at which lines differ. -/
structure Change where
  /-- How many lines come before it in the first list. -/
  first : Nat
  /-- How many lines come before it in the second list. -/
  second : Nat
  /-- How many lines go. -/
  gone : Nat
  /-- How many lines come. -/
  come : Nat

/-- The changes that marks tell, beginning at a place in each list. -/
def gather (left right : Marks) : (fuel : Nat) → (first second : Nat) → List Change
  -- Lines that follow each other belong together.
  | 0, _, _ => []
  | fuel + 1, first, second =>
    if left.size ≤ first && right.size ≤ second then []
    else
      let after := (afterRun left (left.size + 1) first).toNat
      let other := (afterRun right (right.size + 1) second).toNat
      if after = first && other = second then gather left right fuel (first + 1) (second + 1)
      else ⟨first, second, after - first, other - second⟩ :: gather left right fuel after other

/-- How many lines at the beginning of two lists are the same. -/
def commonStart : List Letters → List Letters → Nat
  | first :: rest, second :: others => if first = second then commonStart rest others + 1 else 0
  | _, _ => 0

/--
The changes from one list of lines to another one, where lines with the same key count as the same.
-/
def between (key : Letters → Letters) (left right : List Letters) : List Change :=
  -- Lines that are the same at both ends, and those that
  -- only one list has, are left out of the search.
  let start := commonStart left right
  let left := left.drop start
  let right := right.drop start
  let ending := commonStart left.reverse right.reverse
  let left := (left.take (left.length - ending)).map key
  let right := (right.take (right.length - ending)).map key
  let kinds := (left ++ right).eraseDups
  let number (line : Letters) : Nat := (kinds.findIdx? (· = line)).getD 0
  let first := (left.map number).toArray
  let second := (right.map number).toArray
  let kept (lines others : Array Nat) : Array (Nat × Nat) :=
    (lines.toList.zipIdx.filter fun (line, _) => others.contains line).toArray
  let firstKept := kept first second
  let secondKept := kept second first
  let (gone, come) :=
    changes (firstKept.map (·.1)) (secondKept.map (·.1)) (firstKept.size + secondKept.size + 1)
    ⟨0, firstKept.size, 0, secondKept.size⟩
  let marks (lines others : Array Nat) (kept : Array (Nat × Nat)) (changed : List Nat) : Marks :=
    let places := changed.filterMap fun place => kept[place]?.map (·.2)
    ((lines.toList.zipIdx).map fun (line, place) =>
      !others.contains line || places.contains place).toArray
  let before := marks first second firstKept gone
  let after := marks second first secondKept come
  let before := moveAll first after (first.size + 1) 0 0 before
  let after := moveAll second before (second.size + 1) 0 0 after
  (gather before after (first.size + second.size + 1) 0 0).map fun change =>
    { change with first := change.first + start, second := change.second + start }

end Wakeful.Shell.Differences
