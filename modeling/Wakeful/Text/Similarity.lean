/-!
How alike two words are: the share of letters that they have
in common in nearby places and in the same order.
-/

namespace Wakeful.Similarity

/-- The letters of a word, each with whether it has been matched. -/
abbrev Letters := List (Char × Bool)

/-- Marks the first letter within bounds that is like the given one and still free. -/
def claim (letter : Char) : (skip width : Nat) → Letters → Option Letters
  -- The letters before the bounds are passed over.
  | _, _, [] => none
  | _, 0, _ => none
  | skip + 1, width + 1, first :: rest => (claim letter skip (width + 1) rest).map (first :: ·)
  | 0, width + 1, (other, taken) :: rest =>
    if other = letter ∧ !taken then some ((other, true) :: rest)
    else (claim letter 0 width rest).map ((other, taken) :: ·)

/-- Matches the letters of one word, of which the first stands at a place, with those of another. -/
def pairUp (reach place : Nat) : List Char → Letters → Letters × Letters
  -- A letter looks as far as the reach to both sides.
  | [], right => ([], right)
  | letter :: rest, right =>
    let skip := place - reach
    match claim letter skip (place + reach + 1 - skip) right with
    | some marked =>
      let (left, right) := pairUp reach (place + 1) rest marked
      ((letter, true) :: left, right)
    | none =>
      let (left, right) := pairUp reach (place + 1) rest right
      ((letter, false) :: left, right)

/-- The matched letters in order. -/
def matched (letters : Letters) : List Char :=
  -- The others are left out.
  letters.filterMap fun (letter, taken) => if taken then some letter else none

/-- The part that one number is of another. -/
def portion (part whole : Nat) : Float :=
  -- It is rounded once.
  Float.ofNat part / Float.ofNat whole

/-- How alike two words are, from zero to one. -/
def likeness (left right : String) : Float :=
  -- It is the mean of the matched portions of both words and
  -- of the portion of matches that are in order.
  let leftLetters := left.toList
  let rightLetters := right.toList
  let reach := max leftLetters.length rightLetters.length / 2 - 1
  let (leftMarks, rightMarks) :=
    pairUp reach 0 leftLetters (rightLetters.map fun letter => (letter, false))
  let leftMatches := matched leftMarks
  let count := leftMatches.length
  let crossed :=
    ((leftMatches.zip (matched rightMarks)).filter fun pair => pair.1 != pair.2).length / 2
  if leftLetters.isEmpty && rightLetters.isEmpty then 1.0
  else if count = 0 then 0.0
  else
    (portion count leftLetters.length + portion count rightLetters.length +
      portion (count - crossed) count) / 3.0

/-- The likeness above which a word may be what was meant. -/
def threshold : Float := 0.7

/-- Puts a candidate behind all that are not more alike. -/
def place (candidate : Float × String) : List (Float × String) → List (Float × String)
  -- The order is kept from the least to the most alike.
  | [] => [candidate]
  | first :: rest =>
    if candidate.1 < first.1 then candidate :: first :: rest else first :: place candidate rest

/-- The words that may be meant by a given one, the most likely last. -/
def candidates (word : String) (known : List String) : List String :=
  -- Rounding decides about likenesses on the edge, and equally likely words keep their order.
  let likely := (known.map fun other => (likeness word other, other)).filter (threshold < ·.1)
  (likely.foldl (fun sorted candidate => place candidate sorted) []).map (·.2)

end Wakeful.Similarity
