import Wakeful.Shell.Tool.Text

/-! A program that removes letters or exchanges them for others. -/

namespace Wakeful.Shell.Tool

/-- A piece of a set of letters. -/
inductive SetPiece where
  /-- A single letter. -/
  | letter (value : Char)
  /-- All letters from one to another. -/
  | range (first last : Char)
  /-- A class of letters. -/
  | named (name : String)
  /-- All letters that count like one. -/
  | equal (value : Char)
  /-- A letter so many times, or as often as it takes. -/
  | again (value : Char) (count : Option Nat)
  deriving DecidableEq, Repr

namespace SetPiece

/-- Letters from one to another. -/
def lettersFrom (first last : Char) : Letters :=
  -- The last one belongs to them.
  (List.range (last.toNat + 1 - first.toNat)).map fun step => Char.ofNat (first.toNat + step)

/-- The letters of a class. -/
def lettersOfClass (name : String) : Letters :=
  -- They come in order.
  ((LetterSet.classes.lookup name).getD []).flatMap fun (first, last) => lettersFrom first last

/-- The letters that a piece stands for. -/
def letters : SetPiece → Letters
  -- What is repeated without bounds stands for nothing yet.
  | letter value | equal value => [value]
  | range first last => lettersFrom first last
  | named name => lettersOfClass name
  | again value count => List.replicate (count.getD 0) value

/-- Whether a piece is a class. -/
def isClass : SetPiece → Bool
  | named _ => true
  | _ => false

/-- Whether a piece is the class of all capital or of all small letters. -/
def isCase : SetPiece → Bool
  | named name => name = "upper" || name = "lower"
  | _ => false

/-- Whether a piece is repeated without bounds. -/
def isEndless : SetPiece → Bool
  | again _ none => true
  | _ => false

/-- The letters of a set with the escapes carried out, each with whether it was escaped. -/
def unescaped : (fuel : Nat) → Letters → List (Char × Bool)
  -- An escaped letter has no meaning.
  | 0, _ => []
  | _ + 1, [] => []
  | fuel + 1, '\\' :: sign :: rest =>
    if (Sum.digit? 8 sign).isSome then
      let digits := ((sign :: rest).take 3).takeWhile fun other => (Sum.digit? 8 other).isSome
      let digits := if 255 < (Sum.digits 8 0 digits).1 then digits.take 2 else digits
      (Char.ofNat (Sum.digits 8 0 digits).1, true) ::
        unescaped fuel ((sign :: rest).drop digits.length)
    else
      let meant := ((EscapeStyle.simple.filter (·.1 ≠ 'e')).lookup sign).getD sign
      (meant, true) :: unescaped fuel rest
  | fuel + 1, sign :: rest => (sign, false) :: unescaped fuel rest

/-- The piece between brackets at the beginning of letters, and what follows it. -/
def bracketed (letters : List (Char × Bool)) :
    Except Letters (Option (SetPiece × List (Char × Bool))) :=
  -- Classes, letters that count alike, and repeated letters stand between brackets.
  let plain (wanted : Char) (sign : Char × Bool) : Bool := sign = (wanted, false)
  let rec inner (sign : Char) : List (Char × Bool) → Option (Letters × List (Char × Bool))
    | first :: second :: rest =>
      if plain sign first && plain ']' second then some ([], rest)
      else (inner sign (second :: rest)).map fun (value, after) => (first.1 :: value, after)
    | _ => none
  match letters with
  | (':', false) :: rest => match inner ':' rest with
    | some (name, after) =>
      let name := String.ofList name
      if (LetterSet.classes.lookup name).isSome then .ok (some (.named name, after))
      else .error ("invalid character class '".toList ++ name.toList ++ ['\''])
    | none => .ok none
  | ('=', false) :: rest => match inner '=' rest with
    | some ([value], after) => .ok (some (.equal value, after))
    | some (other, _) =>
      .error (other ++ ": equivalence class operand must be a single character".toList)
    | none => .ok none
  | (value, _) :: ('*', false) :: rest =>
    let count := rest.takeWhile fun sign => sign ≠ (']', false)
    let digits := count.map (·.1)
    if count.length = rest.length then .ok none
    else if !digits.all Char.isDigit then
      .error ("invalid repeat count '".toList ++ digits ++ "' in [c*n] construct".toList)
    else
      let number := if digits.head? = some '0' then (Sum.digits 8 0 digits).1
        else (number? digits).getD 0
      .ok (some (.again value (if number = 0 then none else some number),
        rest.drop (count.length + 1)))
  | _ => .ok none

/-- The pieces of a set. -/
def read : (fuel : Nat) → List (Char × Bool) → Except Letters (List SetPiece)
  -- A sign between two letters makes a range of them.
  | 0, _ => .ok []
  | _ + 1, [] => .ok []
  | fuel + 1, (first, isFirstEscaped) :: rest => do
    let special ← if first = '[' && !isFirstEscaped then bracketed rest else .ok none
    match special with
    | some (piece, after) => return piece :: (← read fuel after)
    | none => match rest with
      | ('-', false) :: (last, _) :: after =>
        if last < first then
          throw ("range-endpoints of '".toList ++ [first, '-', last] ++
            "' are in reverse collating sequence order".toList)
        return .range first last :: (← read fuel after)
      | _ => return .letter first :: (← read fuel rest)

/-- The pieces of a set that letters describe. -/
def ofLetters (letters : Letters) : Except Letters (List SetPiece) :=
  -- Every piece takes at least one letter.
  read (letters.length + 1) (unescaped (letters.length + 1) letters)

/-- Pieces in which what is repeated without bounds fills them up to a length. -/
def filledTo (length : Nat) (pieces : List SetPiece) : List SetPiece :=
  -- There is at most one such piece.
  let others := (pieces.flatMap letters).length
  pieces.map fun piece => match piece with
    | again value none => again value (some (length - others))
    | other => other

/-- Whether classes of capital and small letters stand side by side in two sets. -/
def isAlignedWith : (fuel : Nat) → (first second : List SetPiece) → Bool
  -- Other pieces are taken letter by letter.
  | 0, _, _ => true
  | _ + 1, [], _ | _ + 1, _, [] => true
  | fuel + 1, one :: first, other :: second =>
    if other.isCase then one.isCase && isAlignedWith fuel first second
    else
      let rest (piece : SetPiece) (others : List SetPiece) : List SetPiece :=
        (piece.letters.drop 1).map .letter ++ others
      if one.letters.isEmpty then isAlignedWith fuel first (other :: second)
      else if other.letters.isEmpty then isAlignedWith fuel (one :: first) second
      else isAlignedWith fuel (rest one first) (rest other second)

end SetPiece

/-- All letters. -/
def allLetters : Letters := (List.range 256).map Char.ofNat

/-- Letters in which those of a set do not follow themselves. -/
def squeeze (set : Char → Bool) (letters : Letters) : Letters :=
  -- The first of several equal ones stays.
  (letters.foldl (fun kept letter => match kept with
    | [] => [letter]
    | former :: _ => if former = letter && set letter then kept else letter :: kept) []).reverse

/-- The letters that take the place of others, or what is wrong with the sets. -/
def exchanges (isOther truncates : Bool) (first second : List SetPiece) :
    Except Letters (Letters × Letters) := do
  -- The last letter of the second set stands for all that have
  -- none, unless the first set is to be cut off.
  if second.any fun piece => piece matches .equal _ then
    throw "[=c=] expressions may not appear in string2 when translating".toList
  if second.any fun piece => piece.isClass && !piece.isCase then
    throw "when translating, the only character classes that may appear in\nstring2 are 'upper' and 'lower'".toList
  let named := first.flatMap SetPiece.letters
  let meant := if isOther then allLetters.filter (!named.contains ·) else named
  let second := SetPiece.filledTo meant.length second
  if !isOther && !SetPiece.isAlignedWith (2 * (meant.length + 300)) first second then
    throw "misaligned [:upper:] and/or [:lower:] construct".toList
  let others := second.flatMap SetPiece.letters
  if others.length < meant.length && !truncates then
    if others.isEmpty then throw "when not truncating set1, string2 must be non-empty".toList
    if second.getLast?.any SetPiece.isClass then
      throw "when translating with string1 longer than string2,\nthe latter string must not end with a character class".toList
  let all := if truncates then others
    else others ++ List.replicate (meant.length - others.length) (others.getLast?.getD '\x00')
  let isUniform := all.length = meant.length && all.all fun letter => some letter = all.head?
  if isOther && first.any SetPiece.isClass && !isUniform then
    throw "when translating with complemented character classes,\nstring2 must map all characters in the domain to one".toList
  return (meant, all)

/-- Removes or exchanges letters. -/
def tr : Task → Result :=
  -- The sets have to fit what is to be done.
  withChoices ⟨"cCdst", "",
    [("delete", 'd'), ("squeeze-repeats", 's'), ("complement", 'c'), ("truncate-set1", 't')],
    false⟩ 1
    fun task choices =>
      let removes := choices.has 'd'
      let squeezes := choices.has 's'
      let least := if removes = squeezes then 2 else 1
      let most := if removes && !squeezes then 1 else 2
      let isOther := choices.has 'c' || choices.has 'C'
      let act (sets : List (List SetPiece)) (text : Letters) : Except Letters Letters := do
        let first := sets.headD []
        let named := first.flatMap SetPiece.letters
        let isMeant (letter : Char) : Bool := named.contains letter != isOther
        if first.any SetPiece.isEndless then
          throw "the [c*] repeat construct may not appear in string1".toList
        match sets.drop 1 with
        | [] => return if removes then text.filter (!isMeant ·) else squeeze isMeant text
        | second :: _ =>
          if 1 < (second.filter SetPiece.isEndless).length then
            throw "only one [c*] repeat construct may appear in string2".toList
          if removes then
            if second.any SetPiece.isEndless then
              throw "the [c*] construct may appear in string2 only when translating".toList
            return squeeze (second.flatMap SetPiece.letters).contains (text.filter (!isMeant ·))
          else
            let (meant, others) ← exchanges isOther (choices.has 't') first second
            let pairs := (meant.zip others).reverse
            let changed := text.map fun letter => (pairs.lookup letter).getD letter
            return if squeezes then squeeze others.contains changed else changed
      if most < choices.operands.length then
        task.misused 1 ("extra operand '".toList ++ choices.operands.getD most [] ++ ['\''])
      else if choices.operands.length < least then
        task.misused 1 ("missing operand".toList ++ choices.operands.getLast?.elim [] fun last =>
          " after '".toList ++ last ++ ['\''])
      else match choices.operands.mapM SetPiece.ofLetters with
        | .error words => task.failing 1 words
        | .ok sets => match act sets task.input, task.refusal with
          | .error words, _ => task.failing 1 words
          | .ok _, some reason => task.failing 1 ("read error: ".toList ++ reason.text.toList)
          | .ok text, none => task.answering 0 text

end Wakeful.Shell.Tool
