/-! Patterns with wildcards, as they are written for names of files, and when a name matches one. -/

namespace Wakeful.Glob

/-- A choice between brackets. -/
inductive Choice where
  /-- One character. -/
  | single (character : Char)
  /-- All characters from a first to a last one. -/
  | range (first last : Char)
  deriving DecidableEq, Repr

/-- A part of a pattern. -/
inductive Token where
  /-- This character. -/
  | literal (character : Char)
  /-- Any one character. -/
  | anyOne
  /-- Any characters in any number. -/
  | anyRun
  /-- Any directories in any number. -/
  | anyDepth
  /-- One of these characters. -/
  | oneOf (choices : List Choice)
  /-- None of these characters. -/
  | noneOf (choices : List Choice)
  deriving DecidableEq, Repr

/-- What is wrong with a pattern. -/
inductive PatternFault where
  /-- More than two stars. -/
  | wildcards
  /-- Two stars next to something else. -/
  | recursiveWildcards
  /-- A bracket without its counterpart. -/
  | range
  deriving DecidableEq, Repr

/-- A fault and where it lies. -/
structure PatternError where
  /-- The number of characters before the fault. -/
  position : Nat
  /-- What is wrong. -/
  fault : PatternFault
  deriving DecidableEq, Repr

/-- The words for what is wrong. -/
def PatternFault.words : PatternFault → String
  -- Stars are quoted as they are written.
  | wildcards => "wildcards are either regular \x60*\x60 or recursive \x60**\x60"
  | recursiveWildcards => "recursive wildcards must form a single path component"
  | range => "invalid range pattern"

/-- The words for a fault and its place. -/
def PatternError.message (error : PatternError) : String :=
  -- Positions count characters from zero.
  "Pattern syntax error near position " ++ toString error.position ++ ": " ++ error.fault.words

/-- The choices that characters between brackets stand for. -/
def choices : List Char → List Choice
  -- A dash between two characters makes a range of them.
  | first :: '-' :: last :: rest => .range first last :: choices rest
  | character :: rest => .single character :: choices rest
  | [] => []

/-- Whether a choice includes a character. -/
def Choice.includes (choice : Choice) (character : Char) : Bool :=
  -- A range whose ends are the wrong way round includes nothing.
  match choice with
  | single only => character = only
  | range first last => first ≤ character && character ≤ last

/--
The characters between brackets and what follows them, if
the closing bracket comes after at least one.
-/
def bracketed? (characters : List Char) : Option (List Char × List Char) :=
  -- A closing bracket that comes first belongs to the choices.
  match characters with
  | [] => none
  | first :: rest =>
    match rest.dropWhile (· != ']') with
    | [] => none
    | _ :: after => some (first :: rest.takeWhile (· != ']'), after)

/-- Reads a pattern from a position, where the character before it is known. -/
def readTokens : (fuel : Nat) → (position : Nat) → (before : Option Char) → List Char →
    Except PatternError (List Token)
  -- Stars are counted in runs, and brackets are taken as a whole.
  | 0, _, _, _ => .ok []
  | _ + 1, _, _, [] => .ok []
  | fuel + 1, position, _, '?' :: rest =>
    (readTokens fuel (position + 1) (some '?') rest).map (.anyOne :: ·)
  | fuel + 1, position, before, '*' :: rest =>
    let stars := (rest.takeWhile (· == '*')).length + 1
    let after := rest.dropWhile (· == '*')
    if 2 < stars then .error ⟨position + 2, .wildcards⟩
    else if stars = 2 then
      if before.isNone || before == some '/' then
        match after with
        | [] => .ok [.anyDepth]
        | '/' :: after => (readTokens fuel (position + 3) (some '/') after).map (.anyDepth :: ·)
        | _ => .error ⟨position + 2, .recursiveWildcards⟩
      else .error ⟨position - 1, .recursiveWildcards⟩
    else (readTokens fuel (position + 1) (some '*') after).map (.anyRun :: ·)
  | fuel + 1, position, _, '[' :: '!' :: rest =>
    match bracketed? rest with
    | some (inside, after) =>
      (readTokens fuel (position + inside.length + 3) (some ']') after).map
        (.noneOf (choices inside) :: ·)
    | none => .error ⟨position, .range⟩
  | fuel + 1, position, _, '[' :: rest =>
    match bracketed? rest with
    | some (inside, after) =>
      (readTokens fuel (position + inside.length + 2) (some ']') after).map
        (.oneOf (choices inside) :: ·)
    | none => .error ⟨position, .range⟩
  | fuel + 1, position, _, character :: rest =>
    (readTokens fuel (position + 1) (some character) rest).map (.literal character :: ·)

/-- The tokens of a pattern. -/
def tokens (pattern : List Char) : Except PatternError (List Token) :=
  -- No token is shorter than a character.
  readTokens (pattern.length + 1) 0 none pattern

/-- The characters from every position on, the longest first. -/
def suffixes : List Char → List (List Char)
  -- The empty rest is the last one.
  | [] => [[]]
  | character :: rest => (character :: rest) :: suffixes rest

/--
What can be left of a name behind a token, given what can be left before it, the longest first.
-/
def Token.leave (token : Token) (rests : List (List Char)) : List (List Char) :=
  -- A run can end anywhere behind the earliest place where it can begin.
  match token with
  | literal character => rests.filterMap (takeIf (· == character))
  | anyOne => rests.filterMap (takeIf fun _ => true)
  | oneOf options => rests.filterMap (takeIf fun found => options.any (·.includes found))
  | noneOf options => rests.filterMap (takeIf fun found => !options.any (·.includes found))
  | anyRun | anyDepth =>
    match rests with
    | [] => []
    | longest :: _ => suffixes longest
where
  /-- The rest behind a character that is accepted. -/
  takeIf (accepts : Char → Bool) : List Char → Option (List Char)
    -- Without a character nothing is accepted.
    | [] => none
    | character :: rest => if accepts character then some rest else none

/-- Whether a name matches tokens as a whole. -/
def matchesName (tokens : List Token) (name : List Char) : Bool :=
  -- Nothing may be left in the end.
  (tokens.foldl (fun rests token => token.leave rests) [name]).any List.isEmpty

/-- The name that tokens without wildcards spell. -/
def plainName? (tokens : List Token) : Option (List Char) :=
  -- A single wildcard means that there is none.
  tokens.mapM fun token => match token with
    | .literal character => some character
    | _ => none

/-- Whether tokens stand for directories in any number. -/
def isRecursive (tokens : List Token) : Bool :=
  -- Such a token is the only one of its component.
  tokens.contains .anyDepth

end Wakeful.Glob
