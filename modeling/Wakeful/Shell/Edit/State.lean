import Wakeful.Shell.Edit.Reader

/-! Changing texts line by line as commands tell it. -/

namespace Wakeful.Shell.Edit

/-- A line at work, which may have grown or shrunk. -/
structure Line where
  /-- Its letters. -/
  letters : Letters
  /-- Whether it has an end. -/
  isEnded : Bool

/-- Where something is written. -/
inductive Target where
  /-- To what the program writes anyway. -/
  | own
  /-- To a file. -/
  | file (path : Letters)
  deriving DecidableEq, Repr

/-- How far a range of lines has come. -/
inductive Progress where
  /-- It goes on, maybe up to the line with a number. -/
  | begun (limit : Option Nat)
  /-- It has ended. -/
  | ended
  deriving DecidableEq, Repr

/-- How lines are changed. -/
structure Setting where
  /-- The commands. -/
  commands : List Command
  /-- Whether lines are written only if a command tells it. -/
  isQuiet : Bool
  /-- The letter at which lines end. -/
  ending : Char
  /-- How wide a line is that is shown so that all its letters can be seen. -/
  width : Nat
  /-- What files contain. -/
  contents : Letters → Letters

/-- Lines at work. -/
structure State where
  /-- The lines that are left, each with the file that it comes from. -/
  left : List (Letters × Line)
  /-- The file of the present line. -/
  path : Letters
  /-- The number of the present line. -/
  number : Nat
  /-- The present line. -/
  present : Line
  /-- What is kept for later. -/
  kept : Line
  /-- What has been written, the last first. -/
  written : List (Target × Letters)
  /-- Where a line without an end has been written last. -/
  unended : List Target
  /-- What is to be written after the line, the last first. -/
  waiting : List Letters
  /-- How many lines of a file have been written in this way. -/
  taken : List (Letters × Nat)
  /-- The last expression that was used, and whether capital and small letters count alike in it. -/
  regex : Option (Regex × Bool)
  /-- How far ranges have come, by the places of their commands. -/
  ranges : List (Nat × Progress)
  /-- Whether something has been replaced in this line. -/
  hasChanged : Bool
  /-- The code with which the program ends, if it does. -/
  code : Option Nat
  /-- Whether an expression is missing. -/
  lacksRegex : Bool

namespace State

/-- A state in which no line has been read. -/
def start : State :=
  -- What is kept for later is an empty line.
  { left := [], path := [], number := 0, present := ⟨[], true⟩, kept := ⟨[], true⟩, written := []
    unended := [], waiting := [], taken := [], regex := none, ranges := [], hasChanged := false
    code := none, lacksRegex := false }

/-- The state after something has been written that may be a line without an end. -/
def write (state : State) (ending : Char) (target : Target) (text : Letters)
    (isEnded : Bool) : State :=
  -- An earlier line without an end gets it now.
  let before := if target ∈ state.unended then [ending] else []
  let others := state.unended.filter (· != target)
  { state with
    written := (target, before ++ text) :: state.written, unended := if isEnded then others
      else target :: others }

/-- The state after a text has been written. -/
def put (state : State) (ending : Char) (target : Target) (text : Letters) : State :=
  -- It has all the ends that it needs.
  state.write ending target text true

/-- The state after a line has been written. -/
def putLine (state : State) (ending : Char) (target : Target) (line : Line) : State :=
  -- Its end belongs to it, if it has one.
  state.write ending target (if line.isEnded then line.letters ++ [ending]
    else line.letters) line.isEnded

/-- Writes what waits to be written after the line. -/
def flush (state : State) (ending : Char) : State :=
  -- A line without an end gets it only if something follows.
  if state.waiting.isEmpty then state
  else { state.put ending .own state.waiting.reverse.flatten with waiting := [] }

/-- Reads the next line, if there is one. -/
def next? (state : State) : Option State :=
  -- The present line is given up.
  match state.left with
  | [] => none
  | (path, line) :: rest =>
    some { state with
      left := rest, path, number := state.number + 1, present := line, hasChanged := false }

/-- Whether an expression, or the last that was used, matches the line. -/
def finds (state : State) (regex : Option (Regex × Bool)) : Bool × State :=
  -- There has to be one.
  match regex.or state.regex with
  | none => (false, { state with lacksRegex := true })
  | some (regex, isSmall) =>
    let letters := state.present.letters
    ((regex.first? (if isSmall then letters.map Char.toLower else letters)).isSome,
      { state with regex := some (regex, isSmall) })

/-- Whether an address is that of the line. -/
def isAt (state : State) : Address → Bool × State
  -- The last line has none after it.
  | .line number => (state.number = number, state)
  | .last => (state.left.isEmpty, state)
  | .every first step => (first ≤ state.number && (state.number - first) % step = 0, state)
  | .matching regex isSmall => state.finds (regex.map fun regex => (regex, isSmall))

/-- The state after the range of the command at a place has come so far. -/
def withRange (state : State) (place : Nat) (progress : Progress) : State :=
  -- What was known of it before is given up.
  { state with ranges := (place, progress) :: state.ranges.filter (·.1 != place) }

/-- Whether a range of lines begins at the line. -/
def begins (state : State) (place : Nat) (first : Address) (bound : Bound) : Bool × State :=
  -- A range from a number on begins late if its line has been passed over, and only once.
  let (isFirst, state) := match first with
    | .line number => ((state.ranges.lookup place).isNone && number ≤ state.number, state)
    | _ => state.isAt first
  if !isFirst then (false, state)
  else match bound with
    | .address (.line limit) =>
      if state.number < limit then (true, state.withRange place (.begun (some limit)))
      else
        let isMeant := match first with
          | .line number => state.number = limit || state.number = number
          | _ => true
        (isMeant, state.withRange place .ended)
    | .count 0 | .multiple 0 => (true, state.withRange place .ended)
    | .count count => (true, state.withRange place (.begun (some (state.number + count))))
    | .multiple step =>
      (true, state.withRange place (.begun (some (state.number + step - state.number % step))))
    | .address address =>
      let isOver := address == .last && state.left.isEmpty
      (true, state.withRange place (if isOver then .ended else .begun none))

/-- Whether a range of lines that has begun holds the line. -/
def goesOn (state : State) (place : Nat) (limit : Option Nat) (bound : Bound) : Bool × State :=
  -- Only a number that was written as such can have been passed over.
  match limit, bound with
  | some limit, bound =>
    let isMeant := state.number ≤ limit || (match bound with | .address _ => false | _ => true)
    (isMeant, if limit ≤ state.number then state.withRange place .ended else state)
  | none, .address address =>
    let (isLast, state) := state.isAt address
    (true, if isLast then state.withRange place .ended else state)
  | none, _ => (true, state)

/-- Whether the command at a place is for the line. -/
def selects (state : State) (place : Nat) (range : Range) : Bool × State :=
  -- A range from nought on has begun before the first line.
  let (isMeant, state) := match range.first, range.bound with
    | none, _ => (true, state)
    | some first, none => state.isAt first
    | some first, some bound =>
      match state.ranges.lookup place with
      | some (.begun limit) => state.goesOn place limit bound
      | none =>
        if first = .line 0 then
          (state.withRange place (.begun none)).goesOn place none bound
        else
          state.begins place first bound
      | some .ended => state.begins place first bound
  (isMeant != range.isOpposite, state)

/-- Pieces put together for a match, where some of them turn letters into capital or small ones. -/
def assemble (found : Letters) (groups : List (Nat × Letters)) (pieces : List Piece) : Letters :=
  -- Some turns hold for one letter and others up to their end.
  let change (lasting single : Option Char) (letters : Letters) : Letters × Option Char :=
    match letters with
    | [] => ([], single)
    | first :: rest =>
      let turned (sign : Option Char) (letter : Char) : Char := match sign with
        | some 'U' | some 'u' => letter.toUpper
        | some 'L' | some 'l' => letter.toLower
        | _ => letter
      (turned (single.or lasting) first :: rest.map (turned lasting), none)
  let (written, _, _) := pieces.foldl (fun (written, lasting, single) piece =>
    let put (letters : Letters) :=
      let (shown, left) := change lasting single letters
      (written ++ shown, lasting, left)
    match piece with
    | .letters value => put value
    | .group number => put (if number = 0 then found else (groups.lookup number).getD [])
    | .turn 'E' => (written, none, none)
    | .turn sign =>
      if sign = 'u' || sign = 'l' then
        (written, lasting, some sign)
      else
        (written, some sign, none))
    (([] : Letters), (none : Option Char), (none : Option Char))
  written

/-- Replaces matches in the line. -/
def replace (state : State) (ending : Char) (exchange : Exchange) : State :=
  -- Only some of the matches may be meant.
  match (exchange.regex.map fun regex => (regex, exchange.isSmall)).or state.regex with
  | none => { state with lacksRegex := true }
  | some (regex, isSmall) =>
    let state := { state with regex := some (regex, isSmall) }
    let letters := state.present.letters
    let found := regex.all (if isSmall then letters.map Char.toLower else letters)
    let (done, rest, _, changed) := found.foldl (fun (done, rest, count, changed) one =>
      let before := rest.take one.before.length
      let matched := (rest.drop one.before.length).take one.found.length
      let after := rest.drop (one.before.length + one.found.length)
      let isMeant := count = exchange.start || exchange.goesOn && exchange.start < count
      let put := if isMeant then assemble matched one.groups exchange.pieces else matched
      (done ++ before ++ put, after, count + 1, changed || isMeant))
      (([] : Letters), letters, 1, false)
    if !changed then state
    else
      let after :=
        { state with present := { state.present with letters := done ++ rest }, hasChanged := true }
      let after := if exchange.isShown then after.putLine ending .own after.present else after
      match exchange.target with
      | some path => after.putLine ending (.file path) after.present
      | none => after

/-- The letters by which a letter is shown so that it can be seen. -/
def visible (letter : Char) : Letters :=
  -- Letters that cannot be seen are shown by their numbers.
  match letter with
  | '\\' => "\\\\".toList
  | '\n' => "\\n".toList
  | '\t' => "\\t".toList
  | '\x07' => "\\a".toList
  | '\x08' => "\\b".toList
  | '\x0c' => "\\f".toList
  | '\x0d' => "\\r".toList
  | '\x0b' => "\\v".toList
  | _ =>
    let digits := Nat.toDigits 8 letter.toNat
    if letter.toNat < 32 || 126 < letter.toNat then
      '\\' :: List.replicate (3 - digits.length) '0' ++ digits
    else
      [letter]

/--
A line shown so that all its letters can be seen, broken to a width that may be without limit.
-/
def unfolded (width : Nat) (line : Letters) : Letters :=
  -- The signs for a single letter stay together.
  let (shown, _) := line.foldl (fun (shown, column) letter =>
    let signs := visible letter
    if 0 < width && width - 1 < column + signs.length then
      (shown ++ '\\' :: '\n' :: signs, signs.length)
    else (shown ++ signs, column + signs.length)) (([] : Letters), 0)
  shown ++ ['$', '\n']

/-- The part of a text before the first end of a line, and what follows it. -/
def firstLine (ending : Char) (letters : Letters) : Letters × Option Letters :=
  -- Without the end of a line nothing follows.
  let line := letters.takeWhile (· ≠ ending)
  (line, if line.length < letters.length then some (letters.drop (line.length + 1)) else none)

/-- The place after the brace that closes the one before a place. -/
def afterBlock : List Command → (depth place : Nat) → Nat
  -- Braces in between are closed first.
  | [], _, place => place
  | command :: rest, depth, place => match command.deed with
    | .opening => afterBlock rest (depth + 1) (place + 1)
    | .closing => if depth = 0 then place + 1 else afterBlock rest (depth - 1) (place + 1)
    | _ => afterBlock rest depth (place + 1)

/-- How the commands go on after one of them. -/
inductive Turn where
  /-- With another one. -/
  | go (place : Nat)
  /-- With the next line, after the present one has been written. -/
  | done
  /-- With the next line, without writing the present one. -/
  | dropped
  /-- With the present line from the first command on. -/
  | again

/-- Writes the present line unless lines are written only if a command tells it. -/
def shown (state : State) (setting : Setting) : State :=
  -- It stays the present one.
  if setting.isQuiet then state else state.putLine setting.ending .own state.present

/-- The state with a line put after another one. -/
def joined (ending : Char) (first second : Line) : Line :=
  -- Whether it has an end depends on the second one.
  ⟨first.letters ++ ending :: second.letters, second.isEnded⟩

/-- Carries out what a single letter tells. -/
def carryOutPlain (setting : Setting) (place : Nat) (letter : Char)
    (state : State) : State × Turn :=
  -- The next command usually follows.
  let next := Turn.go (place + 1)
  let ending := setting.ending
  let part := firstLine ending state.present.letters
  match letter with
  | 'd' => (state, .dropped)
  | 'D' => match part.2 with
    | some rest => ({ state with present := { state.present with letters := rest } }, .again)
    | none => (state, .dropped)
  | 'p' => (state.putLine ending .own state.present, next)
  | 'P' => (state.putLine ending .own ⟨part.1, part.2.isSome || state.present.isEnded⟩, next)
  | '=' => (state.put ending .own (digitsOf (state.number : Nat) ++ ['\n']), next)
  | 'F' => (state.put ending .own (state.path ++ ['\n']), next)
  | 'z' => ({ state with present := { state.present with letters := [] } }, next)
  | 'h' => ({ state with kept := state.present }, next)
  | 'H' => ({ state with kept := joined ending state.kept state.present }, next)
  | 'g' => ({ state with present := state.kept }, next)
  | 'G' => ({ state with present := joined ending state.present state.kept }, next)
  | 'x' => ({ state with present := state.kept, kept := state.present }, next)
  | 'n' =>
    if state.left.isEmpty then (state, .done)
    else ((((state.shown setting).flush ending).next?).getD state, next)
  | 'N' => match (state.flush ending).next? with
    | some after => ({ after with present := joined ending state.present after.present }, next)
    | none => (state, .done)
  | _ => (state, next)

/-- Carries out a command, and tells how it goes on. -/
def carryOut (setting : Setting) (place : Nat) (deed : Deed) (state : State) : State × Turn :=
  -- The next command usually follows.
  let next := Turn.go (place + 1)
  let ending := setting.ending
  let jump (name : Letters) : Turn :=
    match setting.commands.findIdx? fun command => command.deed == .label name with
    | some target => if name.isEmpty then .done else .go (target + 1)
    | none => .done
  let quiet := { state with hasChanged := false }
  match deed with
  | .opening | .closing | .label _ => (state, next)
  | .jump .always name => (state, jump name)
  | .jump .changed name => if state.hasChanged then (quiet, jump name) else (state, next)
  | .jump .unchanged name => if state.hasChanged then (quiet, next) else (state, jump name)
  | .exchange exchange => (state.replace ending exchange, next)
  | .translate letters =>
    let changed := state.present.letters.map fun letter => (letters.lookup letter).getD letter
    ({ state with present := { state.present with letters := changed } }, next)
  | .before text => (state.put ending .own text, next)
  | .after text => ({ state with waiting := text :: state.waiting }, next)
  | .change text => match state.ranges.lookup place with
    | some (.begun _) => (state, .dropped)
    | _ => (state.put ending .own text, .dropped)
  | .file path false => ({ state with waiting := setting.contents path :: state.waiting }, next)
  | .file path true =>
    let count := (state.taken.lookup path).getD 0
    match (lines (setting.contents path))[count]? with
    | none => (state, next)
    | some line =>
      ({ state with
        waiting := (line ++ ['\n']) :: state.waiting, taken := (path, count + 1) :: state.taken },
        next)
  | .write path isByLine =>
    let part := firstLine ending state.present.letters
    (state.putLine ending (.file path)
      (if isByLine then ⟨part.1, part.2.isSome || state.present.isEnded⟩ else state.present), next)
  | .unfold width =>
    (state.put ending .own (unfolded (width.getD setting.width) state.present.letters), next)
  | .quit true code => ({ state with code := some code }, .dropped)
  | .quit false code =>
    let after := ((state.shown setting).put ending .own []).flush ending
    ({ after with code := some code }, .dropped)
  | .plain letter => carryOutPlain setting place letter state

/--
Carries out the commands for all lines that are left, beginning at a place among the commands.
-/
def run (setting : Setting) : (fuel : Nat) → (place : Nat) → State → State
  -- After the last command the line is written and the next one is read.
  | 0, _, state => state
  | fuel + 1, place, state =>
    let onward (state : State) : State :=
      if state.code.isSome then state
      else match (state.flush setting.ending).next? with
        | some after => run setting fuel 0 after
        | none => state.flush setting.ending
    match setting.commands[place]? with
    | none => onward (state.shown setting)
    | some command =>
      let (isMeant, state) := state.selects place command.range
      let (state, turn) := if isMeant then carryOut setting place command.deed state
        else
          (state,
            .go (if command.deed == .opening then afterBlock (setting.commands.drop (place + 1)) 0
              (place + 1) else place + 1))
      if state.lacksRegex then { state with code := some 1 }
      else match turn with
        | .go after => run setting fuel after state
        | .done => onward (state.shown setting)
        | .dropped => onward state
        | .again => run setting fuel 0 (state.flush setting.ending)

/-- How many steps the commands may take for so many letters. -/
def steps (setting : Setting) (size : Nat) : Nat :=
  -- Loops of jumps go on for some time.
  (size + 100) * (setting.commands.length + 2) * 8

/-- The state after the lines of a text of its own have been changed too. -/
def through (setting : Setting) (state : State) (lines : List (Letters × Line)) : State :=
  -- Numbers and ranges begin anew, and nothing is kept for later.
  let fresh := { state with left := lines, number := 0, kept := ⟨[], true⟩, ranges := [] }
  if state.code.isSome then state
  else match fresh.next? with
    | none => state
    | some first =>
      first.run setting
        (steps setting (lines.foldl (fun size line => size + line.2.letters.length + 1) 0)) 0

end State

/-- The lines of a file. -/
def linesOf (ending : Char) (path contents : Letters) : List (Letters × Line) :=
  -- Only the last one may have no end.
  let parts := contents.splitOn ending
  parts.dropLast.map (fun line => (path, ⟨line, true⟩))
    ++ (parts.getLast?.filter (!·.isEmpty)).toList.map fun line => (path, ⟨line, false⟩)

end Wakeful.Shell.Edit
