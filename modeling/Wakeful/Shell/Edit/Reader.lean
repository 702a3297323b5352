import Wakeful.Shell.Edit.Command

/-! Reading commands by which texts are changed line by line. -/

namespace Wakeful.Shell.Edit

/-- The letters that are there to be read. -/
abbrev Reading := StateT Letters (Except Fault)

/-- Ends the reading because of what has just been read. -/
def refuse {α : Type} (words : Letters) : Reading α := do
  -- How many letters are left tells the place.
  throw (.within (← get).length words)

/-- Takes the letters that satisfy a condition. -/
def takeWhile (holds : Char → Bool) : Reading Letters := do
  -- The first other letter stays.
  let letters ← get
  set (letters.dropWhile holds)
  return letters.takeWhile holds

/-- Takes a letter if it comes next. -/
def takeSign (sign : Char) : Reading Bool := do
  -- Any other letter stays.
  let letters ← get
  if letters.head? = some sign then
    set (letters.drop 1)
    return true
  else return false

/-- Takes a number, if there is one. -/
def takeNumber : Reading (Option Nat) := return number? (← takeWhile Char.isDigit)

/-- Whether a letter is a blank within a line. -/
def isGap (letter : Char) : Bool := letter != '\n' && isBlank letter

/-- Takes blanks within a line. -/
def takeGap : Reading Unit := do
  -- There need not be any.
  let _ ← takeWhile isGap

/-- The rest of a choice of letters with its closing bracket, and what follows it. -/
def setPart : (fuel : Nat) → (isFirst : Bool) → Letters → Option (Letters × Letters)
  -- Names between signs may hold brackets, and no line may end.
  | 0, _, _ => none
  | _ + 1, _, [] => none
  | fuel + 1, isFirst, letter :: rest =>
    let goOn (found rest : Letters) :=
      (setPart fuel false rest).map fun (others, after) => (found ++ others, after)
    if letter = '\n' then none
    else if letter = ']' && !isFirst then some ([letter], rest)
    else match letter, rest with
      | '[', sign :: inner =>
        if ":.=".toList.contains sign then
          (Regex.namedPart sign inner).bind fun (name, after) =>
            goOn ('[' :: sign :: name ++ [sign, ']']) after
        else goOn [letter] rest
      | _, _ => goOn [letter] rest

/-- Letters up to a sign that is not escaped, and what is left then. -/
def upTo (sign : Char) : (fuel : Nat) → Letters → Option Letters × Letters
  -- An escaped sign stands for itself, in a choice of letters
  -- the sign has no meaning, and no line may end.
  | fuel + 1, '\\' :: letter :: rest =>
    let (value, left) := upTo sign fuel rest
    (value.map fun value => if letter = sign || letter = '\n' then letter :: value
      else if letter = 'n' then '\n' :: value else '\\' :: letter :: value, left)
  | fuel + 1, letter :: rest =>
    if letter = sign then (some [], rest)
    else if letter = '\n' then (none, letter :: rest)
    else if letter = '[' then
      let negation := if rest.head? = some '^' then ['^'] else []
      match setPart (rest.length + 1) true (rest.drop negation.length) with
      | none => (none, [])
      | some (content, after) =>
        let (value, left) := upTo sign fuel after
        (value.map fun value => letter :: negation ++ content ++ value, left)
    else
      let (value, left) := upTo sign fuel rest
      (value.map (letter :: ·), left)
  | _, _ => (none, [])

/-- Letters up to a sign without regard to choices of letters, and what is left then. -/
def plainUpTo (sign : Char) : Letters → Option Letters × Letters
  -- Escapes stay as they are, but for that of the sign.
  | [] => (none, [])
  | '\\' :: letter :: rest =>
    let (value, left) := plainUpTo sign rest
    (value.map fun value => if letter = sign && letter ≠ '&' then letter :: value
      else '\\' :: letter :: value, left)
  | letter :: rest =>
    if letter = sign then (some [], rest)
    else if letter = '\n' then (none, letter :: rest)
    else
      let (value, left) := plainUpTo sign rest
      (value.map (letter :: ·), left)

/-- Takes letters up to a sign in one of two ways, where words are for a sign that is missing. -/
def takeUpTo (find : Letters → Option Letters × Letters) (words : String) : Reading Letters := do
  -- What has been passed in vain is passed all the same.
  let (value, left) := find (← get)
  set left
  match value with
  | some value => return value
  | none => refuse words.toList

/-- The value of a digit. -/
def digitValue (letter : Char) : Nat :=
  -- Small and capital letters count alike.
  if letter.isDigit then letter.toNat - 48 else letter.toUpper.toNat - 55

/-- The letter that an escape without its backslash stands for, and what follows it. -/
def escaped? : Letters → Option (Char × Letters)
  -- Some escapes tell the number of the letter.
  | 'a' :: rest => some ('\x07', rest)
  | 'f' :: rest => some ('\x0c', rest)
  | 'n' :: rest => some ('\n', rest)
  | 'r' :: rest => some ('\x0d', rest)
  | 't' :: rest => some ('\t', rest)
  | 'v' :: rest => some ('\x0b', rest)
  | 'c' :: letter :: rest => some (Char.ofNat (letter.toUpper.toNat ^^^ 64), rest)
  | 'd' :: rest => numbered 10 3 Char.isDigit rest
  | 'o' :: rest => numbered 8 3 (fun letter => '0' ≤ letter && letter ≤ '7') rest
  | 'x' :: rest =>
    numbered 16 2 (fun letter => letter.isDigit || "abcdefABCDEF".toList.contains letter) rest
  | _ => none
where
  /-- The letter whose number some digits spell. -/
  numbered (base count : Nat) (isDigit : Char → Bool) (letters : Letters) :
    Option (Char × Letters) :=
    -- At least one digit is needed.
    let digits := (letters.take count).takeWhile isDigit
    if digits.isEmpty then none
    else
      let value := digits.foldl (fun value digit => value * base + digitValue digit) 0
      some (Char.ofNat (value % 256), letters.drop digits.length)

/-- An expression in which escapes for single letters are replaced by the letters. -/
def withoutEscapes : (fuel : Nat) → Letters → Letters
  -- Other escapes stay, and so do those that have a meaning of their own in expressions.
  | fuel + 1, '\\' :: rest =>
    match if "afnrtvcdox".toList.contains (rest.headD ' ') then escaped? rest else none, rest with
    | some (letter, after), _ => letter :: withoutEscapes fuel after
    | none, letter :: after => '\\' :: letter :: withoutEscapes fuel after
    | none, [] => ['\\']
  | fuel + 1, letter :: rest => letter :: withoutEscapes fuel rest
  | _, letters => letters

/-- The number of groups in an expression. -/
def groupCount : Regex → Nat
  -- Groups are numbered from one on.
  | .group number inner => max number (groupCount inner)
  | .followed first second | .either first second => max (groupCount first) (groupCount second)
  | .repeated inner _ _ => groupCount inner
  | _ => 0

/-- An expression whose ends lie at the ends of lines too. -/
def byLine : Regex → Regex
  -- All other conditions stay.
  | .edge .beginning => .edge .lineBeginning
  | .edge .ending => .edge .lineEnding
  | .followed first second => .followed (byLine first) (byLine second)
  | .either first second => .either (byLine first) (byLine second)
  | .repeated inner least most => .repeated (byLine inner) least most
  | .group number inner => .group number (byLine inner)
  | other => other

/-- The expression that letters spell, which is none if there are no letters. -/
def regexOf (style : RegexStyle) (isSmall isByLine : Bool) (letters : Letters) :
    Reading (Option Regex) := do
  -- The last expression is meant without letters.
  if letters.isEmpty then return none
  match Regex.read style (withoutEscapes letters.length letters) with
  | .ok regex =>
    let regex := if isByLine then byLine regex else regex
    return some (if isSmall then regex.small else regex)
  | .error .bareClass => throw (.placeless Regex.Fault.bareClass.message.toList)
  | .error fault => refuse fault.message.toList

/-- Reads an address, if there is one. -/
def readAddress (style : RegexStyle) : Reading (Option Address) := do
  -- An expression stands between signs, which may be any.
  match ← get with
  | '$' :: rest =>
    set rest
    return some .last
  | '/' :: rest => regex '/' rest
  | '\\' :: sign :: rest => regex sign rest
  | _ =>
    match ← takeNumber with
    | none => return none
    | some first =>
      takeGap
      if ← takeSign '~' then
        let step := (← takeNumber).getD 0
        return some (if step = 0 then .line first else .every first step)
      else return some (.line first)
where
  /-- Reads the expression of an address. -/
  regex (sign : Char) (letters : Letters) : Reading (Option Address) := do
    -- Letters after it may say how it is meant.
    set letters
    let value ← takeUpTo (fun letters =>
      upTo sign (letters.length + 1) letters) "unterminated address regex"
    let flags ← takeWhile fun letter => letter = 'I' || letter = 'M'
    takeGap
    let isSmall := flags.contains 'I'
    return some (.matching (← regexOf style isSmall (flags.contains 'M') value) isSmall)

/-- Reads where a range ends. -/
def readBound (style : RegexStyle) : Reading Bound := do
  -- Numbers can be counted from the first line on.
  takeGap
  if ← takeSign '+' then return .count ((← takeNumber).getD 0)
  else if ← takeSign '~' then return .multiple ((← takeNumber).getD 0)
  else match ← readAddress style with
    | some address => return .address address
    | none =>
      modify (List.drop 1)
      refuse "unexpected \x60,'".toList

/-- Reads the lines that a command is for. -/
def readRange (style : RegexStyle) : Reading Range := do
  -- A sign stands for all other lines.
  if (← get).head?.any fun letter => letter = '+' || letter = '~' then
    modify (List.drop 1)
    let _ ← takeNumber
    refuse "invalid usage of +N or ~N as first address".toList
  let first ← readAddress style
  takeGap
  let hasBound ← if first.isSome then takeSign ',' else pure false
  let bound ← if hasBound then some <$> readBound style else pure none
  takeGap
  let isOpposite ← takeSign '!'
  takeGap
  let isRepeated ← if isOpposite then takeSign '!' else pure false
  if isRepeated then refuse "multiple \x60!'s".toList
  return ⟨first, bound, isOpposite⟩

/-- The pieces of what takes the place of a match. -/
def piecesOf : (fuel : Nat) → Letters → List Piece
  -- Digits stand for groups, and a sign for the whole match.
  | fuel + 1, '\\' :: letter :: rest =>
    if letter.isDigit then .group (letter.toNat - 48) :: piecesOf fuel rest
    else if "ULEul".toList.contains letter then .turn letter :: piecesOf fuel rest
    else match escaped? (letter :: rest) with
      | some (value, after) => .letters [value] :: piecesOf fuel after
      | none => .letters [letter] :: piecesOf fuel rest
  | fuel + 1, '&' :: rest => .group 0 :: piecesOf fuel rest
  | fuel + 1, letter :: rest => .letters [letter] :: piecesOf fuel rest
  | _, _ => []

/-- How an exchange of matches is meant. -/
structure Manner where
  /-- The letters that have been read. -/
  flags : Letters
  /-- Which match is the first to be replaced. -/
  start : Option Nat
  /-- The file to which a changed line is written. -/
  target : Option Letters

/-- Reads a path up to the end of a line. -/
def readPath : Reading Letters := do
  -- Blanks before it do not count.
  takeGap
  match ← takeWhile (· ≠ '\n') with
  | [] => refuse "missing filename in r/R/w/W commands".toList
  | path => return path

/-- Reads how an exchange of matches is meant. -/
def readManner : (fuel : Nat) → Manner → Reading Manner
  -- A command ends at the end of a line, at a brace or at a sign.
  | 0, manner => return manner
  | fuel + 1, manner => do
    match ← get with
    | [] => return manner
    | letter :: rest =>
      if letter = '\x7d' || letter = '#' then return manner
      set rest
      if letter = '\n' || letter = ';' then return manner
      else if letter = ' ' then readManner fuel manner
      else if letter.isDigit then
        set (letter :: rest)
        let number ← takeNumber
        if number = some 0 then refuse "number option to \x60s' command may not be zero".toList
        if manner.start.isSome then refuse "multiple number options to \x60s' command".toList
        readManner fuel { manner with start := number }
      else if letter = 'w' then return { manner with target := some (← readPath) }
      else if !"gpiIeMm".toList.contains letter then refuse "unknown option to \x60s'".toList
      else if (letter = 'g' || letter = 'p') && manner.flags.contains letter then
        refuse ("multiple \x60".toList ++ letter :: "' options to \x60s' command".toList)
      else readManner fuel { manner with flags := letter :: manner.flags }

/-- Reads the rest of an exchange of matches. -/
def readExchange (style : RegexStyle) : Reading Deed := do
  -- The first letter parts its pieces.
  let unended := "unterminated \x60s' command"
  match ← get with
  | [] => refuse unended.toList
  | sign :: rest =>
    set rest
    let pattern ← takeUpTo (fun letters => upTo sign (letters.length + 1) letters) unended
    let replacement ← takeUpTo (plainUpTo sign) unended
    let manner ← readManner ((← get).length + 1) ⟨[], none, none⟩
    let has (letter : Char) := manner.flags.contains letter
    let isSmall := has 'i' || has 'I'
    let regex ← regexOf style isSmall (has 'm' || has 'M') pattern
    let pieces := piecesOf replacement.length replacement
    let greatest := pieces.foldl (fun greatest piece => match piece with
      | .group number => max greatest number
      | _ => greatest) 0
    if regex.any fun regex => groupCount regex < greatest then
      refuse ("invalid reference \\".toList ++ digitsOf (greatest : Nat) ++
        " on \x60s' command's RHS".toList)
    return .exchange ⟨regex, isSmall, pieces, manner.start.getD 1, has 'g', has 'p', manner.target⟩

/-- The letters that one side of an exchange of letters spells. -/
def lettersSpelt : (fuel : Nat) → Letters → Letters
  -- Other escapes keep their backslash.
  | fuel + 1, '\\' :: rest =>
    match rest.head?, escaped? rest with
    | some '\\', _ => '\\' :: lettersSpelt fuel (rest.drop 1)
    | _, some (letter, after) => letter :: lettersSpelt fuel after
    | _, none => '\\' :: lettersSpelt fuel rest
  | fuel + 1, letter :: rest => letter :: lettersSpelt fuel rest
  | _, _ => []

/-- Reads the rest of an exchange of letters. -/
def readTranslation : Reading Deed := do
  -- Both sides have the same length.
  let unended := "unterminated \x60y' command"
  match ← get with
  | [] => refuse unended.toList
  | sign :: rest =>
    set rest
    let left ← takeUpTo (plainUpTo sign) unended
    let right ← takeUpTo (plainUpTo sign) unended
    let left := lettersSpelt left.length left
    let right := lettersSpelt right.length right
    if left.length ≠ right.length then
      refuse "strings for \x60y' command are different lengths".toList
    return .translate (left.zip right)

/-- A text up to the end of a line that is not escaped, and what is left then. -/
def textOf : (fuel : Nat) → Letters → Letters × Letters
  -- A backslash keeps the letter after it.
  | fuel + 1, '\\' :: rest =>
    match escaped? rest, rest with
    | some (letter, after), _ =>
      let (value, left) := textOf fuel after
      (letter :: value, left)
    | none, letter :: after =>
      let (value, left) := textOf fuel after
      (letter :: value, left)
    | none, [] => ([], [])
  | _, '\n' :: rest => ([], rest)
  | fuel + 1, letter :: rest =>
    let (value, left) := textOf fuel rest
    (letter :: value, left)
  | _, letters => ([], letters)

/-- Reads a text that is to be written. -/
def readText : Reading Letters := do
  -- A backslash before it keeps its blanks, and may stand before a line end in front of it.
  takeGap
  if (← get).isEmpty then refuse "expected \\ after \x60a', \x60c' or \x60i'".toList
  if ← takeSign '\\' then
    let letters ← get
    if (letters.dropWhile isGap).head? = some '\n' then set ((letters.dropWhile isGap).drop 1)
    else if letters.head?.any fun letter => letter ≠ '\\' && !isGap letter then
      let (value, after) := textOf letters.length (letters.drop 1)
      set after
      return letters.take 1 ++ value ++ ['\n']
  let letters ← get
  if letters.isEmpty then return []
  let (value, after) := textOf letters.length letters
  set after
  return value ++ ['\n']

/-- Reads a name up to a blank or a sign. -/
def readName : Reading Letters := do
  -- Blanks before it do not count.
  takeGap
  takeWhile fun letter => !isBlank letter && letter ≠ ';'

/-- Reads the end of a command. -/
def readEnd : Reading Unit := do
  -- A brace that closes others, or a remark, may follow at once.
  takeGap
  match ← get with
  | [] => return
  | letter :: rest =>
    if letter = '\x7d' || letter = '#' then return
    set rest
    if letter ≠ '\n' && letter ≠ ';' then refuse "extra characters after command".toList

/-- Reads what a command does, with what comes up to its end. -/
def readDeed (style : RegexStyle) (range : Range) : Reading Deed := do
  -- Its letter comes first.
  match ← get with
  | [] => refuse "missing command".toList
  | letter :: rest =>
    set rest
    if range.first = some (.line 0) &&
        !(match range.bound with | some (.address (.matching ..)) => true | _ => false) then
      refuse "invalid usage of line address 0".toList
    let ended (deed : Deed) : Reading Deed := readEnd *> pure deed
    match letter with
    | '\x7b' => return .opening
    | '\x7d' =>
      if range.first.isSome then refuse "\x60\x7d' doesn't want any addresses".toList
      ended .closing
    | ':' =>
      if range.first.isSome then refuse ": doesn't want any addresses".toList
      let name ← readName
      if name.isEmpty then refuse "\":\" lacks a label".toList
      return .label name
    | 'b' => return .jump .always (← target)
    | 't' => return .jump .changed (← target)
    | 'T' => return .jump .unchanged (← target)
    | 's' => readExchange style
    | 'y' => ended (← readTranslation)
    | 'i' => return .before (← readText)
    | 'a' => return .after (← readText)
    | 'c' => return .change (← readText)
    | 'r' | 'R' => return .file (← readPath) (letter = 'R')
    | 'w' | 'W' => return .write (← readPath) (letter = 'W')
    | 'l' =>
      takeGap
      ended (.unfold (← takeNumber))
    | 'q' | 'Q' => do
      if range.bound.isSome then refuse "command only uses one address".toList
      takeGap
      ended (.quit (letter = 'Q') ((← takeNumber).getD 0))
    | 'v' =>
      let _ ← readName
      ended (.plain 'v')
    | _ =>
      if "dDpPnNhHgGx=zF".toList.contains letter then ended (.plain letter)
      else refuse ("unknown command: \x60".toList ++ [letter, '\''])
where
  /-- Reads where a jump leads. -/
  target : Reading Letters := do
    -- A brace ends the name too.
    takeGap
    let name ← takeWhile fun letter => !isBlank letter && letter ≠ ';' && letter ≠ '\x7d'
    let _ ← takeSign ';'
    return name

/-- Reads commands, with the number of braces that are open. -/
def readAll (style : RegexStyle) : (fuel depth : Nat) → Reading (List Command)
  -- Signs part them from each other, and remarks are left out.
  | 0, _ => return []
  | fuel + 1, depth => do
    let _ ← takeWhile fun letter => letter = ';' || isBlank letter
    if (← get).isEmpty then
      if depth ≠ 0 then throw (.whole "unmatched \x60\x7b'".toList)
      return []
    let range ← readRange style
    if ← takeSign '#' then
      if range.first.isSome then refuse "comments don't accept any addresses".toList
      let _ ← takeWhile (· ≠ '\n')
      readAll style fuel depth
    else
      if depth = 0 && (← get).head? = some '\x7d' then
        modify (List.drop 1)
        refuse "unexpected \x60\x7d'".toList
      let deed ← readDeed style range
      let depth := match deed with
        | .opening => depth + 1
        | .closing => depth - 1
        | _ => depth
      return ⟨range, deed⟩ :: (← readAll style fuel depth)

/-- The commands that letters spell. -/
def read (style : RegexStyle) (script : Letters) : Except Fault (List Command) := do
  -- Jumps need their labels.
  let (commands, _) ← (readAll style (script.length + 1) 0).run script
  let labels := commands.filterMap fun command => match command.deed with
    | .label name => some name
    | _ => none
  for command in commands do
    if let .jump _ name := command.deed then
      if !name.isEmpty && !labels.contains name then 
        throw (.placeless ("can't find label for jump to \x60".toList ++ name ++ ['\'']))
  return commands

end Wakeful.Shell.Edit
