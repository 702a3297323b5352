import Wakeful.Shell.Script

/-! Reading scripts from letters, one line of commands after the other. -/

namespace Wakeful.Shell

/-- What is wrong with a script. -/
structure Misspelling where
  /-- The line. -/
  line : Nat
  /-- What is wrong there. -/
  complaint : String
  deriving DecidableEq, Repr

/-- A text that follows the line that asks for it. -/
structure Awaited where
  /-- Its number. -/
  number : Nat
  /-- The line that ends it. -/
  ending : Letters
  /-- Whether tabulators at the beginning of its lines are left out. -/
  stripsTabs : Bool
  /-- Whether it stands for itself. -/
  isLiteral : Bool
  deriving DecidableEq, Repr

/-- What is left of a script to read. -/
structure Source where
  /-- The letters that are left. -/
  rest : Letters
  /-- The number of the line. -/
  line : Nat
  /-- The texts that follow this line. -/
  awaited : List Awaited
  /-- The texts that have been read, by their numbers. -/
  documents : List (Nat × List Part)
  /-- The short names for commands that can still be replaced. -/
  aliases : List (String × Letters)

/-- The source at the beginning of letters, with the texts that are known already. -/
def Source.ofLetters (documents : List (Nat × List Part)) (line : Nat)
    (letters : Letters) : Source :=
  -- Nothing is asked for yet.
  ⟨letters, line, [], documents, []⟩

/-- Reading a part of a script. -/
abbrev Reader := StateT Source (Except Misspelling)

namespace Reader

/-- Gives up with a complaint about the present line. -/
def fail {α : Type} (complaint : String) : Reader α := do
  -- The complaint says what is wrong, and not where.
  throw ⟨(← get).line, complaint⟩

/-- The number of letters in line ends that do not count, because a backslash stands before them. -/
def joinedLength : Letters → Nat
  | '\\' :: '\n' :: rest => joinedLength rest + 2
  | _ => 0

/-- Passes over so many letters. -/
def drop (count : Nat) : Reader Unit :=
  -- The lines go on being counted.
  modify fun source => { source with
    rest := source.rest.drop count, line := source.line + (source.rest.take count).count '\n' }

/-- The letters that are left after line ends that do not count. -/
def rest : Reader Letters := do
  -- Those line ends are passed over for good.
  drop (joinedLength (← get).rest)
  return (← get).rest

/-- The number of letters in blanks. -/
def blankLength : Letters → Nat
  -- A line end after a backslash counts as nothing.
  | '\\' :: '\n' :: rest => blankLength rest + 2
  | ' ' :: rest | '\t' :: rest => blankLength rest + 1
  | _ => 0

/-- Passes over blanks and over a remark. -/
def skipBlanks : Reader Unit := do
  -- A remark ends before the end of its line.
  drop (blankLength (← get).rest)
  match (← get).rest with
  | '#' :: remark => drop ((remark.takeWhile (· != '\n')).length + 1)
  | _ => return

/-- Whether certain letters come next. -/
def isNext (text : String) : Reader Bool := return text.toList.isPrefixOf (← rest)

/-- The plain word that comes next. -/
def nextWord : Reader Letters := do
  -- Quotes and everything else in it count as they are.
  skipBlanks
  return (← rest).takeWhile (!Script.endsWord ·)

/-- The operators that open or copy descriptors, the longest first. -/
def openers : List String := ["<<-", "<<", "<&", "<>", ">>", ">&", ">|", "<", ">"]

/-- The other operators, the longest first. -/
def operators : List String := ["&&", "||", ";;", "&", ";", "|", "(", ")"]

/-- Words that are part of commands where a command may begin. -/
def reserved : List String :=
  -- The sign for inversion is one of them.
  ["!", "\x7b", "\x7d", "case", "do", "done", "elif", "else", "esac", "fi", "for", "if", "in",
    "then", "until", "while"]

/-- Words that close what others have opened. -/
def closers : List String := ["then", "else", "elif", "fi", "do", "done", "esac", "\x7d"]

/-- How a complaint calls what comes next. -/
def nextName : Reader String := do
  -- Operators and reserved words are quoted.
  skipBlanks
  let letters ← rest
  let starts (text : String) := text.toList.isPrefixOf letters
  let word := String.ofList (← nextWord)
  return if letters.isEmpty then "end of file"
    else if starts "\n" then "newline"
    else if openers.any starts then "redirection"
    else match operators.find? starts with
      | some operator => "\"" ++ operator ++ "\""
      | none => if reserved.contains word then "\"" ++ word ++ "\"" else "word"

/-- Complains about what comes next. -/
def unexpected {α : Type} (expected : Option String) : Reader α := do
  -- What should have come is mentioned if only one thing could.
  fail ("Syntax error: " ++ (← nextName) ++ " unexpected"
    ++ expected.elim "" fun text => " (expecting \"" ++ text ++ "\")")

/-- Takes a word that has to come next. -/
def expectWord (word : String) : Reader Unit := do
  -- Anything else is unexpected.
  if (← nextWord) = word.toList then drop word.length else unexpected (some word)

/-- Takes an operator that has to come next. -/
def expect (operator : String) : Reader Unit := do
  -- Blanks may stand in front of it.
  skipBlanks
  if ← isNext operator then drop operator.length else unexpected (some operator)

/-- Whether nothing more comes that belongs to the commands around this place. -/
def atClose : Reader Bool := do
  -- A closing word, a closing parenthesis, the end of a branch and the end of all close them.
  let word := String.ofList (← nextWord)
  return closers.contains word || (← rest).isEmpty || (← isNext ")") || (← isNext ";;")

/-- What is being read up to an end of its own. -/
inductive Stretch where
  /-- A word, which blanks and operators end. -/
  | word
  /-- Letters between double quotes. -/
  | quotes
  /-- What goes with a parameter up to the closing brace, between double quotes or not. -/
  | braces (quoted : Bool)
  /-- A text that stands in the script. -/
  | document
  /-- A calculation with so many open parentheses. -/
  | sum (depth : Nat)
  deriving DecidableEq, Repr

namespace Stretch

/-- Whether the letters count as quoted. -/
def isQuoted : Stretch → Bool
  -- Texts and calculations are like what stands between double quotes.
  | word | braces false => false
  | quotes | braces true | document | sum _ => true

/-- The letters that lose their meaning after a backslash, where most do not. -/
def guarded : Stretch → List Char
  -- Double quotes mean nothing in a text.
  | document => ['$', '\x60', '\\']
  | braces _ => ['$', '\x60', '\\', '"', '\x7d']
  | _ => ['$', '\x60', '\\', '"']

/-- The number of letters that end the stretch, if it ends here. -/
def ending? : Stretch → Letters → Option Nat
  -- What ends a word is not part of it.
  | word, letter :: _ => if Script.endsWord letter then some 0 else none
  | quotes, '"' :: _ => some 1
  | braces _, '\x7d' :: _ => some 1
  | sum 0, ')' :: ')' :: _ => some 2
  | word, [] | document, [] => some 0
  | _, _ => none

/-- What is wrong if everything ends before the stretch does. -/
def complaint : Stretch → String
  -- Words and texts may end with everything else.
  | braces false => "Syntax error: Missing '\x7d'"
  | sum _ => "Syntax error: Missing '))'"
  | _ => "Syntax error: Unterminated quoted string"

/-- The stretch after a letter. -/
def after : Stretch → Char → Stretch
  -- Only parentheses in calculations matter.
  | sum depth, '(' => sum (depth + 1)
  | sum (depth + 1), ')' => sum depth
  | stretch, _ => stretch

end Stretch

/-- The script between backquotes and the number of letters up to its end, if it ends. -/
def backquoted (quoted : Bool) : Letters → Option (Letters × Nat)
  -- A backslash takes away the meaning of itself, of a backquote and of a sign for a value.
  | [] => none
  | '\x60' :: _ => some ([], 1)
  | '\\' :: letter :: rest =>
    (backquoted quoted rest).map fun (inner, count) =>
      (if letter ∈ ['\\', '\x60', '$'] || quoted && letter = '"' then letter :: inner
        else '\\' :: letter :: inner, count + 2)
  | letter :: rest =>
    (backquoted quoted rest).map fun (inner, count) => (letter :: inner, count + 1)

/-- A text up to the line that ends it, and the number of letters up to the end of that line. -/
def documentText (awaited : Awaited) (letters : Letters) : Letters × Nat :=
  -- Without such a line the text goes on to the end of everything.
  let strip (line : Letters) := if awaited.stripsTabs then line.dropWhile (· = '\t') else line
  let body := (lines letters).takeWhile fun line => strip line != awaited.ending
  let length := (unlines body).length
  let text := unlines (body.map strip)
  (if letters.length < length then text.dropLast else text,
    length + ((letters.drop length).takeWhile (· != '\n')).length + 1)

/-- The parameters whose names are single signs. -/
def signs : List Char := ['@', '*', '#', '?', '-', '$', '!']

/--
The name of a parameter at the beginning of letters between
braces, and whether its length is asked for.
-/
def bracedName : Letters → Option (String × Bool)
  -- The sign for a length is itself a parameter, and then an operator or the end comes next.
  | '#' :: letter :: rest =>
    if Script.continuesName letter then
      let name := if letter.isDigit then (letter :: rest).takeWhile Char.isDigit
        else (letter :: rest).takeWhile Script.continuesName
      some (String.ofList name, true)
    else if letter ∈ signs && rest.head? = some '\x7d' then some (letter.toString, true)
    else some ("#", false)
  | letter :: rest =>
    if letter.isDigit then some (String.ofList ((letter :: rest).takeWhile Char.isDigit), false)
    else if Script.beginsName letter then some ((Script.readName (letter :: rest)).1, false)
    else if letter ∈ signs then some (letter.toString, false)
    else none
  | [] => none

/--
What is made of a parameter by an operator, once the word
after it is known, with the length of the operator.
-/
def bracedUse : Letters → Option (Nat × (List Part → Use))
  -- A colon makes an empty value count as missing, and a doubled sign asks for the longest match.
  | ':' :: '-' :: _ => some (2, .otherwise true)
  | ':' :: '=' :: _ => some (2, .assigned true)
  | ':' :: '?' :: _ => some (2, .required true)
  | ':' :: '+' :: _ => some (2, .replaced true)
  | '-' :: _ => some (1, .otherwise false)
  | '=' :: _ => some (1, .assigned false)
  | '?' :: _ => some (1, .required false)
  | '+' :: _ => some (1, .replaced false)
  | '%' :: '%' :: _ => some (2, .trimmed true true)
  | '%' :: _ => some (1, .trimmed true false)
  | '#' :: '#' :: _ => some (2, .trimmed false true)
  | '#' :: _ => some (1, .trimmed false false)
  | _ => none

/-- Whether a word after an operator is read as if it stood outside quotes. -/
def isPatternUse (letters : Letters) : Bool :=
  -- Patterns keep their signs between quotes too.
  letters.head? = some '%' || letters.head? = some '#'

mutual

/-- Reads the parts of a stretch up to its end, which is taken. -/
def readParts : (fuel : Nat) → Stretch → Reader (List Part)
  | 0, _ => fail "Syntax error: Too long"
  | fuel + 1, stretch => do
    -- Each part comes before those that are read after it.
    let letters ← rest
    match stretch.ending? letters, letters with
    | some count, _ => drop count *> pure []
    | none, [] => fail stretch.complaint
    | none, letter :: following =>
      let quoted := stretch.isQuoted
      drop 1
      let parts ← match letter, quoted with
        | '\\', true =>
          if following.head?.any (stretch.guarded.contains ·) then
            drop 1 *> pure [.letters (following.take 1) true]
          else pure [.letters ['\\'] true]
        | '\\', false =>
          drop 1 *> pure [.letters (if following.isEmpty then ['\\'] else following.take 1) true]
        | '\'', false =>
          let inner := following.takeWhile (· != '\'')
          if inner.length = following.length then fail Stretch.quotes.complaint
          else drop (inner.length + 1) *> pure [.letters inner true]
        | '"', _ =>
          if !quoted || stretch = .braces true then
            pure (.letters [] true :: (← readParts fuel .quotes))
          else pure [.letters ['"'] true]
        | '$', _ => readDollar fuel quoted
        | '\x60', _ => readBackquotes fuel quoted
        | _, _ => pure [.letters [letter] quoted]
      let others ← readParts fuel (stretch.after letter)
      return parts.foldr Script.push others

/-- Reads what follows a sign for a value. -/
def readDollar : (fuel : Nat) → (quoted : Bool) → Reader (List Part)
  | 0, _ => fail "Syntax error: Too long"
  | fuel + 1, quoted => do
    -- A sign before anything else stands for itself.
    match ← rest with
    | '(' :: '(' :: _ =>
      drop 2
      return [.sum (← readParts fuel (.sum 0)) quoted]
    | '(' :: _ =>
      drop 1
      let script ← readList fuel true
      expect ")"
      return [.output script quoted]
    | '\x7b' :: _ =>
      drop 1
      readBraces fuel quoted
    | letter :: following =>
      if Script.beginsName letter then
        let (name, _) := Script.readName (letter :: following)
        drop name.length
        return [.parameter name .value quoted]
      else if letter.isDigit || letter ∈ signs then
        drop 1
        return [.parameter letter.toString .value quoted]
      else return [.letters ['$'] quoted]
    | [] => return [.letters ['$'] quoted]

/-- Reads a parameter between braces. -/
def readBraces : (fuel : Nat) → (quoted : Bool) → Reader (List Part)
  | 0, _ => fail "Syntax error: Too long"
  | fuel + 1, quoted => do
    -- What cannot be understood is found out only when it is used.
    match bracedName (← rest) with
    | none =>
      let _ ← readParts fuel (.braces quoted)
      return [.parameter "" .unknown quoted]
    | some (name, isLength) =>
      drop (name.length + if isLength then 1 else 0)
      let letters ← rest
      if letters.head? = some '\x7d' then
        drop 1
        return [.parameter name (if isLength then .length else .value) quoted]
      match if isLength then none else bracedUse letters with
      | some (count, use) =>
        drop count
        let word ← readParts fuel (.braces (quoted && !isPatternUse letters))
        return [.parameter name (use (Script.withHome word)) quoted]
      | none =>
        let _ ← readParts fuel (.braces quoted)
        return [.parameter name .unknown quoted]

/-- Reads a script between backquotes. -/
def readBackquotes : (fuel : Nat) → (quoted : Bool) → Reader (List Part)
  | 0, _ => fail "Syntax error: Too long"
  | fuel + 1, quoted => do
    -- The script is read by itself once its own backslashes have
    -- been carried out, and what it cannot hold is left.
    let letters := (← get).rest
    match backquoted quoted letters with
    | none => fail "Syntax error: EOF in backquote substitution"
    | some (inner, count) =>
      let line := (← get).line
      modify ({ · with rest := inner, line := 1 })
      let script ← readList fuel true
      modify ({ · with rest := letters, line })
      drop count
      return [.output script quoted]

/-- Reads the text that follows a line. -/
def readDocument : (fuel : Nat) → Awaited → Reader Unit
  | 0, _ => fail "Syntax error: Too long"
  | fuel + 1, awaited => do
    -- The values in it are found when it is used.
    let (text, count) := documentText awaited (← get).rest
    let line := (← get).line
    drop count
    let following ← get
    let parts ← if awaited.isLiteral then pure [.letters text true] else do
      modify ({ · with rest := text, line })
      tryCatch (readParts fuel .document) fun fault =>
        throw { fault with complaint :=
          if fault.complaint = Stretch.quotes.complaint then
            (Stretch.braces false).complaint
          else
            fault.complaint }
    modify fun source => { source with
      rest := following.rest, line := following.line,
      documents := (awaited.number, parts) :: source.documents }

/-- Passes over line ends, blanks and remarks. -/
def skipLines : (fuel : Nat) → Reader Unit
  | 0 => fail "Syntax error: Too long"
  | fuel + 1 => do
    -- The texts that a line asks for come right after it.
    skipBlanks
    if ← isNext "\n" then
      drop 1
      let awaited := (← get).awaited
      modify fun source => { source with awaited := [] }
      awaited.forM fun one => readDocument fuel one
      skipLines fuel

/-- Reads a redirection, if one comes next. -/
def readRedirection? : (fuel : Nat) → Reader (Option Redirection)
  | 0 => fail "Syntax error: Too long"
  | fuel + 1 => do
    -- A number right before the operator names the descriptor.
    skipBlanks
    let letters ← rest
    let digits := letters.takeWhile Char.isDigit
    match openers.find? fun operator => operator.toList.isPrefixOf (letters.drop digits.length) with
    | none => return none
    | some operator =>
      drop (digits.length + operator.length)
      skipBlanks
      let word ← readWord fuel
      let usual := if operator.startsWith "<" then 0 else 1
      let descriptor := (number? digits).getD usual
      match operator with
      | "<<" | "<<-" =>
        let source ← get
        let number := source.documents.length + source.awaited.length
        let awaited :=
          ⟨number, (Script.plain? word).getD [], operator = "<<-", Script.isQuoted word⟩
        set { source with awaited := source.awaited ++ [awaited] }
        return some (.document descriptor number)
      | "<&" | ">&" => return some (.copy descriptor word)
      | "<" => return some (.file descriptor .reading word)
      | "<>" => return some (.file descriptor .both word)
      | ">>" => return some (.file descriptor .appending word)
      | ">|" => return some (.file descriptor .replacing word)
      | _ => return some (.file descriptor .writing word)

/-- Reads a word that has to come next. -/
def readWord : (fuel : Nat) → Reader (List Part)
  | 0 => fail "Syntax error: Too long"
  | fuel + 1 => do
    -- A word has at least one letter or quote.
    skipBlanks
    if (Stretch.word.ending? (← rest)).isSome then unexpected none
    return Script.withHome (← readParts fuel .word)

/-- Reads the rest of a command that has begun with settings, words and redirections. -/
def readSimple : (fuel : Nat) → (line : Nat) → List (String × List Part) → List (List Part) →
    List Redirection → Reader Script
  | 0, _, _, _, _ => fail "Syntax error: Too long"
  | fuel + 1, line, settings, words, redirections => do
    -- Settings count only before the first word, and a name before parentheses gets a meaning.
    match ← readRedirection? fuel with
    | some redirection => readSimple fuel line settings words (redirections ++ [redirection])
    | none =>
      let letters ← rest
      let isFirst := words.isEmpty && settings.isEmpty && redirections.isEmpty
      if letters.head? = some '(' && words.length = 1 && settings.isEmpty &&
          redirections.isEmpty then
        drop 1
        expect ")"
        let name := match words with
          | [[.letters name false]] => name
          | _ => []
        if !Script.isName name || specialCommands.contains (String.ofList name) then
          fail "Syntax error: Bad function name"
        skipLines fuel
        return .define (String.ofList name) (← readCommand fuel)
      else if (Stretch.word.ending? letters).isSome then
        return .simple line settings words redirections
      else
        let word ← readParts fuel .word
        let reached := (← get).line
        let line := if isFirst then reached else line
        match if words.isEmpty then Script.setting? word else none with
        | some setting => readSimple fuel line (settings ++ [setting]) words redirections
        | none => readSimple fuel line settings (words ++ [Script.withHome word]) redirections

/-- Reads the redirections after a script that is no simple command. -/
def readRedirections : (fuel : Nat) → (line : Nat) → Script → List Redirection → Reader Script
  | 0, _, _, _ => fail "Syntax error: Too long"
  | fuel + 1, line, script, redirections => do
    -- Without any the script stays as it is.
    match ← readRedirection? fuel with
    | some redirection => readRedirections fuel line script (redirections ++ [redirection])
    | none => return if redirections.isEmpty then script else .redirected line script redirections

/-- Reads a condition and what depends on it, up to the word that closes it. -/
def readChoice : (fuel : Nat) → Reader Script
  | 0 => fail "Syntax error: Too long"
  | fuel + 1 => do
    -- Another condition may take the place of the other script.
    let condition ← readList fuel false
    expectWord "then"
    let first ← readList fuel false
    let word := String.ofList (← nextWord)
    if word = "elif" then
      drop 4
      return .choice condition first (← readChoice fuel)
    else if word = "else" then
      drop 4
      let second ← readList fuel false
      expectWord "fi"
      return .choice condition first second
    else
      expectWord "fi"
      return .choice condition first .nothing

/-- Reads the script of a loop. -/
def readBody : (fuel : Nat) → Reader Script
  | 0 => fail "Syntax error: Too long"
  | fuel + 1 => do
    -- Two words enclose it.
    skipLines fuel
    expectWord "do"
    let body ← readList fuel false
    expectWord "done"
    return body

/-- Reads words up to the end of a line or a separator. -/
def readWords : (fuel : Nat) → Reader (List (List Part))
  | 0 => fail "Syntax error: Too long"
  | fuel + 1 => do
    -- There may be none.
    skipBlanks
    if (Stretch.word.ending? (← rest)).isSome then return []
    let word ← readWord fuel
    return word :: (← readWords fuel)

/-- Reads what comes after the word for a loop over words. -/
def readEach : (fuel : Nat) → (line : Nat) → Reader Script
  | 0, _ => fail "Syntax error: Too long"
  | fuel + 1, line => do
    -- Without words the arguments are taken.
    let name ← nextWord
    if !Script.isName name || specialCommands.contains (String.ofList name) then
      fail "Syntax error: Bad for loop variable"
    drop name.length
    skipLines fuel
    let words ← if (← nextWord) = ['i', 'n'] then do
        drop 2
        let words ← readWords fuel
        skipBlanks
        if !(← isNext "\n") && !((← isNext ";") && !(← isNext ";;")) then unexpected none
        if ← isNext ";" then drop 1
        pure (some words)
      else do
        if (← isNext ";") && !(← isNext ";;") then drop 1
        pure none
    return .each line (String.ofList name) words (← readBody fuel)

/-- Reads the patterns of a branch up to the parenthesis that closes them. -/
def readPatterns : (fuel : Nat) → Reader (List (List Part))
  | 0 => fail "Syntax error: Too long"
  | fuel + 1 => do
    -- Bars part them, and operators may stand in their places.
    skipBlanks
    let letters ← rest
    let pattern ← if (Stretch.word.ending? letters).isNone then readWord fuel else do
      drop ((operators.find? (·.toList.isPrefixOf letters)).elim 1 String.length)
      pure []
    skipBlanks
    if (← isNext "|") && !(← isNext "||") then
      drop 1
      return pattern :: (← readPatterns fuel)
    else
      expect ")"
      return [pattern]

/-- Reads branches up to the word that closes them. -/
def readBranches : (fuel : Nat) → Reader (List (List (List Part) × Script))
  | 0 => fail "Syntax error: Too long"
  | fuel + 1 => do
    -- The last branch may do without its end.
    skipLines fuel
    if (← nextWord) = "esac".toList then
      drop 4
      return []
    if ← isNext "(" then drop 1
    let patterns ← readPatterns fuel
    let body ← readList fuel true
    skipLines fuel
    if ← isNext ";;" then
      drop 2
      return (patterns, body) :: (← readBranches fuel)
    else if (← nextWord) = "esac".toList then
      drop 4
      return [(patterns, body)]
    else unexpected (some ";;")

/-- Reads a single command. -/
def readCommand : (fuel : Nat) → Reader Script
  | 0 => fail "Syntax error: Too long"
  | fuel + 1 => do
    -- Reserved words and parentheses open commands of their own, and short names are replaced once.
    let word := String.ofList (← nextWord)
    if let some value := (← get).aliases.lookup word then
      drop word.length
      modify fun source => { source with
        rest := value ++ source.rest, aliases := source.aliases.filter (·.1 != word) }
      return ← readCommand fuel
    let line := (← get).line
    match word with
    | "if" =>
      drop 2
      readRedirections fuel line (← readChoice fuel) []
    | "while" | "until" =>
      drop 5
      let condition ← readList fuel false
      readRedirections fuel line (.loop (word = "until") condition (← readBody fuel)) []
    | "for" =>
      drop 3
      readRedirections fuel line (← readEach fuel line) []
    | "case" =>
      drop 4
      skipBlanks
      if (Stretch.word.ending? (← rest)).isSome then
        fail ("Syntax error: " ++ (← nextName) ++ " unexpected (expecting word)")
      let subject ← readWord fuel
      skipLines fuel
      expectWord "in"
      readRedirections fuel line (.cases line subject (← readBranches fuel)) []
    | "\x7b" =>
      drop 1
      let script ← readList fuel false
      expectWord "\x7d"
      readRedirections fuel line script []
    | _ =>
      if ← isNext "(" then
        drop 1
        let script ← readList fuel false
        expect ")"
        readRedirections fuel line (.aside script) []
      else if reserved.contains word then unexpected none
      else
        let letters ← rest
        let opens := openers.any fun operator => operator.toList.isPrefixOf letters
        if (Stretch.word.ending? letters).isSome && !opens then unexpected none
        readSimple fuel line [] [] []

/-- Reads commands that are joined by pipes. -/
def readPipe : (fuel : Nat) → Reader Script
  | 0 => fail "Syntax error: Too long"
  | fuel + 1 => do
    -- A doubled bar is another operator.
    let first ← readCommand fuel
    skipBlanks
    if (← isNext "|") && !(← isNext "||") then
      drop 1
      skipLines fuel
      return .pipe first (← readPipe fuel)
    else return first

/-- Reads commands that are joined by pipes, possibly inverted. -/
def readPipeline : (fuel : Nat) → Reader Script
  | 0 => fail "Syntax error: Too long"
  | fuel + 1 => do
    -- The sign for inversion is a word of its own.
    if (← nextWord) = ['!'] then
      drop 1
      return .invert (← readPipe fuel)
    else readPipe fuel

/-- Reads what goes on after a condition. -/
def readCondition : (fuel : Nat) → (first : Script) → Reader Script
  | 0, _ => fail "Syntax error: Too long"
  | fuel + 1, first => do
    -- Conditions are taken from the left.
    skipBlanks
    if ← isNext "&&" then
      drop 2
      skipLines fuel
      readCondition fuel (.both first (← readPipeline fuel))
    else if ← isNext "||" then
      drop 2
      skipLines fuel
      readCondition fuel (.either first (← readPipeline fuel))
    else return first

/-- Reads a script and the separator after it. -/
def readStep : (fuel : Nat) → Reader (Script × Bool)
  | 0 => fail "Syntax error: Too long"
  | fuel + 1 => do
    -- Something more may come only after a separator.
    let first ← readCondition fuel (← readPipeline fuel)
    skipBlanks
    if ← isNext ";;" then return (first, false)
    else if ← isNext ";" then drop 1 *> pure (first, true)
    else if ← isNext "&" then drop 1 *> pure (.background first, true)
    else return (first, false)

/-- Reads scripts one after another up to what closes them. -/
def readList : (fuel : Nat) → (canBeEmpty : Bool) → Reader Script
  | 0, _ => fail "Syntax error: Too long"
  | fuel + 1, canBeEmpty => do
    -- Line ends and separators stand between them.
    skipLines fuel
    if (← rest).isEmpty || canBeEmpty && (← atClose) then return .nothing
    let (first, separated) ← readStep fuel
    skipBlanks
    if separated || (← isNext "\n") then
      skipLines fuel
      if ← atClose then return first
      return .sequence first (← readList fuel true)
    else return first

/-- Reads the scripts of one line. -/
def readLine : (fuel : Nat) → Reader Script
  | 0 => fail "Syntax error: Too long"
  | fuel + 1 => do
    -- The line end is left to somebody else.
    let (first, separated) ← readStep fuel
    skipBlanks
    if (← rest).isEmpty || (← isNext "\n") then return first
    if !separated then unexpected none
    return .sequence first (← readLine fuel)

end

/--
Reads the next line of commands, and whether everything has been
read after it; nothing is left if there is none.
-/
def next (fuel : Nat) : Reader (Option (Script × Bool)) := do
  -- The end of the last line counts as something that is left.
  skipLines fuel
  if (← rest).isEmpty then return none
  let script ← readLine fuel
  if (← rest).isEmpty then return some (script, true)
  skipLines fuel
  return some (script, false)

end Reader

end Wakeful.Shell
