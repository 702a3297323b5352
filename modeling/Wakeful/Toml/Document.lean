import Wakeful.Toml.Draft
import Wakeful.Toml.Moment
import Wakeful.Toml.Text

/-!
Documents are statements in lines: keys with values, and
headers that say which table the next keys belong to.
-/

namespace Wakeful.Toml

/-- The number of values that may be nested in each other, and of keys that dots may join. -/
def nestingLimit : Nat := 79

/-- Whether a character may stand in a key without quotes. -/
def isBareCharacter (character : Char) : Bool :=
  -- Letters and digits of the seven-bit range, underscores and dashes.
  character.isAlphanum || character = '_' || character = '-'

/-- Reads a key without dots. -/
def simpleKey? (characters : List Char) : Option (String × List Char) :=
  -- Quoted keys have the forms of texts on one line.
  match shortText? characters with
  | some read => some read
  | none =>
    match characters.takeWhile isBareCharacter with
    | [] => none
    | name => some (String.ofList name, characters.dropWhile isBareCharacter)

/-- Reads keys joined by dots, with those read so far in reverse. -/
def moreKeys? : (fuel : Nat) → (read : List String) → Reader (List String)
  -- Blanks may stand around every key.
  | 0, _, _ => none
  | fuel + 1, read, characters =>
    match simpleKey? (skipBlanks characters) with
    | none => none
    | some (key, rest) =>
      match skipBlanks rest with
      | '.' :: rest => moreKeys? fuel (key :: read) rest
      | rest => some ((key :: read).reverse, rest)

/-- Reads a key that may have dots, as the path to its table and its last part. -/
def key? (characters : List Char) : Option ((List String × String) × List Char) := do
  -- The number of parts is limited.
  let (keys, rest) ← moreKeys? nestingLimit [] characters
  return ((keys.dropLast, ← keys.getLast?), rest)

/-- Reads values in a row up to the closing bracket, with those read so far in reverse. -/
def items? (item : Reader Value) : (fuel : Nat) → (read : List Value) → Reader (List Value)
  -- Comments and line ends may stand anywhere, and a comma may come last.
  | 0, _, _ => none
  | fuel + 1, read, characters =>
    match skipSpace characters with
    | none => none
    | some (']' :: rest) => some (read.reverse, rest)
    | some characters =>
      match item characters with
      | none => none
      | some (value, rest) =>
        match skipSpace rest with
        | some (',' :: rest) => items? item fuel (value :: read) rest
        | some (']' :: rest) => some ((value :: read).reverse, rest)
        | _ => none

/-- Reads keys with values up to the closing brace into a table. -/
def pairs? (item : Reader Value) : (fuel : Nat) → Draft → Reader Draft
  -- Everything stands on one line, and no comma may come last.
  | 0, _, _ => none
  | fuel + 1, draft, characters =>
    match key? characters with
    | some ((path, key), '=' :: rest) =>
      match item (skipBlanks rest) with
      | none => none
      | some (value, rest) =>
        match draft.add path key value, skipBlanks rest with
        | some draft, ',' :: rest => pairs? item fuel draft rest
        | some draft, '}' :: rest => some (draft, rest)
        | _, _ => none
    | _ => none

/-- Reads a table within braces, after the opening one. -/
def inlineTable? (item : Reader Value) (characters : List Char) : Option (Value × List Char) :=
  -- Blanks alone are an empty table.
  match skipBlanks characters with
  | '}' :: rest => some (.table [], rest)
  | rest =>
    (pairs? item (rest.length + 1) .empty rest).map fun (draft, rest) => (.table draft.finish, rest)

/-- Reads a value that holds no others. -/
def plainValue? (characters : List Char) : Option (Value × List Char) :=
  -- The first characters decide about the kind.
  match characters with
  | '"' :: _ | '\'' :: _ => (text? characters).map fun (value, rest) => (.text value, rest)
  | 't' :: 'r' :: 'u' :: 'e' :: rest => some (.boolean true, rest)
  | 'f' :: 'a' :: 'l' :: 's' :: 'e' :: rest => some (.boolean false, rest)
  | _ => if announcesMoment characters then moment? characters else number? characters

/-- Reads a value that may hold others, nested at most as deep as given. -/
def value? : (depth : Nat) → Reader Value
  -- Each array or table uses up one level.
  | depth + 1, '[' :: rest =>
    (items? (value? depth) (rest.length + 1) [] rest).map fun (items, rest) => (.array items, rest)
  | depth + 1, '{' :: rest => inlineTable? (value? depth) rest
  | _, characters => plainValue? characters

/-- Where the keys that come next belong to. -/
inductive Section where
  /-- The document itself. -/
  | top
  /-- A table that a header declared. -/
  | table (path : List String) (key : String)
  /-- A table in a row that a header declared. -/
  | row (path : List String) (key : String)

/-- A document in the middle of its statements. -/
structure Progress where
  /-- Everything outside the current section. -/
  outside : Draft
  /-- The table of the current section. -/
  current : Draft
  /-- Where the current section belongs. -/
  place : Section

namespace Progress

/-- A document before its first statement. -/
def start : Progress :=
  -- The first keys belong to the document itself.
  ⟨.empty, .empty, .top⟩

/-- The document so far, with the current section put into its place. -/
def closed (progress : Progress) : Option Draft :=
  -- The document's own keys come before every header.
  match progress.place with
  | .top => some progress.current
  | .table path key => progress.outside.close path key progress.current
  | .row path key => progress.outside.push path key progress.current

/-- Adds a key with its value to the current section. -/
def add (progress : Progress) (path : List String) (key : String) (value : Value) :
    Option Progress :=
  -- Only the table of the section changes.
  (progress.current.add path key value).map fun current => { progress with current := current }

/-- Begins the section of a table. -/
def openTable (progress : Progress) (path : List String) (key : String) : Option Progress := do
  -- The table may hold what longer headers have already put into it.
  let outside ← progress.closed
  let (outside, current) ← outside.open? path key
  return ⟨outside, current, .table path key⟩

/-- Begins the section of one more table in a row. -/
def openRow (progress : Progress) (path : List String) (key : String) : Option Progress := do
  -- The table itself starts empty.
  let outside ← progress.closed
  if outside.canPush path key then return ⟨outside, .empty, .row path key⟩ else none

end Progress

/-- Reads a header after its first bracket. -/
def header? (progress : Progress) : Reader Progress
  -- A second bracket begins a table in a row.
  | '[' :: rest => do
    match ← key? rest with
    | ((path, key), ']' :: ']' :: rest) =>
      return (← progress.openRow path key, ← statementEnd? rest)
    | _ => none
  | rest => do
    match ← key? rest with
    | ((path, key), ']' :: rest) => return (← progress.openTable path key, ← statementEnd? rest)
    | _ => none

/-- Reads a key with its value. -/
def assignment? (progress : Progress) (characters : List Char) : Option (Progress × List Char) := do
  -- Nothing but a comment may follow on the line.
  match ← key? characters with
  | ((path, key), '=' :: rest) =>
    let (value, rest) ← value? nestingLimit (skipBlanks rest)
    return (← progress.add path key value, ← statementEnd? rest)
  | _ => none

/-- Reads one statement. -/
def statement? (progress : Progress) (characters : List Char) : Option (Progress × List Char) :=
  -- Comments and empty lines change nothing.
  match characters with
  | '#' :: _ | '\n' :: _ | '\r' :: _ => (statementEnd? characters).map fun rest => (progress, rest)
  | '[' :: rest => header? progress rest
  | _ => assignment? progress characters

/-- Reads statements to the end. -/
def statements? : (fuel : Nat) → Progress → List Char → Option Progress
  -- Every statement takes at least one character.
  | 0, _, _ => none
  | fuel + 1, progress, characters =>
    match skipBlanks characters with
    | [] => some progress
    | rest =>
      match statement? progress rest with
      | some (progress, rest) => statements? fuel progress rest
      | none => none

/-- What is left after a mark of the byte order. -/
def skipMark : List Char → List Char
  -- Only one such mark is passed over.
  | character :: rest => if character = Char.ofNat 0xFEFF then rest else character :: rest
  | [] => []

/-- The entries of a document. -/
def parse (document : String) : Option Entries := do
  -- The last section is closed by the end of the document.
  let characters := skipMark document.toList
  let progress ← statements? (characters.length + 1) .start characters
  return (← progress.closed).finish

end Wakeful.Toml
