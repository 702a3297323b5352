import Wakeful.FileTree.Listing
import Wakeful.Shell.Quoting

/-!
What a program is given, what it comes to, and how it understands the choices among its arguments.
-/

namespace Wakeful.Shell

/-- What a program is given. -/
structure Task where
  /-- The name by which it was called. -/
  name : Letters
  /-- Its arguments. -/
  arguments : List Letters
  /-- What it can read. -/
  input : Letters
  /-- Whether what it reads comes from a file, so that it can go back in it. -/
  rewinds : Bool
  /-- Why it can read nothing, if it is refused. -/
  refusal : Option Errno
  /-- The files and the directory in which it works. -/
  workplace : Workplace
  /-- The lines of its environment. -/
  settings : List Letters

/-- What a program comes to. -/
structure Result where
  /-- Its exit code. -/
  code : Nat
  /-- What it has written in turn, each text with the number of its descriptor. -/
  written : List (Nat × Letters)
  /-- What it has left unread. -/
  rest : Letters
  /-- The files after it. -/
  workplace : Workplace

/-- A step of a program that runs others. -/
inductive Step where
  /-- It writes a text to a descriptor. -/
  | say (descriptor : Nat) (text : Letters)
  /-- It runs a command, whose failure may make it fail too. -/
  | call (command : List Letters) (counts : Bool)
  deriving DecidableEq, Repr

namespace Task

/-- A program that writes something without reading. -/
def saying (task : Task) (code : Nat) (output : Letters) : Result :=
  -- The files stay as they are.
  ⟨code, [(1, output)], task.input, task.workplace⟩

/-- A program that has read everything and writes something. -/
def answering (task : Task) (code : Nat) (output : Letters) : Result :=
  -- Nothing is left to read.
  ⟨code, [(1, output)], [], task.workplace⟩

/-- A complaint with the name of the program before it, as a line. -/
def complaint (task : Task) (words : Letters) : Letters :=
  -- The name is the one by which it was called.
  task.name ++ ": ".toList ++ words ++ ['\n']

/-- A program that only complains. -/
def failing (task : Task) (code : Nat) (words : Letters) : Result :=
  -- Complaints have a descriptor of their own.
  ⟨code, [(2, task.complaint words)], task.input, task.workplace⟩

/-- A program that complains about how it was called. -/
def misused (task : Task) (code : Nat) (words : Letters) : Result :=
  -- It says how to find out more.
  let advice := "Try '".toList ++ task.name ++ " --help' for more information.\n".toList
  ⟨code, [(2, task.complaint words ++ advice)], task.input, task.workplace⟩

/-- A program that complains about a path because the system refused something. -/
def refused (task : Task) (path : Letters) (reason : Errno) : Letters :=
  -- The path comes before the reason.
  task.complaint (Quoting.name path ++ ": ".toList ++ reason.text.toList)

/--
A program that complains about something without regard to
its letters because the system refused it.
-/
def refusedBare (task : Task) (path : Letters) (reason : Errno) : Letters :=
  -- The path comes before the reason.
  task.complaint (path ++ ": ".toList ++ reason.text.toList)

/-- The paths that stand for what a program can read anyway. -/
def ownInput : List Letters :=
  ["-".toList, "/dev/stdin".toList, "/dev/fd/0".toList, "/proc/self/fd/0".toList]

/-- What a program can read anyway. -/
def given (task : Task) : Except Errno Letters :=
  -- Even this may be refused.
  match task.refusal with
  | some reason => .error reason
  | none => .ok task.input

/-- The contents of a file for a program. -/
def file (task : Task) (path : Letters) : Except Errno Letters :=
  -- A few paths stand for what can be read anyway.
  if path ∈ ownInput then task.given
  else match task.workplace.contentsOf (octetsOf path) with
    | .ok contents => .ok (lettersOf contents)
    | .error (.refused reason) => .error reason
    | .error _ => .error .notFound

/-- The contents of files in turn, each with its name, or what can be read if there are none. -/
def files (task : Task) (paths : List Letters) : List (Letters × Except Errno Letters) :=
  -- What can be read is read only once.
  if paths.isEmpty then [(['-'], task.given)]
  else paths.zipIdx.map fun (path, place) =>
    if path ∈ ownInput && (paths.take place).any (· ∈ ownInput) then
      (path, .ok [])
    else
      (path, task.file path)

/-- What is left to read after a program has read files. -/
def restAfter (task : Task) (paths : List Letters) : Letters :=
  -- Without files everything has been read.
  if paths.isEmpty || paths.any (· ∈ ownInput) then [] else task.input

/-- The complaints about files that cannot be read. -/
def complaints (task : Task) (files : List (Letters × Except Errno Letters)) :
    List (Nat × Letters) :=
  -- They come in the order of the files.
  files.filterMap fun (path, contents) => match contents with
    | .ok _ => none
    | .error reason => some (2, task.refused path reason)

/-- The result of a program that makes one text out of the contents of all files. -/
def gathering (task : Task) (paths : List Letters) (failure : Nat)
    (make : Letters → Letters) : Result :=
  -- Files that cannot be read are left out and make it fail.
  let files := task.files paths
  let complaints := task.complaints files
  let gathered := files.flatMap fun file => file.2.toOption.getD []
  ⟨if complaints.isEmpty then 0 else failure, complaints ++ [(1, make gathered)],
    task.restAfter paths, task.workplace⟩

/-- The result of a program that makes a text out of the contents of each file. -/
def gatheringEach (task : Task) (paths : List Letters) (failure : Nat)
    (make : Letters → Letters) : Result :=
  -- The texts come one after the other.
  let files := task.files paths
  let complaints := task.complaints files
  let made := files.flatMap fun file => make (file.2.toOption.getD [])
  ⟨if complaints.isEmpty then 0 else failure, complaints ++ [(1, made)], task.restAfter paths,
    task.workplace⟩

end Task

/-- The outcome of an operation on files as a refusal or as the files after it. -/
def settled {α : Type} (outcome : Workplace.Outcome α) : Except Errno Workplace :=
  -- Other failures do not come up here.
  match outcome with
  | (.ok _, after) => .ok after
  | (.error (.refused reason), _) => .error reason
  | (.error _, _) => .error .invalid

/-- The choices that a program knows. -/
structure ChoiceTable where
  /-- The letters of choices that stand alone. -/
  flags : String
  /-- The letters of choices with a value. -/
  valued : String
  /-- The long words for such letters. -/
  words : List (String × Char)
  /-- Whether choices count after other arguments too. -/
  anywhere : Bool

/-- Choices in turn, each with its value, and the other arguments. -/
structure Choices where
  /-- The choices with their values, which are empty for those that stand alone. -/
  chosen : List (Char × Letters)
  /-- The other arguments. -/
  operands : List Letters

namespace Choices

/-- Whether a choice has been made. -/
def has (choices : Choices) (letter : Char) : Bool := choices.chosen.any (·.1 = letter)

/-- The value of a choice, of which the last counts. -/
def value? (choices : Choices) (letter : Char) : Option Letters :=
  -- A later one takes the place of an earlier one.
  (choices.chosen.filter (·.1 = letter)).getLast?.map (·.2)

/-- The values of a choice. -/
def values (choices : Choices) (letter : Char) : List Letters :=
  -- All of them count.
  (choices.chosen.filter (·.1 = letter)).map (·.2)

/-- The choices with one more before the others. -/
def withChoice (choices : Choices) (letter : Char) (value : Letters) : Choices :=
  -- The order is that of the arguments.
  { choices with chosen := (letter, value) :: choices.chosen }

/-- The choices with another argument before the others. -/
def withOperand (choices : Choices) (operand : Letters) : Choices :=
  -- The order is that of the arguments.
  { choices with operands := operand :: choices.operands }

/--
Reads the letters of choices in one argument; a choice that
needs a value may find it in the next argument.
-/
def readLetters (table : ChoiceTable) :
    Letters → Except Letters (List (Char × Letters) × Option Char)
  -- What follows the letter of such a choice is its value.
  | [] => .ok ([], none)
  | letter :: rest =>
    if table.valued.toList.contains letter then
      if rest.isEmpty then .ok ([], some letter) else .ok ([(letter, rest)], none)
    else if table.flags.toList.contains letter then
      (readLetters table rest).map fun (others, waiting) => ((letter, []) :: others, waiting)
    else .error ("invalid option -- '".toList ++ [letter, '\''])

/-- Reads a choice that is a long word, with the value that follows a sign of equality. -/
def readWord (table : ChoiceTable) (word : Letters) : Except Letters (Char × Option Letters) :=
  -- The beginning of a word is enough if no other begins like it.
  let name := word.takeWhile (· != '=')
  let value := if name.length < word.length then some (word.drop (name.length + 1)) else none
  let found := table.words.filter fun entry => name.isPrefixOf entry.1.toList
  match table.words.find? (·.1.toList = name), found with
  | some (_, letter), _ | none, [(_, letter)] => .ok (letter, value)
  | none, _ => .error ("unrecognized option '--".toList ++ word ++ ['\''])

/-- Reads choices among arguments. -/
def read (table : ChoiceTable) : List Letters → Except Letters Choices
  -- Two signs alone end the choices.
  | [] => .ok ⟨[], []⟩
  | ['-', '-'] :: rest => .ok ⟨[], rest⟩
  | ('-' :: '-' :: word) :: rest =>
    match readWord table word with
    | .error words => .error words
    | .ok (letter, value) =>
      if value.isNone && table.valued.toList.contains letter then
        match rest with
        | next :: others => (read table others).map (·.withChoice letter next)
        | [] => .error ("option '--".toList ++ word ++ "' requires an argument".toList)
      else (read table rest).map (·.withChoice letter (value.getD []))
  | ('-' :: letter :: more) :: rest =>
    match readLetters table (letter :: more) with
    | .error words => .error words
    | .ok (chosen, none) =>
      (read table rest).map fun others => { others with chosen := chosen ++ others.chosen }
    | .ok (chosen, some last) =>
      match rest with
      | next :: others =>
        (read table others).map fun others =>
          { others with chosen := chosen ++ (last, next) :: others.chosen }
      | [] => .error ("option requires an argument -- '".toList ++ [last, '\''])
  | operand :: rest =>
    if table.anywhere then
      (read table rest).map (·.withOperand operand)
    else
      .ok ⟨[], operand :: rest⟩

end Choices

/-- A program that goes by its choices, with the code for choices that it does not know. -/
def withChoices (table : ChoiceTable) (failure : Nat) (act : Task → Choices → Result)
    (task : Task) : Result :=
  -- Nothing is done if the choices cannot be understood.
  match Choices.read table task.arguments with
  | .ok choices => act task choices
  | .error words => task.misused failure words

end Wakeful.Shell
