import Wakeful.Text.Octets

/-!
What a command line may hold: commands, their options, and the pages of help that describe them.
-/

namespace Wakeful.CommandLine

/-- What an option is for. -/
inductive Purpose where
  /-- It asks for help. -/
  | help
  /-- It asks for the version. -/
  | version
  /-- It takes a path, which may not be empty. -/
  | path
  /-- It takes a text. -/
  | text
  deriving DecidableEq, Repr

/-- An option. -/
structure Choice where
  /-- Its letter. -/
  letter : Char
  /-- Its name. -/
  name : String
  /-- What it is for. -/
  purpose : Purpose
  /-- What it means. -/
  about : String
  deriving DecidableEq, Repr

namespace Choice

/-- Whether an option takes a value. -/
def takesValue (choice : Choice) : Bool :=
  -- Help and version are only asked for.
  match choice.purpose with
  | .path | .text => true
  | .help | .version => false

/-- An option with a sign for its value, as usage shows it. -/
def shown (choice : Choice) : String :=
  -- The sign is the name in capitals.
  "--" ++ choice.name ++ if choice.takesValue then " <" ++ choice.name.toUpper ++ ">" else ""

/-- The option for help. -/
def help : Choice := ⟨'h', "help", .help, "Print help"⟩

/-- The option for the version. -/
def version : Choice := ⟨'V', "version", .version, "Print version"⟩

end Choice

/-- A command. -/
structure Command where
  /-- How it is called. -/
  name : String
  /-- What it does. -/
  about : String
  /-- Its options in order. -/
  choices : List Choice
  /-- Signs for the arguments that it takes besides, with what they mean. -/
  arguments : List (String × String)
  /-- Its subcommands with what they do. -/
  subcommands : List (String × String)
  deriving DecidableEq, Repr

namespace Command

/-- What usage shows of a command when nothing has been given. -/
def usage (command : Command) : String :=
  -- Options that everybody has are not mentioned.
  command.name
    ++ (if command.choices.any (fun choice => choice.takesValue) then " [OPTIONS]" else "")
    ++ String.join (command.arguments.map fun argument => " " ++ argument.1)
    ++ (if command.subcommands.isEmpty then "" else " <COMMAND>")

/-- What usage shows of a command when some options have been given. -/
def usageWith (command : Command) (used : List Choice) : String :=
  -- Only the given options are shown, and a command that is still missing.
  if used.isEmpty then command.usage
  else command.name ++ String.join (used.map fun choice => " " ++ choice.shown)
    ++ (if command.subcommands.isEmpty then "" else " <COMMAND>")

/--
What usage shows of a command when an option has been given
that goes with none of those that take values.
-/
def usageBeside (command : Command) (choice : Choice) (others : Bool) : String :=
  -- If some of the others have been given, all of them are shown as alternatives.
  let valued := command.choices.filter (·.takesValue)
  command.name ++ " " ++ choice.shown
    ++ (if others then " <" ++ String.intercalate "|" (valued.map (·.shown)) ++ ">" else "")
    ++ (if command.subcommands.isEmpty then "" else " <COMMAND>")

/-- A table with aligned second columns under a heading, or nothing if it has no rows. -/
def table (heading : String) (rows : List (String × String)) : String :=
  -- The longest entry of the first column sets the width.
  let width := (rows.map (·.1.length)).foldl max 0
  if rows.isEmpty then ""
  else "\n" ++ heading ++ ":\n" ++ String.join (rows.map fun row =>
    "  " ++ row.1 ++ String.ofList (List.replicate (width - row.1.length) ' ') ++ "  " ++
      row.2 ++ "\n")

/-- The page of help for a command. -/
def helpPage (command : Command) : String :=
  -- What it does comes first, and the options come last.
  command.about ++ "\n\nUsage: " ++ command.usage ++ "\n"
    ++ table "Commands" command.subcommands
    ++ table "Arguments" command.arguments
    ++ table "Options" (command.choices.map fun choice =>
      ("-" ++ choice.letter.toString ++ ", " ++ choice.shown, choice.about))

/-- The name and what it means of the subcommand for help. -/
def helpEntry : String × String :=
  ("help", "Print this message or the help of the given subcommand(s)")

/-- The subcommand of a command by its name. -/
def subcommand? (command : Command) (name : String) : Option Command :=
  -- The one for help takes further names and has no options.
  (command.subcommands.find? (·.1 == name)).map fun entry =>
    let called := command.name ++ " " ++ entry.1
    if entry == helpEntry then
      ⟨called, entry.2, [], [("[COMMAND]...", "Print help for the subcommand(s)")], []⟩
    else ⟨called, entry.2, [.help], [], []⟩

end Command

/-- What a program says about its version. -/
structure Release where
  /-- The name of the program. -/
  program : String
  /-- The number of the version. -/
  number : String
  deriving DecidableEq, Repr

/-- The line that shows a version. -/
def Release.line (release : Release) : String :=
  -- Name and number stand side by side.
  release.program ++ " " ++ release.number ++ "\n"

end Wakeful.CommandLine
