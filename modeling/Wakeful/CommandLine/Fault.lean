import Wakeful.CommandLine.Command
import Wakeful.Text.Visible

/-! Why a command line is not carried out: it asks for a page, or it cannot be understood. -/

namespace Wakeful.CommandLine

/-- Why a command line is not carried out. -/
inductive Fault where
  /-- It asks for help. -/
  | help
  /-- It asks for the version. -/
  | version
  /-- It names no command, and help is given in its place. -/
  | nothingAsked
  /--
  There is an argument that is not known, possibly for a known option, after some other options.
  -/
  | unknownArgument (argument : String) (similar : Option Choice) (used : List Choice)
  /-- A command follows a mark after which there can be none. -/
  | commandAfterMark (argument : String)
  /-- There is a command that is not known, possibly for some known ones. -/
  | unknownCommand (argument : String) (similar : List String)
  /-- An option has no value, or an empty one that it cannot have. -/
  | missingValue (choice : Choice)
  /-- An option has a value that it does not take, possibly after other options. -/
  | excessValue (value : String) (choice : Choice) (others : Bool)
  /-- An option is given twice. -/
  | repeated (choice : Choice)
  /-- A value is no text. -/
  | notText
  deriving DecidableEq, Repr

namespace Fault

/-- Whether a fault is a page that was asked for. -/
def isAnswer : Fault → Bool
  -- A page given in the place of a command was not asked for.
  | help | version => true
  | _ => false

/-- A word between quotes. -/
def quoted (word : String) : String :=
  -- Nothing is escaped.
  "'" ++ word ++ "'"

/-- What was given, between quotes. -/
def echoed (word : String) : String :=
  -- It must not be able to give orders to a terminal.
  quoted (Visible.text word)

/-- What is wrong. -/
def complaint : Fault → String
  -- Pages that are shown have no complaint.
  | unknownArgument argument _ _ | commandAfterMark argument =>
    "unexpected argument " ++ echoed argument ++ " found"
  | unknownCommand argument _ => "unrecognized subcommand " ++ echoed argument
  | missingValue choice =>
    "a value is required for " ++ quoted choice.shown ++ " but none was supplied"
  | excessValue value choice _ =>
    "unexpected value " ++ echoed value ++ " for " ++ quoted choice.shown ++
      " found; no more were expected"
  | repeated choice => "the argument " ++ quoted choice.shown ++ " cannot be used multiple times"
  | notText => "invalid UTF-8 was detected in one or more arguments"
  | help | version | nothingAsked => ""

/-- What may help, if anything. -/
def tip : Fault → Option String
  -- Only what is similar to something known gets a hint.
  | unknownArgument _ (some choice) _ =>
    some ("a similar argument exists: " ++ quoted ("--" ++ choice.name))
  | unknownCommand _ [] => none
  | unknownCommand _ [similar] => some ("a similar subcommand exists: " ++ quoted similar)
  | unknownCommand _ similar =>
    some ("some similar subcommands exist: " ++ String.intercalate ", " (similar.map quoted))
  | commandAfterMark argument =>
    some ("subcommand " ++ quoted argument ++ " exists; to use it, remove the '--' before it")
  | _ => none

/-- The usage that goes with a fault, if any. -/
def usage (command : Command) : Fault → Option String
  -- A missing value explains itself.
  | missingValue _ => none
  | unknownArgument _ _ used => some (command.usageWith used)
  | excessValue _ choice others => some (command.usageBeside choice others)
  | _ => some command.usage

/-- The whole text for a fault of a command. -/
def text (release : Release) (command : Command) (fault : Fault) : String :=
  -- A complaint is followed by a tip, by the usage, and by the way to more help.
  match fault with
  | help | nothingAsked => command.helpPage
  | version => release.line
  | _ =>
    "error: " ++ fault.complaint
      ++ (fault.tip.elim "" fun tip => "\n\n  tip: " ++ tip)
      ++ ((fault.usage command).elim "" fun usage => "\n\nUsage: " ++ usage)
      ++ (if command.choices.contains .help then "\n\nFor more information, try '--help'.\n"
        else "\n")

end Fault

/-- A fault and the command in which it arose. -/
structure Refusal where
  /-- The command. -/
  command : Command
  /-- The fault. -/
  fault : Fault
  deriving DecidableEq, Repr

end Wakeful.CommandLine
