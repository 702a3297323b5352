import Wakeful.CommandLine.Fault
import Wakeful.Text.Similarity
import Wakeful.Text.Utf8

/-!
Reading a command line from left to right, where an option
may wait for its value in the next argument.
-/

namespace Wakeful.CommandLine

/-- How far a command line has been read. -/
structure Progress where
  /-- The options that have their values, in order. -/
  settled : List (Choice × Octets)
  /-- The option that came last, with its value unless it still waits for one. -/
  pending : Option (Choice × Option Octets)
  /-- Whether everything further is no option. -/
  marked : Bool
  deriving DecidableEq, Repr

namespace Progress

/-- A command line of which nothing has been read. -/
def start : Progress :=
  -- Options may come.
  ⟨[], none, false⟩

/-- Whether an option waits for its value. -/
def isWaiting (progress : Progress) : Bool :=
  -- An option with its value waits for nothing.
  match progress.pending with
  | some (_, none) => true
  | _ => false

/-- The options that have been given. -/
def used (progress : Progress) : List Choice :=
  -- Their values do not matter.
  progress.settled.map (·.1)

/-- What is wrong with a value of an option, if anything. -/
def judge (choice : Choice) (value : Octets) : Option Fault :=
  -- Paths may be any octets but none at all, and texts may be empty.
  match choice.purpose with
  | .path => if value.isEmpty then some (.missingValue choice) else none
  | .text => if (Octets.text? value).isNone then some .notText else none
  | .help | .version => none

/-- Settles an option with a value. -/
def store (progress : Progress) (choice : Choice) (value : Octets) : Option Fault × Progress :=
  -- A repetition makes the option count as not given, and a bad value makes it count as given.
  if progress.used.contains choice then
    (some (.repeated choice), { progress with settled := progress.settled.filter (·.1 != choice) })
  else (judge choice value, { progress with settled := progress.settled ++ [(choice, value)] })

/-- Settles the option that came last, if there is one. -/
def settle (progress : Progress) : Option Fault × Progress :=
  -- An option that still waits will not get its value.
  let cleared := { progress with pending := none }
  match progress.pending with
  | none => (none, cleared)
  | some (choice, none) => (some (.missingValue choice), cleared)
  | some (choice, some value) => cleared.store choice value

/-- Goes on once the option that came last is settled. -/
def proceed (progress : Progress) : Except Fault Progress :=
  -- Its fault comes before all later ones.
  match progress.settle with
  | (none, after) => .ok after
  | (some fault, _) => .error fault

/-- Takes an option together with its value. -/
def attach (progress : Progress) (choice : Choice) (value : Octets) : Except Fault Progress := do
  -- The option before it has to be settled.
  match (← progress.proceed).store choice value with
  | (none, after) => return after
  | (some fault, _) => throw fault

/-- Takes an option whose value is still to come. -/
def await (progress : Progress) (choice : Choice) : Except Fault Progress := do
  -- The option before it has to be settled.
  return { ← progress.proceed with pending := some (choice, none) }

/-- Takes an option that asks for a page. -/
def ask (progress : Progress) (choice : Choice) : Fault :=
  -- The option before it has to be settled.
  match progress.proceed with
  | .error fault => fault
  | .ok _ => if choice.purpose = .version then .version else .help

end Progress

/-- The octet between an option and its value. -/
def equalsSign : UInt8 := 0x3D

/-- The octet with which options begin. -/
def dash : UInt8 := 0x2D

/-- The name of a long option and the value that is attached to it, if any. -/
def splitValue (octets : Octets) : Octets × Option Octets :=
  -- The first sign of equality counts.
  match octets.dropWhile (· != equalsSign) with
  | [] => (octets, none)
  | _ :: value => (octets.takeWhile (· != equalsSign), some value)

/-- The fault of an option that is not known by its name. -/
def unknownName (command : Command) (progress : Progress) (name : String) : Fault :=
  -- The most likely known option is mentioned and counts as given.
  let used := progress.settle.2.used
  let similar := (Similarity.candidates name (command.choices.map (·.name))).getLast?
  let choice := similar.bind fun found => command.choices.find? (·.name == found)
  .unknownArgument ("--" ++ name) choice (used ++ (choice.filter (!used.contains ·)).toList)

/-- Reads an option that is given by its name. -/
def readName (command : Command) (progress : Progress) (octets : Octets) : Except Fault Progress :=
  -- A value is attached or comes next.
  let (name, attached) := splitValue octets
  match command.choices.find? fun choice => Octets.ofText choice.name == name with
  | none => .error (unknownName command progress (Utf8.lossy name))
  | some choice =>
    match choice.takesValue, attached with
    | true, some value => progress.attach choice value
    | true, none => progress.await choice
    | false, some value => .error (.excessValue (Utf8.lossy value) choice !progress.used.isEmpty)
    | false, none => .error (progress.ask choice)

/-- Reads an option that is given by its letter. -/
def readLetter (command : Command) (progress : Progress) (first : UInt8) (rest : Octets) :
    Except Fault Progress :=
  -- What follows the letter is its value, with or without a sign of equality.
  match Utf8.readPiece first rest with
  | (none, _) => .error (.unknownArgument ("-" ++ Utf8.lossy (first :: rest)) none [])
  | (some letter, value) =>
    match command.choices.find? (·.letter == letter) with
    | none => .error (.unknownArgument ("-" ++ letter.toString) none [])
    | some choice =>
      if !choice.takesValue then .error (progress.ask choice)
      else match value with
        | [] => progress.await choice
        | octet :: inner => progress.attach choice (if octet = equalsSign then inner else value)

/-- The subcommand that an argument names. -/
def named? (command : Command) (argument : Octets) : Option (String × Command) := do
  -- Only a text can be a name.
  let name ← Octets.text? argument
  return (name, ← command.subcommand? name)

/-- The fault of an argument that is neither an option nor a value. -/
def stray (command : Command) (progress : Progress) (argument : Octets) : Fault :=
  -- If there are subcommands, it is taken for one.
  let shown := Utf8.lossy argument
  if progress.marked && (named? command argument).isSome then .commandAfterMark shown
  else if command.subcommands.isEmpty then .unknownArgument shown none []
  else .unknownCommand shown (Similarity.candidates shown (command.subcommands.map (·.1)))

/-- Reads an argument that names no subcommand. -/
def readArgument (command : Command) (progress : Progress) (argument : Octets) :
    Except Fault Progress :=
  -- A single dash may be a value, and two dashes are a mark even where a value is awaited.
  match progress.marked, argument with
  | true, _ => .error (stray command progress argument)
  | false, [0x2D, 0x2D] => .ok { progress with marked := true }
  | false, 0x2D :: 0x2D :: name => readName command progress name
  | false, 0x2D :: first :: rest => readLetter command progress first rest
  | false, _ =>
    match progress.pending with
    | some (choice, none) => .ok { progress with pending := some (choice, some argument) }
    | _ => .error (stray command progress argument)

/-- What a command line comes to. -/
inductive Found where
  /-- Options with their values. -/
  | options (settled : List (Choice × Octets))
  /-- A subcommand with its name and with what follows it. -/
  | subcommand (name : String) (command : Command) (rest : List Octets)

/-- Reads the arguments of a command up to its subcommand. -/
def read (command : Command) (progress : Progress) : List Octets → Except Fault Found
  -- A name counts as a subcommand unless it is a value or comes after the mark.
  | [] => do
    let after ← progress.proceed
    if command.subcommands.isEmpty then return .options after.settled else throw .nothingAsked
  | argument :: rest =>
    match if progress.marked || progress.isWaiting then none else named? command argument with
    | some (name, inner) => .ok (.subcommand name inner rest)
    | none => do read command (← readArgument command progress argument) rest

/-- Walks down a chain of names to the command whose help is asked for. -/
def explain (command : Command) : List Octets → Refusal
  -- A name that is not known ends the walk.
  | [] => ⟨command, .help⟩
  | argument :: rest =>
    match named? command argument with
    | some (_, inner) => explain inner rest
    | none => ⟨command, .unknownCommand (Utf8.lossy argument) []⟩

/-- Reads a whole command line, which comes to a subcommand or to options. -/
def readAll (root : Command) (arguments : List Octets) :
    Except Refusal (Option String × List (Choice × Octets)) := do
  -- Asking for help is never carried out, and subcommands have none of their own.
  match ← (read root .start arguments).mapError (Refusal.mk root) with
  | .options settled => return (none, settled)
  | .subcommand name inner rest =>
    if name = Command.helpEntry.1 then throw (explain root rest)
    match ← (read inner .start rest).mapError (Refusal.mk inner) with
    | .options settled => return (some name, settled)
    | .subcommand _ deeper _ => throw ⟨deeper, .help⟩

end Wakeful.CommandLine
