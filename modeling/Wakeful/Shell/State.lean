import Wakeful.Child.Status
import Wakeful.Shell.Pattern
import Wakeful.Shell.Reader
import Wakeful.Shell.Task

/-! What shells at work know: what belongs to each process, and what all of them share. -/

namespace Wakeful.Shell

/-- What can be read or written through descriptors. -/
inductive Stream where
  /-- A text to be read, of which so much is left. -/
  | source (rest : Letters)
  /-- A text to be collected, the last piece first. -/
  | sink (written : List Letters)
  /-- Nothing to read, and writing is in vain. -/
  | nowhere
  /-- A directory, which cannot be read like a file. -/
  | directory
  /-- A place with no space left for what is written. -/
  | full
  /-- A file from a place in it on. -/
  | file (place : Place) (offset : Nat) (access : Access)

/-- A variable. -/
structure Variable where
  /-- Its value, if it has one. -/
  value : Option Letters
  /-- Whether programs get it. -/
  isExported : Bool
  /-- Whether it has to stay as it is. -/
  isFixed : Bool
  deriving DecidableEq, Repr

/-- How a shell goes on after a command. -/
inductive Flow where
  /-- The next command follows. -/
  | onward
  /-- So many loops end. -/
  | breaking (count : Nat)
  /-- So many loops but one end, and that one goes on with its next turn. -/
  | continuing (count : Nat)
  /-- The function or the script ends. -/
  | returning
  /-- The shell leaves with a code. -/
  | leaving (code : Nat)
  /-- The process has ended. -/
  | ended (status : ExitStatus)
  deriving DecidableEq, Repr

/-- What belongs to a single process. -/
structure Frame where
  /-- The number of the process. -/
  process : Nat
  /-- The number of the process that has begun it. -/
  parent : Nat
  /-- The number of the shell of which it is a part. -/
  shell : Nat
  /-- The name of the shell. -/
  name : Letters
  /-- The arguments. -/
  arguments : List Letters
  /-- The working directory. -/
  directory : Spot
  /-- The path by which the working directory was reached. -/
  path : Letters
  /-- The permissions that are withheld from new files. -/
  mask : Nat
  /-- The streams of the descriptors. -/
  descriptors : List (Nat × Nat)
  /-- The variables, in the order in which they came up. -/
  bindings : List (String × Variable)
  /-- The functions. -/
  functions : List (String × Script)
  /-- The short names for commands. -/
  aliases : List (String × Letters)
  /-- The texts that stand in scripts, by their numbers. -/
  documents : List (Nat × List Part)
  /-- The options that are on. -/
  options : List Char
  /--
  What is done about signals, where nothing at all means
  that they are ignored; zero stands for the end.
  -/
  traps : List (Nat × Letters)
  /-- What functions have to restore at their ends, the innermost first. -/
  locals : List (List (String × Option Variable))
  /-- The number of loops around the present command. -/
  loops : Nat
  /-- The code of the last command. -/
  code : Nat
  /-- The code of the last script whose output became part of the present command. -/
  outputCode : Nat
  /-- The number of the last process in the background. -/
  background : Option Nat
  /-- The line of the present command. -/
  line : Nat
  /-- The name of the shell's own command that is carried out. -/
  command : Option Letters
  /-- The letters of the present argument that have been looked at for choices. -/
  choiceOffset : Nat
  /-- How it goes on. -/
  flow : Flow

/-- A script that waits to be run in a process of its own. -/
structure Job where
  /-- What belongs to the process. -/
  frame : Frame
  /-- The script. -/
  script : Script

/-- What all processes share. -/
structure World where
  /-- The files. -/
  tree : FileTree
  /--
  The names outside the tree under which somebody takes
  streams, each with whether there is room for one more.
  -/
  detached : List (Octets × Bool)
  /-- The streams by their numbers. -/
  streams : List (Nat × Stream)
  /-- The signals that have been sent and not received, each with the number of the process. -/
  signals : List (Nat × Nat)
  /-- The numbers of the processes that are there. -/
  living : List Nat
  /-- How processes in the background have ended. -/
  finished : List (Nat × ExitStatus)
  /-- The scripts that wait to be run. -/
  jobs : List Job
  /-- The greatest number that a process has had. -/
  lastProcess : Nat

end Shell

/-- A shell at work. -/
structure Shell where
  /-- What all processes share. -/
  world : Shell.World
  /-- What belongs to this one. -/
  frame : Shell.Frame

namespace Shell

/-- Something that a shell does. -/
abbrev Action := StateM Shell

namespace Action

/-- What belongs to this process. -/
def frame : Action Frame := return (← get).frame

/-- What all processes share. -/
def world : Action World := return (← get).world

/-- Changes what belongs to this process. -/
def changeFrame (change : Frame → Frame) : Action Unit :=
  modify fun shell => { shell with frame := change shell.frame }

/-- Changes what all processes share. -/
def changeWorld (change : World → World) : Action Unit :=
  modify fun shell => { shell with world := change shell.world }

/-- Leaves a command with a code. -/
def setCode (code : Nat) : Action Unit := changeFrame ({ · with code })

/-- Goes on in another way. -/
def setFlow (flow : Flow) : Action Unit := changeFrame ({ · with flow })

/-- Whether the next command follows. -/
def isGoing : Action Bool := return (← frame).flow == .onward

/-- Whether an option is on. -/
def hasOption (letter : Char) : Action Bool := return (← frame).options.contains letter

/-! ### Files -/

/-- The files as this process sees them. -/
def workplace : Action Workplace := do
  -- The directory and the permissions belong to the process.
  let shell ← get
  return ⟨shell.world.tree, shell.frame.directory, shell.frame.mask, shell.world.detached⟩

/-- Leaves the files in another state. -/
def setWorkplace (workplace : Workplace) : Action Unit :=
  -- The permissions that are withheld do not change with the files.
  modify fun shell => { shell with
    world := { shell.world with tree := workplace.tree, detached := workplace.detached }
    frame := { shell.frame with directory := workplace.directory } }

/-! ### Streams -/

/-- Keeps a stream under a new number. -/
def addStream (stream : Stream) : Action Nat := do
  -- Numbers are never used again.
  let number := ((← world).streams.map (·.1)).foldl max 0 + 1
  changeWorld fun world => { world with streams := (number, stream) :: world.streams }
  return number

/-- The stream with a number. -/
def stream (number : Nat) : Action Stream := return ((← world).streams.lookup number).getD .nowhere

/-- Changes the stream with a number. -/
def setStream (number : Nat) (stream : Stream) : Action Unit :=
  -- The number stays the same.
  changeWorld fun world => { world with streams := world.streams.map fun entry =>
    if entry.1 = number then (number, stream) else entry }

/-- Gives up the stream with a number. -/
def dropStream (number : Nat) : Action Unit :=
  -- Nobody asks for it again.
  changeWorld fun world => { world with streams := world.streams.filter (·.1 != number) }

/-- The number of the stream of a descriptor. -/
def descriptor? (descriptor : Nat) : Action (Option Nat) :=
  return (← frame).descriptors.lookup descriptor

/-- Makes a descriptor stand for a stream. -/
def setDescriptor (descriptor stream : Nat) : Action Unit :=
  -- What it stood for before is given up.
  changeFrame fun frame => { frame with
    descriptors := (descriptor, stream) :: frame.descriptors.filter (·.1 != descriptor) }

/-- Closes a descriptor. -/
def closeDescriptor (descriptor : Nat) : Action Unit :=
  -- The others stay open.
  changeFrame fun frame =>
    { frame with descriptors := frame.descriptors.filter (·.1 != descriptor) }

/-- The contents of the file at a place, with its permissions. -/
def fileAt (place : Place) : Action (Option (Nat × Octets)) := do
  -- Anything else has no contents.
  match (← world).tree.node? place with
  | some (.file mode contents) => return some (mode, contents)
  | _ => return none

/-- Writes letters to the stream with a number. -/
def writeStream (number : Nat) (letters : Letters) : Action Unit := do
  -- What lies beyond the end of a file is filled with noughts.
  if letters.isEmpty then return
  match ← stream number with
  | .sink written => setStream number (.sink (letters :: written))
  | .file place offset access =>
    match ← fileAt place with
    | none => return
    | some (mode, contents) =>
      let start := if access = .appending then contents.length else offset
      let filled := contents ++ List.replicate (start - contents.length) 0
      let after := filled.take start ++ octetsOf letters ++ filled.drop (start + letters.length)
      changeWorld fun world => { world with tree := world.tree.insert place (.file mode after) }
      setStream number (.file place (start + letters.length) access)
  | _ => return

/-- Why nothing can be written to a descriptor, if it is refused. -/
def writeRefusal? (descriptor : Nat) : Action (Option Errno) := do
  -- It has to be open and to have space.
  match ← descriptor? descriptor with
  | none => return some .badDescriptor
  | some number => return match ← stream number with
    | .full => some .noSpace
    | _ => none

/-- Writes letters to a descriptor, and tells whether this is not refused. -/
def write (descriptor : Nat) (letters : Letters) : Action Bool := do
  -- Nothing is written where it is refused.
  if (← writeRefusal? descriptor).isSome then return false
  (← descriptor? descriptor).forM (writeStream · letters)
  return true

/-- All that can still be read from a descriptor, and whether it comes from a file. -/
def readable (descriptor : Nat) : Action (Letters × Bool) := do
  -- Nothing comes from where nothing is open.
  match ← descriptor? descriptor with
  | none => return ([], false)
  | some number =>
    match ← stream number with
    | .source rest => return (rest, false)
    | .file place offset _ =>
      let contents := ((← fileAt place).map (·.2)).getD []
      return (lettersOf (contents.drop offset), true)
    | _ => return ([], false)

/-- Why nothing can be read from a descriptor, if it is refused. -/
def refusal? (descriptor : Nat) : Action (Option Errno) := do
  -- Directories and closed descriptors cannot be read.
  match ← descriptor? descriptor with
  | none => return some .badDescriptor
  | some number => return match ← stream number with
    | .directory => some .isADirectory
    | _ => none

/-- Leaves only so much to read from a descriptor. -/
def leaveReadable (descriptor : Nat) (rest : Letters) : Action Unit := do
  -- In a file this is a matter of the place.
  match ← descriptor? descriptor with
  | none => return
  | some number =>
    match ← stream number with
    | .source _ => setStream number (.source rest)
    | .file place _ access =>
      let length := ((← fileAt place).map (·.2.length)).getD 0
      setStream number (.file place (length - rest.length) access)
    | _ => return

/-- What has been collected in the stream with a number. -/
def collected (number : Nat) : Action Letters := do
  -- The last piece comes first.
  match ← stream number with
  | .sink written => return written.reverse.flatten
  | _ => return []

/-! ### Complaints -/

/-- Writes a complaint. -/
def complain (words : Letters) : Action Unit := do
  -- The shell, the line and its own command come before the words.
  let frame ← frame
  let command := frame.command.elim [] fun command => command ++ ": ".toList
  let _ ← write 2 (frame.name ++ ": ".toList ++ digitsOf (frame.line : Nat) ++ ": ".toList ++
    command ++ words ++ ['\n'])

/-- Complains and leaves the shell. -/
def giveUp (words : Letters) : Action Unit := do
  -- The code is the same for all such faults.
  complain words
  setCode 2
  setFlow (.leaving 2)

/-! ### Variables -/

/-- A variable, if it is known. -/
def known? (name : String) : Action (Option Variable) := return (← frame).bindings.lookup name

/-- Keeps a variable as it is given. -/
def putVariable (name : String) (kept : Variable) : Action Unit :=
  -- A new one comes after all others.
  changeFrame fun frame =>
    let isKnown := (frame.bindings.lookup name).isSome
    let others := frame.bindings.map fun entry => if entry.1 = name then (name, kept) else entry
    { frame with bindings := if isKnown then others else frame.bindings ++ [(name, kept)] }

/-- Forgets a variable. -/
def removeVariable (name : String) : Action Unit :=
  -- Nothing of it is left.
  changeFrame fun frame => { frame with bindings := frame.bindings.filter (·.1 != name) }

/-- Gives a variable a value, and tells whether this is allowed. -/
def assign (name : String) (value : Letters) (isExported : Bool) : Action Bool := do
  -- One that programs get stays so.
  let former ← known? name
  if former.any (·.isFixed) then
    giveUp (name.toList ++ ": is read only".toList)
    return false
  let all ← hasOption 'a'
  putVariable name ⟨some value, isExported || all || former.any (·.isExported), false⟩
  if name = "OPTIND" then changeFrame ({ · with choiceOffset := 0 })
  return true

/-- The value of a variable, if it has one. -/
def value? (name : String) : Action (Option Letters) := return (← known? name).bind (·.value)

/-- The letters that part words. -/
def separators : Action Letters := return (← value? "IFS").getD [' ', '\t', '\n']

/-- The number by which variables are put into an order of their own. -/
def orderOf (name : String) : Nat :=
  -- The first letter counts once more.
  let letters := name.toList
  ((letters.head?.elim 0 fun letter => letter.toNat * 16) + totalOf (letters.map Char.toNat)) % 39

/-- The variables that programs get, in the order in which they get them. -/
def exported : Action (List (String × Letters)) := do
  -- Variables with the same number stay in the order in which they came up.
  let known := (← frame).bindings.filterMap fun (name, kept) =>
    if kept.isExported then kept.value.map fun value => (name, value) else none
  return known.mergeSort fun left right => orderOf left.1 ≤ orderOf right.1

/-- The lines of the environment that programs get. -/
def environment : Action (List Octets) :=
  -- Each has a sign of equality after its name.
  return (← exported).map fun (name, value) => octetsOf (name.toList ++ '=' :: value)

end Action

end Shell

end Wakeful
