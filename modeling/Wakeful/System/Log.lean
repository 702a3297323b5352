/-! Events that the program reports about itself, and the lines in which a log shows them. -/

namespace Wakeful

/-- How much an event matters. -/
inductive LogLevel where
  /-- Of interest only to those who look for a fault. -/
  | debug
  /-- A normal step of the work. -/
  | info
  /-- Something failed and the work goes on. -/
  | warn
  /-- Something failed that was asked for. -/
  | error
  deriving DecidableEq, Repr

/-- The part of the program that reports an event. -/
inductive LogSource where
  /-- The daemon's own loop. -/
  | daemon
  /-- The inhibitor. -/
  | inhibitor
  /-- The inhibitor's side on the session bus. -/
  | session
  /-- The inhibitor's watchdog. -/
  | watchdog
  /-- The start of child programs. -/
  | child
  /-- The loader of shared libraries. -/
  | library
  deriving DecidableEq, Repr

/-- One event. -/
structure LogEvent where
  /-- How much it matters. -/
  level : LogLevel
  /-- Who reports it. -/
  source : LogSource
  /-- What happened. -/
  message : String
  /-- Details by name. -/
  fields : List (String × String)
  deriving DecidableEq, Repr

/-- The word for a level. -/
def LogLevel.word : LogLevel → String
  -- Levels are shouted.
  | debug => "DEBUG"
  | info => "INFO"
  | warn => "WARN"
  | error => "ERROR"

/-- Whether a log shows a level when nothing else is asked for. -/
def LogLevel.shown : LogLevel → Bool
  -- Only the details for fault finding are left out.
  | debug => false
  | _ => true

/-- The name by which a log line calls a source. -/
def LogSource.name : LogSource → String
  -- The platform's parts share its name.
  | daemon => "nodoze_daemon"
  | inhibitor => "nodoze_platform::inhibit"
  | session => "nodoze_platform::inhibit::dbus"
  | watchdog => "nodoze_platform::inhibit::watchdog"
  | child => "nodoze_platform::inhibit::spawn"
  | library => "nodoze_platform::dl"

/-- A character of a message as a log line shows it. -/
def LogEvent.guarded (character : Char) : String :=
  -- Controls that a terminal obeys are written by number.
  let digits := String.ofList (Nat.toDigits 16 character.toNat)
  if character ∈ ['\x07', '\x08', '\x0c'] then "\\x0" ++ digits
  else if character ∈ ['\x1b', '\x7f'] then "\\x" ++ digits
  else if 0x80 ≤ character.toNat && character.toNat ≤ 0x9F then "\\u\x7b" ++ digits ++ "\x7d"
  else character.toString

/-- The log line of an event. -/
def LogEvent.line (event : LogEvent) : String :=
  -- The details follow the message, each as a name and a value.
  event.level.word ++ " " ++ event.source.name ++ ": " ++
    String.join (event.message.toList.map guarded)
    ++ String.join (event.fields.map fun field => " " ++ field.1 ++ "=" ++ field.2)

/-- The text of a log. -/
def LogEvent.textOf (log : List LogEvent) : String :=
  -- Every event that is shown has a line of its own.
  String.join ((log.filter (·.level.shown)).map fun event => event.line ++ "\n")

end Wakeful
