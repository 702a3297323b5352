import Wakeful.Daemon.Answer

/-!
A conversation with one client in single steps: the request is waited for until
its time is over, and the response until there is room for it.
-/

namespace Wakeful.Daemon

/-- What can happen on a connection. -/
inductive Happening where
  /-- The client sends octets. -/
  | sends (octets : Octets)
  /-- The client closes its side. -/
  | closes
  /-- The time for the request is over. -/
  | expires
  /-- The client takes octets of the response and makes room for as many. -/
  | takes (count : Nat)
  /-- The connection breaks. -/
  | breaks (reason : Errno)
  deriving DecidableEq, Repr

/-- Where a conversation stands. -/
inductive Stage where
  /-- The daemon has received some octets and waits for more. -/
  | reading (received : Octets)
  /-- The daemon has an answer and waits for room to write what is left of it. -/
  | writing (answer : Answer) (left : Octets)
  /-- The daemon has done with the client. -/
  | ended (answer : Answer)

namespace Stage

/-- Whether the daemon waits for the client. -/
def isWaiting : Stage → Bool
  | reading _ | writing _ _ => true
  | ended _ => false

/-- Whether a wait ends at some time whatever the client does. -/
def isTimed : Stage → Bool
  -- Only the request has to come in time.
  | reading _ => true
  | writing _ _ | ended _ => false

end Stage

/-- A conversation with a client. -/
structure Conversation where
  /-- Where it stands. -/
  stage : Stage
  /-- The number of octets for which there is room on the client's side. -/
  room : Nat

namespace Conversation

/-- A conversation that begins. -/
def start (room : Nat) : Conversation :=
  -- Nothing has been received.
  ⟨.reading [], room⟩

/-- Writes what there is room for. -/
def write (answer : Answer) (left : Octets) (room : Nat) : Conversation :=
  -- The daemon goes on only when everything is written.
  if left.length ≤ room then
    ⟨.ended answer, room - left.length⟩
  else
    ⟨.writing answer (left.drop room), 0⟩

/-- Responds to an arrival. -/
def reply (inhibitor : Inhibitor) (circumstances : Circumstances) (arrival : Arrival)
    (room : Nat) : Conversation :=
  -- Nothing is left to be decided once the response is known.
  let answer := respond inhibitor arrival circumstances
  write answer answer.response.encode room

/-- The conversation after one more happening. -/
def step (inhibitor : Inhibitor) (circumstances : Circumstances) (conversation : Conversation) :
    Happening → Conversation
  -- What does not concern the stage of a conversation passes it by.
  | .sends octets =>
    match conversation.stage with
    | .reading received => { conversation with stage := .reading (received ++ octets) }
    | _ => conversation
  | .closes =>
    match conversation.stage with
    | .reading received => reply inhibitor circumstances (.received received) conversation.room
    | _ => conversation
  | .expires =>
    match conversation.stage with
    | .reading _ => reply inhibitor circumstances .timedOut conversation.room
    | _ => conversation
  | .takes count =>
    match conversation.stage with
    | .writing answer left => write answer left (conversation.room + count)
    | _ => { conversation with room := conversation.room + count }
  | .breaks reason =>
    match conversation.stage with
    | .reading _ => reply inhibitor circumstances (.broken reason) conversation.room
    | .writing answer _ => { conversation with stage := .ended (answer.unwritten reason) }
    | .ended _ => conversation

/-- The conversation after several happenings. -/
def run (inhibitor : Inhibitor) (circumstances : Circumstances) (conversation : Conversation)
    (happenings : List Happening) : Conversation :=
  -- They are taken in turn.
  happenings.foldl (step inhibitor circumstances) conversation

/-- A client that says everything at once and has room for the response gets the daemon's answer. -/
theorem run_sends_closes (inhibitor : Inhibitor) (circumstances : Circumstances) (octets : Octets)
    (room : Nat) (enough :
      (answer inhibitor ⟨.received octets, none⟩ circumstances).response.encode.length ≤ room) :
    (run inhibitor circumstances (start room) [.sends octets, .closes]).stage =
      .ended (answer inhibitor ⟨.received octets, none⟩ circumstances) := by
  -- The response is written as a whole.
  simp only [answer, Option.elim_none] at enough
  simp [run, start, step, reply, write, answer, enough]

end Conversation

end Wakeful.Daemon
