import Wakeful.Daemon.Conversation
import Wakeful.Daemon.Session
import Wakeful.Inhibit.Turn

/-!
The daemon's loop event by event: clients, signals and the
watchdog's thread get on while it waits or talks.
-/

namespace Wakeful.Daemon

/-- Why the daemon leaves its loop. -/
inductive Leaving where
  /-- A client has told it to stop. -/
  | told
  /-- It has taken a signal. -/
  | signal (signal : Signal)
  deriving DecidableEq, Repr

/-- Where the loop stands. -/
inductive LoopStage where
  /-- It waits for whatever comes next. -/
  | waiting
  /-- It talks with a client and sees nothing else. -/
  | talking (conversation : Conversation)
  /-- It is over. -/
  | done (cause : Leaving)

/-- Whether the loop is not over yet. -/
def LoopStage.isRunning : LoopStage → Bool
  | waiting | talking _ => true
  | done _ => false

/-- What happens next, in the loop or around it. -/
inductive LoopEvent where
  /-- A client is accepted that has room for so many octets of its response. -/
  | accepts (room : Nat)
  /-- Accepting a client fails. -/
  | misses (reason : Errno)
  /-- Something happens on the connection. -/
  | happens (happening : Happening) (circumstances : Circumstances)
  /-- A signal arrives, which may be at any time. -/
  | arrives (signal : Signal)
  /-- The loop takes a signal that has arrived. -/
  | takes (signal : Signal)
  /-- The watchdog's thread takes a step, if it can. -/
  | thread (step : ThreadStep)
  deriving DecidableEq, Repr

/-- How the wait for a request ends with a happening, if there is such a wait and it ends. -/
def Stage.arrival : Stage → Happening → Option Arrival
  -- Whatever else happens, the daemon waits on.
  | reading received, .closes => some (.received received)
  | reading _, .expires => some .timedOut
  | reading _, .breaks reason => some (.broken reason)
  | _, _ => none

/-- The loop between two events. -/
structure Loop where
  /-- Where it stands. -/
  stage : LoopStage
  /-- The inhibitor. -/
  inhibitor : Inhibitor
  /-- The signals for which there is a handler. -/
  handled : List Signal
  /-- The signals that have arrived. -/
  pending : List Signal
  /-- How the waits for a request have ended so far, in order. -/
  heard : List Arrival
  /-- The responses given so far, in order. -/
  responses : List Response
  /-- What happened so far, in order. -/
  log : List LogEvent

namespace Loop

/-- A loop at its beginning. -/
def new (inhibitor : Inhibitor) (handled : List Signal) : Loop :=
  -- Nobody has connected yet, and no signal has arrived.
  ⟨.waiting, inhibitor, handled, [], [], [], []⟩

/-- The loop once a wait for a request has ended. -/
def hear (loop : Loop) (arrival : Arrival) (circumstances : Circumstances) : Loop :=
  -- The request is carried out before the response is written.
  { loop with
    inhibitor := (respond loop.inhibitor arrival circumstances).inhibitor
    heard := loop.heard ++ [arrival] }

/-- The loop once it has done with a client. -/
def finish (loop : Loop) (answer : Answer) : Loop :=
  -- Either the next one may come, or there is to be no next one.
  { loop with
    stage := if answer.keepRunning then .waiting else .done .told
    responses := loop.responses ++ [answer.response]
    log := loop.log ++ answer.log }

/-- The loop after something has happened on a connection. -/
def attend (loop : Loop) (conversation : Conversation) (happening : Happening)
    (circumstances : Circumstances) : Loop :=
  -- The loop follows the conversation.
  let heard := match conversation.stage.arrival happening with
    | none => loop
    | some arrival => loop.hear arrival circumstances
  let next := conversation.step loop.inhibitor circumstances happening
  match next.stage with
  | .ended answer => heard.finish answer
  | _ => { heard with stage := .talking next }

/-- The loop after one more event, where events that cannot come are passed over. -/
def step (loop : Loop) (event : LoopEvent) : Loop :=
  -- Clients and signals are taken up only between two conversations.
  match event, loop.stage with
  | .accepts room, .waiting => { loop with stage := .talking (.start room) }
  | .misses reason, .waiting => { loop with log := loop.log ++ [unaccepted reason] }
  | .happens happening circumstances, .talking conversation =>
    loop.attend conversation happening circumstances
  | .arrives signal, _ =>
    if signal ∈ loop.handled then { loop with pending := loop.pending ++ [signal] } else loop
  | .takes signal, .waiting =>
    if signal ∈ loop.pending then { loop with stage := .done (.signal signal) } else loop
  | .thread step, _ => { loop with inhibitor := loop.inhibitor.threadSteps [step] }
  | _, _ => loop

/-- The loop after several events. -/
def run (loop : Loop) (events : List LoopEvent) : Loop :=
  -- They come in order.
  events.foldl step loop

/-- The loop as it is seen when one occurrence is taken for a single step. -/
def service (loop : Loop) : Service :=
  -- What it waits for is left out.
  ⟨loop.stage.isRunning, loop.inhibitor, loop.responses, loop.log⟩

/-- What is left of a daemon. -/
structure Remains where
  /-- How it has ended. -/
  ending : Ending
  /-- Its inhibitor, which has been given up. -/
  inhibitor : Inhibitor
  /-- The files. -/
  workplace : Workplace
  /-- What happened from the beginning of the loop, in order. -/
  log : List LogEvent

/-- What is left of a daemon that leaves its loop. -/
def leave (loop : Loop) (workplace : Workplace) (socket : Octets)
    (stopping dropping : Circumstances) : Remains :=
  -- The inhibitor is given up last.
  let departure := quit loop.inhibitor workplace socket stopping
  let (inhibitor, log) := departure.inhibitor.drop dropping
  ⟨⟨if departure.success then 0 else 1, "", ""⟩, inhibitor, departure.workplace,
    loop.log ++ departure.log ++ log⟩

end Loop

/-- What happens on a connection whose wait for a request ends so. -/
def Arrival.happenings : Arrival → List Happening
  -- A client that takes too long or breaks off may as well have sent nothing.
  | .received octets => [.sends octets, .closes]
  | .timedOut => [.expires]
  | .broken reason => [.breaks reason]

/-- The events that make up one occurrence. -/
def Occurrence.events (occurrence : Occurrence) (room : Nat) (circumstances : Circumstances) :
    List LoopEvent :=
  -- The connection breaks at the end if the response cannot be written.
  match occurrence with
  | .connection client =>
    .accepts room :: (client.arrival.happenings ++ (client.refusal.map Happening.breaks).toList).map
      (.happens · circumstances)
  | .acceptFailed reason => [.misses reason]
  | .signal caught => [.arrives caught, .takes caught]

/-- Whether there is room for the response exactly if it can be written. -/
def Occurrence.Fits (occurrence : Occurrence) (inhibitor : Inhibitor) (room : Nat)
    (circumstances : Circumstances) : Prop :=
  -- Only a connection has a response.
  match occurrence with
  | .connection client =>
    (respond inhibitor client.arrival circumstances).response.encode.length ≤ room ↔
      client.refusal = none
  | _ => True

namespace Loop

variable {loop : Loop} {conversation : Conversation} {happening : Happening} {arrival : Arrival}

/-- What happens on a connection is attended to while the loop talks. -/
theorem step_talking (talking : loop.stage = .talking conversation) (happening : Happening)
    (circumstances : Circumstances) :
    loop.step (.happens happening circumstances) =
      loop.attend conversation happening circumstances := by
  -- The step looks at the stage only.
  unfold step
  rw [talking]

/-- A happening that ends the wait for a request is replied to. -/
theorem step_arrival (arrived : conversation.stage.arrival happening = some arrival)
    (inhibitor : Inhibitor) (circumstances : Circumstances) :
    conversation.step inhibitor circumstances happening =
      .reply inhibitor circumstances arrival conversation.room := by
  -- Only three happenings end the wait, and each of them only while there is one.
  obtain ⟨stage, room⟩ := conversation
  cases stage <;> cases happening <;>
    simp only [Stage.arrival, reduceCtorEq, Option.some.injEq] at arrived <;>
    subst arrived <;> rfl

/--
What a loop makes of the end of a wait: it carries the
request out and writes what there is room for.
-/
theorem attend_arrival (arrived : conversation.stage.arrival happening = some arrival) (loop : Loop)
    (circumstances : Circumstances) :
    let answer := respond loop.inhibitor arrival circumstances
    let heard := loop.hear arrival circumstances
    loop.attend conversation happening circumstances =
      if answer.response.encode.length ≤ conversation.room then heard.finish answer
      else
        { heard with
          stage := .talking ⟨.writing answer (answer.response.encode.drop conversation.room),
            0⟩ } := by
  -- The request has arrived, so the response is written as far as there is room.
  intro answer heard
  unfold attend
  rw [step_arrival arrived]
  simp only [arrived, Conversation.reply, Conversation.write]
  by_cases room : answer.response.encode.length ≤ conversation.room <;>
    simp only [answer] at room <;>
    simp [answer, heard, room]

/--
What ends the wait for a request, and a break if there is no
room for the response, come to a whole answer.
-/
theorem run_arrival (talking : loop.stage = .talking conversation)
    (arrived : conversation.stage.arrival happening = some arrival) (refusal : Option Errno)
    (circumstances : Circumstances)
    (fits : (respond loop.inhibitor arrival circumstances).response.encode.length ≤
      conversation.room ↔
      refusal = none) :
    loop.run ((happening :: (refusal.map Happening.breaks).toList).map (.happens · circumstances)) =
      (loop.hear arrival circumstances).finish
      (answer loop.inhibitor ⟨arrival, refusal⟩ circumstances) := by
  -- The response is written at once, or it never is.
  have attended := attend_arrival arrived loop circumstances
  rw [← step_talking talking] at attended
  cases refusal with
  | none =>
    have room := fits.mpr rfl
    simp only [room, if_true] at attended
    show loop.step (.happens happening circumstances) = _
    rw [attended]
    rfl
  | some reason =>
    have short : ¬ (respond loop.inhibitor arrival circumstances).response.encode.length ≤
        conversation.room :=
      fun room => by simpa using fits.mp room
    simp only [short, if_false] at attended
    show (loop.step (.happens happening circumstances)).step
      (.happens (.breaks reason) circumstances) = _
    rw [attended, step_talking rfl]
    rfl

/-- The events of one occurrence, with nothing in between, come to a single step. -/
theorem run_events (waiting : loop.stage = .waiting) (occurrence : Occurrence) (room : Nat)
    (circumstances : Circumstances) (fits : occurrence.Fits loop.inhibitor room circumstances)
    (handled : ∀ signal, occurrence = .signal signal → signal ∈ loop.handled) :
    (loop.run (occurrence.events room circumstances)).service =
      loop.service.step occurrence circumstances := by
  cases occurrence with
  | acceptFailed reason =>
    simp [run, step, waiting, Occurrence.events, service, Service.step, LoopStage.isRunning]
  | signal signal =>
    have registered := handled signal rfl
    simp [run, step, waiting, registered, Occurrence.events, service, Service.step,
      LoopStage.isRunning]
  | connection client =>
    obtain ⟨arrival, refusal⟩ := client
    -- The connection is accepted, octets that come before the end of
    -- the request are kept, and then it is answered.
    have whole : ∃ stage,
        loop.run ((Occurrence.connection ⟨arrival, refusal⟩).events room circumstances) =
        (({ loop with stage := stage } : Loop).hear arrival circumstances).finish
          (answer loop.inhibitor ⟨arrival, refusal⟩ circumstances) := by
      have accepted (happenings : List LoopEvent) : loop.run (.accepts room :: happenings) =
          ({ loop with stage := .talking (.start room) } : Loop).run happenings := by
        simp [run, step, waiting]
      simp only [Occurrence.events, accepted]
      -- The stage once nothing but the end of the wait is missing, and what is still to come.
      have arrived (octets : Octets) (last : Happening)
          (ends : Stage.arrival (.reading octets) last = some arrival) :
            ({ loop with stage := .talking ⟨.reading octets, room⟩ } : Loop).run
              ((last :: (refusal.map Happening.breaks).toList).map (.happens · circumstances)) =
            (({ loop with stage := .talking ⟨.reading octets, room⟩ } : Loop).hear arrival
              circumstances).finish
              (answer loop.inhibitor ⟨arrival, refusal⟩ circumstances) := by
        have talking : ({ loop with stage := .talking ⟨.reading octets, room⟩ } : Loop).stage =
            .talking ⟨.reading octets, room⟩ := rfl
        exact run_arrival talking ends refusal circumstances fits
      cases arrival with
      | received octets =>
        have sent (happenings : List LoopEvent) :
            ({ loop with stage := .talking (.start room) } : Loop).run
                (.happens (.sends octets) circumstances :: happenings) =
              ({ loop with stage := .talking ⟨.reading octets, room⟩ } : Loop).run happenings := by
          simp [run, step, attend, Conversation.start, Conversation.step, Stage.arrival]
        simp only [Arrival.happenings, List.cons_append, List.map_cons, sent]
        exact ⟨_, arrived octets .closes rfl⟩
      | timedOut => exact ⟨_, arrived [] .expires rfl⟩
      | broken reason => exact ⟨_, arrived [] (.breaks reason) rfl⟩
    obtain ⟨stage, whole⟩ := whole
    have same : (answer loop.inhibitor ⟨arrival, refusal⟩ circumstances).inhibitor =
        (respond loop.inhibitor arrival circumstances).inhibitor := by
      cases refusal <;> rfl
    rw [whole]
    cases going : (answer loop.inhibitor ⟨arrival, refusal⟩ circumstances).keepRunning <;>
      simp [service, Service.step, waiting, LoopStage.isRunning, finish, hear, same, going]

end Loop

/-- A daemon leaves its session as it leaves its loop. -/
theorem Session.leave_eq (session : Session) (loop : Loop) (same : session.service = loop.service) :
    let remains := loop.leave session.workplace session.socket ordinary ordinary
    session.leave =
      { session with
        workplace := remains.workplace
        service := { session.service with inhibitor := remains.inhibitor, log := remains.log }
        ending := some remains.ending } := by
  -- Both put the same steps in a row.
  simp only [leave, same]
  rfl

end Wakeful.Daemon
