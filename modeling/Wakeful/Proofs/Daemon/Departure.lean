import Wakeful.Config.Inhibitor
import Wakeful.Daemon.Loop
import Wakeful.Proofs.Inhibit.Ledger
import Wakeful.Proofs.Inhibit.Turn

/-!
The daemon leaves its loop for two reasons only, and
whatever the reason it puts everything back in order.
-/

namespace Wakeful.Daemon

/-- What a change leaves is what the inhibitor makes of it. -/
theorem change_inhibitor (inhibitor : Inhibitor) (active : Bool) (circumstances : Circumstances) :
    (change inhibitor active circumstances).inhibitor =
      (inhibitor.setActive active circumstances).2.1 := by
  -- However the change comes out, the answer only reports it.
  unfold change
  rcases inhibitor.setActive active circumstances with ⟨fault | _ | _, after, log⟩ <;> rfl

/-- Whatever arrives, the inhibitor only ever takes turns. -/
theorem respond_inhibitor (inhibitor : Inhibitor) (arrival : Arrival)
    (circumstances : Circumstances) :
    ∃ taken, (respond inhibitor arrival circumstances).inhibitor = inhibitor.turns taken := by
  -- A request is at most one call.
  unfold respond
  cases readRequest arrival with
  | error report => exact ⟨[], rfl⟩
  | ok request =>
    cases request with
    | status => exact ⟨[], rfl⟩
    | inhibit => exact ⟨[.call true circumstances], change_inhibitor inhibitor true circumstances⟩
    | uninhibit =>
      exact ⟨[.call false circumstances], change_inhibitor inhibitor false circumstances⟩
    | kill => exact ⟨[], rfl⟩

/--
An answer as it has to be: it ends the daemon exactly if that was told to stop, and then agrees.
-/
structure Answer.Suits (answer : Answer) (arrival : Arrival) : Prop where
  /-- Nothing else ends the daemon. -/
  ends : answer.keepRunning = false ↔ readRequest arrival = .ok .kill
  /-- The client is told so. -/
  agrees : answer.keepRunning = false → answer.response = .done

/-- No change ends the daemon. -/
theorem change_keepRunning (inhibitor : Inhibitor) (active : Bool) (circumstances : Circumstances) :
    (change inhibitor active circumstances).keepRunning = true := by
  -- A change that fails is answered with an error, and the daemon goes on.
  unfold change
  rcases inhibitor.setActive active circumstances with ⟨fault | _ | _, after, log⟩ <;> rfl

/-- The daemon's answer suits what has arrived. -/
theorem respond_suits (inhibitor : Inhibitor) (arrival : Arrival) (circumstances : Circumstances) :
    (respond inhibitor arrival circumstances).Suits arrival := by
  -- By the request that can be read from what has arrived.
  unfold respond
  cases read : readRequest arrival with
  | error report => exact ⟨by simp [read], nofun⟩
  | ok request =>
    cases request with
    | status => exact ⟨by simp [read, carryOut], nofun⟩
    | inhibit =>
      exact ⟨by simp [read, carryOut, change_keepRunning], by simp [carryOut, change_keepRunning]⟩
    | uninhibit =>
      exact ⟨by simp [read, carryOut, change_keepRunning], by simp [carryOut, change_keepRunning]⟩
    | kill => exact ⟨by simp [read, carryOut], fun _ => rfl⟩

namespace Loop

/-- The clients so far have been answered, and none of them has told the daemon to stop. -/
structure Calm (heard : List Arrival) (responses : List Response) : Prop where
  /-- There are as many answers as there were arrivals. -/
  answered : responses.length = heard.length
  /-- Nobody has told it to stop. -/
  untold : ∀ arrival ∈ heard, readRequest arrival ≠ .ok .kill

/-- What a loop has heard and answered, wherever it stands. -/
def Stands (heard : List Arrival) (responses : List Response) : LoopStage → Prop
  -- While a response is written, the last arrival is not answered yet.
  | .waiting | .done (.signal _) | .talking ⟨.reading _, _⟩ => Calm heard responses
  | .talking ⟨.writing answer _, _⟩ =>
    ∃ earlier last, heard = earlier ++ [last] ∧ Calm earlier responses ∧ answer.Suits last
  | .talking ⟨.ended _, _⟩ => False
  | .done .told =>
    ∃ earlier last given, heard = earlier ++ [last] ∧ responses = given ++ [.done] ∧
      Calm earlier given ∧
      readRequest last = .ok .kill

/-- A loop that goes on from an inhibitor. -/
structure Follows (origin : Inhibitor) (loop : Loop) : Prop where
  /-- The inhibitor has only taken turns. -/
  turned : ∃ taken, loop.inhibitor = origin.turns taken
  /-- What has been heard and answered agrees with where the loop stands. -/
  stands : Stands loop.heard loop.responses loop.stage

variable {origin : Inhibitor} {loop : Loop} {answer : Answer} {earlier : List Arrival}
  {last : Arrival}

/-- Turns of an inhibitor that has taken turns are turns. -/
theorem turned_trans {inhibitor after : Inhibitor} (first : ∃ taken, inhibitor = origin.turns taken)
    (second : ∃ taken, after = inhibitor.turns taken) : ∃ taken, after = origin.turns taken := by
  -- Turns are taken one after the other, so two runs of them make one.
  obtain ⟨before, rfl⟩ := first
  obtain ⟨taken, rfl⟩ := second
  exact ⟨before ++ taken, (origin.turns_append before taken).symm⟩

/-- Once the last arrival is answered, the loop waits for the next one or has been told to stop. -/
theorem stands_finish (heard : loop.heard = earlier ++ [last]) (calm : Calm earlier loop.responses)
    (suits : answer.Suits last) :
    Stands loop.heard (loop.finish answer).responses (loop.finish answer).stage := by
  -- The answer decides.
  cases going : answer.keepRunning with
  | true =>
    have waiting : (loop.finish answer).stage = .waiting := by simp [finish, going]
    rw [waiting]
    have untold : readRequest last ≠ .ok .kill := by
      intro told
      rw [suits.ends.mpr told] at going
      cases going
    refine ⟨by simp [finish, heard, calm.answered], ?_⟩
    intro arrival member
    rw [heard] at member
    rcases List.mem_append.mp member with before | same
    · exact calm.untold arrival before
    · rw [List.mem_singleton.mp same]
      exact untold
  | false =>
    have told : (loop.finish answer).stage = .done .told := by simp [finish, going]
    rw [told]
    have agreed := suits.agrees going
    exact ⟨earlier, last, loop.responses,
      heard, by simp [finish, agreed], calm, suits.ends.mp going⟩

/-- What one event comes to, case by case. -/
inductive Steps (loop : Loop) : LoopEvent → Loop → Prop where
  /-- The event cannot come now, or nobody listens for it. -/
  | passes (event : LoopEvent) : Steps loop event loop
  /-- The loop begins to talk. -/
  | accepts {room : Nat} (waiting : loop.stage = .waiting) :
      Steps loop (.accepts room) { loop with stage := .talking (.start room) }
  /-- The failure is reported. -/
  | misses {reason : Errno} (waiting : loop.stage = .waiting) :
      Steps loop (.misses reason) { loop with log := loop.log ++ [unaccepted reason] }
  /-- The loop talks on. -/
  | happens {conversation : Conversation} {happening : Happening} {circumstances : Circumstances}
      (talking : loop.stage = .talking conversation) :
      Steps loop (.happens happening circumstances)
        (loop.attend conversation happening circumstances)
  /-- A signal for which there is a handler is kept. -/
  | arrives {signal : Signal} (registered : signal ∈ loop.handled) :
      Steps loop (.arrives signal) { loop with pending := loop.pending ++ [signal] }
  /-- A signal that was kept is taken. -/
  | takes {signal : Signal} (waiting : loop.stage = .waiting) (kept : signal ∈ loop.pending) :
      Steps loop (.takes signal) { loop with stage := .done (.signal signal) }
  /-- The watchdog's thread gets on. -/
  | thread {step : ThreadStep} :
      Steps loop (.thread step) { loop with inhibitor := loop.inhibitor.threadSteps [step] }

/-- Every event is one of these cases. -/
theorem steps (loop : Loop) (event : LoopEvent) : loop.Steps event (loop.step event) := by
  -- By the event, and by whether the loop is ready for it.
  unfold step
  split
  · exact .accepts ‹_›
  · exact .misses ‹_›
  · exact .happens ‹_›
  · split
    · exact .arrives ‹_›
    · exact .passes _
  · split
    · exact .takes ‹_› ‹_›
    · exact .passes _
  · exact .thread
  · exact .passes _

/--
A response that does not get through yet is kept, and what becomes of the rest changes no answer.
-/
theorem attend_writing (loop : Loop) (answer : Answer) (left : Octets) (room : Nat)
    (happening : Happening) (circumstances : Circumstances) :
    (∃ rest free, loop.attend ⟨.writing answer left, room⟩ happening circumstances =
        { loop with stage := .talking ⟨.writing answer rest, free⟩ }) ∨
      ∃ log, loop.attend ⟨.writing answer left, room⟩ happening circumstances =
        loop.finish { answer with log := log } := by
  -- Only room and a break matter to the daemon.
  cases happening with
  | sends octets => exact Or.inl ⟨left, room, rfl⟩
  | closes => exact Or.inl ⟨left, room, rfl⟩
  | expires => exact Or.inl ⟨left, room, rfl⟩
  | takes count =>
    simp only [attend, Conversation.step, Conversation.write, Stage.arrival]
    by_cases enough : left.length ≤ room + count
    · exact Or.inr ⟨answer.log, by simp [enough]⟩
    · exact Or.inl ⟨left.drop (room + count), 0, by simp [enough]⟩
  | breaks reason => exact Or.inr ⟨_, rfl⟩

/-- Until the wait for a request ends, it goes on. -/
theorem attend_reading {happening : Happening} {received : Octets}
    (waits : Stage.arrival (.reading received) happening = none) (loop : Loop) (room : Nat)
    (circumstances : Circumstances) :
    ∃ extended free, loop.attend ⟨.reading received, room⟩ happening circumstances =
      { loop with stage := .talking ⟨.reading extended, free⟩ } := by
  -- Of all that can happen only octets and room do not end the request.
  cases happening with
  | sends octets => exact ⟨_, _, rfl⟩
  | takes count => exact ⟨_, _, rfl⟩
  | closes => cases waits
  | expires => cases waits
  | breaks reason => cases waits

/-- Whatever happens on a connection, the loop goes on from the same inhibitor. -/
theorem Follows.attend {conversation : Conversation} (follows : Follows origin loop)
    (talking : loop.stage = .talking conversation) (happening : Happening)
    (circumstances : Circumstances) :
    Follows origin (loop.attend conversation happening circumstances) := by
  -- The stages of the conversation are those that the loop has to follow.
  obtain ⟨turned, stands⟩ := follows
  rw [talking] at stands
  obtain ⟨stage, room⟩ := conversation
  cases stage with
  | ended answer => exact stands.elim
  | writing answer left =>
    obtain ⟨earlier, last, heard, calm, suits⟩ := stands
    rcases loop.attend_writing answer left room happening circumstances with
      ⟨rest, free, kept⟩ | ⟨log, finished⟩
    · rw [kept]
      exact ⟨turned, earlier, last, heard, calm, suits⟩
    · rw [finished]
      exact ⟨turned, stands_finish heard calm ⟨suits.ends, suits.agrees⟩⟩
  | reading received =>
    cases arrived : Stage.arrival (.reading received) happening with
    | none =>
      obtain ⟨extended, free, kept⟩ := attend_reading arrived loop room circumstances
      rw [kept]
      exact ⟨turned, stands⟩
    | some arrival =>
      -- The request is carried out, and its response may have got through at once.
      have suits := respond_suits loop.inhibitor arrival circumstances
      have after := turned_trans turned (respond_inhibitor loop.inhibitor arrival circumstances)
      have arrives : Stage.arrival (Conversation.mk (.reading received) room).stage happening =
          some arrival := arrived
      rw [attend_arrival arrives loop circumstances]
      split
      · have heard : (loop.hear arrival circumstances).heard = loop.heard ++ [arrival] := rfl
        exact ⟨after, stands_finish heard stands suits⟩
      · exact ⟨after, loop.heard, arrival, rfl, stands, suits⟩

/-- After any event, the loop goes on from the same inhibitor. -/
theorem Follows.step (follows : Follows origin loop) (event : LoopEvent) :
    Follows origin (loop.step event) := by
  -- Between two conversations, everybody who was heard has been answered.
  have steps := loop.steps event
  generalize loop.step event = after at steps ⊢
  obtain ⟨turned, stands⟩ := follows
  cases steps with
  | passes => exact ⟨turned, stands⟩
  | accepts waiting =>
    rw [waiting] at stands
    exact ⟨turned, stands⟩
  | misses waiting => exact ⟨turned, stands⟩
  | happens talking => exact Follows.attend ⟨turned, stands⟩ talking _ _
  | arrives registered => exact ⟨turned, stands⟩
  | takes waiting kept =>
    rw [waiting] at stands
    exact ⟨turned, stands⟩
  | @thread step => exact ⟨turned_trans turned ⟨[.thread step], rfl⟩, stands⟩

/-- After any events, the loop goes on from the same inhibitor. -/
theorem Follows.run (follows : Follows origin loop) (events : List LoopEvent) :
    Follows origin (loop.run events) := by
  -- The induction is over the events.
  induction events generalizing loop with
  | nil => exact follows
  | cons event rest ih => exact ih (follows.step event)

/-- What is not so at the beginning and is so at the end has come about with one of the events. -/
theorem run_split (holds : Loop → Prop) (before : ¬ holds loop) {events : List LoopEvent}
    (after : holds (loop.run events)) :
    ∃ earlier event later, events = earlier ++ event :: later ∧ ¬ holds (loop.run earlier) ∧
      holds ((loop.run earlier).step event) := by
  -- The first event either is the one or leaves it to the others.
  induction events generalizing loop with
  | nil => exact absurd after before
  | cons event rest ih =>
    by_cases now : holds (loop.step event)
    · exact ⟨[], event, rest, rfl, before, now⟩
    · obtain ⟨earlier, next, later, rfl, still, comes⟩ := ih now after
      exact ⟨event :: earlier, next, later, rfl, still, comes⟩

/-- While the loop talks, no signal is noticed. -/
theorem attend_signals (loop : Loop) (conversation : Conversation) (happening : Happening)
    (circumstances : Circumstances) :
    (loop.attend conversation happening circumstances).pending = loop.pending ∧
      ∀ signal, (loop.attend conversation happening circumstances).stage ≠
        .done (.signal signal) := by
  -- A client can only tell the daemon to stop or let it wait for the next one.
  have unsignaled (heard : Loop) (answer : Answer) (signal : Signal) :
      (heard.finish answer).stage ≠ .done (.signal signal) := by
    cases going : answer.keepRunning <;> simp [finish, going]
  simp only [attend]
  cases conversation.stage.arrival happening <;>
    cases (conversation.step loop.inhibitor circumstances happening).stage
  case none.ended answer => exact ⟨rfl, unsignaled _ answer⟩
  case some.ended arrival answer => exact ⟨rfl, unsignaled _ answer⟩
  all_goals exact ⟨rfl, fun signal same => by cases same⟩

/-- A signal is only kept once it has arrived. -/
theorem arrived_of_pending {signal : Signal} (fresh : loop.pending = []) {events : List LoopEvent}
    (kept : signal ∈ (loop.run events).pending) : .arrives signal ∈ events := by
  -- Along the events there is a first one after which the
  -- signal is kept, and only its arrival adds it.
  have absent : ¬ signal ∈ loop.pending := by simp [fresh]
  obtain ⟨earlier, event, later, rfl, before, after⟩ := run_split (signal ∈ ·.pending) absent kept
  have steps := (loop.run earlier).steps event
  generalize (loop.run earlier).step event = next at steps after
  cases steps with
  | arrives registered =>
    rcases List.mem_append.mp after with old | new
    · exact absurd old before
    · rw [List.mem_singleton.mp new]
      simp
  | happens talking =>
    rw [(attend_signals _ _ _ _).1] at after
    exact absurd after before
  | passes => exact absurd after before
  | accepts waiting => exact absurd after before
  | misses waiting => exact absurd after before
  | takes waiting kept => exact absurd after before
  | thread => exact absurd after before

/-- A signal ends the loop only when it is taken between two conversations, after it has arrived. -/
theorem taken_of_signal {signal : Signal} (running : loop.stage.isRunning = true)
    (fresh : loop.pending = []) {events : List LoopEvent}
    (signaled : (loop.run events).stage = .done (.signal signal)) :
    ∃ earlier later,
    events = earlier ++ .takes signal :: later ∧ (loop.run earlier).stage = .waiting ∧
      .arrives signal ∈ earlier := by
  -- Along the events there is a first one after which the loop
  -- is done, and only taking the signal ends it so.
  have going : ¬ loop.stage = .done (.signal signal) := by
    intro already
    rw [already] at running
    cases running
  obtain ⟨earlier, event, later, rfl, before, after⟩ :=
    run_split (·.stage = .done (.signal signal)) going signaled
  have steps := (loop.run earlier).steps event
  generalize (loop.run earlier).step event = next at steps after
  cases steps with
  | takes waiting kept =>
    -- What is taken had been kept, so it had arrived earlier.
    cases after
    exact ⟨earlier, later, rfl, waiting, arrived_of_pending fresh kept⟩
  | happens talking => exact absurd after ((attend_signals _ _ _ _).2 signal)
  | accepts waiting => cases after
  | passes => exact absurd after before
  | misses waiting => exact absurd after before
  | arrives registered => exact absurd after before
  | thread => exact absurd after before

/-- A loop at its beginning follows the inhibitor that it was given. -/
theorem Follows.new (origin : Inhibitor) (handled : List Signal) :
    Follows origin (.new origin handled) where
  turned := ⟨[], rfl⟩
  stands := ⟨rfl, by simp [Loop.new]⟩

/-- Only a socket that cannot be removed makes the daemon end with a failure. -/
theorem leave_code (inStep : loop.inhibitor.InStep) (workplace : Workplace) (socket : Octets)
    (stopping dropping : Circumstances) :
    (loop.leave workplace socket stopping dropping).ending.code =
      if (workplace.unlink socket).1.isOk then 0 else 1 := by
  -- The stop itself cannot fail.
  have stopped := Inhibitor.setActive_false_isOk inStep stopping
  show (if (quit loop.inhibitor workplace socket stopping).success then 0 else 1) = _
  have success : (quit loop.inhibitor workplace socket stopping).success =
      (workplace.unlink socket).1.isOk := by
    show ((workplace.unlink socket).1.isOk && (loop.inhibitor.setActive false stopping).1.isOk) = _
    rw [stopped, Bool.and_true]
  rw [success]

/-- What is left of the workplace is what it is once the socket has been removed. -/
theorem leave_workplace (workplace : Workplace) (socket : Octets)
    (stopping dropping : Circumstances) :
    (loop.leave workplace socket stopping dropping).workplace = (workplace.unlink socket).2 := by
  -- Neither the stop nor the end of the inhibitor touches a file.
  rfl

/--
The daemon leaves its loop for two reasons, and in any case puts everything back in order.

Either the last client has told it to stop and has been answered, or it has taken a signal that had
arrived, when no client was waiting for an answer. When it then ends, its files are
what removing the socket makes of them, its inhibitor is not active, the watchdog's
thread has been waited for, and each cookie has been given back exactly once, whether
or not the socket could be removed, which alone decides about success.
-/
theorem leaves_in_order (config : Config) (attempt : Except String BusScript)
    (handled : List Signal) (events : List LoopEvent) (workplace : Workplace) (socket : Octets)
    (stopping dropping : Circumstances) :
    let start := Loop.new (config.inhibitor (attempt.map BusScript.session)).1 handled
    let loop := start.run events
    let remains := loop.leave workplace socket stopping dropping
    (loop.stage = .done .told →
      ∃ earlier last given, loop.heard = earlier ++ [last] ∧ readRequest last = .ok .kill ∧
        (∀ arrival ∈ earlier, readRequest arrival ≠ .ok .kill) ∧
        loop.responses = given ++ [.done] ∧ given.length = earlier.length) ∧
    (∀ signal, loop.stage = .done (.signal signal) →
      (∃ before after,
        events = before ++ .takes signal :: after ∧ (start.run before).stage = .waiting ∧
        .arrives signal ∈ before) ∧
      (∀ arrival ∈ loop.heard, readRequest arrival ≠ .ok .kill) ∧
      loop.responses.length = loop.heard.length) ∧
    remains.inhibitor.active = false ∧
    (∀ watchdog, remains.inhibitor.watchdog = some watchdog → watchdog.thread = none) ∧
    (∀ script, config.bus.enabled = true → attempt = .ok script →
      ∃ session, remains.inhibitor.bus = some (.session session) ∧
        InOrder (script.exchanges session.calls) ∧
        (script.exchanges session.calls).filterMap Exchange.obtained =
          (script.exchanges session.calls).filterMap Exchange.returned) ∧
    remains.workplace = (workplace.unlink socket).2 ∧
    remains.ending.code = if (workplace.unlink socket).1.isOk then 0 else 1 := by
  -- The loop follows its conversations from the start, and leaving is one more stop and one drop.
  intro start loop remains
  have follows : Follows (config.inhibitor (attempt.map BusScript.session)).1 loop :=
    (Follows.new _ handled).run events
  obtain ⟨⟨taken, turned⟩, stands⟩ := follows
  have inStep : loop.inhibitor.InStep := by
    rw [turned]
    exact (Inhibitor.InStep.build _ _ _).turns taken
  have stopped := inStep.setActive false stopping
  obtain ⟨inactive, unwatched⟩ := Inhibitor.drop_idle stopped dropping
  refine ⟨fun told => ?_, fun signal signaled => ⟨?_, ?_⟩, inactive, unwatched, ?_,
    leave_workplace workplace socket stopping dropping,
    leave_code inStep workplace socket stopping dropping⟩
  · -- Being told to stop is the last thing it heard.
    rw [told] at stands
    obtain ⟨earlier, last, given, heard, agreed, calm, killed⟩ := stands
    exact ⟨earlier, last, given, heard, killed, calm.untold, agreed, calm.answered⟩
  · exact taken_of_signal rfl rfl signaled
  · -- Nobody had told it to stop when it took the signal.
    rw [signaled] at stands
    exact ⟨stands.untold, stands.answered⟩
  · -- The session has been started and stopped in turn from the beginning.
    intro script enabled connected
    subst connected
    have built : (config.inhibitor (.ok script.session)).1 =
        Inhibitor.built config.reason (.ok script) config.watchdogInterval := by
      simp only [Config.inhibitor, Config.busChoice, enabled, if_true]
      rfl
    obtain ⟨first, waiting⟩ :=
      (Inhibitor.Alternated.built config.reason script config.watchdogInterval).turns taken
    have same : loop.inhibitor =
        (Inhibitor.built config.reason (.ok script) config.watchdogInterval).turns taken := by
      rw [turned]
      exact congrArg (·.turns taken) built
    obtain ⟨second, leaving⟩ := waiting.setActive false stopping
    have left := leaving.drop dropping
    rw [← same] at left
    exact left

end Loop

end Wakeful.Daemon
