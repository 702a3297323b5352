import Wakeful.Proofs.Daemon.Departure

/-!
A daemon waits for a request only for a time, but for room
for its response as long as the client likes.
-/

namespace Wakeful.Daemon

namespace Happening

/-- The octets that the client sends. -/
def sent : Happening → Octets
  | sends octets => octets
  | _ => []

/-- The number of octets that the client takes. -/
def taken : Happening → Nat
  | takes count => count
  | _ => 0

/-- Whether the connection breaks. -/
def isBreak : Happening → Bool
  | breaks _ => true
  | _ => false

/-- Whether a wait for a request ends. -/
def endsRequest (happening : Happening) : Bool :=
  -- What has been received before makes no difference.
  (Stage.arrival (.reading []) happening).isSome

/-- Whether a wait for room notices what happens. -/
def relieves : Happening → Bool
  | takes _ | breaks _ => true
  | _ => false

end Happening

namespace Conversation

variable {inhibitor : Inhibitor} {circumstances : Circumstances} {conversation : Conversation}
  {answer : Answer} {happening : Happening} {happenings : List Happening} {received left : Octets}
  {room : Nat}

/-- The octets that the client sends in all. -/
def sent (happenings : List Happening) : Octets :=
  -- They come in order.
  happenings.flatMap Happening.sent

/-- The number of octets that the client takes in all. -/
def taken : List Happening → Nat
  -- It does not matter when.
  | [] => 0
  | happening :: rest => happening.taken + taken rest

/-- What happens first is taken first. -/
theorem run_cons (inhibitor : Inhibitor) (circumstances : Circumstances)
    (conversation : Conversation) (happening : Happening) (rest : List Happening) :
    run inhibitor circumstances conversation (happening :: rest) =
      run inhibitor circumstances (conversation.step inhibitor circumstances happening) rest := rfl

/-- What happens later is taken later. -/
theorem run_append (inhibitor : Inhibitor) (circumstances : Circumstances)
    (conversation : Conversation) (before after : List Happening) :
    run inhibitor circumstances conversation (before ++ after) =
      run inhibitor circumstances (run inhibitor circumstances conversation before) after :=
  List.foldl_append

/-- Until the wait for a request ends, octets are collected. -/
theorem run_reading (waits : ∀ happening ∈ happenings, happening.endsRequest = false) :
    run inhibitor circumstances ⟨.reading received, room⟩ happenings =
      ⟨.reading (received ++ sent happenings), room + taken happenings⟩ := by
  -- The induction is over what happens, of which nothing ends the wait.
  induction happenings generalizing received room with
  | nil => simp [run, sent, taken]
  | cons happening rest ih =>
    have first := waits happening (by simp)
    have others : run inhibitor circumstances
        ⟨.reading (received ++ happening.sent), room + happening.taken⟩ rest =
        ⟨.reading (received ++ happening.sent ++ sent rest), room + happening.taken + taken rest⟩ :=
      ih fun later among => waits later (by simp [among])
    have one : step inhibitor circumstances ⟨.reading received, room⟩ happening =
        ⟨.reading (received ++ happening.sent), room + happening.taken⟩ := by
      cases happening with
      | sends octets => rfl
      | takes count => simp [step, Happening.sent, Happening.taken]
      | closes | expires | breaks reason => cases first
    rw [run_cons, one, others]
    simp [sent, taken, Nat.add_assoc]

/-- The wait for a request ends with an arrival. -/
theorem endsRequest_iff (received : Octets) : happening.endsRequest = true ↔
    ∃ arrival, Stage.arrival (.reading received) happening = some arrival := by
  cases happening <;> simp [Happening.endsRequest, Stage.arrival]

/--
Once the wait for a request has ended, what has arrived is replied to with the room that there is.
-/
theorem run_arrival {before after : List Happening} {last : Happening} {arrival : Arrival}
    (waits : ∀ happening ∈ before, happening.endsRequest = false)
    (arrived : Stage.arrival (.reading (sent before)) last = some arrival) :
    run inhibitor circumstances (.start room) (before ++ last :: after) =
      run inhibitor circumstances
        (reply inhibitor circumstances arrival (room + taken before)) after := by
  rw [run_append, start, run_reading waits, run_cons, List.nil_append, Loop.step_arrival arrived]

/-- A daemon that does not read notices nothing but room and a break. -/
theorem step_untimed (untimed : conversation.stage.isTimed = false)
    (helpless : happening.relieves = false) :
    conversation.step inhibitor circumstances happening = conversation := by
  -- While it does not read, only room taken and a break are looked at.
  obtain ⟨stage, room⟩ := conversation
  cases stage with
  | reading received => cases untimed
  | _ =>
    cases happening with
    | takes count | breaks reason => cases helpless
    | _ => rfl

/-- No wait for room ends by itself. -/
theorem isTimed_write : (write answer left room).stage.isTimed = false := by
  -- Writing leads to waiting for room or to the end, and reading is neither.
  unfold write
  split <;> rfl

/-- To make room while or after a response is written is as good as to have had it before. -/
theorem step_write (whole : happening.isBreak = false) :
    step inhibitor circumstances (write answer left room) happening =
      write answer left (room + happening.taken) := by
  -- Room that comes in two parts is as much as room that comes at once.
  cases happening with
  | breaks reason => cases whole
  | takes count =>
    simp only [write, Happening.taken]
    by_cases enough : left.length ≤ room
    · -- The response is written already, and the room is only added up.
      have also : left.length ≤ room + count := Nat.le_add_right_of_le enough
      simp [step, enough, also]
      omega
    · -- What is missing may come now or still later.
      by_cases later : left.length ≤ room + count
      · have rest : left.length - room ≤ count := by omega
        simp [step, write, enough, later, rest]
        omega
      · have rest : ¬ left.length - room ≤ count := by omega
        simp [step, write, enough, later, rest, List.drop_drop]
  | sends octets | closes | expires => exact step_untimed isTimed_write rfl

/--
As long as the connection holds, what has been written depends only on how much room there has been.
-/
theorem run_write (whole : ∀ happening ∈ happenings, happening.isBreak = false) :
    run inhibitor circumstances (write answer left room) happenings =
      write answer left (room + taken happenings) := by
  -- The induction is over what happens, of which each adds its room.
  induction happenings generalizing room with
  | nil => rfl
  | cons happening rest ih =>
    rw [run_cons, step_write (whole happening (by simp)),
      ih fun later among => whole later (by simp [among])]
    simp [taken, Nat.add_assoc]

/-- The daemon waits for room exactly if there is not enough. -/
theorem isWaiting_write : (write answer left room).stage.isWaiting = true ↔ room < left.length := by
  -- A wait begins where what is left is longer than the room.
  unfold write
  split
  · rename_i enough
    simp [Stage.isWaiting, Nat.not_lt.mpr enough]
  · rename_i short
    simp [Stage.isWaiting, Nat.not_le.mp short]

/-- Once the daemon has done with a client, it waits for that client no more. -/
theorem run_ended (finished : conversation.stage.isWaiting = false) (happenings : List Happening) :
    (run inhibitor circumstances conversation happenings).stage.isWaiting = false := by
  -- By induction on what happens, none of which brings an ended conversation back.
  induction happenings generalizing conversation with
  | nil => exact finished
  | cons happening rest ih =>
    apply ih
    obtain ⟨stage, room⟩ := conversation
    cases stage with
    | reading received => cases finished
    | writing answer left => cases finished
    | ended answer => cases happening <;> rfl

/-- A broken connection ends the wait for room. -/
theorem step_break (broken : happening.isBreak = true) :
    (step inhibitor circumstances (write answer left room) happening).stage.isWaiting = false := by
  -- A break ends a wait and changes nothing after the end.
  cases happening with
  | breaks reason =>
    unfold write
    split <;> rfl
  | _ => cases broken

/--
After an arrival the daemon waits exactly as long as the
connection holds and there is too little room.
-/
theorem isWaiting_run_reply {arrival : Arrival} :
    (run inhibitor circumstances (reply inhibitor circumstances arrival room)
      happenings).stage.isWaiting = true ↔
      (∀ happening ∈ happenings, happening.isBreak = false) ∧
        room + taken happenings <
          (respond inhibitor arrival circumstances).response.encode.length := by
  unfold reply
  cases found : happenings.find? Happening.isBreak with
  | none =>
    have whole : ∀ happening ∈ happenings, happening.isBreak = false := by
      simpa using found
    rw [run_write whole, isWaiting_write]
    exact ⟨fun short => ⟨whole, short⟩, fun both => both.2⟩
  | some broken =>
    -- The first break ends the wait for good.
    obtain ⟨breaks, before, after, rfl, whole⟩ := List.find?_eq_some_iff_append.mp found
    have finished : (run inhibitor circumstances (write (respond inhibitor arrival circumstances)
        (respond inhibitor arrival circumstances).response.encode room) (before ++
          broken :: after)).stage.isWaiting =
        false := by
      rw [run_append, run_write (by simpa using whole), run_cons]
      exact run_ended (step_break breaks) after
    rw [finished]
    refine ⟨nofun, fun both => ?_⟩
    rw [both.1 broken (by simp)] at breaks
    cases breaks

/-- A daemon that does not read reads no more. -/
theorem isTimed_step (untimed : conversation.stage.isTimed = false) (happening : Happening) :
    (conversation.step inhibitor circumstances happening).stage.isTimed = false := by
  -- The stages after reading lead only to one another.
  obtain ⟨stage, room⟩ := conversation
  cases stage with
  | reading received => cases untimed
  | ended answer => cases happening <;> rfl
  | writing answer left =>
    cases happening with
    | takes count => exact isTimed_write
    | _ => rfl

/-- A daemon that does not read never reads again. -/
theorem isTimed_run (untimed : conversation.stage.isTimed = false) (happenings : List Happening) :
    (run inhibitor circumstances conversation happenings).stage.isTimed = false := by
  -- By induction on what happens.
  induction happenings generalizing conversation with
  | nil => exact untimed
  | cons happening rest ih => exact ih (isTimed_step untimed happening)

/-- Without room or a break a daemon that does not read stays where it is. -/
theorem run_untimed (untimed : conversation.stage.isTimed = false)
    (helpless : ∀ happening ∈ happenings, happening.relieves = false) :
    run inhibitor circumstances conversation happenings = conversation := by
  -- By induction on what happens, each of which leaves the conversation as it is.
  induction happenings with
  | nil => rfl
  | cons happening rest ih =>
    rw [run_cons, step_untimed untimed (helpless happening (by simp))]
    exact ih fun later among => helpless later (by simp [among])

/-- When the time for the request is over, the daemon does not read. -/
theorem isTimed_expires (conversation : Conversation) :
    (conversation.step inhibitor circumstances .expires).stage.isTimed = false := by
  -- An overdue request is answered, and the answer is written.
  obtain ⟨stage, room⟩ := conversation
  cases stage with
  | reading received => exact isTimed_write
  | _ => rfl

/--
A client holds the daemon exactly by not taking the whole response, and then without limit.

The daemon waits for a client with no end in sight exactly if the wait for the request
has ended, the connection has not broken since, and all the room there has been is
less than the response to what has arrived. Then nothing that happens on the
connection makes any difference unless the client takes octets or the connection
breaks. The wait for the request, however, is over as soon as the time for it is.
-/
theorem held_iff_untaken (inhibitor : Inhibitor) (circumstances : Circumstances) (room : Nat)
    (happenings : List Happening) :
    let conversation := run inhibitor circumstances (.start room) happenings
    (conversation.stage.isWaiting = true ∧ conversation.stage.isTimed = false ↔
      ∃ before last after arrival, happenings = before ++ last :: after ∧
        (∀ happening ∈ before, happening.endsRequest = false) ∧
        Stage.arrival (.reading (sent before)) last = some arrival ∧
        (∀ happening ∈ after, happening.isBreak = false) ∧
        room + taken before + taken after <
          (respond inhibitor arrival circumstances).response.encode.length) ∧
    (conversation.stage.isWaiting = true → conversation.stage.isTimed = false →
      ∀ later, (∀ happening ∈ later, happening.relieves = false) →
        run inhibitor circumstances conversation later = conversation) ∧
    (conversation.stage.isTimed = true →
      (conversation.step inhibitor circumstances .expires).stage.isTimed = false) := by
  intro conversation
  refine ⟨⟨?_, ?_⟩, fun _ untimed later helpless => run_untimed untimed helpless,
    fun _ => isTimed_expires _⟩
  · rintro ⟨waiting, untimed⟩
    cases found : happenings.find? Happening.endsRequest with
    | none =>
      -- Until the wait for the request ends, it is timed.
      have waits : ∀ happening ∈ happenings, happening.endsRequest = false := by
        simpa using found
      have reading : conversation = ⟨.reading (sent happenings), room + taken happenings⟩ :=
        run_reading waits
      rw [reading] at untimed
      cases untimed
    | some last =>
      obtain ⟨ends, before, after, rfl, none⟩ := List.find?_eq_some_iff_append.mp found
      have waits : ∀ happening ∈ before, happening.endsRequest = false := by
        simpa using none
      obtain ⟨arrival, arrived⟩ := (endsRequest_iff (sent before)).mp ends
      have replied : conversation = _ := run_arrival waits arrived
      rw [replied, isWaiting_run_reply] at waiting
      exact ⟨before, last, after, arrival, rfl, waits, arrived, waiting.1, waiting.2⟩
  · rintro ⟨before, last, after, arrival, rfl, waits, arrived, whole, short⟩
    have replied : conversation = _ := run_arrival waits arrived
    rw [replied]
    exact ⟨isWaiting_run_reply.mpr ⟨whole, short⟩, isTimed_run isTimed_write after⟩

/-- A text of so many times the same letter has as many octets. -/
theorem length_ofText_replicate (count : Nat) :
    (Octets.ofText (String.ofList (List.replicate count 'w'))).length = count := by
  -- By induction on the letters, each of which is one octet.
  show (String.ofList (List.replicate count 'w')).utf8ByteSize = count
  induction count with
  | zero => rfl
  | succ count ih =>
    rw [List.replicate_succ', String.ofList_append, String.utf8ByteSize_append, ih]
    rfl

/-- The response to a client that asks for the state is longer than the reason. -/
theorem length_status (inhibitor : Inhibitor) (circumstances : Circumstances) :
    (Octets.ofText inhibitor.reason).length <
      (respond inhibitor (.received Request.status.encode)
        circumstances).response.encode.length := by
  -- The response holds the reason and, before it, a tag and a length.
  show _ < (Response.status inhibitor.active inhibitor.reason).encode.length
  simp [Response.encode, Wire.writeText]
  omega

/--
A client that asks for the state and takes nothing holds the
daemon without limit if there is no room for the reason.
-/
theorem status_held (inhibitor : Inhibitor) (circumstances : Circumstances)
    (long : room ≤ (Octets.ofText inhibitor.reason).length) :
    let conversation :=
      run inhibitor circumstances (.start room) [.sends Request.status.encode, .closes]
    conversation.stage.isWaiting = true ∧ conversation.stage.isTimed = false ∧
      ∀ later, (∀ happening ∈ later, happening.relieves = false) →
        run inhibitor circumstances conversation later = conversation := by
  -- The request arrives, the answer is too long for the room, and no deadline is set for writing.
  intro conversation
  have waits : ∀ happening ∈ [Happening.sends Request.status.encode],
      happening.endsRequest = false := by
    intro happening among
    cases List.mem_singleton.mp among
    rfl
  have arrived : Stage.arrival (.reading (sent [.sends Request.status.encode])) .closes =
      some (.received _) := rfl
  have replied : conversation = _ := run_arrival waits arrived
  have untimed : conversation.stage.isTimed = false := replied ▸ isTimed_run isTimed_write []
  refine ⟨?_, untimed, fun later helpless => run_untimed untimed helpless⟩
  rw [replied, isWaiting_run_reply]
  refine ⟨nofun, ?_⟩
  have longer := length_status inhibitor circumstances
  simp only [taken, sent, List.flatMap_cons, List.flatMap_nil, List.append_nil, Happening.sent,
    Happening.taken, Nat.add_zero]
  exact Nat.lt_of_le_of_lt long longer

/-- A reason of as many octets as there is room for is enough to hold the daemon without limit. -/
theorem held_by_long_reason :
    let inhibitor : Inhibitor := ⟨String.ofList (List.replicate 212992 'w'), none, none, false⟩
    let conversation :=
      run inhibitor ordinary (.start 212992) [.sends Request.status.encode, .closes]
    conversation.stage.isWaiting = true ∧ conversation.stage.isTimed = false ∧
      ∀ later, (∀ happening ∈ later, happening.relieves = false) →
        run inhibitor ordinary conversation later = conversation :=
  status_held ⟨String.ofList (List.replicate 212992 'w'), none, none, false⟩ ordinary
    (Nat.le_of_eq (length_ofText_replicate 212992).symm)

end Conversation

/-- Whether a wait for room notices an event. -/
def LoopEvent.relieves : LoopEvent → Bool
  -- Only what happens on the connection counts.
  | .happens happening _ => happening.relieves
  | _ => false

namespace Loop

variable {loop : Loop} {answer : Answer} {left : Octets} {room : Nat}

/-- While a daemon waits for room, it takes up no other client and no signal. -/
theorem run_held (writing : loop.stage = .talking ⟨.writing answer left, room⟩)
    {events : List LoopEvent} (helpless : ∀ event ∈ events, event.relieves = false) :
    (loop.run events).stage = loop.stage ∧ (loop.run events).heard = loop.heard ∧
      (loop.run events).responses = loop.responses := by
  -- The induction is over the events, none of which the conversation notices.
  induction events generalizing loop with
  | nil => exact ⟨rfl, rfl, rfl⟩
  | cons event rest ih =>
    have one : (loop.step event).stage = loop.stage ∧ (loop.step event).heard = loop.heard ∧
        (loop.step event).responses = loop.responses := by
      have first := helpless event (by simp)
      cases event with
      | happens happening circumstances =>
        rw [step_talking writing]
        have still : Conversation.step loop.inhibitor circumstances
            ⟨.writing answer left, room⟩ happening = ⟨.writing answer left, room⟩ :=
              Conversation.step_untimed rfl first
        simp [attend, still, writing, Stage.arrival]
      | arrives signal =>
        simp only [step]
        split <;> exact ⟨rfl, rfl, rfl⟩
      | _ => simp [step, writing]
    have others := ih (one.1.trans writing) fun later among => helpless later (by simp [among])
    exact ⟨others.1.trans one.1, others.2.1.trans one.2.1, others.2.2.trans one.2.2⟩

end Loop

end Wakeful.Daemon
