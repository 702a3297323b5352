import Wakeful.Proofs.Inhibit.Alternation

/-!
Cookies are kept as in a ledger: none is asked for while one
is held, and each one is given back exactly once.
-/

namespace Wakeful

/-- A session bus, seen as what it is going to answer. -/
structure BusScript where
  /-- The answers to requests to inhibit: a cookie, or the words of a failure. -/
  inhibits : List (Except String Nat)
  /-- The answers to releases: nothing, or the words of a failure. -/
  releases : List (Except String Unit)

/-- A call on the session bus together with its answer. -/
inductive Exchange where
  /-- A request to inhibit. -/
  | inhibit (application reason : String) (reply : Except String Nat)
  /-- A release, which may fail after the cookie has been sent. -/
  | unInhibit (cookie : Nat) (reply : Except String Unit)

namespace Exchange

/-- The cookie that is obtained. -/
def obtained : Exchange → Option Nat
  -- A request that fails brings none.
  | inhibit _ _ (.ok cookie) => some cookie
  | _ => none

/-- The cookie that is given back. -/
def returned : Exchange → Option Nat
  -- The attempt counts, whatever the bus answers.
  | unInhibit cookie _ => some cookie
  | _ => none

end Exchange

/-- The last cookie obtained is this one, and nothing has been given back since. -/
def Outstanding (trace : List Exchange) (cookie : Nat) : Prop :=
  -- Only requests that failed may have followed.
  ∃ earlier application reason later,
    trace = earlier ++ .inhibit application reason (.ok cookie) :: later ∧
      ∀ exchange ∈ later, exchange.obtained = none ∧ exchange.returned = none

/--
Whether an exchange may follow: a request if no cookie is
outstanding, a release only of the one that is.
-/
def Exchange.Due (trace : List Exchange) : Exchange → Prop
  -- Failures are no excuse on either side.
  | .inhibit _ _ _ => ∀ cookie, ¬ Outstanding trace cookie
  | .unInhibit cookie _ => Outstanding trace cookie

/-- No cookie is outstanding before the first call. -/
theorem not_outstanding_nil (cookie : Nat) : ¬ Outstanding [] cookie := by
  -- There is no call by which it could have been got.
  rintro ⟨earlier, application, reason, later, whole, -⟩
  simp at whole

/--
What is outstanding after one more exchange is what it has
brought, or else what was outstanding before.
-/
theorem outstanding_concat {trace : List Exchange} {exchange : Exchange} {cookie : Nat} :
    Outstanding (trace ++ [exchange]) cookie ↔
      exchange.obtained = some cookie ∨
        exchange.obtained = none ∧ exchange.returned = none ∧ Outstanding trace cookie := by
  constructor
  · rintro ⟨earlier, application, reason, later, whole, quiet⟩
    -- The exchange has brought the cookie itself, or it is the last of those that came later.
    rcases List.eq_nil_or_concat later with rfl | ⟨between, last, rfl⟩
    · obtain ⟨-, same⟩ := List.append_inj' whole rfl
      cases same
      exact Or.inl rfl
    · rw [List.concat_eq_append, ← List.cons_append, ← List.append_assoc] at whole
      obtain ⟨rfl, same⟩ := List.append_inj' whole rfl
      cases same
      have silent := quiet exchange (by simp)
      exact Or.inr ⟨silent.1, silent.2, earlier, application, reason, between, rfl,
        fun other member => quiet other (by simp [member])⟩
  · rintro (brought | ⟨nothing, kept, earlier, application, reason, later, rfl, quiet⟩)
    · cases exchange with
      | unInhibit released reply => cases brought
      | inhibit application reason reply =>
        cases reply with
        | error words => cases brought
        | ok cookie =>
          cases brought
          exact ⟨trace, application, reason, [], rfl, by simp⟩
    · refine ⟨earlier, application, reason, later ++ [exchange], by simp, ?_⟩
      intro other member
      rcases List.mem_append.mp member with before | last
      · exact quiet other before
      · rw [List.mem_singleton.mp last]
        exact ⟨nothing, kept⟩

/-- Every exchange was due when it came. -/
def InOrder (trace : List Exchange) : Prop :=
  -- What came before decides.
  ∀ before exchange after, trace = before ++ exchange :: after → exchange.Due before

/-- One more exchange has to be due itself. -/
theorem InOrder.concat {trace : List Exchange} {exchange : Exchange} (inOrder : InOrder trace)
    (due : exchange.Due trace) : InOrder (trace ++ [exchange]) := by
  intro before next after whole
  -- Either it is the one in question, or the one in question came earlier.
  rcases List.eq_nil_or_concat after with rfl | ⟨between, last, rfl⟩
  · obtain ⟨rfl, same⟩ := List.append_inj' whole rfl
    cases same
    exact due
  · rw [List.concat_eq_append, ← List.cons_append, ← List.append_assoc] at whole
    obtain ⟨earlier, -⟩ := List.append_inj' whole rfl
    exact inOrder before next between earlier

namespace BusScript

/-- What the bus is going to answer once it has been called so. -/
def rest (script : BusScript) : List BusCall → BusScript
  -- Each call uses up one answer of its kind.
  | [] => script
  | .inhibit _ _ :: calls => rest ⟨script.inhibits.tail, script.releases⟩ calls
  | .unInhibit _ :: calls => rest ⟨script.inhibits, script.releases.tail⟩ calls

/-- The next answer to a request to inhibit. -/
def nextInhibit (script : BusScript) : Except String Nat :=
  -- A bus with nothing else to say always gives the same cookie.
  script.inhibits.head?.getD BusSession.defaultReply

/-- The next answer to a release. -/
def nextRelease (script : BusScript) : Except String Unit :=
  -- A bus with nothing else to say agrees.
  script.releases.head?.getD (.ok ())

/-- Calls on the bus, each with its answer. -/
def exchanges (script : BusScript) : List BusCall → List Exchange
  -- Answers of the two kinds are independent of each other.
  | [] => []
  | .inhibit application reason :: calls =>
    .inhibit application reason script.nextInhibit ::
      exchanges ⟨script.inhibits.tail, script.releases⟩ calls
  | .unInhibit cookie :: calls =>
    .unInhibit cookie script.nextRelease :: exchanges ⟨script.inhibits, script.releases.tail⟩ calls

/-- A new session on the bus. -/
def session (script : BusScript) : BusSession := .new script.inhibits script.releases

/-- Answers are used up call after call. -/
theorem rest_append (script : BusScript) (first second : List BusCall) :
    script.rest (first ++ second) = (script.rest first).rest second := by
  -- The induction is over the earlier calls, each of which uses up one answer.
  induction first generalizing script with
  | nil => rfl
  | cons call calls ih => cases call <;> exact ih _

/-- Later calls get the answers that earlier ones have left. -/
theorem exchanges_append (script : BusScript) (first second : List BusCall) :
    script.exchanges (first ++ second) =
      script.exchanges first ++ (script.rest first).exchanges second := by
  -- The induction is over the earlier calls, each of which is one exchange.
  induction first generalizing script with
  | nil => rfl
  | cons call calls ih => cases call <;> exact congrArg _ (ih _)

end BusScript

namespace BusSession

/-- What the bus of a session is going to answer from now on. -/
def script (session : BusSession) : BusScript :=
  -- The session carries the answers with it.
  ⟨session.inhibitReplies, session.releaseReplies⟩

variable {session after : BusSession} {script : BusScript} {result : Except InhibitError Unit}
  {log : List LogEvent} {reason : String}

/-- A session after a call on the bus. -/
def having (session : BusSession) (call : BusCall) (cookie : Option Nat) : BusSession :=
  -- The call is noted and its answer used up.
  let left := session.script.rest [call]
  ⟨cookie, left.inhibits, left.releases, session.calls ++ [call]⟩

/-- What a start comes to, case by case. -/
inductive Starts (session : BusSession) (reason : String) :
    Except InhibitError Unit → BusSession → List LogEvent → Prop where
  /-- A cookie is held, and nothing is asked for. -/
  | holds {cookie : Nat} (held : session.cookie = some cookie) :
      Starts session reason (.ok ()) session []
  /-- The reason cannot be sent. -/
  | unsendable (free : session.cookie = none) : Starts session reason (.error unsendable) session []
  /-- The bus refuses. -/
  | refused {words : String} (free : session.cookie = none)
      (reply : session.script.nextInhibit = .error words) :
      Starts session reason (.error (failure words))
        (session.having (.inhibit application reason) none) []
  /-- The bus gives a cookie. -/
  | granted {cookie : Nat} (free : session.cookie = none)
      (reply : session.script.nextInhibit = .ok cookie) :
        Starts session reason (.ok ()) (session.having (.inhibit application reason) (some cookie))
        [⟨.debug, .session, "Inhibiting through D-Bus",
          [("cookie", "Some(" ++ toString cookie ++ ")")]⟩]

/-- Every start is one of these cases. -/
theorem starts (session : BusSession) (reason : String) :
    session.Starts reason (session.start reason).1 (session.start reason).2.1
      (session.start reason).2.2 := by
  -- The cookie decides first, then the reason, and then the bus.
  unfold start
  cases held : session.cookie with
  | some cookie => exact .holds held
  | none =>
    by_cases unfit : reason.toList.contains forbidden = true
    · simp only [unfit, if_true]
      exact .unsendable held
    · simp only [unfit, Bool.false_eq_true, if_false]
      cases reply : session.inhibitReplies.head?.getD defaultReply with
      | error words => exact .refused held reply
      | ok cookie => exact .granted held reply

/-- What a stop comes to, case by case. -/
inductive Stops (session : BusSession) :
    Except InhibitError Unit → BusSession → List LogEvent → Prop where
  /-- No cookie is held, and nothing is given back. -/
  | idle (free : session.cookie = none) : Stops session (.ok ()) session []
  /-- The cookie is given back, but the bus refuses. -/
  | refused {cookie : Nat} {words : String} (held : session.cookie = some cookie)
      (reply : session.script.nextRelease = .error words) :
      Stops session (.error (failure words)) (session.having (.unInhibit cookie) none) []
  /-- The cookie is given back. -/
  | released {cookie : Nat} (held : session.cookie = some cookie)
      (reply : session.script.nextRelease = .ok ()) :
        Stops session (.ok ()) (session.having (.unInhibit cookie) none)
        [⟨.debug, .session, "Released D-Bus inhibition", [("cookie", toString cookie)]⟩]

/-- Every stop is one of these cases. -/
theorem stops (session : BusSession) :
    session.Stops session.stop.1 session.stop.2.1 session.stop.2.2 := by
  -- The cookie is gone before the bus answers.
  unfold stop
  cases held : session.cookie with
  | none => exact .idle held
  | some cookie =>
    simp only
    cases reply : session.releaseReplies.head?.getD (.ok ()) with
    | error words => exact .refused held reply
    | ok nothing => exact .released held reply

/-- A session that has only been called as its cookie demands, on a bus that began with a script. -/
structure Booked (script : BusScript) (session : BusSession) : Prop where
  /-- The answers of the bus are those that the calls so far have left. -/
  left : script.rest session.calls = session.script
  /-- Every call was due when it was made. -/
  inOrder : InOrder (script.exchanges session.calls)
  /-- The session holds the cookie that is outstanding. -/
  held : ∀ cookie, Outstanding (script.exchanges session.calls) cookie ↔
    session.cookie = some cookie
  /--
  What has been obtained has been given back in the same order, but for the cookie that is held.
  -/
  balanced : (script.exchanges session.calls).filterMap Exchange.obtained =
    (script.exchanges session.calls).filterMap Exchange.returned ++ session.cookie.toList

/-- A new session has nothing to its account. -/
theorem Booked.new (script : BusScript) : Booked script script.session where
  -- No call has been made.
  left := rfl
  inOrder := by
    intro before exchange after whole
    simp [BusScript.session, BusSession.new, BusScript.exchanges] at whole
  held cookie := ⟨fun outstanding => absurd outstanding (not_outstanding_nil cookie), nofun⟩
  balanced := rfl

/--
A call that gives back exactly the cookie that is held is due, and one more exchange to the account.
-/
theorem Booked.having (booked : Booked script session) {call : BusCall} {exchange : Exchange}
    (answered : session.script.exchanges [call] = [exchange])
    (gives : session.cookie = exchange.returned) :
    Booked script (session.having call exchange.obtained) := by
  -- The trace grows by the exchange at its end.
  have trace : script.exchanges (session.having call exchange.obtained).calls =
      script.exchanges session.calls ++ [exchange] := by
    show script.exchanges (session.calls ++ [call]) = _
    rw [BusScript.exchanges_append, booked.left, answered]
  constructor
  · show script.rest (session.calls ++ [call]) = session.script.rest [call]
    rw [BusScript.rest_append, booked.left]
  · rw [trace]
    apply booked.inOrder.concat
    cases exchange with
    | inhibit application reason reply =>
      intro cookie outstanding
      rw [booked.held, gives] at outstanding
      cases outstanding
    | unInhibit cookie reply => exact (booked.held cookie).mpr gives
  · intro cookie
    rw [trace, outstanding_concat]
    show _ ↔ exchange.obtained = some cookie
    constructor
    · rintro (brought | ⟨-, kept, outstanding⟩)
      · exact brought
      · -- A call that gives nothing back finds nothing outstanding.
        rw [booked.held, gives, kept] at outstanding
        cases outstanding
    · exact Or.inl
  · rw [trace]
    show _ = _ ++ exchange.obtained.toList
    have balanced := booked.balanced
    rw [gives] at balanced
    rw [List.filterMap_append, List.filterMap_append, balanced]
    cases exchange with
    | inhibit application reason reply =>
      cases reply <;> simp [List.filterMap_cons, Exchange.obtained, Exchange.returned]
    | unInhibit cookie reply => simp [List.filterMap_cons, Exchange.obtained, Exchange.returned]

/-- A start keeps the account. -/
theorem Booked.starts (booked : Booked script session)
    (starts : session.Starts reason result after log) : Booked script after := by
  -- The bus is only asked while no cookie is held.
  cases starts with
  | holds held => exact booked
  | unsendable free => exact booked
  | @refused words free reply =>
    have answered : session.script.exchanges [.inhibit application reason] =
        [.inhibit application reason (.error words)] := by
      simp [BusScript.exchanges, reply]
    exact booked.having answered free
  | @granted cookie free reply =>
    have answered : session.script.exchanges [.inhibit application reason] =
        [.inhibit application reason (.ok cookie)] := by
      simp [BusScript.exchanges, reply]
    exact booked.having answered free

/-- A stop keeps the account. -/
theorem Booked.stops (booked : Booked script session) (stops : session.Stops result after log) :
    Booked script after := by
  -- The cookie that is given back is the one that is held.
  cases stops with
  | idle free => exact booked
  | @refused cookie words held reply =>
    have answered :
        session.script.exchanges [.unInhibit cookie] = [.unInhibit cookie (.error words)] := by
      simp [BusScript.exchanges, reply]
    exact booked.having answered held
  | @released cookie held reply =>
    have answered :
        session.script.exchanges [.unInhibit cookie] = [.unInhibit cookie (.ok ())] := by
      simp [BusScript.exchanges, reply]
    exact booked.having answered held

/-- After a stop no cookie is held, whatever the bus has answered. -/
@[simp] theorem stop_cookie (session : BusSession) : session.stop.2.1.cookie = none := by
  -- A cookie is given up before the answer of the bus is looked at.
  have stops := session.stops
  revert stops
  rcases session.stop with ⟨result, after, log⟩
  intro stops
  cases stops with
  | idle free => exact free
  | refused held reply => rfl
  | released held reply => rfl

/-- To give a session up is to stop it once more. -/
theorem drop_eq_stop (session : BusSession) : session.drop.1 = session.stop.2.1 := by
  -- Only what is reported depends on how the stop came out.
  unfold drop
  rcases session.stop with ⟨result | ⟨⟨⟩⟩, after, log⟩ <;> rfl

/-- The session after a call. -/
def perform (session : BusSession) : BackendCall → BusSession
  -- What the call is answered with is left out.
  | .start reason => (session.start reason).2.1
  | .stop => session.stop.2.1

/-- The session after several calls. -/
def performAll (session : BusSession) (calls : List BackendCall) : BusSession :=
  -- They are made in order.
  calls.foldl perform session

/-- Any calls in any order keep the account. -/
theorem Booked.performAll (booked : Booked script session) (calls : List BackendCall) :
    Booked script (session.performAll calls) := by
  -- The induction is over the calls, of which each keeps it.
  induction calls generalizing session with
  | nil => exact booked
  | cons call rest ih =>
    apply ih
    cases call with
    | start reason => exact booked.starts (session.starts reason)
    | stop => exact booked.stops session.stops

/-- Once a session is given up, everything that was obtained has been given back. -/
theorem Booked.drop (booked : Booked script session) :
    Booked script session.drop.1 ∧
      (script.exchanges session.drop.1.calls).filterMap Exchange.obtained =
        (script.exchanges session.drop.1.calls).filterMap Exchange.returned := by
  -- No cookie is held any more that would make a difference.
  rw [drop_eq_stop]
  have kept := booked.stops session.stops
  exact ⟨kept, by simpa using kept.balanced⟩

/-- Between a stop and the next start no cookie is held. -/
theorem free_of_even {count : Nat} (free : session.cookie = none) (even : count % 2 = 0) :
    (session.performAll (alternation reason count)).cookie = none := by
  -- The last of an even number of calls is a stop.
  cases count with
  | zero => exact free
  | succ count =>
    have odd : count % 2 = 1 := by omega
    rw [← alternation_stop odd, performAll, List.foldl_append]
    exact stop_cookie _

end BusSession

/-- Calls on the bus side of an inhibitor are calls on its session. -/
theorem Bus.performAll_session (session : BusSession) (calls : List BackendCall) :
    (Bus.session session).performAll calls = .session (session.performAll calls) := by
  -- The induction is over the calls.
  induction calls generalizing session with
  | nil => rfl
  | cons call rest ih => cases call <;> exact ih _

namespace Inhibitor

variable {inhibitor : Inhibitor} {reason : String} {script : BusScript} {count : Nat}

/-- The inhibitor that is built after an attempt to connect to a bus that will answer so. -/
def built (reason : String) (attempt : Except String BusScript)
    (watchdog : Option Span) : Inhibitor :=
  -- Without a bus the inhibitor does with what it has.
  (build reason (.connected (attempt.map BusScript.session)) watchdog).1

/-- An inhibitor that has just been built has not called its session yet. -/
theorem Alternated.built (reason : String) (script : BusScript) (watchdog : Option Span) :
    Alternated (Inhibitor.built reason (.ok script) watchdog) reason (.session script.session) 0 :=
  Alternated.build reason (.session script.session) watchdog

/-- While an inhibitor is not active, its session holds no cookie. -/
theorem Alternated.free (alternated : Alternated inhibitor reason (.session script.session) count)
    (inactive : inhibitor.active = false) {session : BusSession}
    (present : inhibitor.bus = some (.session session)) : session.cookie = none := by
  -- As many stops as starts have been made, and a stop was last.
  have performed := alternated.performed
  rw [present, Bus.performAll_session, Option.some.injEq, Bus.session.injEq] at performed
  rw [performed]
  apply BusSession.free_of_even rfl
  have parity := alternated.parity
  rw [inactive] at parity
  simp only [Bool.false_eq_true, iff_false] at parity
  omega

/-- Once an inhibitor is given up, its session has given back all that it has obtained. -/
theorem Alternated.drop (alternated : Alternated inhibitor reason (.session script.session) count)
    (circumstances : Circumstances) :
    ∃ session, (inhibitor.drop circumstances).1.bus = some (.session session) ∧
      InOrder (script.exchanges session.calls) ∧
      (script.exchanges session.calls).filterMap Exchange.obtained =
        (script.exchanges session.calls).filterMap Exchange.returned := by
  -- The session is stopped in its turn and then let go.
  obtain ⟨further, last⟩ := alternated.setActive false circumstances
  obtain ⟨kept, balanced⟩ :=
    ((BusSession.Booked.new script).performAll (alternation reason (count + further))).drop
  refine ⟨_, ?_, kept.inOrder, balanced⟩
  rw [drop_bus, last.performed, Bus.performAll_session]
  rfl

end Inhibitor

/--
Each cookie that is obtained on the session bus is given back exactly once.

In whatever order a session is started and stopped before it is given up, and whatever the bus
answers: it asks for a cookie only while none is outstanding, it gives back only the one that is,
and in the end it has given back what it has obtained, one by one. It counts as active exactly while
a cookie is outstanding, and within an inhibitor only while that is active too.
-/
theorem BusSession.cookies_returned_once (script : BusScript) (calls : List BackendCall) :
    let session := script.session.performAll calls
    let gone := session.drop.1
    InOrder (script.exchanges gone.calls) ∧
    (script.exchanges gone.calls).filterMap Exchange.obtained =
      (script.exchanges gone.calls).filterMap Exchange.returned ∧
    (∀ cookie, session.cookie = some cookie ↔ Outstanding (script.exchanges session.calls) cookie) ∧
    (session.isActive = true ↔ ∃ cookie, Outstanding (script.exchanges session.calls) cookie) ∧
    ∀ reason watchdog taken held,
      let inhibitor := (Inhibitor.built reason (.ok script) watchdog).turns taken
      inhibitor.bus = some (.session held) → held.isActive = true → inhibitor.active = true := by
  intro session gone
  have booked : Booked script session := (Booked.new script).performAll calls
  obtain ⟨kept, balanced⟩ := booked.drop
  refine ⟨kept.inOrder, balanced, fun cookie => (booked.held cookie).symm, ?_, ?_⟩
  · simp only [isActive, Option.isSome_iff_exists, booked.held]
  · intro reason watchdog taken held inhibitor present holds
    -- An inhibitor that is not active would have stopped its session.
    obtain ⟨further, alternated⟩ := (Inhibitor.Alternated.built reason script watchdog).turns taken
    cases state : inhibitor.active with
    | true => rfl
    | false =>
      have free := alternated.free state present
      simp [isActive, free] at holds

end Wakeful
