import Mathlib.Data.List.Chain
import Wakeful.Meter.Timekeeping
import Wakeful.Proofs.Attempt

/-!
The clock tells its exact time or none, and whoever has
slept until a target is never told an earlier time.
-/

namespace Wakeful

/-- A number of nanoseconds that a word holds is kept when it becomes a span. -/
theorem Span.ofNanoseconds_eq {nanoseconds : Nat} (held : nanoseconds < unsignedRange) :
    ofNanoseconds nanoseconds = ⟨nanoseconds⟩ := by
  -- Nothing is cut off.
  unfold unsignedRange at held
  simp only [ofNanoseconds, Span.mk.injEq]
  omega

/-- A signed word that is not negative is read as itself. -/
theorem unsignedReading_eq {value : Int} (least : 0 ≤ value) (most : value ≤ greatestSigned) :
    unsignedReading value = value.toNat := by
  -- The remainder of such a word is the word itself.
  unfold unsignedReading unsignedRange
  unfold greatestSigned at most
  omega

namespace ClockReading

variable {reading later : ClockReading} {now next : Nat} {fault : Overflow} {target : UInt64}

/-- A reading as the system gives it. -/
structure Proper (reading : ClockReading) : Prop where
  /-- The clock does not show a time before its own start. -/
  seconds_nonneg : 0 ≤ reading.seconds
  /-- Its seconds are held in a signed word. -/
  seconds_le : reading.seconds ≤ greatestSigned
  /-- The nanoseconds go on from the seconds. -/
  nanoseconds_nonneg : 0 ≤ reading.nanoseconds
  /-- They do not reach another second. -/
  nanoseconds_lt : reading.nanoseconds < 1000000000

instance (reading : ClockReading) : Decidable reading.Proper :=
  decidable_of_iff
    (0 ≤ reading.seconds ∧ reading.seconds ≤ greatestSigned ∧ 0 ≤ reading.nanoseconds ∧
      reading.nanoseconds < 1000000000)
    ⟨fun ⟨least, most, nonneg, below⟩ => ⟨least, most, nonneg, below⟩,
      fun ⟨least, most, nonneg, below⟩ => ⟨least, most, nonneg, below⟩⟩

/-- The nanoseconds of a reading, however many they are. -/
def count (reading : ClockReading) : Int :=
  reading.seconds * 1000000000 + reading.nanoseconds

/--
A reading comes before another one by its seconds, or by its nanoseconds within the same second.
-/
def Before (reading later : ClockReading) : Prop :=
  reading.seconds < later.seconds ∨ reading.seconds = later.seconds ∧
  reading.nanoseconds < later.nanoseconds

/-- A reading that comes before another one counts less. -/
theorem count_lt_iff (proper : reading.Proper) (properLater : later.Proper) :
    reading.count < later.count ↔ reading.Before later := by
  -- The nanoseconds are less than a second, so that the seconds decide first.
  obtain ⟨-, -, least, most⟩ := proper
  obtain ⟨-, -, least', most'⟩ := properLater
  unfold count Before
  omega

/-- The time of a reading is its count, unless the seconds alone or all together are too many. -/
theorem total_eq (proper : reading.Proper) : reading.total =
    if unsignedRange ≤ reading.seconds * 1000000000 then .error .multiplication
    else if unsignedRange ≤ reading.count then .error .addition
    else .ok reading.count.toNat := by
  -- The two operations are checked one after the other.
  obtain ⟨least, most, nonneg, below⟩ := proper
  have seconds := unsignedReading_eq least most
  have nanoseconds := unsignedReading_eq nonneg (by unfold greatestSigned; omega)
  unfold total count
  rw [seconds, nanoseconds]
  -- The seconds alone may be too many already,
  by_cases whole : reading.seconds.toNat * 1000000000 < unsignedRange
  · have product : unsignedResult .multiplication (reading.seconds.toNat * 1000000000) = .ok _ :=
      if_pos whole
    rw [product, ok_bind,
      if_neg (by omega : ¬ (unsignedRange : Int) ≤ reading.seconds * 1000000000)]
    -- or the sum may be.
    by_cases fits : reading.seconds.toNat * 1000000000 + reading.nanoseconds.toNat < unsignedRange
    · have sum : unsignedResult .addition
        (reading.seconds.toNat * 1000000000 + reading.nanoseconds.toNat) = .ok _ := if_pos fits
      rw [sum, if_neg (by omega), Except.ok.injEq]
      omega
    · have sum : unsignedResult .addition
        (reading.seconds.toNat * 1000000000 + reading.nanoseconds.toNat) = .error _ := if_neg fits
      rw [sum, if_pos (by omega)]
  · have product : unsignedResult .multiplication (reading.seconds.toNat * 1000000000) = .error _ :=
      if_neg whole
    rw [product, error_bind, if_pos (by omega)]

/-- The time of a reading is its count if that fits into a word. -/
theorem total_eq_ok_iff (proper : reading.Proper) :
    reading.total = .ok now ↔ (now : Int) = reading.count ∧ reading.count < unsignedRange := by
  -- The count is no less than the seconds alone are worth.
  have least : 0 ≤ reading.count ∧ reading.seconds * 1000000000 ≤ reading.count := by
    obtain ⟨least, -, nonneg, -⟩ := proper
    unfold count
    omega
  rw [total_eq proper]
  split
  · simp only [reduceCtorEq, false_iff]
    omega
  · split
    · simp only [reduceCtorEq, false_iff]
      omega
    · rw [Except.ok.injEq]
      omega

/--
A reading has no time if its count does not fit into a word,
and then either its seconds do not or only the sum.
-/
theorem total_eq_error_iff (proper : reading.Proper) :
    reading.total = .error fault ↔ unsignedRange ≤ reading.count ∧
    fault = if unsignedRange ≤ reading.seconds * 1000000000 then .multiplication
      else .addition := by
  -- The count is no less than the seconds alone are worth.
  have least : reading.seconds * 1000000000 ≤ reading.count := by
    have nonneg := proper.nanoseconds_nonneg
    unfold count
    omega
  rw [total_eq proper]
  split
  · rename_i seconds
    rw [Except.error.injEq, and_iff_right (Int.le_trans seconds least)]
    exact eq_comm
  · split
    · rename_i sum
      rw [Except.error.injEq, and_iff_right sum]
      exact eq_comm
    · rename_i fits
      simp [fits]

end ClockReading

namespace ClockCall

open ClockReading (Proper)

variable {reading later : ClockReading} {now next : Nat} {fault : Overflow} {target : UInt64}

/-- Whoever asks for the time is told it without a sleep. -/
theorem perform_tell_eq_iff :
    tell.perform reading = ⟨[], .ok (.time now)⟩ ↔ reading.total = .ok now := by
  -- What is told is the time of the reading.
  simp only [perform, ClockReply.mk.injEq, true_and, map_eq_ok_iff, ClockAnswer.time.injEq,
    exists_eq_right]

/-- Whoever asks for a time that cannot be told is told why. -/
theorem perform_tell_eq_error_iff :
    tell.perform reading = ⟨[], .error fault⟩ ↔ reading.total = .error fault := by
  -- The reason is the one for which the reading has no time.
  rw [perform]
  generalize reading.total = found
  cases found <;> simp [Except.map]

/--
Whoever wants to sleep until a target sleeps for what is
missing, or not at all if the target is past.
-/
theorem perform_sleepTo (told : reading.total = .ok now) : (sleepTo target).perform reading =
    if target.toNat < now then ⟨[], .ok (.reached false)⟩
    else ⟨[⟨target.toNat - now⟩], .ok (.reached true)⟩ := by
  -- What is missing is less than the target, and so it fits into a word.
  have held : target.toNat - now < unsignedRange := by
    have bound := target.toNat_lt
    unfold unsignedRange
    omega
  rw [perform, ClockReading.sleepUntil, told, ok_bind]
  by_cases past : target.toNat < now
  · rw [if_pos past, if_pos past]
    rfl
  · have missing : unsignedDifference target.toNat now = .ok (target.toNat - now) :=
      if_pos (Nat.not_lt.mp past)
    rw [if_neg past, if_neg past, missing, ok_bind, Span.ofNanoseconds_eq held]
    rfl

/-- Whoever cannot be told the time does not sleep until a target either. -/
theorem perform_sleepTo_of_error (untold : reading.total = .error fault) :
    (sleepTo target).perform reading = ⟨[], .error fault⟩ := by
  -- The time is asked for first.
  rw [perform, ClockReading.sleepUntil, untold, error_bind]
  rfl

/--
A call follows another one if the clock has gone on by at
least what the thread has slept for in between.
-/
def Follows (earlier later : ClockReading × ClockCall) : Prop :=
  earlier.1.count + (earlier.2.perform earlier.1).slept ≤ later.1.count

instance : IsTrans (ClockReading × ClockCall) Follows where
  trans first second third before after := by
    unfold Follows at *
    omega

/-- After a sleep until a target every call is made at the target or later. -/
theorem target_le_count (proper : reading.Proper) (told : reading.total = .ok now)
    {call : ClockCall} (follows : Follows (reading, sleepTo target) (later, call)) :
    target.toNat ≤ later.count := by
  -- A sleep has taken what was missing, and without one the target had passed.
  have whole := ((ClockReading.total_eq_ok_iff proper).mp told).1
  unfold Follows at follows
  rw [perform_sleepTo told] at follows
  split at follows
  · simp only [ClockReply.slept, List.foldl_nil] at follows
    omega
  · simp only [ClockReply.slept, List.foldl_cons, List.foldl_nil] at follows
    omega

/--
The clock tells its exact time or none, and whoever has
slept until a target is never told an earlier time.

The time of a reading is its whole number of nanoseconds if that fits into a word, and else there
is none; so it grows strictly with the seconds and the nanoseconds beyond them. A call that is to
sleep until a target does so without a sleep exactly if the target is past, and else sleeps once,
for exactly the nanoseconds that are missing. In every course of calls on a clock that goes on by
at least what is slept, each time that is told later has reached the target.
-/
theorem told_exactly_and_reached (reading : ClockReading) (proper : reading.Proper)
    (target : UInt64) : (∀ now, tell.perform reading = ⟨[], .ok (.time now)⟩ ↔
      (now : Int) = reading.count ∧ reading.count < unsignedRange) ∧
    ((∃ fault, tell.perform reading = ⟨[], .error fault⟩) ↔ unsignedRange ≤ reading.count) ∧
    (∀ later now next, later.Proper → reading.total = .ok now → later.total = .ok next →
      (now < next ↔ reading.Before later)) ∧
    (∀ fault, reading.total = .error fault →
      (sleepTo target).perform reading = ⟨[], .error fault⟩) ∧
    ∀ now, reading.total = .ok now →
      ((sleepTo target).perform reading = ⟨[], .ok (.reached false)⟩ ↔ target.toNat < now) ∧
      (now ≤ target.toNat →
        (sleepTo target).perform reading = ⟨[⟨target.toNat - now⟩], .ok (.reached true)⟩) ∧
      ∀ calls, List.IsChain Follows ((reading, sleepTo target) :: calls) →
        ∀ later next, (later, tell) ∈ calls →
        later.Proper → later.total = .ok next → target.toNat ≤ next := by
  -- What is said of one call is read off its reading.
  refine ⟨fun now => ?_, ?_, fun later now next properLater told toldLater => ?_,
    fun fault untold => perform_sleepTo_of_error untold, fun now told => ⟨?_, fun ahead => ?_, ?_⟩⟩
  · -- A time is told if the count fits into a word,
    rw [perform_tell_eq_iff]
    exact ClockReading.total_eq_ok_iff proper
  · -- and otherwise a reason is.
    simp only [perform_tell_eq_error_iff, ClockReading.total_eq_error_iff proper]
    exact ⟨fun ⟨_, beyond, _⟩ => beyond, fun beyond => ⟨_, beyond, rfl⟩⟩
  · -- Two times are the counts of their readings.
    have here := ((ClockReading.total_eq_ok_iff proper).mp told).1
    have there := ((ClockReading.total_eq_ok_iff properLater).mp toldLater).1
    rw [← ClockReading.count_lt_iff proper properLater]
    omega
  · -- No sleep is told of only if the target is past.
    rw [perform_sleepTo told]
    by_cases past : target.toNat < now
    · rw [if_pos past]
      exact iff_of_true rfl past
    · rw [if_neg past]
      exact iff_of_false (by simp) past
  · rw [perform_sleepTo told, if_neg (Nat.not_lt.mpr ahead)]
  · -- In a course every later call follows the sleep.
    intro calls chain later next among properLater toldLater
    have reached := target_le_count proper told (chain.rel_cons among)
    have readings := ((ClockReading.total_eq_ok_iff properLater).mp toldLater).1
    omega

/--
At the last moment that can be told its own target is reached
with an empty sleep, and after it nothing is told.
-/
theorem last_moment_reached : Proper ⟨18446744073, 709551615⟩ ∧ Proper ⟨18446744073, 709551616⟩ ∧
    tell.perform ⟨18446744073, 709551615⟩ = ⟨[], .ok (.time 18446744073709551615)⟩ ∧
    (sleepTo 18446744073709551615).perform ⟨18446744073, 709551615⟩ = ⟨[⟨0⟩], .ok (.reached true)⟩ ∧
    ∃ fault, tell.perform ⟨18446744073, 709551616⟩ = ⟨[], .error fault⟩ := by
  -- The two readings are told apart by the general result.
  have proper : Proper ⟨18446744073, 709551615⟩ := by decide
  have later : Proper ⟨18446744073, 709551616⟩ := by decide
  obtain ⟨readings, -, -, -, sleeps⟩ := told_exactly_and_reached _ proper 18446744073709551615
  have told := (readings 18446744073709551615).mpr (by decide)
  exact ⟨proper, later, told, (sleeps _ (perform_tell_eq_iff.mp told)).2.1 (by decide),
    (told_exactly_and_reached _ later 0).2.1.mpr (by decide)⟩

end ClockCall

end Wakeful
