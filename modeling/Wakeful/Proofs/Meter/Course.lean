import Wakeful.Meter.Cpu
import Wakeful.Proofs.Attempt

/-!
Whatever samples a meter is given, each tick between its first
baseline and its last one is counted exactly once.
-/

namespace Wakeful

/-- All ticks that were spent for the program or by it. -/
def CpuSample.spent (sample : CpuSample) : Int :=
  sample.system + sample.user

/-- A result that is not negative fits into a signed word unless it is too large. -/
theorem signedResult_eq_ok_iff {operation : Overflow} {value result : Int} (positive : 0 ≤ value) :
    signedResult operation value = .ok result ↔ value ≤ greatestSigned ∧ value = result := by
  -- Only the upper bound can be missed.
  have least : leastSigned ≤ value := Int.le_trans (by decide) positive
  unfold signedResult
  simp only [least, true_and]
  split
  · rename_i small
    simp [small]
  · rename_i large
    simp [large]

namespace CpuMeter

variable {meter : CpuMeter} {baseline sample first : CpuSample} {cores : Nat}

/-- Whether the ticks between a baseline and a sample that advances it can be counted in a word. -/
def Countable (baseline sample : CpuSample) : Prop :=
  sample.spent - baseline.spent ≤ greatestSigned ∧
  sample.elapsed - baseline.elapsed ≤ greatestSigned

/-- The usage is measured exactly if its ticks can be counted. -/
theorem usage_eq_ok_iff (advancing : advances baseline sample) {found : CpuUsage} :
    usage cores baseline sample = .ok found ↔ Countable baseline sample ∧
      .measured (sample.spent - baseline.spent) (sample.elapsed - baseline.elapsed) cores =
        found := by
  -- Neither counter goes back, so that all differences are positive.
  obtain ⟨later, system, user⟩ := advancing
  have whole : sample.system - baseline.system + (sample.user - baseline.user) =
      sample.spent - baseline.spent := by
    simp only [CpuSample.spent]
    omega
  unfold Countable
  constructor
  · -- Each difference has been checked on the way to the result.
    intro measured
    obtain ⟨systemTicks, counted, measured⟩ := ok_of_bind measured
    obtain ⟨-, rfl⟩ := (signedResult_eq_ok_iff (by omega)).mp counted
    obtain ⟨userTicks, counted, measured⟩ := ok_of_bind measured
    obtain ⟨-, rfl⟩ := (signedResult_eq_ok_iff (by omega)).mp counted
    obtain ⟨busy, counted, measured⟩ := ok_of_bind measured
    obtain ⟨few, rfl⟩ := (signedResult_eq_ok_iff (by omega)).mp counted
    obtain ⟨elapsed, counted, measured⟩ := ok_of_bind measured
    obtain ⟨short, rfl⟩ := (signedResult_eq_ok_iff (by omega)).mp counted
    cases measured
    rw [whole] at few ⊢
    exact ⟨⟨few, short⟩, rfl⟩
  · -- Neither part of the busy ticks is larger than the whole.
    rintro ⟨⟨few, short⟩, rfl⟩
    rw [← whole] at few ⊢
    unfold usage
    rw [(signedResult_eq_ok_iff (by omega)).mpr ⟨by omega, rfl⟩, ok_bind,
      (signedResult_eq_ok_iff (by omega)).mpr ⟨by omega, rfl⟩, ok_bind,
      (signedResult_eq_ok_iff (by omega)).mpr ⟨few, rfl⟩, ok_bind,
      (signedResult_eq_ok_iff (by omega)).mpr ⟨short, rfl⟩, ok_bind]
    rfl

/-- What one query comes to, case by case. -/
inductive Finds (meter : CpuMeter) (sample : CpuSample) :
    Except Overflow CpuUsage → CpuMeter → Prop where
  /-- The sample does not advance the baseline, and is passed over. -/
  | passes (stalled : ¬ advances meter.baseline sample) : Finds meter sample (.ok .unknown) meter
  /-- The ticks cannot be counted, and the query is broken off. -/
  | overflows {fault : Overflow} (advancing : advances meter.baseline sample)
      (beyond : ¬ Countable meter.baseline sample) : Finds meter sample (.error fault) meter
  /-- The ticks are counted, and the sample is the next baseline. -/
  | accepts (advancing : advances meter.baseline sample)
      (countable : Countable meter.baseline sample) : Finds meter sample
        (.ok (.measured (sample.spent - meter.baseline.spent)
          (sample.elapsed - meter.baseline.elapsed) meter.cores))
        { meter with baseline := sample }

/-- Every query comes to one of these cases. -/
theorem finds (meter : CpuMeter) (sample : CpuSample) :
    meter.Finds sample (meter.query sample).1 (meter.query sample).2 := by
  -- A sample that does not advance the baseline is not looked at any further.
  unfold query
  by_cases advancing : advances meter.baseline sample
  · rw [if_pos advancing]
    cases counted : usage meter.cores meter.baseline sample with
    | ok found =>
      obtain ⟨countable, rfl⟩ := (usage_eq_ok_iff advancing).mp counted
      exact .accepts advancing countable
    | error fault =>
      refine .overflows advancing fun countable => ?_
      cases counted.symm.trans ((usage_eq_ok_iff advancing).mpr ⟨countable, rfl⟩)
  · rw [if_neg advancing]
    exact .passes advancing

/-- A query of a meter. -/
structure Reading where
  /-- The baseline of that moment. -/
  baseline : CpuSample
  /-- The sample that was compared with it. -/
  sample : CpuSample
  /-- What was found. -/
  found : Except Overflow CpuUsage

namespace Reading

/-- Whether the query has counted ticks, so that its sample is the next baseline. -/
def isAccepted (reading : Reading) : Bool :=
  match reading.found with
  | .ok (.measured _ _ _) => true
  | _ => false

/-- The busy ticks that the query has counted. -/
def busy (reading : Reading) : Int :=
  match reading.found with
  | .ok (.measured busy _ _) => busy
  | _ => 0

/-- The elapsed ticks that the query has counted. -/
def elapsed (reading : Reading) : Int :=
  match reading.found with
  | .ok (.measured _ elapsed _) => elapsed
  | _ => 0

end Reading

/-- The query of a sample with what it is compared with. -/
def reading (meter : CpuMeter) (sample : CpuSample) : Reading :=
  ⟨meter.baseline, sample, (meter.query sample).1⟩

/-- The queries of several samples one after the other. -/
def course (meter : CpuMeter) : List CpuSample → List Reading
  | [] => []
  | sample :: rest => meter.reading sample :: (meter.query sample).2.course rest

/-- The meter after several queries. -/
def after (meter : CpuMeter) (samples : List CpuSample) : CpuMeter :=
  samples.foldl (fun meter sample => (meter.query sample).2) meter

/-- The last sample that was accepted, or the first one of all if none was. -/
def lastAccepted (first : CpuSample) (course : List Reading) : CpuSample :=
  ((course.filter Reading.isAccepted).map Reading.sample).getLast?.getD first

/-- The sum of what the queries that have accepted their samples have counted. -/
def total (ticks : Reading → Int) (course : List Reading) : Int :=
  (course.filter Reading.isAccepted).foldr (fun reading sum => ticks reading + sum) 0

@[simp] theorem course_nil (meter : CpuMeter) : meter.course [] = [] := rfl

theorem course_cons (meter : CpuMeter) (sample : CpuSample) (rest : List CpuSample) :
    meter.course (sample :: rest) = meter.reading sample :: (meter.query sample).2.course rest :=
  rfl

@[simp] theorem after_nil (meter : CpuMeter) : meter.after [] = meter := rfl

@[simp] theorem after_cons (meter : CpuMeter) (sample : CpuSample) (rest : List CpuSample) :
    meter.after (sample :: rest) = (meter.query sample).2.after rest := rfl

/-- Before the first query nothing but the first sample has been accepted. -/
@[simp] theorem lastAccepted_nil (first : CpuSample) : lastAccepted first [] = first := rfl

/-- A query that has accepted its sample makes it the one before all later queries. -/
theorem lastAccepted_cons (first : CpuSample) (reading : Reading) (rest : List Reading) :
    lastAccepted first (reading :: rest) =
      lastAccepted (if reading.isAccepted then reading.sample else first) rest := by
  -- An accepted sample is the last one only if no later query accepts its own.
  unfold lastAccepted
  cases accepted : reading.isAccepted with
  | true => simp [accepted, List.getLast?_cons]
  | false => simp [accepted]

@[simp] theorem total_nil (ticks : Reading → Int) : total ticks [] = 0 := rfl

theorem total_cons (ticks : Reading → Int) (reading : Reading) (rest : List Reading) :
    total ticks (reading :: rest) =
      (if reading.isAccepted then ticks reading else 0) + total ticks rest := by
  -- A query counts if it has accepted its sample.
  unfold total
  cases accepted : reading.isAccepted <;> simp [accepted]

/-- What a query has found tells how its sample compares with the baseline. -/
structure Reading.Honest (reading : Reading) : Prop where
  /-- A query that is not broken off accepts its sample exactly if it advances the baseline. -/
  accepted_iff : (∀ fault, reading.found ≠ .error fault) →
    (reading.isAccepted = true ↔ advances reading.baseline reading.sample)
  /--
  A query is broken off exactly if the sample advances the baseline and the ticks cannot be counted.
  -/
  broken_iff : (∃ fault, reading.found = .error fault) ↔
    advances reading.baseline reading.sample ∧ ¬ Countable reading.baseline reading.sample
  /-- A query finds nothing exactly if the sample does not advance the baseline. -/
  unknown_iff : reading.found = .ok .unknown ↔ ¬ advances reading.baseline reading.sample
  /-- The ticks that are counted are those since the baseline. -/
  counted : reading.isAccepted = true →
    reading.busy = reading.sample.spent - reading.baseline.spent ∧ 0 ≤ reading.busy ∧
      reading.elapsed = reading.sample.elapsed - reading.baseline.elapsed ∧ 0 < reading.elapsed

/-- Every query is honest. -/
theorem honest (meter : CpuMeter) (sample : CpuSample) : (meter.reading sample).Honest := by
  -- What a query finds is one of three cases.
  have found := meter.finds sample
  unfold reading
  generalize (meter.query sample).1 = result, (meter.query sample).2 = next at found
  cases found with
  | passes stalled => constructor <;> simp [Reading.isAccepted, stalled]
  | overflows advancing beyond => constructor <;> simp [Reading.isAccepted, advancing, beyond]
  | accepts advancing countable =>
    -- An accepted sample has moved every counter on.
    constructor <;> simp [Reading.isAccepted, Reading.busy, Reading.elapsed, advancing, countable]
    obtain ⟨later, system, user⟩ := advancing
    simp only [CpuSample.spent]
    omega

/-- A query moves the baseline to its sample if that is accepted, and otherwise changes nothing. -/
theorem query_meter (meter : CpuMeter) (sample : CpuSample) :
    (meter.query sample).2 =
      if (meter.reading sample).isAccepted then { meter with baseline := sample } else meter := by
  -- In each case the meter is known.
  have found := meter.finds sample
  unfold reading
  generalize (meter.query sample).1 = result, (meter.query sample).2 = next at found
  cases found <;> rfl

/-- A query makes its sample the baseline if that is accepted. -/
theorem query_baseline (meter : CpuMeter) (sample : CpuSample) : (meter.query sample).2.baseline =
    if (meter.reading sample).isAccepted then sample else meter.baseline := by
  -- The baseline is part of the meter.
  rw [query_meter]
  split <;> rfl

/-- There is one query for each sample, in their order. -/
theorem course_samples (meter : CpuMeter) (samples : List CpuSample) :
    (meter.course samples).map Reading.sample = samples := by
  -- The induction is over the samples.
  induction samples generalizing meter with
  | nil => rfl
  | cons sample rest ih =>
    rw [course_cons, List.map_cons, ih]
    rfl

/-- The baseline after a course is the last sample that it has accepted. -/
theorem after_baseline (meter : CpuMeter) (samples : List CpuSample) :
    (meter.after samples).baseline = lastAccepted meter.baseline (meter.course samples) := by
  -- The induction is over the samples, and each query leaves its own baseline to the next.
  induction samples generalizing meter with
  | nil => rfl
  | cons sample rest ih =>
    rw [after_cons, ih, course_cons, lastAccepted_cons, query_baseline]
    rfl

/-- Each query of a course is one of the meter that the queries before it have left. -/
theorem course_split {samples : List CpuSample} {before later : List Reading} {reading : Reading}
    (split : meter.course samples = before ++ reading :: later) :
    reading = (meter.after (before.map Reading.sample)).reading reading.sample ∧
      before = meter.course (before.map Reading.sample) := by
  -- The induction is over the queries before the one in question.
  induction before generalizing meter samples with
  | nil =>
    cases samples with
    | nil => cases split
    | cons sample rest =>
      rw [course_cons] at split
      cases split
      exact ⟨rfl, rfl⟩
  | cons former before ih =>
    cases samples with
    | nil => cases split
    | cons sample rest =>
      rw [course_cons, List.cons_append, List.cons.injEq] at split
      obtain ⟨rfl, onward⟩ := split
      obtain ⟨here, earlier⟩ := ih onward
      refine ⟨here, ?_⟩
      rw [List.map_cons, course_cons]
      exact congrArg (List.cons _) earlier

/--
What is counted in a course is how far its baseline has come, if
each query counts how far it moves the baseline.
-/
theorem total_course {ticks : Reading → Int} {counter : CpuSample → Int}
    (counted : ∀ (meter : CpuMeter) sample, (meter.reading sample).isAccepted = true →
      ticks (meter.reading sample) = counter sample - counter meter.baseline)
    (meter : CpuMeter) (samples : List CpuSample) :
    total ticks (meter.course samples) =
      counter (meter.after samples).baseline - counter meter.baseline := by
  -- The induction is over the samples, and what one query counts is how far it moves the baseline.
  induction samples generalizing meter with
  | nil => simp
  | cons sample rest ih =>
    rw [course_cons, total_cons, after_cons, ih, query_baseline]
    cases accepted : (meter.reading sample).isAccepted with
    | true =>
      simp only [if_true, counted meter sample accepted]
      omega
    | false =>
      simp only [Bool.false_eq_true, if_false]
      omega

/-- Counters as a program that runs for less than the range of a word can have them. -/
structure Tame (sample : CpuSample) : Prop where
  /-- The clock has not been before its own start. -/
  elapsed : 0 ≤ sample.elapsed
  /-- The clock fits into a word. -/
  short : sample.elapsed ≤ greatestSigned
  /-- No ticks have been taken back from the system. -/
  system : 0 ≤ sample.system
  /-- No ticks have been taken back from the program. -/
  user : 0 ≤ sample.user
  /-- All ticks together fit into a word. -/
  few : sample.spent ≤ greatestSigned

/-- Between tame counters the ticks can be counted. -/
theorem Tame.countable (before : Tame baseline) (now : Tame sample) :
    Countable baseline sample := by
  -- No difference is larger than what it is taken from, as nothing is negative.
  have few := now.few
  have short := now.short
  have elapsed := before.elapsed
  have system := before.system
  have user := before.user
  simp only [Countable, CpuSample.spent] at few ⊢
  omega

/-- Tame counters break no query off. -/
theorem course_ok {samples : List CpuSample} (start : Tame meter.baseline)
    (tame : ∀ sample ∈ samples, Tame sample) :
    ∀ reading ∈ meter.course samples, ∀ fault, reading.found ≠ .error fault := by
  -- Whatever a query does, the baseline after it is tame again.
  induction samples generalizing meter with
  | nil => simp
  | cons sample rest ih =>
    have here : Tame sample := tame sample List.mem_cons_self
    have next : Tame (meter.query sample).2.baseline := by
      rw [query_baseline]
      split
      · exact here
      · exact start
    rw [course_cons, List.forall_mem_cons]
    refine ⟨?_, ih next fun other among => tame other (List.mem_cons_of_mem _ among)⟩
    intro fault broken
    exact ((meter.honest sample).broken_iff.mp ⟨fault, broken⟩).2 (start.countable here)

/--
A meter counts each tick once, whatever samples it is given.

After any samples the baseline is the last one that was accepted, and so it was before each query. A
query that is not broken off accepts its sample exactly if it advances the baseline of that moment,
and one that finds nothing or is broken off leaves the meter as it was. What the accepted queries
have counted are ticks of a time that has passed, and they add up to how far the baseline has come.
As long as no counter is negative and the ticks together fit into a word, no query is broken off.
-/
theorem ticks_counted_once (reportedCores : Int) (first : CpuSample) (samples : List CpuSample) :
    let meter := start reportedCores first
    let course := meter.course samples
    let last := meter.after samples
    course.map Reading.sample = samples ∧
    last.baseline = lastAccepted first course ∧
    (∀ before reading later, course = before ++ reading :: later →
      reading.found = ((meter.after (before.map Reading.sample)).query reading.sample).1 ∧
      reading.baseline = lastAccepted first before ∧ reading.Honest ∧
      (reading.isAccepted = false →
        ((meter.after (before.map Reading.sample)).query reading.sample).2 =
          meter.after (before.map Reading.sample))) ∧
    total Reading.busy course = last.baseline.spent - first.spent ∧
    total Reading.elapsed course = last.baseline.elapsed - first.elapsed ∧
    ((∀ sample ∈ first :: samples, Tame sample) →
      ∀ reading ∈ course, ∀ fault, reading.found ≠ .error fault) := by
  -- All of it is told by single queries and added up along the course.
  intro meter course last
  refine ⟨meter.course_samples samples, meter.after_baseline samples, ?_, ?_, ?_, ?_⟩
  · -- A query in a course is one of the meter that the earlier ones have left.
    intro before reading later split
    obtain ⟨here, earlier⟩ := course_split split
    refine ⟨congrArg Reading.found here, ?_, here ▸ honest _ _, fun passed => ?_⟩
    · have baseline := meter.after_baseline (before.map Reading.sample)
      rw [← earlier] at baseline
      exact (congrArg Reading.baseline here).trans baseline
    · rw [query_meter, ← here, passed]
      rfl
  · -- Busy ticks are those spent between two baselines,
    exact total_course (fun meter sample accepted =>
      ((meter.honest sample).counted accepted).1) meter samples
  · -- and elapsed ones those that have passed between them.
    exact total_course (fun meter sample accepted =>
      ((meter.honest sample).counted accepted).2.2.1) meter samples
  · -- Between tame counters no query is broken off.
    intro tame
    rw [List.forall_mem_cons] at tame
    exact course_ok tame.1 tame.2

/--
A clock that stands still and ticks that do not fit into a word
are passed over, and the next sample counts them.
-/
example :
    let meter := start 1 ⟨0, 0, 0⟩
    let course := meter.course [⟨10, 3, 4⟩, ⟨10, 9, 9⟩, ⟨20, greatestSigned, greatestSigned⟩,
      ⟨30, 5, 8⟩]
    course.map Reading.found =
      [.ok (.measured 7 10 1), .ok .unknown, .error .addition, .ok (.measured 6 20 1)] ∧
      total Reading.busy course = 13 :=
  ⟨rfl, rfl⟩

end CpuMeter

end Wakeful
