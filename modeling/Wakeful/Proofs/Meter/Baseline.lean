import Mathlib.Data.List.Chain
import Wakeful.Proofs.Meter.Course

/-!
A query is measured against the sample just before it
exactly as long as each sample becomes the baseline.
-/

namespace Wakeful

namespace CpuMeter

variable {meter : CpuMeter} {baseline sample : CpuSample}

/--
Whether a sample takes the place of a baseline: it is the
same, or it advances it by ticks that can be counted.
-/
def Renews (baseline sample : CpuSample) : Prop :=
  sample = baseline ∨ advances baseline sample ∧ Countable baseline sample

/-- After a query its own sample is the baseline exactly if it takes the place of the former one. -/
theorem query_baseline_eq_iff :
    (meter.query sample).2.baseline = sample ↔ Renews meter.baseline sample := by
  -- In each case it is known whether the baseline becomes the sample.
  have found := meter.finds sample
  unfold Renews
  generalize (meter.query sample).1 = result, (meter.query sample).2 = next at found
  cases found with
  | passes stalled => simp [stalled, eq_comm]
  | overflows advancing beyond => simp [beyond, eq_comm]
  | accepts advancing countable => simp [advancing, countable]

/-- A query never changes the number of cores. -/
@[simp] theorem query_cores (meter : CpuMeter) (sample : CpuSample) :
    (meter.query sample).2.cores = meter.cores := by
  -- A query changes the baseline at most.
  rw [query_meter]
  split <;> rfl

/-- A sample that does not advance the baseline leaves the meter as it was. -/
theorem query_of_stalled (stalled : ¬ advances meter.baseline sample) :
    meter.query sample = (.ok .unknown, meter) :=
  if_neg stalled

/-- Samples that do not advance the baseline leave the meter as it was, however many there are. -/
theorem after_of_stalled {samples : List CpuSample}
    (stalled : ∀ sample ∈ samples, ¬ advances meter.baseline sample) :
    meter.after samples = meter := by
  -- The induction is over the samples, each of which leaves the meter alone.
  induction samples with
  | nil => rfl
  | cons sample rest ih =>
    obtain ⟨here, later⟩ := List.forall_mem_cons.mp stalled
    rw [after_cons, query_of_stalled here]
    exact ih later

/--
All queries find nothing exactly if no sample advances the baseline from before the first of them.
-/
theorem course_unknown_iff {samples : List CpuSample} :
    (∀ reading ∈ meter.course samples, reading.found = .ok .unknown) ↔
      ∀ sample ∈ samples, ¬ advances meter.baseline sample := by
  -- The induction is over the samples, and the baseline stays as long as nothing is found.
  induction samples with
  | nil => simp
  | cons sample rest ih =>
    rw [course_cons, List.forall_mem_cons, List.forall_mem_cons, (meter.honest sample).unknown_iff]
    refine and_congr_right fun stalled => ?_
    have kept : (meter.query sample).2 = meter := congrArg Prod.snd (query_of_stalled stalled)
    rw [kept]
    exact ih

/-- What a query finds depends on its baseline and its sample alone. -/
theorem course_found (meter : CpuMeter) (samples : List CpuSample) :
    (meter.course samples).map Reading.found =
      List.zipWith (fun baseline sample => (query ⟨baseline, meter.cores⟩ sample).1)
        ((meter.course samples).map Reading.baseline) samples := by
  -- The induction is over the samples, and each query has its own baseline.
  induction samples generalizing meter with
  | nil => rfl
  | cons sample rest ih =>
    rw [course_cons, List.map_cons, List.map_cons, List.zipWith_cons_cons, ih, query_cores]
    rfl

/-- The first query of a course has the baseline that the meter had before it. -/
theorem course_baselines_cons (meter : CpuMeter) (sample : CpuSample) (rest : List CpuSample) :
    (meter.course (sample :: rest)).map Reading.baseline =
      meter.baseline :: ((meter.query sample).2.course rest).map Reading.baseline := rfl

/--
Each query is measured against the sample just before it exactly
if all but the last take the place of those before.
-/
theorem course_baselines_iff (meter : CpuMeter) (samples : List CpuSample) :
    (meter.course samples).map Reading.baseline = (meter.baseline :: samples).dropLast ↔
      List.IsChain Renews (meter.baseline :: samples.dropLast) := by
  -- The induction is over the samples.
  induction samples generalizing meter with
  | nil => simp
  | cons sample rest ih =>
    rw [course_baselines_cons, List.dropLast_cons_cons, List.cons.injEq, eq_self, true_and]
    cases rest with
    | nil => simp
    | cons next rest =>
      rw [List.dropLast_cons_cons, List.isChain_cons_cons]
      constructor
      · -- The second query tells what the first one has left as its baseline.
        intro same
        have renewed : (meter.query sample).2.baseline = sample := by
          rw [course_baselines_cons, List.cons.injEq] at same
          exact same.1
        have onward := ih (meter.query sample).2
        rw [renewed, List.dropLast_cons_cons] at onward
        exact ⟨query_baseline_eq_iff.mp renewed, onward.mp same⟩
      · -- If the first sample becomes the baseline, the others go on from it.
        rintro ⟨renews, chain⟩
        have onward := ih (meter.query sample).2
        rw [query_baseline_eq_iff.mpr renews, List.dropLast_cons_cons] at onward
        exact onward.mpr chain

/--
A query is measured against the sample just before it exactly as
long as every sample takes the place of the one before.

After any samples a query makes its own sample the baseline exactly if that is the baseline
already or advances it by ticks that can be counted. Of the samples that follow, all find nothing
exactly if none of them advances the baseline from before them, however they compare with each
other, and the first one that does is still measured against that. So all queries of a course have
the sample just before them as their baseline exactly if all samples but the last take the place
of those before; what the queries find is then a matter of these two samples alone.
-/
theorem measured_since_previous_iff (reportedCores : Int) (first : CpuSample)
    (samples : List CpuSample) :
    let course := (start reportedCores first).course samples
    let meter := (start reportedCores first).after samples
    (∀ sample, (meter.query sample).2.baseline = sample ↔ Renews meter.baseline sample) ∧
    (∀ later, (∀ reading ∈ meter.course later, reading.found = .ok .unknown) ↔
      ∀ sample ∈ later, ¬ advances meter.baseline sample) ∧
    (∀ later, (∀ sample ∈ later, ¬ advances meter.baseline sample) → ∀ sample,
      ((meter.after later).reading sample).baseline = meter.baseline) ∧
    (course.map Reading.baseline = (first :: samples).dropLast ↔
      List.IsChain Renews (first :: samples.dropLast)) ∧
    (List.IsChain Renews (first :: samples.dropLast) →
      course.map Reading.found =
        List.zipWith (fun previous sample => (query ⟨previous, coreCount reportedCores⟩ sample).1)
          (first :: samples).dropLast samples) := by
  -- Each part is a lemma about one meter or one course.
  intro course meter
  have baselines : course.map Reading.baseline = (first :: samples).dropLast ↔
      List.IsChain Renews (first :: samples.dropLast) :=
        course_baselines_iff (start reportedCores first) samples
  refine ⟨fun sample => query_baseline_eq_iff, fun later => course_unknown_iff,
    fun later stalled sample => ?_, baselines, fun chain => ?_⟩
  · rw [after_of_stalled stalled]
    rfl
  · rw [← baselines.mpr chain]
    exact course_found (start reportedCores first) samples

/--
A clock that has jumped back hides the ticks of the next sample,
although that advances the sample just before it.
-/
theorem backward_clock_hides_ticks :
    let meter := (start 1 ⟨10, 0, 0⟩).after [⟨5, 0, 0⟩]
    ((start 1 ⟨10, 0, 0⟩).query ⟨5, 0, 0⟩).1 = .ok .unknown ∧ meter.baseline ≠ ⟨5, 0, 0⟩ ∧
      advances ⟨5, 0, 0⟩ ⟨7, 1, 0⟩ ∧ (meter.query ⟨7, 1, 0⟩).1 = .ok .unknown ∧
      (query ⟨⟨5, 0, 0⟩, 1⟩ ⟨7, 1, 0⟩).1 = .ok (.measured 1 2 1) := by
  decide

end CpuMeter

end Wakeful
