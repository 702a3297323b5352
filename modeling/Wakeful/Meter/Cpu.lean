import Wakeful.Meter.Word

/-! The share of the machine that this program has used between two samples of its counters. -/

namespace Wakeful

/-- The counters of clock ticks at one moment, each a signed word. -/
structure CpuSample where
  /-- Ticks since some fixed moment. -/
  elapsed : Int
  /-- Ticks that the system spent for the program. -/
  system : Int
  /-- Ticks that the program spent itself. -/
  user : Int
  deriving DecidableEq, Repr

/-- What a query found. -/
inductive CpuUsage where
  /-- The clock stood still or a counter went backwards. -/
  | unknown
  /-- Busy ticks out of elapsed ones on so many cores. -/
  | measured (busy elapsed : Int) (cores : Nat)
  deriving DecidableEq, Repr

/-- A meter that compares each sample with the last one it accepted. -/
structure CpuMeter where
  /-- The sample that the next one is compared with. -/
  baseline : CpuSample
  /-- The number of processor cores. -/
  cores : Nat
  deriving DecidableEq, Repr

namespace CpuMeter

/-- The number of cores, given what the system reports. -/
def coreCount (reported : Int) : Nat :=
  -- A number that is no sensible count is taken as one core.
  if 0 < reported ∧ reported < 0x100000000 then reported.toNat else 1

/-- A meter that starts from a first sample. -/
def start (reportedCores : Int) (sample : CpuSample) : CpuMeter :=
  -- The first sample is the first baseline.
  ⟨sample, coreCount reportedCores⟩

/-- Whether time has passed since a baseline and no counter went backwards. -/
def advances (baseline sample : CpuSample) : Prop :=
  -- The clock has to move, while the other counters may stand still.
  baseline.elapsed < sample.elapsed ∧ baseline.system ≤ sample.system ∧ baseline.user ≤ sample.user

/-- Whether a sample advances can be computed. -/
instance (baseline sample : CpuSample) : Decidable (advances baseline sample) := by
  -- All three conditions compare whole numbers.
  unfold advances
  infer_instance

/-- The usage between a baseline and a sample that advances it. -/
def usage (cores : Nat) (baseline sample : CpuSample) : Except Overflow CpuUsage := do
  -- The differences are taken in this order, and each of them may be too large for a word.
  let system ← signedResult .subtraction (sample.system - baseline.system)
  let user ← signedResult .subtraction (sample.user - baseline.user)
  let busy ← signedResult .addition (system + user)
  let elapsed ← signedResult .subtraction (sample.elapsed - baseline.elapsed)
  return .measured busy elapsed cores

/-- Compares a sample with the baseline, which it replaces if a usage was measured. -/
def query (meter : CpuMeter) (sample : CpuSample) : Except Overflow CpuUsage × CpuMeter :=
  -- Neither an unusable sample nor an overflow moves the baseline.
  if advances meter.baseline sample then
    match usage meter.cores meter.baseline sample with
    | .ok measured => (.ok measured, { meter with baseline := sample })
    | .error fault => (.error fault, meter)
  else (.ok .unknown, meter)

end CpuMeter

/-- The usage in percent of the whole machine. -/
def CpuUsage.percent : CpuUsage → Float
  -- The quotient is taken step by step, each step rounded.
  | unknown => 0
  | measured busy elapsed cores =>
    (Int64.ofInt busy).toFloat / (Int64.ofInt elapsed).toFloat / (UInt32.ofNat cores).toFloat * 100

end Wakeful
