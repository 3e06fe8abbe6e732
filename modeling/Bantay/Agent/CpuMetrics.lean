import Bantay.Lib.Mealy
import Mathlib.Algebra.Order.Ring.Unbundled.Rat

/-!
# CPU Metrics

A model of `agent/cpu.go`.  `getCpuMetrics` compares the CPU times with those stored for the
cache interval.  It stores the new times only when the total has grown, so that after a drop of
the counters the old times stay the point of comparison.

Nothing is assumed of the arithmetic: the floats are any type with the operations that are used.
-/

namespace Bantay.Agent.Cpu

open Bantay.Lib

structure TimesStat (φ : Type) where
  user : φ
  system : φ
  idle : φ
  nice : φ
  iowait : φ
  irq : φ
  softirq : φ
  steal : φ
  guest : φ
  guestNice : φ
deriving DecidableEq

structure CpuMetrics (φ : Type) where
  total : φ
  user : φ
  system : φ
  iowait : φ
  steal : φ
  idle : φ
deriving DecidableEq

/-- `TimesStat.Total` of the package `cpu`. -/
class TimesTotal (φ : Type) where
  total : TimesStat φ → φ

variable {φ : Type} [Sub φ] [Mul φ] [Div φ] [Min φ] [Max φ] [OfNat φ 0] [OfNat φ 100]
  [LE φ] [DecidableLE φ] [TimesTotal φ]

def TimesStat.zero : TimesStat φ := ⟨0, 0, 0, 0, 0, 0, 0, 0, 0, 0⟩

def CpuMetrics.zero : CpuMetrics φ := ⟨0, 0, 0, 0, 0, 0⟩

def TimesStat.total (t : TimesStat φ) : φ := TimesTotal.total t

def clampPercent (value : φ) : φ := min 100 (max 0 value)

/-- `linux` is `runtime.GOOS == "linux"`. -/
def getAllBusy (linux : Bool) (t : TimesStat φ) : φ × φ :=
  let tot := if linux then t.total - t.guest - t.guestNice else t.total
  (tot, tot - t.idle - t.iowait)

def calculateBusy (linux : Bool) (t1 t2 : TimesStat φ) : φ :=
  let (t1All, t1Busy) := getAllBusy linux t1
  let (t2All, t2Busy) := getAllBusy linux t2
  if t2All ≤ t1All ∨ t2Busy ≤ t1Busy then 0
  else clampPercent ((t2Busy - t1Busy) / (t2All - t1All) * 100)

def totalDelta (linux : Bool) (t1 t2 : TimesStat φ) : φ :=
  (getAllBusy linux t2).1 - (getAllBusy linux t1).1

/-- The metrics between two samples, all zero if the total has not grown. -/
def metricsBetween (linux : Bool) (t1 t2 : TimesStat φ) : CpuMetrics φ :=
  let totalDelta := totalDelta linux t1 t2
  if totalDelta ≤ 0 then .zero
  else
    { total := calculateBusy linux t1 t2
      user := clampPercent ((t2.user - t1.user) / totalDelta * 100)
      system := clampPercent ((t2.system - t1.system) / totalDelta * 100)
      iowait := clampPercent ((t2.iowait - t1.iowait) / totalDelta * 100)
      steal := clampPercent ((t2.steal - t1.steal) / totalDelta * 100)
      idle := clampPercent ((t2.idle - t1.idle) / totalDelta * 100) }

abbrev LastCpuTimes (φ : Type) := UInt16 → Option (TimesStat φ)

/-- An interval without times takes over those of the default interval. -/
def LastCpuTimes.before (last : LastCpuTimes φ) (cacheTimeMs : UInt16) : TimesStat φ :=
  (last cacheTimeMs).getD ((last 60000).getD .zero)

/-- A call, with the times it reads unless that fails. -/
structure CpuCall (φ : Type) where
  cacheTimeMs : UInt16
  times : Option (TimesStat φ)

def getCpuMetrics (linux : Bool) (last : LastCpuTimes φ) (call : CpuCall φ) :
    LastCpuTimes φ × Option (CpuMetrics φ) :=
  match call.times with
  | none => (last, none)
  | some t2 =>
    let t1 := last.before call.cacheTimeMs
    let last := Function.update last call.cacheTimeMs (some t1)
    if totalDelta linux t1 t2 ≤ 0 then (last, some .zero)
    else (Function.update last call.cacheTimeMs (some t2), some (metricsBetween linux t1 t2))

theorem getCpuMetrics_snd (linux : Bool) (last : LastCpuTimes φ) (call : CpuCall φ) :
    (getCpuMetrics linux last call).2 =
      call.times.map (metricsBetween linux (last.before call.cacheTimeMs)) := by
  unfold getCpuMetrics
  cases call.times with
  | none => rfl
  | some t2 =>
    simp only [Option.map_some]
    split
    · rename_i hle
      simp [metricsBetween, hle]
    · rfl

/-! ## Runs -/

/-- The stored times, and beside them the last sample read at every interval. -/
structure Watched (φ : Type) where
  last : LastCpuTimes φ
  sampled : UInt16 → Option (TimesStat φ)

def Watched.step (linux : Bool) (w : Watched φ) (call : CpuCall φ) :
    Watched φ × Option (CpuMetrics φ) :=
  let (last, metrics) := getCpuMetrics linux w.last call
  let sampled := match call.times with
    | none => w.sampled
    | some t2 => Function.update w.sampled call.cacheTimeMs (some t2)
  (⟨last, sampled⟩, metrics)

/-- After the first call at an interval, the metrics are those since the preceding sample at it. -/
def ReportsPreceding (linux : Bool) (w : Watched φ) (call : CpuCall φ) : Prop :=
  ∀ preceding sample, w.sampled call.cacheTimeMs = some preceding → call.times = some sample →
    (w.step linux call).2 = some (metricsBetween linux preceding sample)

/-- The total has grown since the times that are stored, or the sample is the same. -/
def Advances (linux : Bool) (w : Watched φ) (call : CpuCall φ) : Prop :=
  ∀ sample, call.times = some sample →
    ¬ totalDelta linux (w.last.before call.cacheTimeMs) sample ≤ 0 ∨
      sample = w.last.before call.cacheTimeMs

/-- The last sample at an interval is the one stored for it. -/
def Watched.UpToDate (w : Watched φ) : Prop :=
  ∀ cacheTimeMs sample, w.sampled cacheTimeMs = some sample → w.last cacheTimeMs = some sample

variable {w : Watched φ} {linux : Bool}

theorem Watched.UpToDate.reports (h : w.UpToDate)
    (call : CpuCall φ) : ReportsPreceding linux w call := by
  intro preceding sample hpreceding hsample
  have hbef : w.last.before call.cacheTimeMs = preceding := by
    simp [LastCpuTimes.before, h _ _ hpreceding]
  change (getCpuMetrics linux w.last call).2 = _
  rw [getCpuMetrics_snd, hsample, hbef, Option.map_some]

theorem getCpuMetrics_stores {call : CpuCall φ}
    {sample : TimesStat φ} (hsample : call.times = some sample) (hG : Advances linux w call) :
    (getCpuMetrics linux w.last call).1 =
      Function.update w.last call.cacheTimeMs (some sample) := by
  unfold getCpuMetrics
  simp only [hsample]
  split
  · rename_i hle
    rcases hG sample hsample with hgrown | hsame
    · exact absurd hle hgrown
    · rw [hsame]
  · exact Function.update_idem ..

/-- **One call** stores its sample for its interval and for no other. -/
theorem Watched.UpToDate.step (h : w.UpToDate)
    {call : CpuCall φ} (hG : Advances linux w call) : (w.step linux call).1.UpToDate := by
  cases hsample : call.times with
  | none =>
    intro cacheTimeMs sample hsamp
    simp only [Watched.step, getCpuMetrics, hsample] at hsamp ⊢
    exact h cacheTimeMs sample hsamp
  | some t2 =>
    intro cacheTimeMs sample hsamp
    simp only [Watched.step, getCpuMetrics_stores hsample hG, hsample] at hsamp ⊢
    by_cases hown : cacheTimeMs = call.cacheTimeMs
    · subst hown
      simpa using hsamp
    · rw [Function.update_of_ne hown] at hsamp ⊢
      exact h cacheTimeMs sample hsamp

theorem Watched.UpToDate.always {calls : List (CpuCall φ)}
    (h : w.UpToDate) (hG : Always (Watched.step linux) (Advances linux) w calls) :
    Always (Watched.step linux) (ReportsPreceding linux) w calls := by
  induction calls generalizing w with
  | nil => trivial
  | cons call calls ih => exact ⟨h.reports call, ih (h.step hG.1) hG.2⟩

/-- **If every sample has a larger total than the times stored for its interval, or is the same,
    every call after the first at an interval reports the metrics since the preceding sample.** -/
theorem cpu_metrics_since_preceding (linux : Bool) (last : LastCpuTimes φ)
    (calls : List (CpuCall φ))
    (hgrows : Always (Watched.step linux) (Advances linux) ⟨last, fun _ => none⟩ calls) :
    Always (Watched.step linux) (ReportsPreceding linux) ⟨last, fun _ => none⟩ calls := by
  refine Watched.UpToDate.always ?_ hgrows
  intro cacheTimeMs sample hsamp
  cases hsamp

/-- The sum of all times. -/
instance : TimesTotal ℚ where
  total t := t.user + t.system + t.idle + t.nice + t.iowait + t.irq + t.softirq + t.steal +
    t.guest + t.guestNice

/-- A call at the default interval that reads so much user and idle time. -/
def readTimes (user idle : ℚ) : CpuCall ℚ :=
  ⟨60000, some { TimesStat.zero with user, idle }⟩

theorem cpu_metrics_of_growing :
    Always (Watched.step true) (ReportsPreceding true) ⟨fun _ => none, fun _ => none⟩
      [readTimes 20 80, readTimes 30 170, readTimes 30 170, readTimes 80 220] := by
  refine cpu_metrics_since_preceding true _ _ ⟨?_, ?_, ?_, ?_, trivial⟩
  all_goals
    rintro sample ⟨⟩
    decide +kernel

/-- After a drop from 100 to 50 the growth to 80 is not seen. -/
def stuckBaseline : Watched ℚ :=
  ((Watched.step true
    (Watched.step true ⟨fun _ => none, fun _ => none⟩ (readTimes 20 80)).1) (readTimes 10 40)).1

theorem cpu_metrics_stuck :
    stuckBaseline.sampled 60000 = (readTimes 10 40).times ∧
      (stuckBaseline.step true (readTimes 25 55)).2 = some .zero ∧
      ¬ ReportsPreceding true stuckBaseline (readTimes 25 55) ∧
      ¬ Always (Watched.step true) (ReportsPreceding true) ⟨fun _ => none, fun _ => none⟩
        [readTimes 20 80, readTimes 10 40, readTimes 25 55] := by
  have hwrong : ¬ ReportsPreceding true stuckBaseline (readTimes 25 55) := by
    intro h
    have hrep := h _ _ rfl rfl
    exact absurd hrep (by decide +kernel)
  exact ⟨rfl, by decide +kernel, hwrong, fun h => hwrong h.2.2.1⟩

end Bantay.Agent.Cpu
