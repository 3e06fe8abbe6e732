import Bantay.Alerts.SystemAlerts
import Bantay.Records.Coverage

/-!
# What an Alert over Several Minutes Covers

An alert over `m` minutes changes its state if it counts at least `m / 1.2` records, so that a
few minutes may be missing.  As for the `10m` records, a count of records is a number of minutes
only with one record for each minute, and polls come every five seconds.
-/

namespace Bantay.Alerts

open Bantay.Lib List
open Bantay.Records (minute interval minute_countP_le)

/-! ## Calls -/

structure AlertCall where
  /-- the record that a poll has saved before the call, if it comes from a poll -/
  record : Option StatsRow
  updated : ℤ
  data : CombinedData
  cached : List CachedAlertData

def AlertCall.rows (call : AlertCall) (rows : List StatsRow) : List StatsRow :=
  rows ++ call.record.toList

/-- Records only come in, oldest first. -/
def callStep (rows : List StatsRow) (call : AlertCall) : Option (List StatsRow) :=
  some (call.rows rows)

def times (rows : List StatsRow) : List ℤ := rows.map (·.created)

/-! ## The property and the condition -/

/-- Polls come at least the interval of the hub apart, and the system record is saved after
    them. -/
def CallSpaced (rows : List StatsRow) (call : AlertCall) : Prop :=
  (∀ row ∈ call.record, ∀ t ∈ times rows, t + interval ≤ row.created) ∧
    ∀ t ∈ times (call.rows rows), t ≤ call.updated
deriving Decidable

/-- An alert over `m > 1` minutes changes only if `m / 1.2` of the last `m` minutes hold a
    record. -/
def LongAlertsCovered (rows : List StatsRow) (call : AlertCall) : Prop :=
  ∀ sent ∈ handleSystemAlerts call.updated call.data call.cached (call.rows rows),
    1 < sent.min.toNat →
      5 * sent.min.toNat ≤
        6 * covered minute call.updated sent.min.toNat (times (call.rows rows))

/-- No minute of an alert holds two records, or they hold ten each on average. -/
def CallGuard (rows : List StatsRow) (call : AlertCall) : Prop :=
  ∀ alert ∈ call.cached,
    (∀ i < (max 1 alert.min).toNat,
      (times (call.rows rows)).countP (InSpan minute call.updated i) ≤ 1) ∨
    10 * (max 1 alert.min).toNat ≤
      (times (call.rows rows)).countP (InWindow minute call.updated (max 1 alert.min).toNat)

instance (rows : List StatsRow) (call : AlertCall) : Decidable (CallGuard rows call) :=
  inferInstanceAs (Decidable (∀ alert ∈ call.cached, _ ∨ _))

/-! ## Runs -/

/-- **One call** adds its record at the interval of the hub. -/
theorem spaced_step {rows rows' : List StatsRow} {call : AlertCall}
    (h : Spaced interval (times rows)) (hspaced : CallSpaced rows call)
    (hstep : callStep rows call = some rows') : Spaced interval (times rows') := by
  cases hstep
  cases hrec : call.record with
  | none =>
    rw [AlertCall.rows, hrec, Option.toList_none, append_nil]
    exact h
  | some row =>
    rw [AlertCall.rows, hrec, Option.toList_some, times, map_append, map_singleton]
    exact h.concat (hspaced.1 row hrec)

theorem counted_le_window {now : ℤ} {m : ℕ} {rows : List StatsRow}
    (hbef : ∀ t ∈ times rows, t ≤ now) :
    rows.countP (fun row => now - minute * m ≤ row.created - timeBuffer) ≤
      (times rows).countP (InWindow minute now m) := by
  rw [times, countP_map]
  apply countP_mono_left
  intro row hrow hcounted
  have hcounted := of_decide_eq_true hcounted
  have hnow := hbef row.created (mem_map_of_mem hrow)
  apply decide_eq_true
  simp only [InWindow, timeBuffer] at *
  omega

/-- **An alert over `m` minutes changes only if `m / 1.2` of them hold a record**, in every run of
    polls at the interval of the hub, if no minute of an alert holds two records, or they hold ten
    each on average. -/
theorem long_alerts_covered (calls : List AlertCall)
    (hspaced : EveryStep callStep CallSpaced [] calls)
    (hguard : EveryStep callStep CallGuard [] calls) :
    EveryStep callStep LongAlertsCovered [] calls := by
  apply everyStep_of_invariant (I := fun rows => Spaced interval (times rows))
    (G := fun rows call => CallSpaced rows call ∧ CallGuard rows call)
  · intro rows call rows' h hguard hstep
    exact spaced_step h hguard.1 hstep
  · intro rows call h hguard sent hsent hlong
    rcases handleSystemAlerts_sent hsent with himm | havg
    · -- an alert over one minute
      rw [himm.min] at hlong
      exact absurd hlong (by decide)
    · have hcount := counted_le_window (m := sent.min.toNat) hguard.1.2
      have heno := havg.enough
      have hspans := hguard.2 sent.alertData havg.mem
      rw [← havg.min] at hspans
      rcases hspans with hone | hmost
      · have hcov := countP_inWindow_le (by decide) hone
        omega
      · -- the record of this call keeps the interval too, so no minute holds more than twelve
        have hafter := spaced_step h hguard.1 rfl
        have hcov := countP_inWindow_le (n := sent.min.toNat) (by decide)
          fun i _ => minute_countP_le hafter call.updated i
        omega
  · exact List.Pairwise.nil
  · exact hspaced.and hguard

def cpuAlert (min : UInt8) : CachedAlertData := ⟨0, "web", "alice", .cpu, 50, false, min⟩

/-- A call after a poll at `now` that has measured 90 percent. -/
def busyCall (min : UInt8) (now : ℤ) : AlertCall where
  record := some ⟨now, some { cpu := 90 }⟩
  updated := now
  data := { info := { cpu := 90 } }
  cached := [cpuAlert min]

theorem two_minutes_covered :
    (handleSystemAlerts 125000 { info := { cpu := 90 } } [cpuAlert 2]
      ([0, 60000, 125000].map fun t => ⟨t, some { cpu := 90 }⟩)).length = 1 ∧
    EveryStep callStep LongAlertsCovered [] ([0, 60000, 125000].map (busyCall 2)) := by
  constructor
  · decide +kernel
  · apply long_alerts_covered
    · decide +kernel
    · decide +kernel

/-- A record just before the last ten minutes, and polls in the last minute. -/
def lateCalls (n : ℕ) : List AlertCall :=
  (0 :: (List.range n).map fun (i : ℕ) => 565000 + interval * i).map (busyCall 10)

/-- **One minute triggers an alert over ten minutes**: nine records of the last minute are taken
    for nine minutes. -/
theorem one_minute_triggers_long_alert :
    EveryStep callStep CallSpaced [] (lateCalls 9) ∧
    ∃ rows, exec callStep [] (lateCalls 8) = some rows ∧
      covered minute 605000 10 (times ((busyCall 10 605000).rows rows)) = 1 ∧
      ¬ LongAlertsCovered rows (busyCall 10 605000) := by
  refine ⟨by decide +kernel, _, rfl, by decide +kernel, ?_⟩
  rw [LongAlertsCovered]
  decide +kernel

end Bantay.Alerts
