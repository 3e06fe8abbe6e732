import Bantay.Alerts.SystemAlerts
import Bantay.Records.AveragedFields

/-!
# What a Record Contributes to an Alert

For alerts over several minutes `HandleSystemAlerts` unmarshals the records of the last minutes one
after the other into the same variable.  The JSON of a record leaves out a bandwidth and a battery
of zero and the maps without entries, and a map only has the keys of that record.  So each record
contributes, next to its own values, what it leaves out and an earlier record had.
-/

namespace Bantay.Alerts

open Bantay.Lib List
open Bantay.Records (Stats FsStats)

/-! ## Values that are carried over -/

section Latest

variable {β γ : Type}

def latest (f : Stats → Option β) (records : List Stats) : Option β :=
  records.foldl (fun carried json => (f json).or carried) none

theorem latest_concat (f : Stats → Option β) (records : List Stats) (json : Stats) :
    latest f (records ++ [json]) = (f json).or (latest f records) := by
  rw [latest, foldl_append]
  rfl

end Latest

/-- `"b"` in the JSON of a record -/
def jsonBandwidth (json : Stats) : Option (Fin 2 → ℕ) :=
  if json.bandwidth = (fun _ => 0) then none else some json.bandwidth

def jsonBattery (json : Stats) : Option (ℕ × ℕ) :=
  if json.battery = (0, 0) then none else some json.battery

/-- The total and the used space of an entry of `"efs"`. -/
def jsonFs (key : String) (json : Stats) : Option (ℚ × ℚ) :=
  (json.fs key).map fun fs => (fs.diskTotal, fs.diskUsed)

/-- The usage of an entry of `"g"`. -/
def jsonUsage (id : String) (json : Stats) : Option ℚ := (json.gpu id).map (·.usage)

/-- The variable after the records have been unmarshalled into it. -/
def decode (records : List Stats) : SystemAlertStats :=
  records.foldl SystemAlertStats.unmarshal {}

theorem decode_concat (records : List Stats) (json : Stats) :
    decode (records ++ [json]) = (decode records).unmarshal json := by
  rw [decode, foldl_append]
  rfl

theorem decode_part {β : Type} (get : SystemAlertStats → Option β) (f : Stats → Option β)
    (hstart : get {} = none)
    (hstep : ∀ stats json, get (SystemAlertStats.unmarshal stats json) = (f json).or (get stats))
    (records : List Stats) : get (decode records) = latest f records := by
  induction records using reverseRecOn with
  | nil => exact hstart
  | append_singleton records json ih => rw [decode_concat, hstep, ih, latest_concat]

theorem lookup_mergeMap {β γ : Type} (f : γ → β) (old : GoMap String β)
    (json : Option (GoMap String γ)) (key : String) :
    (mergeMap f old json).lookup key = ((json.bind (·.lookup key)).map f).or (old.lookup key) := by
  have hjson : (json.getD ∅).lookup key = json.bind (·.lookup key) := by
    cases json <;> rfl
  rw [mergeMap, GoMap.lookup_accumulate, hjson]
  cases json.bind (·.lookup key) <;> rfl

section

variable (records : List Stats)

theorem decode_fs (key : String) :
    (decode records).extraFs.lookup key = latest (jsonFs key) records :=
  decode_part (·.extraFs.lookup key) (jsonFs key) rfl
    (fun stats json => lookup_mergeMap _ stats.extraFs json.extraFs key) records

theorem decode_temperature (key : String) :
    (decode records).temperatures.lookup key = latest (·.temperature key) records := by
  refine decode_part (·.temperatures.lookup key) (·.temperature key) rfl ?_ records
  intro stats json
  exact (lookup_mergeMap id stats.temperatures json.temperatures key).trans (by
    rw [Option.map_id]; rfl)

theorem decode_usage (id : String) :
    (decode records).gpu.lookup id = latest (jsonUsage id) records :=
  decode_part (·.gpu.lookup id) (jsonUsage id) rfl
    (fun stats json => lookup_mergeMap _ stats.gpu json.gpuData id) records

theorem decode_bandwidth :
    (decode records).bandwidth = (latest jsonBandwidth records).getD fun _ => 0 := by
  induction records using reverseRecOn with
  | nil => rfl
  | append_singleton records json ih =>
    rw [decode_concat, latest_concat, jsonBandwidth]
    show (if json.bandwidth = (fun _ => 0) then (decode records).bandwidth else json.bandwidth) = _
    split
    · exact ih
    · rfl

theorem decode_battery : (decode records).battery = (latest jsonBattery records).getD (0, 0) := by
  induction records using reverseRecOn with
  | nil => rfl
  | append_singleton records json ih =>
    rw [decode_concat, latest_concat, jsonBattery]
    show (if json.battery = (0, 0) then (decode records).battery else json.battery) = _
    split
    · exact ih
    · rfl

/-! ## Contributions -/

end

/-- What an alert reads from the stats of a record: a number, and the entries of a map. -/
structure Contribution where
  value : ℚ
  entries : String → Option ℚ

/-- The share in use of a filesystem that has a size. -/
def fsShare (fs : ℚ × ℚ) : Option ℚ := if 0 < fs.1 then some (usedPct fs.2 fs.1) else none

def contribution (name : AlertName) (stats : SystemAlertStats) : Contribution :=
  match name with
  | .cpu => ⟨stats.cpu, fun _ => none⟩
  | .memory => ⟨stats.mem, fun _ => none⟩
  | .bandwidth => ⟨bandwidthBytes stats.bandwidth / (1024 * 1024), fun _ => none⟩
  | .disk => ⟨stats.disk, fun key => (stats.extraFs.lookup key).bind fsShare⟩
  | .temperature => ⟨0, fun key => stats.temperatures.lookup key⟩
  | .loadAvg1 | .loadAvg5 | .loadAvg15 => ⟨loadAvgOf stats.loadAvg name, fun _ => none⟩
  | .gpu => ⟨0, fun id => stats.gpu.lookup id⟩
  | .battery => ⟨stats.battery.1, fun _ => none⟩
  | .status | .other => ⟨0, fun _ => none⟩

/-- What a record leaves out has the same latest value in two lists of earlier records, as far as
    it is read. -/
def SameCarried (name : AlertName) (earlier earlier' : List Stats) (json : Stats) : Prop :=
  match name with
  | .bandwidth => jsonBandwidth json = none →
      bandwidthBytes ((latest jsonBandwidth earlier).getD fun _ => 0) =
        bandwidthBytes ((latest jsonBandwidth earlier').getD fun _ => 0)
  | .battery => jsonBattery json = none →
      ((latest jsonBattery earlier).getD (0, 0)).1 = ((latest jsonBattery earlier').getD (0, 0)).1
  | .disk => ∀ key, jsonFs key json = none →
      (latest (jsonFs key) earlier).bind fsShare = (latest (jsonFs key) earlier').bind fsShare
  | .temperature => ∀ key, json.temperature key = none →
      latest (·.temperature key) earlier = latest (·.temperature key) earlier'
  | .gpu => ∀ id, jsonUsage id json = none →
      latest (jsonUsage id) earlier = latest (jsonUsage id) earlier'
  | .status | .cpu | .memory | .loadAvg1 | .loadAvg5 | .loadAvg15 | .other => True

theorem or_eq_or_iff {β δ : Type} (f : Option β → δ) (own carried carried' : Option β) :
    f (own.or carried) = f (own.or carried') ↔ (own = none → f carried = f carried') := by
  cases own with
  | none => simp
  | some value => simp

/-- **The contribution of a record is the same after other earlier records** exactly if what it
    leaves out has the same latest value in them. -/
theorem contribution_unchanged_iff (name : AlertName) (earlier earlier' : List Stats)
    (json : Stats) :
    contribution name (decode (earlier ++ [json])) =
      contribution name (decode (earlier' ++ [json])) ↔
      SameCarried name earlier earlier' json := by
  cases name with
  | bandwidth =>
    simp only [contribution, SameCarried, Contribution.mk.injEq, and_true, decode_bandwidth,
      latest_concat]
    rw [div_left_inj' (by norm_num), Nat.cast_inj]
    exact or_eq_or_iff (fun b => bandwidthBytes (b.getD fun _ => 0)) _ _ _
  | battery =>
    simp only [contribution, SameCarried, Contribution.mk.injEq, and_true, decode_battery,
      latest_concat, Nat.cast_inj]
    exact or_eq_or_iff (fun b => (b.getD (0, 0)).1) _ _ _
  | disk =>
    have hdisk : (decode (earlier ++ [json])).disk = (decode (earlier' ++ [json])).disk := by
      rw [decode_concat, decode_concat]
      rfl
    simp only [contribution, SameCarried, Contribution.mk.injEq, hdisk, true_and, funext_iff,
      decode_fs, latest_concat]
    exact forall_congr' fun key => or_eq_or_iff (fun fs => fs.bind fsShare) _ _ _
  | temperature =>
    simp only [contribution, SameCarried, Contribution.mk.injEq, true_and, funext_iff,
      decode_temperature, latest_concat]
    exact forall_congr' fun key => or_eq_or_iff id _ _ _
  | gpu =>
    simp only [contribution, SameCarried, Contribution.mk.injEq, true_and, funext_iff,
      decode_usage, latest_concat]
    exact forall_congr' fun key => or_eq_or_iff id _ _ _
  | status | other => simp only [contribution, SameCarried]
  | cpu | memory | loadAvg1 | loadAvg5 | loadAvg15 =>
    -- always in the JSON
    simp only [contribution, SameCarried, decode_concat, SystemAlertStats.unmarshal]

def busyRecord : Stats where
  bandwidth := ![5 * 1024 * 1024, 0]
  battery := (0, 0)
  temperatures := some (AList.singleton "nvme" 95)

def idleRecord : Stats where
  temperatures := some (AList.singleton "cpu" 40)

/-- **Values of earlier records contribute**: an idle record contributes the bandwidth and the
    sensor of the record before it. -/
theorem stale_values_contribute :
    (contribution .temperature (decode [busyRecord, idleRecord])).entries "nvme" = some 95 ∧
    (contribution .temperature (decode [idleRecord, idleRecord])).entries "nvme" = none ∧
    (contribution .bandwidth (decode [busyRecord, idleRecord])).value = 5 ∧
    (contribution .bandwidth (decode [idleRecord, idleRecord])).value = 0 := by
  decide +kernel

/-! ## The loop over the records -/

/-- The records with the variable of the loop at each of them, if all can be unmarshalled. -/
def decodeRows (stats : SystemAlertStats) : List StatsRow → Option (List (ℤ × SystemAlertStats))
  | [] => some []
  | row :: rows =>
    match row.stats with
    | none => none
    | some json =>
      let stats := stats.unmarshal json
      (decodeRows stats rows).map ((row.created, stats) :: ·)

/-- The variable at a record is what the records up to it leave in it. -/
theorem getElem?_decodeRows {rows : List StatsRow} {records : List (ℤ × SystemAlertStats)}
    {stats : SystemAlertStats} (h : decodeRows stats rows = some records) {i : ℕ}
    (hi : i < rows.length) :
    records[i]?.map Prod.snd = some
      (((rows.take (i + 1)).filterMap (·.stats)).foldl SystemAlertStats.unmarshal stats) := by
  induction rows generalizing stats records i with
  | nil => cases hi
  | cons row rows ih =>
    cases hjson : row.stats with
    | none => simp [decodeRows, hjson] at h
    | some json =>
      simp only [decodeRows, hjson, Option.map_eq_some_iff] at h
      obtain ⟨rest, hrest, rfl⟩ := h
      cases i with
      | zero => simp [hjson]
      | succ i => simpa [hjson] using ih hrest (Nat.lt_of_succ_lt_succ hi)

def sumOver (records : List (ℤ × SystemAlertStats)) (alert : SystemAlertData) : SystemAlertData :=
  records.foldl (fun alert record => addRecord record.1 record.2 alert) alert

theorem sumRecords_eq (stats : SystemAlertStats) (rows : List StatsRow)
    (alerts : List SystemAlertData) :
    sumRecords stats rows alerts =
      (decodeRows stats rows).map fun records => alerts.map (sumOver records) := by
  induction rows generalizing stats alerts with
  | nil => exact congrArg some (map_id' alerts).symm
  | cons row rows ih =>
    cases hjson : row.stats with
    | none => simp [sumRecords, decodeRows, hjson]
    | some json =>
      simp only [sumRecords, decodeRows, hjson, ih, Option.map_map]
      congr 1
      funext records
      rw [map_map]
      rfl

end Bantay.Alerts
