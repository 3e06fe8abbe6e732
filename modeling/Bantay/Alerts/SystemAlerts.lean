import Mathlib.Data.List.Sort
import Bantay.Records.LongerRecords
import Bantay.Records.SystemStats

/-!
# Threshold Alerts

`HandleSystemAlerts` of `internal/alerts/alerts_system.go`: which alerts of a system change
their state when new data has been saved.  An alert over one minute is decided by the new data.
An alert over several minutes is decided by the average of the stats records of that time, if
there are enough of them.

The result is the list of the alerts that are handed to `sendSystemAlert`.  Times are in
milliseconds, floats are read as rationals, and the texts of the messages are left out.  A
filesystem without a size has nothing in use.
-/

namespace Bantay.Alerts

open Bantay.Lib List
open Bantay.Records (Stats FsStats minute)

/-! ## Data -/

inductive AlertName where
  | status
  | cpu
  | memory
  | bandwidth
  | disk
  | temperature
  | loadAvg1
  | loadAvg5
  | loadAvg15
  | gpu
  | battery
  | other
deriving DecidableEq

structure CachedAlertData where
  id : ℕ
  systemID : String
  userID : String
  name : AlertName
  value : ℚ
  triggered : Bool
  min : UInt8
deriving DecidableEq

/-- The fields of `Info` that alerts read. -/
structure Info where
  cpu : ℚ := 0
  memPct : ℚ := 0
  diskPct : ℚ := 0
  gpuPct : ℚ := 0
  dashboardTemp : ℚ := 0
  bandwidthBytes : ℕ := 0
  loadAvg : Fin 3 → ℚ := fun _ => 0

/-- The data of a poll, as far as alerts read it. -/
structure CombinedData where
  stats : Stats := {}
  info : Info := {}

/-- A `1m` record of `system_stats`; `none` if its stats cannot be unmarshalled. -/
structure StatsRow where
  created : ℤ
  stats : Option Stats

structure SystemAlertStats where
  cpu : ℚ := 0
  mem : ℚ := 0
  disk : ℚ := 0
  bandwidth : Fin 2 → ℕ := fun _ => 0
  gpu : GoMap String ℚ := ∅
  temperatures : GoMap String ℚ := ∅
  loadAvg : Fin 3 → ℚ := fun _ => 0
  battery : ℕ × ℕ := (0, 0)
  extraFs : GoMap String (ℚ × ℚ) := ∅

structure SystemAlertData where
  alertData : CachedAlertData
  val : ℚ
  threshold : ℚ
  triggered : Bool
  time : ℤ
  count : UInt8
  min : UInt8
  mapSums : GoMap String ℚ

/-! ## The new data -/

def isLowAlert (name : AlertName) : Bool := name == .battery

def usedPct (used total : ℚ) : ℚ := used / total * 100

def loadAvgOf (loadAvg : Fin 3 → ℚ) : AlertName → ℚ
  | .loadAvg5 => loadAvg 1
  | .loadAvg15 => loadAvg 2
  | _ => loadAvg 0

def bandwidthBytes (bandwidth : Fin 2 → ℕ) : ℕ :=
  Records.addUint64 (bandwidth 0) (bandwidth 1)

/-- The value that the new data has for an alert; `none` if the alert is skipped. -/
def currentValue (data : CombinedData) : AlertName → Option ℚ
  | .cpu => some data.info.cpu
  | .memory => some data.info.memPct
  | .bandwidth => some (data.info.bandwidthBytes / (1024 * 1024))
  | .disk => some ((data.stats.extraFs.getD ∅).entries.foldl (fun maxUsedPct fs =>
      if maxUsedPct < usedPct fs.2.diskUsed fs.2.diskTotal then
        usedPct fs.2.diskUsed fs.2.diskTotal
      else
        maxUsedPct) data.info.diskPct)
  | .temperature =>
    if data.info.dashboardTemp < 1 then none else some data.info.dashboardTemp
  | .loadAvg1 => some (data.info.loadAvg 0)
  | .loadAvg5 => some (data.info.loadAvg 1)
  | .loadAvg15 => some (data.info.loadAvg 2)
  | .gpu => some data.info.gpuPct
  | .battery => if data.stats.battery.1 = 0 then none else some data.stats.battery.1
  | .status | .other => some 0

/-- The value is on the side of the threshold where the alert triggers. -/
def exceeds (lowAlert : Bool) (val threshold : ℚ) : Bool :=
  if lowAlert then val < threshold else threshold < val

/-- Not triggered and not beyond the threshold, or triggered and beyond it. -/
def unchanged (lowAlert triggered : Bool) (val threshold : ℚ) : Bool :=
  if lowAlert then
    (!triggered && decide (threshold ≤ val)) || (triggered && decide (val < threshold))
  else
    (!triggered && decide (val ≤ threshold)) || (triggered && decide (threshold < val))

/-- The variables of the loop over the alerts. -/
structure FirstPass where
  /-- handed to `sendSystemAlert` at once -/
  sent : List SystemAlertData
  validAlerts : List SystemAlertData
  oldestTime : ℤ

def considerAlert (now : ℤ) (data : CombinedData) (pass : FirstPass)
    (alertData : CachedAlertData) : FirstPass :=
  match currentValue data alertData.name with
  | none => pass
  | some val =>
    let lowAlert := isLowAlert alertData.name
    -- the flag is that of the cache at the time of the call
    if unchanged lowAlert alertData.triggered val alertData.value then
      pass
    else
      -- an alert without a duration is one over one minute
      let min := max 1 alertData.min
      let alert : SystemAlertData :=
        { alertData := alertData
          val := val
          threshold := alertData.value
          triggered := alertData.triggered
          time := 0
          count := 0
          min := min
          mapSums := ∅ }
      if min = 1 then
        { pass with
          sent := pass.sent ++
            [{ alert with triggered := exceeds lowAlert val alertData.value }] }
      else
        let time := now - minute * min.toNat
        { pass with
          validAlerts := pass.validAlerts ++ [{ alert with time := time }]
          oldestTime := if time < pass.oldestTime then time else pass.oldestTime }

/-! ## The records of the last minutes -/

/-- A JSON object is unmarshalled into a map that may have entries. -/
def mergeMap {β γ : Type} (f : γ → β) (old : GoMap String β)
    (json : Option (GoMap String γ)) : GoMap String β :=
  GoMap.accumulate (fun _ value => f value) old (json.getD ∅)

/-- Fields that a record leaves out keep their values in the one variable of the loop, and maps
    their entries. -/
def SystemAlertStats.unmarshal (stats : SystemAlertStats) (json : Stats) : SystemAlertStats where
  cpu := json.cpu
  mem := json.memPct
  disk := json.diskPct
  -- left out of the JSON if it is zero
  bandwidth := if json.bandwidth = (fun _ => 0) then stats.bandwidth else json.bandwidth
  gpu := mergeMap (·.usage) stats.gpu json.gpuData
  temperatures := mergeMap id stats.temperatures json.temperatures
  loadAvg := json.loadAvg
  battery := if json.battery = (0, 0) then stats.battery else json.battery
  extraFs := mergeMap (fun fs => (fs.diskTotal, fs.diskUsed)) stats.extraFs json.extraFs

/-- `mapSums[key] += value` -/
def addTo (sums : GoMap String ℚ) (key : String) (value : ℚ) : GoMap String ℚ :=
  sums.insert key ((sums.lookup key).getD 0 + value)

/-- The sums with a record; `none` if the alert skips it. -/
def addValue (alert : SystemAlertData) (stats : SystemAlertStats) :
    Option (ℚ × GoMap String ℚ) :=
  match alert.alertData.name with
  | .cpu => some (alert.val + stats.cpu, alert.mapSums)
  | .memory => some (alert.val + stats.mem, alert.mapSums)
  | .bandwidth =>
    let bytes := Records.addUint64 (stats.bandwidth 0) (stats.bandwidth 1)
    some (alert.val + bytes / (1024 * 1024), alert.mapSums)
  | .disk =>
    some (alert.val, stats.extraFs.entries.foldl (fun sums fs =>
      if 0 < fs.2.1 then addTo sums fs.1 (usedPct fs.2.2 fs.2.1) else sums)
      (addTo alert.mapSums "root" stats.disk))
  | .temperature =>
    some (alert.val, stats.temperatures.entries.foldl (fun sums temp =>
      addTo sums temp.1 temp.2) alert.mapSums)
  | .loadAvg1 => some (alert.val + stats.loadAvg 0, alert.mapSums)
  | .loadAvg5 => some (alert.val + stats.loadAvg 1, alert.mapSums)
  | .loadAvg15 => some (alert.val + stats.loadAvg 2, alert.mapSums)
  | .gpu =>
    if stats.gpu.entries.length = 0 then
      none
    else
      let maxUsage := stats.gpu.entries.foldl (fun maxUsage gpu =>
        if maxUsage < gpu.2 then gpu.2 else maxUsage) 0
      some (alert.val + maxUsage, alert.mapSums)
  | .battery => some (alert.val + stats.battery.1, alert.mapSums)
  | .status | .other => none

/-- `10 * time.Second`, "to give a small time buffer" -/
def timeBuffer : ℤ := 10000

/-- `90 * time.Second`, "to give us a bit of buffer" -/
def queryBuffer : ℤ := 90000

def addRecord (created : ℤ) (stats : SystemAlertStats) (alert : SystemAlertData) :
    SystemAlertData :=
  if created - timeBuffer < alert.time then
    alert
  else
    match addValue alert stats with
    | none => alert
    | some (val, mapSums) =>
      { alert with val := val, mapSums := mapSums, count := alert.count + 1 }

def sumRecords (stats : SystemAlertStats) :
    List StatsRow → List SystemAlertData → Option (List SystemAlertData)
  | [], alerts => some alerts
  | row :: rows, alerts =>
    match row.stats with
    | none => none
    | some json =>
      let stats := stats.unmarshal json
      sumRecords stats rows (alerts.map (addRecord row.created stats))

/-! ## The averages -/

def averageValue (alert : SystemAlertData) : ℚ :=
  match alert.alertData.name with
  | .disk => alert.mapSums.entries.foldl (fun maxPct sum =>
      if maxPct < sum.2 then sum.2 else maxPct) 0 / alert.count.toNat
  | .temperature => alert.mapSums.entries.foldl (fun maxTemp sum =>
      if maxTemp < sum.2 / alert.count.toNat then sum.2 / alert.count.toNat else maxTemp) 0
  | _ => alert.val / alert.count.toNat

/-- The alert counts at least `min / 1.2` records, and their average is on the other side of the
    threshold. -/
def passThrough (alert : SystemAlertData) : Option SystemAlertData :=
  let val := averageValue alert
  if 5 * alert.min.toNat ≤ 6 * alert.count.toNat then
    let beyond := exceeds (isLowAlert alert.alertData.name) val alert.threshold
    if alert.triggered = false ∧ beyond = true then
      some { alert with val := val, triggered := true }
    else if alert.triggered = true ∧ beyond = false then
      some { alert with val := val, triggered := false }
    else
      none
  else
    none

/-- The alerts over several minutes, for the `1m` records of the system.  Created times are
    compared as texts, which within the millisecond of the bound is not strict. -/
def handleLongAlerts (rows : List StatsRow) (pass : FirstPass) : List SystemAlertData :=
  let systemStats := (rows.filter fun row =>
    decide (pass.oldestTime - queryBuffer ≤ row.created)).insertionSort
      fun a b => a.created ≤ b.created
  match systemStats with
  | [] => []
  | oldest :: _ =>
    -- the buffer of the query counts here: the oldest record may lie before the alert's time
    let validAlerts := pass.validAlerts.filter fun alert => decide (oldest.created < alert.time)
    -- sums start with the first record
    match sumRecords {} systemStats (validAlerts.map fun alert => { alert with val := 0 }) with
    | none => []
    | some alerts => alerts.filterMap passThrough

/-- The alerts that are handed to `sendSystemAlert`. -/
def handleSystemAlerts (now : ℤ) (data : CombinedData) (cached : List CachedAlertData)
    (rows : List StatsRow) : List SystemAlertData :=
  let alerts := cached.filter fun alert => alert.name ≠ .status
  let pass := alerts.foldl (considerAlert now data) ⟨[], [], now⟩
  pass.sent ++ handleLongAlerts rows pass

/-! ## What is sent -/

theorem exceeds_of_not_unchanged {lowAlert triggered : Bool} {val threshold : ℚ}
    (h : unchanged lowAlert triggered val threshold = false) :
    exceeds lowAlert val threshold = !triggered := by
  cases lowAlert <;> cases triggered <;> simp_all [unchanged, exceeds]

/-- An alert over one minute that is sent. -/
structure Immediate (cached : List CachedAlertData) (alert : SystemAlertData) : Prop where
  mem : alert.alertData ∈ cached
  name : alert.alertData.name ≠ .status
  min : alert.min = 1
  triggered : alert.triggered = !alert.alertData.triggered

/-- An alert over several minutes that is waiting for its average. -/
structure Waiting (now : ℤ) (cached : List CachedAlertData) (alert : SystemAlertData) :
    Prop where
  mem : alert.alertData ∈ cached
  name : alert.alertData.name ≠ .status
  min : alert.min = max 1 alert.alertData.min
  time : alert.time = now - minute * alert.min.toNat
  triggered : alert.triggered = alert.alertData.triggered

section Pass

variable {now : ℤ} {data : CombinedData} {cached : List CachedAlertData}

/-- What the loop over the alerts has collected. -/
structure PassInv (now : ℤ) (cached : List CachedAlertData) (pass : FirstPass) : Prop where
  sent : ∀ alert ∈ pass.sent, Immediate cached alert
  valid : ∀ alert ∈ pass.validAlerts, Waiting now cached alert ∧ alert.count = 0

theorem PassInv.considerAlert {pass : FirstPass} (h : PassInv now cached pass)
    {alertData : CachedAlertData} (hmem : alertData ∈ cached) (hname : alertData.name ≠ .status) :
    PassInv now cached (considerAlert now data pass alertData) := by
  unfold Alerts.considerAlert
  split
  · exact h
  · next val _ =>
    dsimp only
    split
    · exact h
    · next hchg =>
      have hexceeds := exceeds_of_not_unchanged (Bool.not_eq_true _ ▸ hchg)
      split
      · next hone =>
        refine ⟨?_, h.valid⟩
        intro alert halert
        rcases mem_append.mp halert with halert | halert
        · exact h.sent alert halert
        · obtain rfl := mem_singleton.mp halert
          exact ⟨hmem, hname, hone, hexceeds⟩
      · refine ⟨h.sent, ?_⟩
        intro alert halert
        rcases mem_append.mp halert with halert | halert
        · exact h.valid alert halert
        · obtain rfl := mem_singleton.mp halert
          exact ⟨⟨hmem, hname, rfl, rfl, rfl⟩, rfl⟩

theorem passInv_foldl (now : ℤ) (data : CombinedData) (cached : List CachedAlertData) :
    PassInv now cached ((cached.filter fun alert => alert.name ≠ .status).foldl
      (Alerts.considerAlert now data) ⟨[], [], now⟩) := by
  refine foldlRecOn _ _ ⟨forall_mem_nil _, forall_mem_nil _⟩ ?_
  intro pass h alertData hmem
  obtain ⟨hmem, hname⟩ := mem_filter.mp hmem
  exact h.considerAlert hmem (of_decide_eq_true hname)

end Pass

section Records

variable {now : ℤ} {cached : List CachedAlertData}

def counted (alert : SystemAlertData) (rows : List StatsRow) : ℕ :=
  rows.countP fun row => alert.time ≤ row.created - timeBuffer

theorem addRecord_count_le (row : StatsRow) (stats : SystemAlertStats) (alert : SystemAlertData) :
    (addRecord row.created stats alert).count.toNat ≤ alert.count.toNat + counted alert [row] := by
  unfold addRecord
  split
  · exact Nat.le_add_right _ _
  · next hrecn =>
    have hone : counted alert [row] = 1 := by
      rw [counted, countP_singleton, if_pos (decide_eq_true (by omega))]
    split
    · exact Nat.le_add_right _ _
    · rw [hone, UInt8.toNat_add]
      exact Nat.mod_le _ _

theorem addRecord_frame (created : ℤ) (stats : SystemAlertStats) (alert : SystemAlertData) :
    ∃ val mapSums count, addRecord created stats alert =
      { alert with val := val, mapSums := mapSums, count := count } := by
  unfold addRecord
  split
  · exact ⟨_, _, _, rfl⟩
  · split <;> exact ⟨_, _, _, rfl⟩

variable {alert sent : SystemAlertData} {rows : List StatsRow}

theorem Waiting.addRecord (h : Waiting now cached alert) (created : ℤ) (stats : SystemAlertStats) :
    Waiting now cached (addRecord created stats alert) := by
  obtain ⟨val, mapSums, count, heq⟩ := addRecord_frame created stats alert
  rw [heq]
  exact ⟨h.mem, h.name, h.min, h.time, h.triggered⟩

/-- The loop over the records: induction over those that are left, with the counts of those
    that are done. -/
theorem sumRecords_inv {stats : SystemAlertStats} {alerts result : List SystemAlertData}
    (before : SystemAlertData → ℕ) (hbef : ∀ alert val mapSums count,
      before { alert with val := val, mapSums := mapSums, count := count } = before alert)
    (h : ∀ alert ∈ alerts, Waiting now cached alert ∧ alert.count.toNat ≤ before alert)
    (hresult : sumRecords stats rows alerts = some result) :
    ∀ alert ∈ result, Waiting now cached alert ∧
      alert.count.toNat ≤ before alert + counted alert rows := by
  induction rows generalizing stats alerts before with
  | nil =>
    cases hresult
    exact h
  | cons row rows ih =>
    cases hjson : row.stats with
    | none => simp [sumRecords, hjson] at hresult
    | some json =>
      simp only [sumRecords, hjson] at hresult
      have hstep := ih (fun alert => before alert + counted alert [row])
        (fun alert val mapSums count => by rw [hbef]; rfl) ?_ hresult
      · intro alert halert
        obtain ⟨hwait, hcount⟩ := hstep alert halert
        refine ⟨hwait, ?_⟩
        have hsplit : counted alert (row :: rows) = counted alert [row] + counted alert rows :=
          @countP_append _ _ [row] rows
        omega
      · intro alert' halert'
        obtain ⟨alert, halert, rfl⟩ := mem_map.mp halert'
        obtain ⟨hwait, hcount⟩ := h alert halert
        refine ⟨hwait.addRecord row.created _, ?_⟩
        have hle := addRecord_count_le row (stats.unmarshal json) alert
        obtain ⟨val, mapSums, count, heq⟩ :=
          addRecord_frame row.created (stats.unmarshal json) alert
        rw [heq] at hle ⊢
        simp only [hbef]
        exact hle.trans (Nat.add_le_add_right hcount _)

theorem passThrough_eq_some (h : passThrough alert = some sent) :
    sent.alertData = alert.alertData ∧ sent.min = alert.min ∧
      sent.triggered = !alert.triggered ∧ 5 * alert.min.toNat ≤ 6 * alert.count.toNat := by
  simp only [passThrough] at h
  split at h
  · next heno =>
    split at h
    · next hbeyond =>
      cases h
      exact ⟨rfl, rfl, by rw [hbeyond.1]; rfl, heno⟩
    · split at h
      · next hbelow =>
        cases h
        exact ⟨rfl, rfl, by rw [hbelow.1]; rfl, heno⟩
      · cases h
  · cases h

/-- The state changes, and enough records were counted. -/
structure Averaged (now : ℤ) (cached : List CachedAlertData) (rows : List StatsRow)
    (alert : SystemAlertData) : Prop where
  mem : alert.alertData ∈ cached
  name : alert.alertData.name ≠ .status
  min : alert.min = max 1 alert.alertData.min
  triggered : alert.triggered = !alert.alertData.triggered
  enough : 5 * alert.min.toNat ≤ 6 * rows.countP fun row =>
    now - minute * alert.min.toNat ≤ row.created - timeBuffer

/-- What is sent after the query was averaged over its records. -/
theorem handleLongAlerts_averaged {pass : FirstPass} (h : PassInv now cached pass)
    (hsent : sent ∈ handleLongAlerts rows pass) : Averaged now cached rows sent := by
  unfold handleLongAlerts at hsent
  dsimp only at hsent
  split at hsent
  · cases hsent
  · next oldest _ _ =>
    split at hsent
    · cases hsent
    · next alerts hsum =>
      obtain ⟨alert, halert, hpass⟩ := mem_filterMap.mp hsent
      obtain ⟨hdata, hmin, htrig, heno⟩ := passThrough_eq_some hpass
      have hstart : ∀ alert ∈ (pass.validAlerts.filter fun alert =>
          decide (oldest.created < alert.time)).map (fun alert => { alert with val := 0 }),
          Waiting now cached alert ∧ alert.count.toNat ≤ 0 := by
        intro alert' halert'
        obtain ⟨alert, halert, rfl⟩ := mem_map.mp halert'
        obtain ⟨hwait, hzero⟩ := h.valid alert (mem_filter.mp halert).1
        refine ⟨⟨hwait.mem, hwait.name, hwait.min, hwait.time,
          hwait.triggered⟩, ?_⟩
        rw [hzero]
        exact Nat.le_refl 0
      obtain ⟨hwait, hcount⟩ :=
        sumRecords_inv (fun _ => 0) (fun _ _ _ _ => rfl) hstart hsum alert halert
      refine ⟨hdata ▸ hwait.mem, hdata ▸ hwait.name, ?_, ?_, ?_⟩
      · rw [hmin, hdata, hwait.min]
      · rw [htrig, hdata, hwait.triggered]
      · -- sorting and the query only leave records out
        rw [counted, hwait.time, Nat.zero_add] at hcount
        have hle := hcount.trans_eq ((perm_insertionSort _ _).countP_eq _)
        have hfilter := hle.trans (List.Sublist.countP_le filter_sublist)
        rw [hmin]
        omega

end Records

variable {now : ℤ} {data : CombinedData} {cached : List CachedAlertData} {rows : List StatsRow}

theorem handleSystemAlerts_sent {sent : SystemAlertData}
    (hsent : sent ∈ handleSystemAlerts now data cached rows) :
    Immediate cached sent ∨ Averaged now cached rows sent := by
  have hpass := passInv_foldl now data cached
  rcases mem_append.mp hsent with hsent | hsent
  · exact .inl (hpass.sent sent hsent)
  · exact .inr (handleLongAlerts_averaged hpass hsent)

/-! ## Each alert is sent at most once -/

/-- The alerts that the loop over the alerts has kept. -/
def FirstPass.ids (pass : FirstPass) : List ℕ :=
  (pass.sent ++ pass.validAlerts).map (·.alertData.id)

theorem considerAlert_ids (now : ℤ) (data : CombinedData) (pass : FirstPass)
    (alertData : CachedAlertData) :
    (considerAlert now data pass alertData).ids = pass.ids ∨
      (considerAlert now data pass alertData).ids.Perm (alertData.id :: pass.ids) := by
  unfold considerAlert
  split
  · exact .inl rfl
  · dsimp only
    split
    · exact .inl rfl
    · refine .inr ?_
      split
      · simp only [FirstPass.ids, map_append, append_assoc]
        exact perm_middle
      · simp only [FirstPass.ids, map_append, ← append_assoc]
        exact perm_append_singleton _ _

/-- **Alerts with distinct ids** are kept with distinct ids: induction over the alerts that are
    left. -/
theorem nodup_foldl_considerAlert {pass : FirstPass} (hcached : (cached.map (·.id)).Nodup)
    (hpass : pass.ids.Nodup) (hfresh : ∀ alertData ∈ cached, alertData.id ∉ pass.ids) :
    (cached.foldl (considerAlert now data) pass).ids.Nodup := by
  induction cached generalizing pass with
  | nil => exact hpass
  | cons alertData cached ih =>
    obtain ⟨hnew, hcached⟩ := nodup_cons.mp hcached
    have hfree : alertData.id ∉ pass.ids := hfresh alertData mem_cons_self
    apply ih hcached
    · rcases considerAlert_ids now data pass alertData with hids | hids
      · rw [hids]
        exact hpass
      · exact hids.nodup_iff.mpr (nodup_cons.mpr ⟨hfree, hpass⟩)
    · intro other hother
      have hold : other.id ∉ pass.ids := hfresh other (mem_cons_of_mem _ hother)
      rcases considerAlert_ids now data pass alertData with hids | hids
      · rw [hids]
        exact hold
      · intro hmem
        rcases mem_cons.mp (hids.mem_iff.mp hmem) with heq | hmem
        · exact hnew (mem_map.mpr ⟨other, hother, heq⟩)
        · exact hold hmem

theorem sumRecords_alertData {stats : SystemAlertStats} {alerts result : List SystemAlertData}
    (h : sumRecords stats rows alerts = some result) :
    result.map (·.alertData) = alerts.map (·.alertData) := by
  induction rows generalizing stats alerts with
  | nil =>
    cases h
    rfl
  | cons row rows ih =>
    cases hjson : row.stats with
    | none => simp [sumRecords, hjson] at h
    | some json =>
      simp only [sumRecords, hjson] at h
      rw [ih h, map_map]
      apply map_congr_left
      intro alert _
      obtain ⟨val, mapSums, count, heq⟩ :=
        addRecord_frame row.created (stats.unmarshal json) alert
      rw [Function.comp_apply, heq]

theorem map_filterMap_passThrough_sublist (alerts : List SystemAlertData) :
    ((alerts.filterMap passThrough).map (·.alertData)).Sublist (alerts.map (·.alertData)) := by
  induction alerts with
  | nil => exact List.Sublist.refl _
  | cons alert alerts ih =>
    cases hpass : passThrough alert with
    | none =>
      rw [filterMap_cons_none hpass]
      exact ih.cons _
    | some sent =>
      rw [filterMap_cons_some hpass, map_cons, map_cons,
        (passThrough_eq_some hpass).1]
      exact ih.cons_cons _

theorem handleLongAlerts_sublist (rows : List StatsRow) (pass : FirstPass) :
    ((handleLongAlerts rows pass).map (·.alertData)).Sublist
      (pass.validAlerts.map (·.alertData)) := by
  unfold handleLongAlerts
  dsimp only
  split
  · exact nil_sublist _
  · split
    · exact nil_sublist _
    · next hsum =>
      refine (map_filterMap_passThrough_sublist _).trans ?_
      rw [sumRecords_alertData hsum, map_map]
      exact filter_sublist.map _

end Bantay.Alerts
