import Bantay.Agent.SystemInfo
import Bantay.Alerts.RecordSums

/-!
# One Minute and Several Minutes

`HandleSystemAlerts` decides an alert over one minute by the summary of the payload, and an alert
over several minutes by that summary and by the stats of the records.  If all records carry the
stats of the payload, both are about the same readings.

The two paths still differ by what they read.  Records without a GPU are skipped, but their
summary has a usage of zero.  The summary has the temperature of one sensor, the stats have all of
them, rounded, and those of the GPUs; `PlainSensors` is when this makes no difference.
-/

namespace Bantay.Alerts

open Bantay.Lib List SystemAlertStats
open Bantay.Records (Stats GPUData FsStats minute)
open Bantay.Agent (Summarizes SystemConfig Readings PlainSensors payload payload_summary
  payload_highest maxUsage)

/-! ## Records with the same stats -/

/-- The variable of the loop holds the values of a record, and nothing else. -/
structure Reads (json : Stats) (stats : SystemAlertStats) : Prop where
  cpu : stats.cpu = json.cpu
  mem : stats.mem = json.memPct
  disk : stats.disk = json.diskPct
  bandwidth : stats.bandwidth = json.bandwidth
  loadAvg : stats.loadAvg = json.loadAvg
  battery : stats.battery = json.battery
  fs : ∀ key, stats.extraFs.lookup key = jsonFs key json
  temperature : ∀ key, stats.temperatures.lookup key = json.temperature key
  usage : ∀ id, stats.gpu.lookup id = jsonUsage id json

variable {json : Stats} {stats : SystemAlertStats}

theorem reads_unmarshal (h : stats = {} ∨ Reads json stats) :
    Reads json (stats.unmarshal json) := by
  have hkeep : ∀ {β : Type} {own old : Option β}, old = none ∨ old = own → own.or old = own := by
    rintro β own old (rfl | rfl)
    · exact Option.or_none
    · exact Option.or_self
  refine ⟨rfl, rfl, rfl, ?_, rfl, ?_, fun key => ?_, fun key => ?_, fun id => ?_⟩
  · show (if json.bandwidth = (fun _ => 0) then stats.bandwidth else json.bandwidth) = _
    split
    · next hzero => rcases h with rfl | h <;> [exact hzero.symm; exact h.bandwidth]
    · rfl
  · show (if json.battery = (0, 0) then stats.battery else json.battery) = _
    split
    · next hzero => rcases h with rfl | h <;> [exact hzero.symm; exact h.battery]
    · rfl
  · refine (lookup_mergeMap _ stats.extraFs json.extraFs key).trans (hkeep ?_)
    exact h.imp (fun h => by rw [h]; rfl) fun h => h.fs key
  · refine (lookup_mergeMap id stats.temperatures json.temperatures key).trans ?_
    rw [Option.map_id]
    exact hkeep (h.imp (fun h => by rw [h]; rfl) fun h => h.temperature key)
  · refine (lookup_mergeMap _ stats.gpu json.gpuData id).trans (hkeep ?_)
    exact h.imp (fun h => by rw [h]; rfl) fun h => h.usage id

/-- Records that all carry the same stats: induction over the records. -/
theorem decodeRows_same {rows : List StatsRow} (hstats : stats = {} ∨ Reads json stats)
    (hrows : ∀ row ∈ rows, row.stats = some json) :
    ∃ records, decodeRows stats rows = some records ∧
      records.map Prod.fst = rows.map (·.created) ∧ ∀ record ∈ records, Reads json record.2 := by
  induction rows generalizing stats with
  | nil => exact ⟨[], rfl, rfl, forall_mem_nil _⟩
  | cons row rows ih =>
    obtain ⟨hrow, hrows⟩ := forall_mem_cons.mp hrows
    have hreads := reads_unmarshal hstats
    obtain ⟨records, hrecs, htimes, hall⟩ := ih (.inr hreads) hrows
    refine ⟨(row.created, stats.unmarshal json) :: records, ?_, ?_, ?_⟩
    · simp only [decodeRows, hrow, hrecs, Option.map_some]
    · rw [map_cons, map_cons, htimes]
    · exact forall_mem_cons.mpr ⟨hreads, hall⟩

/-! ## The value of a record -/

def recordedValue (json : Stats) (name : AlertName) : ℚ :=
  match name with
  | .cpu => json.cpu
  | .memory => json.memPct
  | .bandwidth => bandwidthBytes json.bandwidth / (1024 * 1024)
  | .disk => runningMax (fun fs : (_ : String) × FsStats => usedPct fs.2.diskUsed fs.2.diskTotal)
      json.diskPct (json.extraFs.getD ∅).entries
  | .temperature => runningMax (fun temp : (_ : String) × ℚ => temp.2) 0
      (json.temperatures.getD ∅).entries
  | .loadAvg1 | .loadAvg5 | .loadAvg15 => loadAvgOf json.loadAvg name
  | .gpu => maxUsage json.gpuData
  | .battery => json.battery.1
  | .status | .other => 0

/-- The alert reads something from the stats: GPU alerts skip stats without a GPU. -/
def Recorded (json : Stats) (name : AlertName) : Prop :=
  name ≠ .status ∧ name ≠ .other ∧ (name = .gpu → (json.gpuData.getD ∅).entries.length ≠ 0)

/-- The disks of the stats as the agent reports them; none has the key of the root filesystem. -/
structure PlainDisks (json : Stats) : Prop where
  diskPct : 0 ≤ json.diskPct
  size : GoMap.Forall (fun _ fs => 0 < fs.diskTotal) (json.extraFs.getD ∅)
  root : json.fs "root" = none

section Maps

variable {β γ : Type} {m : GoMap String β} {json : Option (GoMap String γ)} {f : γ → β}

theorem mem_entries_of_lookup (h : ∀ key, m.lookup key = (json.bind (·.lookup key)).map f) :
    ∀ key value, ⟨key, value⟩ ∈ m.entries ↔
      ∃ entry ∈ (json.getD ∅).entries, entry.1 = key ∧ f entry.2 = value := by
  intro key value
  have hjson : json.bind (·.lookup key) = (json.getD ∅).lookup key := by cases json <;> rfl
  rw [← AList.mem_lookup_iff, h, hjson, Option.mem_def, Option.map_eq_some_iff]
  constructor
  · rintro ⟨own, hown, hvalue⟩
    exact ⟨⟨key, own⟩, AList.mem_lookup_iff.mp hown, rfl, hvalue⟩
  · rintro ⟨⟨_, own⟩, hown, rfl, hvalue⟩
    exact ⟨own, AList.mem_lookup_iff.mpr hown, hvalue⟩

theorem length_entries_of_lookup (h : ∀ key, m.lookup key = (json.bind (·.lookup key)).map f) :
    m.entries.length = 0 ↔ (json.getD ∅).entries.length = 0 := by
  have hmem := mem_entries_of_lookup h
  rw [length_eq_zero_iff, length_eq_zero_iff, eq_nil_iff_forall_not_mem,
    eq_nil_iff_forall_not_mem]
  constructor
  · intro hnone entry hent
    exact hnone _ ((hmem entry.1 (f entry.2)).mpr ⟨entry, hent, rfl, rfl⟩)
  · rintro hnone ⟨key, value⟩ hent
    obtain ⟨entry, hent, -⟩ := (hmem key value).mp hent
    exact hnone entry hent

end Maps

section Reads

variable (h : Reads json stats)
include h

theorem Reads.contributes_iff (name : AlertName) :
    contributes name stats = true ↔ Recorded json name := by
  unfold Recorded
  cases name with
  | gpu =>
    have hlen := length_entries_of_lookup h.usage
    simp [contributes, hlen]
  | _ => simp [contributes]

theorem Reads.amount_eq {name : AlertName} (hmap : name.isMap = false) :
    amount name stats = recordedValue json name := by
  cases name with
  | disk | temperature => cases hmap
  | cpu => exact h.cpu
  | memory => exact h.mem
  | bandwidth => simp only [amount, contribution, recordedValue, h.bandwidth]
  | loadAvg1 | loadAvg5 | loadAvg15 =>
    simp only [amount, contribution, recordedValue, h.loadAvg]
  | battery => simp only [amount, contribution, recordedValue, h.battery]
  | status | other => rfl
  | gpu =>
    -- the same usages, in another order
    have hmem := mem_entries_of_lookup h.usage
    have husages : {v | ∃ gpu ∈ stats.gpu.entries, gpu.2 = v} =
        {v | ∃ gpu ∈ (json.gpuData.getD ∅).entries, gpu.2.usage = v} := by
      ext v
      constructor
      · rintro ⟨⟨key, _⟩, hent, rfl⟩
        obtain ⟨entry, hent, -, husage⟩ := (hmem key _).mp hent
        exact ⟨entry, hent, husage⟩
      · rintro ⟨entry, hent, rfl⟩
        exact ⟨⟨entry.1, entry.2.usage⟩, (hmem _ _).mpr ⟨entry, hent, rfl, rfl⟩, rfl⟩
    apply (isGreatest_runningMax 0 stats.gpu.entries).unique
    rw [husages]
    exact isGreatest_runningMax 0 (json.gpuData.getD ∅).entries

theorem Reads.share_eq (name : AlertName) (key : String) :
    share name stats key = share name (SystemAlertStats.unmarshal {} json) key := by
  have hfresh : Reads json (unmarshal {} json) := reads_unmarshal (.inl rfl)
  cases name with
  | disk => simp only [share, contribution, h.disk, h.fs, hfresh.disk, hfresh.fs]
  | temperature => simp only [share, contribution, h.temperature, hfresh.temperature]
  | _ => rfl

end Reads

theorem share_temperature (json : Stats) (key : String) :
    share .temperature (SystemAlertStats.unmarshal {} json) key =
      (json.temperatures.getD ∅).lookup key := by
  have hfresh : Reads json (unmarshal {} json) := reads_unmarshal (.inl rfl)
  simp only [share, contribution, hfresh.temperature, Stats.temperature]
  cases json.temperatures <;> rfl

theorem fs_eq_lookup (json : Stats) (key : String) :
    json.fs key = (json.extraFs.getD ∅).lookup key := by
  unfold Stats.fs
  cases json.extraFs <;> rfl

variable {name : AlertName}

theorem PlainDisks.ne_root (h : PlainDisks json) {key : String} {fs : FsStats}
    (hfs : fs ∈ (json.extraFs.getD ∅).lookup key) : key ≠ "root" := by
  rintro rfl
  rw [← fs_eq_lookup, h.root] at hfs
  cases hfs

theorem share_disk (hdisks : PlainDisks json) (key : String) :
    share .disk (SystemAlertStats.unmarshal {} json) key =
      if key = "root" then some json.diskPct
      else ((json.extraFs.getD ∅).lookup key).map fun fs => usedPct fs.diskUsed fs.diskTotal := by
  have hfresh : Reads json (unmarshal {} json) := reads_unmarshal (.inl rfl)
  simp only [share, contribution, hfresh.disk, hfresh.fs, jsonFs]
  split
  · next hkey => simp [hkey, hdisks.root]
  · rw [fs_eq_lookup]
    cases hfs : (json.extraFs.getD ∅).lookup key with
    | none => rfl
    | some fs => exact if_pos (hdisks.size key fs hfs)

/-- For alerts over a map, the largest entry, or 0. -/
theorem isGreatest_recordedValue (hmap : name.isMap) (hdisks : name = .disk → PlainDisks json) :
    IsGreatest (insert 0 {v | ∃ key, share name (SystemAlertStats.unmarshal {} json) key = some v})
      (recordedValue json name) := by
  cases name with
  | temperature =>
    have hshares :
        {v | ∃ key, share .temperature (unmarshal {} json) key = some v} =
          {v | ∃ temp ∈ (json.temperatures.getD ∅).entries, temp.2 = v} := by
      ext v
      simp only [Set.mem_ofPred_eq, share_temperature]
      constructor
      · rintro ⟨key, hkey⟩
        exact ⟨⟨key, v⟩, AList.mem_lookup_iff.mp hkey, rfl⟩
      · rintro ⟨⟨key, _⟩, hkey, rfl⟩
        exact ⟨key, AList.mem_lookup_iff.mpr hkey⟩
    rw [hshares]
    exact isGreatest_runningMax 0 (json.temperatures.getD ∅).entries
  | disk =>
    have hshare := share_disk (hdisks rfl)
    obtain ⟨hmem, hle⟩ := isGreatest_runningMax
      (f := fun fs : (_ : String) × FsStats => usedPct fs.2.diskUsed fs.2.diskTotal)
      json.diskPct (json.extraFs.getD ∅).entries
    have hge : json.diskPct ≤ recordedValue json .disk := hle (Set.mem_insert _ _)
    constructor
    · refine .inr ?_
      rcases hmem with hmem | ⟨fs, hfs, hmax⟩
      · exact ⟨"root", by rw [hshare, if_pos rfl]; exact congrArg some hmem.symm⟩
      · have hlookup := AList.mem_lookup_iff.mpr hfs
        refine ⟨fs.1, ?_⟩
        rw [hshare, if_neg ((hdisks rfl).ne_root hlookup), Option.mem_def.mp hlookup]
        exact congrArg some hmax
    · rintro v (rfl | ⟨key, hkey⟩)
      · exact (hdisks rfl).diskPct.trans hge
      · rw [hshare] at hkey
        split at hkey
        · cases hkey
          exact hge
        · obtain ⟨fs, hfs, rfl⟩ := Option.map_eq_some_iff.mp hkey
          exact hle (.inr ⟨⟨key, fs⟩, AList.mem_lookup_iff.mp hfs, rfl⟩)
  | _ => cases hmap

theorem recordedValue_temperature {temp : ℚ}
    (h : Agent.Highest (json.temperatures.getD ∅) temp) :
    recordedValue json .temperature = temp := by
  have hmax : IsGreatest (insert 0 {v | ∃ key, share .temperature
      (unmarshal {} json) key = some v}) (recordedValue json .temperature) :=
    isGreatest_recordedValue rfl nofun
  simp only [share_temperature] at hmax
  exact hmax.unique h

/-- **The average of records that all carry the same stats** is the value of one of them. -/
theorem averageValue_same {alert : SystemAlertData} {records : List (ℤ × SystemAlertStats)}
    (h : NoSums alert) (hreads : ∀ record ∈ records, Reads json record.2)
    (hpos : 0 < numCounted alert records) (hfits : numCounted alert records ≤ 255)
    (hdisks : alert.alertData.name = .disk → PlainDisks json) :
    averageValue (sumOver records alert) = recordedValue json alert.alertData.name := by
  have hmod : numCounted alert records % 2 ^ 8 = numCounted alert records := by omega
  have hne : (numCounted alert records : ℚ) ≠ 0 := by exact_mod_cast hpos.ne'
  have hcounted : ∀ stats ∈ countedStats alert records, Reads json stats := by
    intro stats hstats
    obtain ⟨record, hrec, rfl⟩ := mem_map.mp hstats
    exact hreads record (mem_filter.mp hrec).1
  -- the mean of equal values
  have hmean : ∀ (f : SystemAlertStats → ℚ) (v : ℚ), (∀ stats, Reads json stats → f stats = v) →
      ((countedStats alert records).map f).sum / numCounted alert records = v := by
    intro f v hf
    rw [map_congr_left fun stats hstats => hf stats (hcounted stats hstats), map_const',
      sum_replicate, nsmul_eq_mul]
    exact mul_div_cancel_left₀ v hne
  cases hmap : alert.alertData.name.isMap with
  | false =>
    rw [averageValue_sumOver h records hmap, hmod]
    exact hmean _ _ fun stats hstats => hstats.amount_eq hmap
  | true =>
    obtain ⟨hzero, hle, hone⟩ := mapAverage_spec h records hmap (by rw [hmod]; exact hpos)
    rw [hmod] at hle hone
    have hsum : ∀ key, shareSum alert records key / numCounted alert records =
        (share alert.alertData.name (unmarshal {} json) key).getD 0 := fun key =>
      hmean _ _ fun stats hstats => by rw [hstats.share_eq]
    have hseen : ∀ key, Seen alert records key ↔
        (share alert.alertData.name (SystemAlertStats.unmarshal {} json) key).isSome := by
      intro key
      constructor
      · rintro ⟨stats, hstats, hsome⟩
        rwa [(hcounted stats hstats).share_eq] at hsome
      · intro hsome
        obtain ⟨stats, hstats⟩ := exists_mem_of_length_pos hpos
        exact ⟨stats, hstats, by rwa [(hcounted stats hstats).share_eq]⟩
    refine IsGreatest.unique ⟨?_, ?_⟩ (isGreatest_recordedValue hmap hdisks)
    · refine hone.imp id ?_
      rintro ⟨key, hkey, havg⟩
      obtain ⟨v, hv⟩ := Option.isSome_iff_exists.mp ((hseen key).mp hkey)
      exact ⟨key, by rw [havg, hsum, hv]; rfl⟩
    · rintro v (rfl | ⟨key, hkey⟩)
      · exact hzero
      · have hbound := hle key ((hseen key).mpr (by rw [hkey]; rfl))
        rwa [hsum, hkey] at hbound

/-! ## The value of the payload -/

theorem currentValue_eq {data : CombinedData} (h : Summarizes data) {val : ℚ}
    (hname : name ≠ .temperature) (hval : currentValue data name = some val) :
    val = recordedValue data.stats name := by
  cases name with
  | temperature => exact absurd rfl hname
  | battery =>
    simp only [currentValue] at hval
    split at hval
    · cases hval
    · exact (Option.some.inj hval).symm
  | cpu => exact (Option.some.inj hval).symm.trans h.cpu
  | memory => exact (Option.some.inj hval).symm.trans h.memPct
  | bandwidth =>
    cases hval
    simp only [h.bandwidth, recordedValue]
  | disk =>
    cases hval
    simp only [h.diskPct, recordedValue, runningMax]
  | loadAvg1 | loadAvg5 | loadAvg15 =>
    exact (Option.some.inj hval).symm.trans (congrFun h.loadAvg _)
  | gpu => exact (Option.some.inj hval).symm.trans h.gpuPct
  | status | other => exact (Option.some.inj hval).symm

/-! ## The two paths -/

theorem unchanged_eq_false_iff (lowAlert triggered : Bool) (val threshold : ℚ) :
    unchanged lowAlert triggered val threshold = false ↔
      exceeds lowAlert val threshold = !triggered := by
  cases lowAlert <;> cases triggered <;> simp [unchanged, exceeds]

theorem passThrough_isSome_iff (alert : SystemAlertData) :
    (passThrough alert).isSome ↔ 5 * alert.min.toNat ≤ 6 * alert.count.toNat ∧
      exceeds (isLowAlert alert.alertData.name) (averageValue alert) alert.threshold =
        !alert.triggered := by
  unfold passThrough
  dsimp only
  split
  · next heno =>
    cases alert.triggered <;>
      cases exceeds (isLowAlert alert.alertData.name) (averageValue alert) alert.threshold <;>
      simp [heno]
  · next heno => simp [heno]

/-- The first loop of `HandleSystemAlerts`. -/
def firstPass (now : ℤ) (data : CombinedData) (cached : List CachedAlertData) : FirstPass :=
  (cached.filter fun alert => alert.name ≠ .status).foldl (considerAlert now data) ⟨[], [], now⟩

def Changes (sent : List SystemAlertData) (alertData : CachedAlertData) : Prop :=
  ∃ alert ∈ sent, alert.alertData = alertData ∧ alert.triggered ≠ alertData.triggered

section Paths

variable {now : ℤ} {data : CombinedData} {cached : List CachedAlertData} {rows : List StatsRow}
  {alertData : CachedAlertData} (hmem : alertData ∈ cached) (hname : alertData.name ≠ .status)
include hmem hname

/-- **An alert over one minute** changes if the new data crosses its threshold. -/
theorem changes_one_iff (hone : max 1 alertData.min = 1) :
    Changes (handleSystemAlerts now data cached rows) alertData ↔
      ∃ val, Crosses data alertData val := by
  constructor
  · rintro ⟨alert, halert, rfl, -⟩
    rcases mem_append.mp halert with halert | halert
    · obtain halert | ⟨_, -, val, hcross, -, rfl⟩ := mem_sent_iff.mp halert
      · cases halert
      · exact ⟨val, hcross⟩
    · -- alerts over several minutes are others
      obtain ⟨_, _, records, -, -, start, hstart, -, hpass⟩ := mem_handleLongAlerts_iff.mp halert
      rw [(passThrough_eq_some hpass).1, sumOver_alertData] at hone
      obtain hstart | ⟨_, -, val, -, hlong, rfl⟩ := mem_validAlerts_iff.mp hstart
      · cases hstart
      · exact absurd hone hlong
  · rintro ⟨val, hcross⟩
    refine ⟨_, mem_append_left _ (mem_sent_iff.mpr (.inr ⟨alertData, ?_, val, hcross, hone,
      rfl⟩)), rfl, ?_⟩
    · exact mem_filter.mpr ⟨hmem, decide_eq_true hname⟩
    · show exceeds _ _ _ ≠ alertData.triggered
      rw [(unchanged_eq_false_iff ..).mp hcross.2]
      exact Bool.not_ne_self alertData.triggered

/-- **An alert over several minutes** changes if the new data and the average of its records
    cross its threshold. -/
theorem changes_long_iff (hlong : max 1 alertData.min ≠ 1) :
    Changes (handleSystemAlerts now data cached rows) alertData ↔
      (∃ val, Crosses data alertData val) ∧
      ∃ oldest rest records,
        queried rows (firstPass now data cached).oldestTime = oldest :: rest ∧
        decodeRows {} (queried rows (firstPass now data cached).oldestTime) = some records ∧
        oldest.created < (startAlert now alertData).time ∧
        (passThrough (sumOver records (startAlert now alertData))).isSome := by
  constructor
  · rintro ⟨alert, halert, rfl, -⟩
    rcases mem_append.mp halert with halert | halert
    · obtain halert | ⟨_, -, val, -, hone, rfl⟩ := mem_sent_iff.mp halert
      · cases halert
      · exact absurd hone hlong
    · obtain ⟨oldest, rest, records, hrows, hrecs, start, hstart, hold, hpass⟩ :=
        mem_handleLongAlerts_iff.mp halert
      have hdata := (passThrough_eq_some hpass).1
      rw [sumOver_alertData] at hdata
      obtain hstart | ⟨_, -, val, hcross, -, rfl⟩ := mem_validAlerts_iff.mp hstart
      · cases hstart
      · rw [hdata]
        exact ⟨⟨val, hcross⟩, oldest, rest, records, hrows, hrecs, hold,
          Option.isSome_iff_exists.mpr ⟨alert, hpass⟩⟩
  · rintro ⟨⟨val, hcross⟩, oldest, rest, records, hrows, hrecs, hold, hpass⟩
    obtain ⟨alert, halert⟩ := Option.isSome_iff_exists.mp hpass
    have hvalid : waitingAlert now alertData val ∈ (firstPass now data cached).validAlerts :=
      mem_validAlerts_iff.mpr (.inr ⟨alertData,
        mem_filter.mpr ⟨hmem, decide_eq_true hname⟩, val, hcross, hlong, rfl⟩)
    obtain ⟨hdata, -, htrig, -⟩ := passThrough_eq_some halert
    obtain ⟨sums, hsum, -⟩ := sumOver_spec records (startAlert now alertData)
    refine ⟨alert, mem_append_right _ (mem_handleLongAlerts_iff.mpr
      ⟨oldest, rest, records, hrows, hrecs, _, hvalid, hold, halert⟩), ?_, ?_⟩
    · rw [hdata, sumOver_alertData]
      rfl
    · rw [htrig, hsum]
      exact Bool.not_ne_self alertData.triggered

end Paths

/-- All records carry the stats of the payload; one lies before the minutes of the alert, and
    enough in them, but no more than `count` can hold. -/
structure SameWindow (now : ℤ) (data : CombinedData) (cached : List CachedAlertData)
    (rows : List StatsRow) (alertData : CachedAlertData) : Prop where
  same : ∀ row ∈ queried rows (firstPass now data cached).oldestTime, row.stats = some data.stats
  before : ∃ row ∈ queried rows (firstPass now data cached).oldestTime,
    row.created < (startAlert now alertData).time
  enough : 5 * alertData.min.toNat ≤ 6 * counted (startAlert now alertData)
    (queried rows (firstPass now data cached).oldestTime)
  fits : counted (startAlert now alertData)
    (queried rows (firstPass now data cached).oldestTime) ≤ 255

section Same

variable {alert : SystemAlertData} {rows : List StatsRow} {records : List (ℤ × SystemAlertStats)}

theorem numCounted_of_recorded (hreads : ∀ record ∈ records, Reads json record.2)
    (htimes : records.map Prod.fst = rows.map (·.created))
    (hrecd : Recorded json alert.alertData.name) :
    numCounted alert records = counted alert rows := by
  have hall : ∀ record ∈ records, counts alert record =
      decide (alert.time ≤ record.1 - timeBuffer) := by
    intro record hrec
    rw [counts, ((hreads record hrec).contributes_iff _).mpr hrecd, Bool.and_true]
  calc numCounted alert records
      = records.countP (counts alert) := by
        rw [numCounted, countedStats, length_map, ← countP_eq_length_filter]
    _ = records.countP fun record => decide (alert.time ≤ record.1 - timeBuffer) :=
        countP_congr fun record hrec => by rw [hall record hrec]
    _ = (records.map Prod.fst).countP
          fun created => decide (alert.time ≤ created - timeBuffer) := by
        rw [countP_map]
        rfl
    _ = counted alert rows := by
        rw [htimes, countP_map]
        rfl

theorem numCounted_of_not_recorded (hreads : ∀ record ∈ records, Reads json record.2)
    (hrecd : ¬ Recorded json alert.alertData.name) : numCounted alert records = 0 := by
  rw [numCounted, countedStats, length_map, length_eq_zero_iff, filter_eq_nil_iff]
  intro record hrec hcnts
  exact hrecd (((hreads record hrec).contributes_iff _).mp
    (Bool.and_eq_true_iff.mp hcnts).2)

end Same

variable {rows : List StatsRow} {now : ℤ} {alertData : CachedAlertData} {data : CombinedData}

theorem exists_oldest {oldestTime time : ℤ}
    (h : ∃ row ∈ queried rows oldestTime, row.created < time) :
    ∃ oldest rest, queried rows oldestTime = oldest :: rest ∧ oldest.created < time := by
  obtain ⟨row, hrow, htime⟩ := h
  have hsorted : (queried rows oldestTime).Pairwise fun a b => a.created ≤ b.created :=
    pairwise_insertionSort _ _
  cases hrows : queried rows oldestTime with
  | nil =>
    rw [hrows] at hrow
    cases hrow
  | cons oldest rest =>
    refine ⟨oldest, rest, rfl, ?_⟩
    rw [hrows] at hrow hsorted
    rcases mem_cons.mp hrow with rfl | hrow
    · exact htime
    · exact ((pairwise_cons.mp hsorted).1 row hrow).trans_lt htime

/-- Over records that all read the same, the average is the recorded value. -/
theorem passThrough_same_iff {json : Stats} {records : List (ℤ × SystemAlertStats)}
    (hlong : 1 < alertData.min) (hreads : ∀ record ∈ records, Reads json record.2)
    (htimes : records.map Prod.fst = rows.map (·.created))
    (heno : 5 * alertData.min.toNat ≤ 6 * counted (startAlert now alertData) rows)
    (hfits : counted (startAlert now alertData) rows ≤ 255)
    (hdisks : alertData.name = .disk → PlainDisks json) :
    (passThrough (sumOver records (startAlert now alertData))).isSome ↔
      Recorded json alertData.name ∧
        exceeds (isLowAlert alertData.name) (recordedValue json alertData.name)
          alertData.value = !alertData.triggered := by
  obtain ⟨sums, hsum, -⟩ := sumOver_spec records (startAlert now alertData)
  have hthr : (sumOver records (startAlert now alertData)).threshold = alertData.value := by
    rw [hsum]
    rfl
  have htrig : (sumOver records (startAlert now alertData)).triggered =
      alertData.triggered := by
    rw [hsum]
    rfl
  have hmin : (sumOver records (startAlert now alertData)).min = alertData.min := by
    rw [hsum]
    exact if_pos (UInt8.le_of_lt hlong)
  have hdata : (sumOver records (startAlert now alertData)).alertData = alertData :=
    sumOver_alertData records
  have htwo : 1 < alertData.min.toNat := hlong
  rw [passThrough_isSome_iff, hthr, htrig, hmin, hdata,
    sumOver_count (noSums_startAlert now alertData) records]
  by_cases hrecd : Recorded json alertData.name
  · have hnum := numCounted_of_recorded hreads htimes
      (show Recorded json (startAlert now alertData).alertData.name from hrecd)
    rw [averageValue_same (noSums_startAlert now alertData) hreads (by omega) (by omega) hdisks]
    have hmod : 5 * alertData.min.toNat ≤
        6 * (numCounted (startAlert now alertData) records % 2 ^ 8) := by
      omega
    simp only [hmod, hrecd, true_and]
    rfl
  · have hnum : numCounted (startAlert now alertData) records = 0 :=
      numCounted_of_not_recorded hreads hrecd
    have hfew : ¬ 5 * alertData.min.toNat ≤
        6 * (numCounted (startAlert now alertData) records % 2 ^ 8) := by omega
    simp only [hfew, hrecd, false_and]

theorem changes_long_same {cached : List CachedAlertData} (hmem : alertData ∈ cached)
    (hname : alertData.name ≠ .status) (hlong : 1 < alertData.min)
    (hwindow : SameWindow now data cached rows alertData)
    (hdisks : alertData.name = .disk → PlainDisks data.stats) :
    Changes (handleSystemAlerts now data cached rows) alertData ↔
      (∃ val, Crosses data alertData val) ∧ Recorded data.stats alertData.name ∧
        exceeds (isLowAlert alertData.name) (recordedValue data.stats alertData.name)
          alertData.value = !alertData.triggered := by
  have hmin : max 1 alertData.min = alertData.min := if_pos (UInt8.le_of_lt hlong)
  obtain ⟨oldest, rest, hrows, hold⟩ := exists_oldest hwindow.before
  obtain ⟨records, hrecs, htimes, hreads⟩ := decodeRows_same (.inl rfl) hwindow.same
  rw [changes_long_iff hmem hname (by rw [hmin]; exact (UInt8.ne_of_lt hlong).symm),
    ← passThrough_same_iff hlong hreads htimes hwindow.enough hwindow.fits hdisks]
  refine and_congr_right fun _ => ?_
  constructor
  · rintro ⟨_, _, records', -, hrecs', -, hpass⟩
    rwa [Option.some.inj (hrecs.symm.trans hrecs')]
  · exact fun hpass => ⟨oldest, rest, records, hrows, hrecs, hold, hpass⟩

/-- A warm CPU and a hot disk; there is no GPU. -/
def hotReadings : Readings where
  temps := some [⟨"cpu", 40, false⟩, ⟨"nvme", 70, false⟩]

/-- `PRIMARY_SENSOR` is set to a sensor, or to none if it is empty. -/
def sensorConfig (primarySensor : String) : SystemConfig where
  sensorConfig := { primarySensor := primarySensor }
  pathMatch := fun _ _ => false

theorem hotReadings_plain : PlainSensors (sensorConfig "") hotReadings := by
  constructor <;> decide +kernel

def halfAlert (name : AlertName) (triggered : Bool) (min : UInt8) : CachedAlertData :=
  ⟨0, "web", "alice", name, 50, triggered, min⟩

/-- Four records with the stats of the payload, one of them before the last two minutes. -/
def sameRows (data : CombinedData) : List StatsRow :=
  [150000, 200000, 250000, 300000].map fun created => ⟨created, some data.stats⟩

theorem sameWindow_sameRows (hread : (firstPass 300000 data [alertData]).oldestTime = 180000)
    (hmin : alertData.min = 2) :
    SameWindow 300000 data [alertData] (sameRows data) alertData := by
  have htime : (startAlert 300000 alertData).time = 180000 := by
    simp only [startAlert, waitingAlert, hmin]
    decide
  have hall : queried (sameRows data) 180000 = sameRows data := rfl
  have hcounted : counted (startAlert 300000 alertData) (sameRows data) = 3 := by
    simp only [counted, htime, sameRows, countP_map]
    rfl
  constructor <;> rw [hread, hall]
  · intro row hrow
    obtain ⟨created, -, rfl⟩ := mem_map.mp hrow
    rfl
  · rw [htime]
    exact ⟨⟨150000, some data.stats⟩, mem_cons_self, (by decide : (150000 : ℤ) < 180000)⟩
  · rw [hcounted, hmin]
    decide
  · rw [hcounted]
    decide

end Bantay.Alerts
