import Bantay.Alerts.RecordContributions
import Bantay.Lib.RunningMax

/-!
# Sums of the Loop over the Records

The loop of `HandleSystemAlerts` over the records, seen at one alert: which records it counts,
what each of them adds to `val` and to each entry of `mapSums`, and what the average makes of the
sums.
-/

namespace Bantay.Alerts

open Bantay.Lib List
open Bantay.Records (Stats minute)

/-! ## One record -/

/-- The alert does not skip the record. -/
def contributes (name : AlertName) (stats : SystemAlertStats) : Bool :=
  match name with
  | .gpu => stats.gpu.entries.length ≠ 0
  | .status | .other => false
  | _ => true

/-- The alert is about the largest of several values, which are summed separately. -/
def AlertName.isMap : AlertName → Bool
  | .disk | .temperature => true
  | _ => false

/-- What a record adds to `val`. -/
def amount (name : AlertName) (stats : SystemAlertStats) : ℚ :=
  match name with
  | .gpu => runningMax (fun gpu : (_ : String) × ℚ => gpu.2) 0 stats.gpu.entries
  | .disk | .temperature => 0
  | name => (contribution name stats).value

/-- What a record adds to an entry of `mapSums`; an extra filesystem may have the key of the root
    filesystem. -/
def share (name : AlertName) (stats : SystemAlertStats) (key : String) : Option ℚ :=
  match name with
  | .disk =>
    if key = "root" then
      some (stats.disk + ((contribution .disk stats).entries key).getD 0)
    else
      (contribution .disk stats).entries key
  | .temperature => (contribution .temperature stats).entries key
  | _ => none

theorem lookup_addTo (sums : GoMap String ℚ) (key : String) (value : ℚ) (key' : String) :
    (addTo sums key value).lookup key' =
      if key' = key then some ((sums.lookup key').getD 0 + value) else sums.lookup key' := by
  unfold addTo
  split
  · next hkey => rw [hkey, AList.lookup_insert]
  · next hkey => rw [AList.lookup_insert_ne hkey]

/-- A loop that adds a value for some entries of a map: induction over the entries, whose keys
    differ. -/
theorem lookup_foldl_addTo {β : Type} (value : β → Option ℚ)
    (step : GoMap String ℚ → (_ : String) × β → GoMap String ℚ)
    (hstep : ∀ sums entry, step sums entry =
      (value entry.2).elim sums fun v => addTo sums entry.1 v)
    (entries : List ((_ : String) × β)) (hnd : entries.NodupKeys) (sums : GoMap String ℚ)
    (key : String) :
    (entries.foldl step sums).lookup key =
      ((entries.dlookup key).bind value).elim (sums.lookup key) fun v =>
        some ((sums.lookup key).getD 0 + v) := by
  have hone : ∀ sums entry, (step sums entry).lookup key =
      if key = entry.1 then
        (value entry.2).elim (sums.lookup key) fun v => some ((sums.lookup key).getD 0 + v)
      else sums.lookup key := by
    intro sums entry
    rw [hstep]
    cases value entry.2 with
    | none => simp
    | some v => exact lookup_addTo sums entry.1 v key
  induction entries generalizing sums with
  | nil => rfl
  | cons entry entries ih =>
    obtain ⟨hnew, hrest⟩ := nodupKeys_cons.mp hnd
    rw [foldl_cons, ih hrest, hone]
    by_cases hkey : key = entry.1
    · -- the key does not come up again
      subst hkey
      rw [if_pos rfl, dlookup_eq_none.mpr hnew]
      rw [show entry = ⟨entry.1, entry.2⟩ from rfl, dlookup_cons_eq]
      rfl
    · rw [if_neg hkey]
      rw [show entry = ⟨entry.1, entry.2⟩ from rfl, dlookup_cons_ne _ _ hkey]

/-- An entry of `mapSums` with the share of a record. -/
def withShare (sum : Option ℚ) (share : Option ℚ) : Option ℚ :=
  share.elim sum fun v => some (sum.getD 0 + v)

variable (alert : SystemAlertData) (stats : SystemAlertStats)

theorem addValue_of_contributes (h : contributes alert.alertData.name stats = true) :
    ∃ sums, addValue alert stats = some (alert.val + amount alert.alertData.name stats, sums) ∧
      ∀ key, sums.lookup key =
        withShare (alert.mapSums.lookup key) (share alert.alertData.name stats key) := by
  unfold addValue
  cases hname : alert.alertData.name with
  | status | other => simp [hname, contributes] at h
  | cpu | memory | bandwidth | loadAvg1 | loadAvg5 | loadAvg15 | battery =>
    exact ⟨_, rfl, fun _ => rfl⟩
  | gpu =>
    have hgpu : stats.gpu.entries.length ≠ 0 := by simpa [hname, contributes] using h
    simp only [if_neg hgpu]
    exact ⟨_, rfl, fun _ => rfl⟩
  | disk =>
    refine ⟨_, congrArg some (Prod.ext (add_zero _).symm rfl), ?_⟩
    intro key
    rw [lookup_foldl_addTo fsShare _ ?_ _ stats.extraFs.nodupKeys, lookup_addTo]
    · show ((stats.extraFs.lookup key).bind fsShare).elim _ _ = withShare _ (share .disk stats key)
      simp only [share, contribution]
      -- the root filesystem first, then an extra filesystem of the same name
      cases (stats.extraFs.lookup key).bind fsShare with
      | none => split <;> simp [withShare]
      | some v => split <;> simp [withShare, add_assoc]
    · intro sums entry
      unfold fsShare
      split <;> rfl
  | temperature =>
    refine ⟨_, congrArg some (Prod.ext (add_zero _).symm rfl), ?_⟩
    intro key
    rw [lookup_foldl_addTo some _ ?_ _ stats.temperatures.nodupKeys, Option.bind_fun_some]
    · rfl
    · exact fun _ _ => rfl

theorem addValue_of_not_contributes (h : contributes alert.alertData.name stats = false) :
    addValue alert stats = none := by
  unfold addValue
  cases hname : alert.alertData.name with
  | status | other => rfl
  | gpu =>
    have hgpu : stats.gpu.entries.length = 0 := by simpa [hname, contributes] using h
    simp only [if_pos hgpu]
  | cpu | memory | bandwidth | disk | temperature | loadAvg1 | loadAvg5 | loadAvg15 | battery =>
    simp [hname, contributes] at h

/-! ## All records -/

def counts (alert : SystemAlertData) (record : ℤ × SystemAlertStats) : Bool :=
  decide (alert.time ≤ record.1 - timeBuffer) && contributes alert.alertData.name record.2

def countedStats (alert : SystemAlertData) (records : List (ℤ × SystemAlertStats)) :
    List SystemAlertStats :=
  (records.filter (counts alert)).map Prod.snd

variable {alert : SystemAlertData} {record : ℤ × SystemAlertStats}

theorem addRecord_of_counts (h : counts alert record = true) :
    ∃ sums, addRecord record.1 record.2 alert =
      { alert with
        val := alert.val + amount alert.alertData.name record.2
        mapSums := sums
        count := alert.count + 1 } ∧
      ∀ key, sums.lookup key =
        withShare (alert.mapSums.lookup key) (share alert.alertData.name record.2 key) := by
  obtain ⟨htime, hcontr⟩ := Bool.and_eq_true_iff.mp h
  obtain ⟨sums, hadd, hsums⟩ := addValue_of_contributes alert record.2 hcontr
  have hrecn : ¬ record.1 - timeBuffer < alert.time := not_lt.mpr (of_decide_eq_true htime)
  refine ⟨sums, ?_, hsums⟩
  rw [addRecord, if_neg hrecn, hadd]

theorem addRecord_of_not_counts (h : counts alert record = false) :
    addRecord record.1 record.2 alert = alert := by
  unfold addRecord
  split
  · rfl
  · next hrecn =>
    have hcontr : contributes alert.alertData.name record.2 = false := by
      rcases Bool.and_eq_false_iff.mp h with htime | hcontr
      · exact absurd (not_lt.mp hrecn) (of_decide_eq_false htime)
      · exact hcontr
    rw [addValue_of_not_contributes alert record.2 hcontr]

/-- **The sums after the loop**: induction over the records, for an alert with any sums. -/
theorem sumOver_spec (records : List (ℤ × SystemAlertStats)) (alert : SystemAlertData) :
    ∃ sums, sumOver records alert =
      { alert with
        val := alert.val +
          ((countedStats alert records).map (amount alert.alertData.name)).sum
        mapSums := sums
        count := alert.count + UInt8.ofNat (countedStats alert records).length } ∧
      ∀ key, sums.lookup key =
        ((countedStats alert records).map fun stats =>
          share alert.alertData.name stats key).foldl withShare (alert.mapSums.lookup key) := by
  induction records generalizing alert with
  | nil =>
    refine ⟨alert.mapSums, ?_, fun _ => rfl⟩
    simp [sumOver, countedStats]
  | cons record records ih =>
    have hcons : sumOver (record :: records) alert =
        sumOver records (addRecord record.1 record.2 alert) := rfl
    cases hcnts : counts alert record with
    | false =>
      have hskip : countedStats alert (record :: records) = countedStats alert records := by
        simp [countedStats, hcnts]
      rw [hcons, addRecord_of_not_counts hcnts, hskip]
      exact ih alert
    | true =>
      have htake : countedStats alert (record :: records) =
          record.2 :: countedStats alert records := by
        simp [countedStats, hcnts]
      obtain ⟨sums, hadd, hsums⟩ := addRecord_of_counts hcnts
      obtain ⟨sums', hsum, hsums'⟩ := ih (addRecord record.1 record.2 alert)
      rw [hadd] at hsum hsums'
      refine ⟨sums', ?_, ?_⟩
      · have hcount : ∀ n, alert.count + UInt8.ofNat (n + 1) = alert.count + 1 + UInt8.ofNat n := by
          intro n
          rw [UInt8.ofNat_add, UInt8.add_comm (UInt8.ofNat n), UInt8.add_assoc]
          rfl
        rw [hcons, hadd, hsum, htake, map_cons, sum_cons, length_cons,
          ← add_assoc, hcount]
        rfl
      · intro key
        rw [hsums', htake, map_cons, foldl_cons, ← hsums]
        rfl

theorem foldl_withShare (shares : List (Option ℚ)) (start : Option ℚ) :
    (shares.foldl withShare start).getD 0 =
        start.getD 0 + (shares.map fun share => share.getD 0).sum ∧
      ((shares.foldl withShare start).isSome ↔ start.isSome ∨ ∃ share ∈ shares, share.isSome) := by
  induction shares generalizing start with
  | nil => simp
  | cons share shares ih =>
    obtain ⟨hsum, hsome⟩ := ih (withShare start share)
    rw [foldl_cons, hsum, hsome]
    cases share with
    | none => simp [withShare]
    | some v => simp [withShare, add_assoc]

/-! ## Averages -/

/-- An alert before the loop over the records. -/
structure NoSums (alert : SystemAlertData) : Prop where
  val : alert.val = 0
  count : alert.count = 0
  mapSums : alert.mapSums = ∅

def numCounted (alert : SystemAlertData) (records : List (ℤ × SystemAlertStats)) : ℕ :=
  (countedStats alert records).length

/-- The sum of what the counted records add to an entry of `mapSums`. -/
def shareSum (alert : SystemAlertData) (records : List (ℤ × SystemAlertStats)) (key : String) :
    ℚ :=
  ((countedStats alert records).map fun stats =>
    (share alert.alertData.name stats key).getD 0).sum

/-- A counted record has the entry. -/
def Seen (alert : SystemAlertData) (records : List (ℤ × SystemAlertStats)) (key : String) : Prop :=
  ∃ stats ∈ countedStats alert records, (share alert.alertData.name stats key).isSome

theorem averageValue_of_isMap (hmap : alert.alertData.name.isMap) (hcount : 0 < alert.count.toNat) :
    averageValue alert =
      runningMax (fun sum : (_ : String) × ℚ => sum.2) 0 alert.mapSums.entries /
        alert.count.toNat := by
  unfold averageValue
  cases hname : alert.alertData.name with
  | disk => rfl
  | temperature =>
    have hpos : (0 : ℚ) < alert.count.toNat := by exact_mod_cast hcount
    exact runningMax_div hpos alert.mapSums.entries
  | _ => simp [hname, AlertName.isMap] at hmap

theorem averageValue_of_not_isMap (hmap : alert.alertData.name.isMap = false) :
    averageValue alert = alert.val / alert.count.toNat := by
  unfold averageValue
  cases hname : alert.alertData.name with
  | disk | temperature => simp [hname, AlertName.isMap] at hmap
  | _ => rfl

section NoSums

variable (h : NoSums alert) (records : List (ℤ × SystemAlertStats))

theorem sumOver_alertData : (sumOver records alert).alertData = alert.alertData := by
  obtain ⟨sums, hsum, -⟩ := sumOver_spec records alert
  rw [hsum]

include h

theorem sumOver_count : (sumOver records alert).count.toNat = numCounted alert records % 2 ^ 8 := by
  obtain ⟨sums, hsum, -⟩ := sumOver_spec records alert
  rw [hsum, h.count, UInt8.zero_add]
  rfl

theorem averageValue_sumOver (hmap : alert.alertData.name.isMap = false) :
    averageValue (sumOver records alert) =
      ((countedStats alert records).map (amount alert.alertData.name)).sum /
        (numCounted alert records % 2 ^ 8 : ℕ) := by
  have hcount := sumOver_count h records
  obtain ⟨sums, hsum, -⟩ := sumOver_spec records alert
  rw [averageValue_of_not_isMap (by rw [sumOver_alertData]; exact hmap), hcount, hsum, h.val,
    zero_add]

theorem lookup_sumOver (key : String) (sum : ℚ) :
    (sumOver records alert).mapSums.lookup key = some sum ↔
      Seen alert records key ∧ sum = shareSum alert records key := by
  obtain ⟨sums, hsum, hsums⟩ := sumOver_spec records alert
  obtain ⟨htot, hseen⟩ := foldl_withShare ((countedStats alert records).map fun stats =>
    share alert.alertData.name stats key) none
  have hlookup := hsums key
  rw [h.mapSums, AList.lookup_empty] at hlookup
  rw [← hlookup] at htot hseen
  have hSeen : (sums.lookup key).isSome ↔ Seen alert records key := by
    rw [hseen]
    simp [Seen]
  rw [hsum, ← hSeen]
  rw [map_map, Option.getD_none, zero_add] at htot
  cases hkey : sums.lookup key with
  | none => simp
  | some total =>
    rw [hkey, Option.getD_some] at htot
    simp only [Option.some.injEq, Option.isSome_some, true_and, htot]
    exact eq_comm

theorem mapAverage_spec (hmap : alert.alertData.name.isMap)
    (hcount : 0 < numCounted alert records % 2 ^ 8) :
    0 ≤ averageValue (sumOver records alert) ∧
      (∀ key, Seen alert records key → shareSum alert records key /
        (numCounted alert records % 2 ^ 8 : ℕ) ≤ averageValue (sumOver records alert)) ∧
      (averageValue (sumOver records alert) = 0 ∨ ∃ key, Seen alert records key ∧
        averageValue (sumOver records alert) =
          shareSum alert records key / (numCounted alert records % 2 ^ 8 : ℕ)) := by
  have hn := sumOver_count h records
  have hpos : (0 : ℚ) < (numCounted alert records % 2 ^ 8 : ℕ) := by exact_mod_cast hcount
  rw [averageValue_of_isMap (by rw [sumOver_alertData]; exact hmap) (hn ▸ hcount), hn]
  obtain ⟨hzero, hle⟩ := le_runningMax (f := fun sum : (_ : String) × ℚ => sum.2) 0
    (sumOver records alert).mapSums.entries
  refine ⟨div_nonneg hzero hpos.le, ?_, ?_⟩
  · intro key hseen
    have hent := (lookup_sumOver h records key _).mpr ⟨hseen, rfl⟩
    exact (div_le_div_iff_of_pos_right hpos).mpr (hle ⟨key, _⟩ (AList.mem_lookup_iff.mp hent))
  · rcases runningMax_mem (f := fun sum : (_ : String) × ℚ => sum.2) 0
      (sumOver records alert).mapSums.entries with hstart | ⟨entry, hent, hmax⟩
    · exact .inl (by rw [hstart, zero_div])
    · obtain ⟨hseen, hsum⟩ := (lookup_sumOver h records entry.1 entry.2).mp
        (AList.mem_lookup_iff.mpr hent)
      exact .inr ⟨entry.1, hseen, by rw [← hmax, hsum]⟩

end NoSums

/-! ## The alerts that are sent -/

def waitingAlert (now : ℤ) (alertData : CachedAlertData) (val : ℚ) : SystemAlertData where
  alertData := alertData
  val := val
  threshold := alertData.value
  triggered := alertData.triggered
  time := now - minute * (max 1 alertData.min).toNat
  count := 0
  min := max 1 alertData.min
  mapSums := ∅

def startAlert (now : ℤ) (alertData : CachedAlertData) : SystemAlertData :=
  waitingAlert now alertData 0

theorem noSums_startAlert (now : ℤ) (alertData : CachedAlertData) :
    NoSums (startAlert now alertData) := ⟨rfl, rfl, rfl⟩

/-- The new data is on the other side of the threshold than the state of the alert. -/
def Crosses (data : CombinedData) (alertData : CachedAlertData) (val : ℚ) : Prop :=
  currentValue data alertData.name = some val ∧
    unchanged (isLowAlert alertData.name) alertData.triggered val alertData.value = false

section FirstPass

variable {now : ℤ} {data : CombinedData} {cached : List CachedAlertData} {pass : FirstPass}
  {alertData : CachedAlertData}

theorem mem_considerAlert :
    (alert ∈ (considerAlert now data pass alertData).validAlerts ↔
      alert ∈ pass.validAlerts ∨ ∃ val, Crosses data alertData val ∧ max 1 alertData.min ≠ 1 ∧
        alert = waitingAlert now alertData val) ∧
    (alert ∈ (considerAlert now data pass alertData).sent ↔
      alert ∈ pass.sent ∨ ∃ val, Crosses data alertData val ∧ max 1 alertData.min = 1 ∧
        alert = { waitingAlert now alertData val with
          time := 0
          triggered := exceeds (isLowAlert alertData.name) val alertData.value }) := by
  unfold considerAlert
  cases hval : currentValue data alertData.name with
  | none => simp [Crosses, hval]
  | some val =>
    dsimp only
    cases hchg : unchanged (isLowAlert alertData.name) alertData.triggered val
        alertData.value with
    | true => simp [Crosses, hval, hchg]
    | false =>
      rw [if_neg Bool.false_ne_true]
      -- the value at hand is the only one that crosses
      have hcross : ∀ P : ℚ → Prop, (∃ val, Crosses data alertData val ∧ P val) ↔ P val := by
        simp [Crosses, hval, hchg]
      rw [hcross, hcross]
      by_cases hone : max 1 alertData.min = 1
      · rw [if_pos hone]
        simp [hone, waitingAlert]
      · rw [if_neg hone]
        simp [hone, waitingAlert]

theorem mem_validAlerts_iff :
    alert ∈ (cached.foldl (considerAlert now data) pass).validAlerts ↔
      alert ∈ pass.validAlerts ∨ ∃ alertData ∈ cached, ∃ val, Crosses data alertData val ∧
        max 1 alertData.min ≠ 1 ∧ alert = waitingAlert now alertData val := by
  induction cached generalizing pass with
  | nil => simp
  | cons alertData cached ih =>
    rw [foldl_cons, ih, mem_considerAlert.1, or_assoc]
    simp

theorem mem_sent_iff :
    alert ∈ (cached.foldl (considerAlert now data) pass).sent ↔
      alert ∈ pass.sent ∨ ∃ alertData ∈ cached, ∃ val, Crosses data alertData val ∧
        max 1 alertData.min = 1 ∧ alert = { waitingAlert now alertData val with
          time := 0
          triggered := exceeds (isLowAlert alertData.name) val alertData.value } := by
  induction cached generalizing pass with
  | nil => simp
  | cons alertData cached ih =>
    rw [foldl_cons, ih, mem_considerAlert.2, or_assoc]
    simp

end FirstPass

/-- The records that the query returns. -/
def queried (rows : List StatsRow) (oldestTime : ℤ) : List StatsRow :=
  (rows.filter fun row => decide (oldestTime - queryBuffer ≤ row.created)).insertionSort
    fun a b => a.created ≤ b.created

/-- The alerts over several minutes that are sent: the oldest record lies before the minutes, and
    the average passes. -/
theorem mem_handleLongAlerts_iff {rows : List StatsRow} {pass : FirstPass}
    {sent : SystemAlertData} :
    sent ∈ handleLongAlerts rows pass ↔
      ∃ oldest rest records, queried rows pass.oldestTime = oldest :: rest ∧
        decodeRows {} (queried rows pass.oldestTime) = some records ∧
        ∃ alert ∈ pass.validAlerts, oldest.created < alert.time ∧
          passThrough (sumOver records { alert with val := 0 }) = some sent := by
  unfold handleLongAlerts
  rw [← queried]
  cases hrows : queried rows pass.oldestTime with
  | nil => simp
  | cons oldest rest =>
    dsimp only
    rw [sumRecords_eq]
    cases hrecs : decodeRows {} (oldest :: rest) with
    | none => simp
    | some records => simp [and_assoc]

end Bantay.Alerts
