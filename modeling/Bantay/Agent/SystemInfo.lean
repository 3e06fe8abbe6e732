import Bantay.Alerts.SystemAlerts
import Bantay.Lib.RunningMax

/-!
# The Payload of the Agent

`getSystemStats` of `agent/system.go` with `updateTemperatures` of `agent/sensors.go`, and the part
of `gatherStats` that adds the extra filesystems: how the stats and the summary for the dashboard
come from the same readings.  What the other collectors put into the stats is given.

The summary stays in the agent between the calls.  Its temperature is that of the primary sensor
if there is one, else the highest of the sensors; GPUs only count if no sensor does.

Main result: `payload_summary` — what the summary of every payload has in common with its stats.
-/

namespace Bantay.Agent

open Bantay.Lib List
open Bantay.Records (Stats FsStats GPUData twoDecimals)
open Bantay.Alerts (Info)

/-! ## Sensors -/

structure SensorConfig where
  primarySensor : String := ""
  sensors : List String := []
  isBlacklist : Bool := false
  hasWildcards : Bool := false
  skipCollection : Bool := false

structure TemperatureStat where
  sensorKey : String
  temperature : ℚ
  malformed : Bool := false

/-- `isValidSensor`, with `path.Match` for patterns. -/
def isValidSensor (pathMatch : String → String → Bool) (sensorName : String)
    (config : SensorConfig) : Bool :=
  if config.sensors.length = 0 then true
  else if sensorName ∈ config.sensors then !config.isBlacklist
  else if !config.hasWildcards then config.isBlacklist
  else if config.sensors.any fun pattern =>
      pattern.contains '*' && pathMatch pattern sensorName then
    !config.isBlacklist
  else config.isBlacklist

/-- `scaleTemperature`: fractions are scaled to reasonable values. -/
def scaleTemperature (temp : ℚ) : ℚ :=
  if 1 < temp then temp
  else
    let scaled100 := temp * 100
    let scaled1000 := temp * 1000
    if 15 ≤ scaled100 ∧ scaled100 ≤ 95 then scaled100
    else if 15 ≤ scaled1000 ∧ scaled1000 ≤ 95 then scaled1000
    else scaled100

/-- `sensor.Temperature`, scaled if it is a fraction. -/
def TemperatureStat.scaled (sensor : TemperatureStat) : ℚ :=
  if sensor.temperature ≠ 0 ∧ sensor.temperature < 1 then scaleTemperature sensor.temperature
  else sensor.temperature

/-- The temperatures and the temperature for the dashboard. -/
structure SensorPass where
  temperatures : GoMap String ℚ := ∅
  dashboardTemp : ℚ := 0

def addSensor (pathMatch : String → String → Bool) (config : SensorConfig) (pass : SensorPass)
    (reading : TemperatureStat × ℕ) : SensorPass :=
  let (sensor, i) := reading
  if sensor.malformed then pass
  else
    let temperature := sensor.scaled
    -- skip if temperature is unreasonable
    if temperature ≤ 0 ∨ 200 ≤ temperature then pass
    else
      -- if the key already exists, append the index
      let sensorName :=
        if (pass.temperatures.lookup sensor.sensorKey).isSome then
          sensor.sensorKey ++ "_" ++ toString i
        else sensor.sensorKey
      if !isValidSensor pathMatch sensorName config then pass
      else
        { temperatures := pass.temperatures.insert sensorName (twoDecimals temperature)
          dashboardTemp :=
            if config.primarySensor = "" then max pass.dashboardTemp temperature
            else if config.primarySensor = sensorName then temperature
            else pass.dashboardTemp }

/-- `updateTemperatures`; `none` if the sensors cannot be read, also at the second try. -/
def updateTemperatures (pathMatch : String → String → Bool) (config : SensorConfig)
    (temps : Option (List TemperatureStat)) (stats : Stats) (info : Info) : Stats × Info :=
  if config.skipCollection then (stats, info)
  else
    let info := { info with dashboardTemp := 0 }
    match temps with
    | none =>
      let temperatures :=
        if 0 < (stats.temperatures.getD ∅).entries.length then some ∅ else stats.temperatures
      ({ stats with temperatures := temperatures }, info)
    | some [] => (stats, info)
    | some temps =>
      let pass := temps.zipIdx.foldl (addSensor pathMatch config) {}
      ({ stats with temperatures := some pass.temperatures },
        { info with dashboardTemp := pass.dashboardTemp })

/-! ## GPUs -/

/-- The variables of the loop over the GPUs. -/
structure GpuPass where
  temperatures : GoMap String ℚ
  dashboardTemp : ℚ
  highestTemp : ℚ := 0
  gpuPct : ℚ := 0

def addGpu (primarySensor : String) (pass : GpuPass) (gpu : GPUData) : GpuPass :=
  let pass :=
    if 0 < gpu.temperature then
      { pass with
        temperatures := pass.temperatures.insert gpu.name gpu.temperature
        dashboardTemp :=
          if primarySensor = gpu.name then gpu.temperature else pass.dashboardTemp
        highestTemp :=
          if pass.highestTemp < gpu.temperature then gpu.temperature else pass.highestTemp }
    else pass
  { pass with gpuPct := max pass.gpuPct gpu.usage }

/-- The part "GPU data" of `getSystemStats`; `none` without a `gpuManager`. -/
def updateGpus (config : SensorConfig) (gpuData : Option (GoMap String GPUData)) (stats : Stats)
    (info : Info) : Stats × Info :=
  match gpuData with
  | none => (stats, info)
  | some gpuData =>
    let info := { info with gpuPct := 0 }
    if gpuData.entries.length = 0 then (stats, info)
    else
      let pass := (gpuData.entries.map (·.2)).foldl (addGpu config.primarySensor)
        { temperatures := stats.temperatures.getD ∅, dashboardTemp := info.dashboardTemp }
      ({ stats with gpuData := some gpuData, temperatures := some pass.temperatures },
        { info with
          gpuPct := pass.gpuPct
          -- use highest temp for dashboard temp if dashboard temp is unset
          dashboardTemp :=
            if pass.dashboardTemp = 0 then pass.highestTemp else pass.dashboardTemp })

/-! ## The payload -/

structure MonitoredFs where
  device : String
  name : String := ""
  root : Bool := false
  stats : FsStats

/-- What the agent reads for a call. -/
structure Readings where
  stats : Stats := {}
  temps : Option (List TemperatureStat) := none
  gpuData : GoMap String GPUData := ∅
  fsStats : List MonitoredFs := []

/-- What does not change while the agent runs. -/
structure SystemConfig where
  sensorConfig : SensorConfig := {}
  hasGpuManager : Bool := false
  pathMatch : String → String → Bool

/-- `getSystemStats`: the stats and the summary `systemInfo`. -/
def getSystemStats (config : SystemConfig) (info : Info) (readings : Readings) : Stats × Info :=
  let stats := { readings.stats with temperatures := none, extraFs := none, gpuData := none }
  let (stats, info) :=
    updateTemperatures config.pathMatch config.sensorConfig readings.temps stats info
  let (stats, info) := updateGpus config.sensorConfig
    (if config.hasGpuManager then some readings.gpuData else none) stats info
  (stats,
    { info with
      cpu := stats.cpu
      loadAvg := stats.loadAvg
      memPct := stats.memPct
      diskPct := stats.diskPct
      bandwidthBytes := Alerts.bandwidthBytes stats.bandwidth })

/-- `data.Stats.ExtraFs` of `gatherStats`. -/
def extraFsOf (fsStats : List MonitoredFs) : GoMap String FsStats :=
  fsStats.foldl (fun extraFs fs =>
    if fs.root = false ∧ 0 < fs.stats.diskTotal then
      -- use custom name if available, otherwise use device name
      extraFs.insert (if fs.name ≠ "" then fs.name else fs.device) fs.stats
    else extraFs) ∅

/-- The summary after some calls. -/
def systemInfo (config : SystemConfig) (history : List Readings) : Info :=
  history.foldl (fun info readings => (getSystemStats config info readings).2) {}

/-- The data that the agent sends after some calls. -/
def payload (config : SystemConfig) (history : List Readings) (readings : Readings) :
    Alerts.CombinedData :=
  let (stats, info) := getSystemStats config (systemInfo config history) readings
  { stats := { stats with extraFs := some (extraFsOf readings.fsStats) }, info := info }

/-! ## What the summary has in common with the stats -/

/-- The highest usage of some GPUs. -/
def maxUsage (gpuData : Option (GoMap String GPUData)) : ℚ :=
  runningMax (fun gpu : (_ : String) × GPUData => gpu.2.usage) 0 (gpuData.getD ∅).entries

theorem updateTemperatures_frame (pathMatch : String → String → Bool) (config : SensorConfig)
    (temps : Option (List TemperatureStat)) (stats : Stats) (info : Info) :
    ∃ temperatures dashboardTemp,
      updateTemperatures pathMatch config temps stats info =
        ({ stats with temperatures := temperatures },
          { info with dashboardTemp := dashboardTemp }) := by
  unfold updateTemperatures
  split
  · exact ⟨_, _, rfl⟩
  · dsimp only
    split <;> exact ⟨_, _, rfl⟩

theorem foldl_addGpu_gpuPct (primarySensor : String) (gpus : List GPUData) (pass : GpuPass) :
    (gpus.foldl (addGpu primarySensor) pass).gpuPct = runningMax (·.usage) pass.gpuPct gpus := by
  induction gpus generalizing pass with
  | nil => rfl
  | cons gpu gpus ih =>
    have hstep : (addGpu primarySensor pass gpu).gpuPct =
        if pass.gpuPct < gpu.usage then gpu.usage else pass.gpuPct := by
      have hkeep : (addGpu primarySensor pass gpu).gpuPct = max pass.gpuPct gpu.usage := by
        unfold addGpu
        split <;> rfl
      rw [hkeep, max_def_lt]
    rw [foldl_cons, ih, hstep]
    rfl

theorem updateGpus_frame (config : SensorConfig) (gpuData : Option (GoMap String GPUData))
    (stats : Stats) (info : Info) (hstats : stats.gpuData = none)
    (hinfo : gpuData = none → info.gpuPct = 0) :
    ∃ temperatures gpuData' dashboardTemp,
      updateGpus config gpuData stats info =
        ({ stats with gpuData := gpuData', temperatures := temperatures },
          { info with
            gpuPct := maxUsage gpuData'
            dashboardTemp := dashboardTemp }) := by
  unfold updateGpus
  cases gpuData with
  | none =>
    refine ⟨stats.temperatures, stats.gpuData, info.dashboardTemp, ?_⟩
    have hzero : info.gpuPct = maxUsage stats.gpuData := by rw [hstats]; exact hinfo rfl
    rw [← hzero]
  | some gpuData =>
    dsimp only
    split
    · refine ⟨stats.temperatures, stats.gpuData, info.dashboardTemp, ?_⟩
      have hzero : (0 : ℚ) = maxUsage stats.gpuData := by rw [hstats]; rfl
      rw [← hzero]
    · have husage : runningMax GPUData.usage 0 (gpuData.entries.map (·.2)) =
          maxUsage (some gpuData) := by
        rw [maxUsage, runningMax, foldl_map]
        rfl
      rw [foldl_addGpu_gpuPct, husage]
      exact ⟨_, some gpuData, _, rfl⟩

theorem systemInfo_gpuPct (config : SystemConfig) (history : List Readings)
    (hgpu : config.hasGpuManager = false) : (systemInfo config history).gpuPct = 0 := by
  induction history using reverseRecOn with
  | nil => rfl
  | append_singleton history readings ih =>
    rw [systemInfo, foldl_append, ← systemInfo]
    show (getSystemStats config (systemInfo config history) readings).2.gpuPct = 0
    unfold getSystemStats
    dsimp only
    obtain ⟨temperatures, dashboardTemp, hsensors⟩ := updateTemperatures_frame config.pathMatch
      config.sensorConfig readings.temps
      { readings.stats with temperatures := none, extraFs := none, gpuData := none }
      (systemInfo config history)
    rw [hsensors, hgpu]
    exact ih

theorem extraFsOf_diskTotal (fsStats : List MonitoredFs) :
    GoMap.Forall (fun _ fs => 0 < fs.diskTotal) (extraFsOf fsStats) := by
  have hempty : GoMap.Forall (fun (_ : String) (fs : FsStats) => 0 < fs.diskTotal) ∅ :=
    GoMap.forall_empty
  refine foldlRecOn fsStats _ hempty ?_
  intro extraFs hextraFs fs _
  split
  · next hsize => exact hextraFs.insert hsize.2
  · exact hextraFs

/-- What every payload's summary says about its stats. -/
structure Summarizes (data : Alerts.CombinedData) : Prop where
  cpu : data.info.cpu = data.stats.cpu
  memPct : data.info.memPct = data.stats.memPct
  diskPct : data.info.diskPct = data.stats.diskPct
  loadAvg : data.info.loadAvg = data.stats.loadAvg
  bandwidth : data.info.bandwidthBytes = Alerts.bandwidthBytes data.stats.bandwidth
  gpuPct : data.info.gpuPct = maxUsage data.stats.gpuData
  extraFs : GoMap.Forall (fun _ fs => 0 < fs.diskTotal) (data.stats.extraFs.getD ∅)

/-- **The summary of a payload** agrees with its stats, in every run of the agent, the temperature
    of the dashboard apart. -/
theorem payload_summary (config : SystemConfig) (history : List Readings) (readings : Readings) :
    Summarizes (payload config history readings) ∧
      (payload config history readings).stats.diskPct = readings.stats.diskPct := by
  unfold payload getSystemStats
  dsimp only
  obtain ⟨temperatures, dashboardTemp, hsensors⟩ := updateTemperatures_frame config.pathMatch
    config.sensorConfig readings.temps
    { readings.stats with temperatures := none, extraFs := none, gpuData := none }
    (systemInfo config history)
  rw [hsensors]
  obtain ⟨temperatures', gpuData, dashboardTemp', hgpus⟩ := updateGpus_frame config.sensorConfig
    (if config.hasGpuManager then some readings.gpuData else none)
    { readings.stats with temperatures := temperatures, extraFs := none, gpuData := none }
    { systemInfo config history with dashboardTemp := dashboardTemp } rfl (by
      intro hnone
      apply systemInfo_gpuPct
      cases hman : config.hasGpuManager with
      | false => rfl
      | true => simp [hman] at hnone)
  rw [hgpus]
  exact ⟨⟨rfl, rfl, rfl, rfl, rfl, rfl, extraFsOf_diskTotal readings.fsStats⟩, rfl⟩

/-! ## The temperature for the dashboard -/

/-- The highest value of a map, at least zero. -/
def Highest (m : GoMap String ℚ) (temp : ℚ) : Prop :=
  IsGreatest (insert 0 {v | ∃ key, m.lookup key = some v}) temp

section Dashboard

variable {m : GoMap String ℚ} {temp : ℚ} {later : List String} {primarySensor : String}

theorem Highest.nonneg (h : Highest m temp) : 0 ≤ temp := h.2 (Set.mem_insert _ _)

theorem highest_empty : Highest ∅ 0 := by
  simp [Highest]

theorem Highest.insert_new (h : Highest m temp) {key : String} (hnew : m.lookup key = none)
    (v : ℚ) : Highest (m.insert key v) (max temp v) := by
  have hvalues : {w | ∃ k, (m.insert key v).lookup k = some w} =
      insert v {w | ∃ k, m.lookup k = some w} := by
    ext w
    constructor
    · rintro ⟨k, hk⟩
      by_cases heq : k = key
      · subst heq
        rw [AList.lookup_insert] at hk
        exact .inl (Option.some.inj hk).symm
      · rw [AList.lookup_insert_ne heq] at hk
        exact .inr ⟨k, hk⟩
    · rintro (rfl | ⟨k, hk⟩)
      · exact ⟨key, AList.lookup_insert m⟩
      · refine ⟨k, (AList.lookup_insert_ne ?_).trans hk⟩
        rintro rfl
        exact absurd (hnew.symm.trans hk) nofun
  rw [Highest, hvalues, Set.insert_comm, max_comm]
  exact IsGreatest.insert v h

/-- The keys that are still to come have no entry. -/
def Fresh (m : GoMap String ℚ) (later : List String) : Prop := ∀ key ∈ later, m.lookup key = none

theorem Fresh.insert_new {key : String} (h : Fresh m (key :: later))
    (hnodup : (key :: later).Nodup) (v : ℚ) : Fresh (m.insert key v) later := by
  intro k hk
  have hne : k ≠ key := fun heq => (nodup_cons.mp hnodup).1 (heq ▸ hk)
  exact (AList.lookup_insert_ne hne).trans (h k (mem_cons_of_mem key hk))

theorem Fresh.tail {key : String} (h : Fresh m (key :: later)) : Fresh m later :=
  fun k hk => h k (mem_cons_of_mem key hk)

/-- A sensor with a key of its own and hundredths of a degree. -/
theorem addSensor_highest {pathMatch : String → String → Bool} {config : SensorConfig}
    {pass : SensorPass} {sensor : TemperatureStat} (i : ℕ) (hprimary : config.primarySensor = "")
    (hrounded : twoDecimals sensor.scaled = sensor.scaled)
    (hnodup : (sensor.sensorKey :: later).Nodup)
    (h : Highest pass.temperatures pass.dashboardTemp)
    (hfresh : Fresh pass.temperatures (sensor.sensorKey :: later)) :
    let pass' := addSensor pathMatch config pass (sensor, i)
    Highest pass'.temperatures pass'.dashboardTemp ∧ Fresh pass'.temperatures later := by
  have hnew := hfresh sensor.sensorKey mem_cons_self
  simp only [addSensor, hnew, hrounded, hprimary, Option.isSome_none, Bool.false_eq_true, if_false,
    if_true]
  repeat' split
  · exact ⟨h, hfresh.tail⟩
  · exact ⟨h, hfresh.tail⟩
  · exact ⟨h, hfresh.tail⟩
  · exact ⟨h.insert_new hnew _, hfresh.insert_new hnodup _⟩

theorem foldl_addSensor_highest {pathMatch : String → String → Bool} {config : SensorConfig}
    (hprimary : config.primarySensor = "") (readings : List (TemperatureStat × ℕ))
    {pass : SensorPass} (hrounded : ∀ reading ∈ readings, twoDecimals reading.1.scaled =
      reading.1.scaled)
    (hnodup : (readings.map (·.1.sensorKey) ++ later).Nodup)
    (h : Highest pass.temperatures pass.dashboardTemp)
    (hfresh : Fresh pass.temperatures (readings.map (·.1.sensorKey) ++ later)) :
    let pass' := readings.foldl (addSensor pathMatch config) pass
    Highest pass'.temperatures pass'.dashboardTemp ∧ Fresh pass'.temperatures later := by
  induction readings generalizing pass with
  | nil => exact ⟨h, hfresh⟩
  | cons reading readings ih =>
    obtain ⟨hfirst, hrounded⟩ := forall_mem_cons.mp hrounded
    obtain ⟨h', hfresh'⟩ := addSensor_highest reading.2 hprimary hfirst hnodup h hfresh
    exact ih hrounded (nodup_cons.mp hnodup).2 h' hfresh'

theorem updateTemperatures_highest (pathMatch : String → String → Bool) {config : SensorConfig}
    {temps : Option (List TemperatureStat)} {stats : Stats} (info : Info)
    (hstats : stats.temperatures = none) (hskip : config.skipCollection = false)
    (hprimary : config.primarySensor = "")
    (hrounded : ∀ sensor ∈ temps.getD [], twoDecimals sensor.scaled = sensor.scaled)
    (hnodup : ((temps.getD []).map (·.sensorKey) ++ later).Nodup) :
    let updated := updateTemperatures pathMatch config temps stats info
    Highest (updated.1.temperatures.getD ∅) updated.2.dashboardTemp ∧
      Fresh (updated.1.temperatures.getD ∅) later := by
  unfold updateTemperatures
  simp only [hskip, Bool.false_eq_true, if_false]
  match temps with
  | none | some [] =>
    simp only [hstats, Option.getD_none]
    exact ⟨highest_empty, fun _ _ => rfl⟩
  | some (sensor :: sensors) =>
    have hkeys : (sensor :: sensors).zipIdx.map (·.1.sensorKey) =
        (sensor :: sensors).map (·.sensorKey) := by
      rw [← zipIdx_map_fst 0 (sensor :: sensors), map_map, zipIdx_map_fst]
      rfl
    refine foldl_addSensor_highest hprimary (sensor :: sensors).zipIdx ?_ (hkeys ▸ hnodup)
      highest_empty fun _ _ => rfl
    exact fun reading hmem => hrounded reading.1 (fst_mem_of_mem_zipIdx hmem)

/-- A GPU with a name of its own raises the highest temperature. -/
theorem addGpu_highest {pass : GpuPass} {gpu : GPUData} (hnodup : (gpu.name :: later).Nodup)
    (hname : gpu.name ≠ "") (hprimary : primarySensor = "") (hnonneg : 0 ≤ pass.highestTemp)
    (h : Highest pass.temperatures (max pass.dashboardTemp pass.highestTemp))
    (hfresh : Fresh pass.temperatures (gpu.name :: later)) :
    let pass' := addGpu primarySensor pass gpu
    pass'.dashboardTemp = pass.dashboardTemp ∧ 0 ≤ pass'.highestTemp ∧
      pass'.highestTemp ≤ max pass.highestTemp gpu.temperature ∧
      Highest pass'.temperatures (max pass'.dashboardTemp pass'.highestTemp) ∧
      Fresh pass'.temperatures later := by
  have hnew := hfresh gpu.name mem_cons_self
  have hne : primarySensor ≠ gpu.name := fun heq => hname (heq ▸ hprimary)
  simp only [addGpu]
  split
  case isFalse => exact ⟨rfl, hnonneg, le_max_left _ _, h, hfresh.tail⟩
  case isTrue hpos =>
    simp only [← max_def_lt]
    refine ⟨trivial, hnonneg.trans (le_max_left _ _), le_rfl, ?_, hfresh.insert_new hnodup _⟩
    rw [← max_assoc]
    exact h.insert_new hnew _

theorem foldl_addGpu_highest {gpus : List GPUData} (pass : GpuPass) (bound : ℚ)
    (hnodup : (gpus.map (·.name)).Nodup) (hname : ∀ gpu ∈ gpus, gpu.name ≠ "")
    (hprimary : primarySensor = "") (hnonneg : 0 ≤ pass.highestTemp)
    (h : Highest pass.temperatures (max pass.dashboardTemp pass.highestTemp))
    (hfresh : Fresh pass.temperatures (gpus.map (·.name))) :
    let pass' := gpus.foldl (addGpu primarySensor) pass
    pass'.dashboardTemp = pass.dashboardTemp ∧ 0 ≤ pass'.highestTemp ∧
      (pass.highestTemp ≤ bound → (∀ gpu ∈ gpus, gpu.temperature ≤ bound) →
        pass'.highestTemp ≤ bound) ∧
      Highest pass'.temperatures (max pass'.dashboardTemp pass'.highestTemp) := by
  induction gpus generalizing pass with
  | nil => exact ⟨rfl, hnonneg, fun hle _ => hle, h⟩
  | cons gpu gpus ih =>
    obtain ⟨hkeep, hnonneg', hle, h', hfresh'⟩ :=
      addGpu_highest hnodup (hname gpu mem_cons_self) hprimary hnonneg h hfresh
    obtain ⟨hkeep', hnonneg'', hcool, h''⟩ :=
      ih _ (nodup_cons.mp hnodup).2 (forall_mem_cons.mp hname).2 hnonneg' h' hfresh'
    refine ⟨hkeep'.trans hkeep, hnonneg'', fun hbound hgpus => ?_, h''⟩
    exact hcool (hle.trans (max_le hbound (hgpus gpu mem_cons_self)))
      (forall_mem_cons.mp hgpus).2

theorem updateGpus_highest {config : SensorConfig} {gpuData : GoMap String GPUData} {stats : Stats}
    {info : Info} (hnodup : ((gpuData.entries.map (·.2)).map (·.name)).Nodup)
    (hname : ∀ gpu ∈ gpuData.entries.map (·.2), gpu.name ≠ "")
    (hprimary : config.primarySensor = "")
    (hcool : info.dashboardTemp ≠ 0 → ∀ gpu ∈ gpuData.entries.map (·.2),
      gpu.temperature ≤ info.dashboardTemp)
    (h : Highest (stats.temperatures.getD ∅) info.dashboardTemp)
    (hfresh : Fresh (stats.temperatures.getD ∅) ((gpuData.entries.map (·.2)).map (·.name))) :
    let updated := updateGpus config (some gpuData) stats info
    Highest (updated.1.temperatures.getD ∅) updated.2.dashboardTemp := by
  simp only [updateGpus]
  split
  case isTrue => exact h
  case isFalse =>
    obtain ⟨hkeep, hnonneg, hbound, h'⟩ := foldl_addGpu_highest
      { temperatures := stats.temperatures.getD ∅, dashboardTemp := info.dashboardTemp }
      info.dashboardTemp hnodup hname hprimary le_rfl ((max_eq_left h.nonneg).symm ▸ h) hfresh
    rw [hkeep] at h'
    simp only [hkeep, Option.getD_some]
    split
    case isTrue hzero => rwa [max_eq_right (hzero.trans_le hnonneg)] at h'
    case isFalse hpos => rwa [max_eq_left (hbound h.nonneg (hcool hpos))] at h'

end Dashboard

def reportedGpus (config : SystemConfig) (readings : Readings) : List GPUData :=
  if config.hasGpuManager then readings.gpuData.entries.map (·.2) else []

/-- The temperature of the dashboard before the GPUs. -/
def sensorTemp (config : SystemConfig) (readings : Readings) : ℚ :=
  (updateTemperatures config.pathMatch config.sensorConfig readings.temps {} {}).2.dashboardTemp

/-- No sensor is preferred, the names are all different, the sensors have hundredths of a degree,
    and no GPU is hotter than all sensors. -/
structure PlainSensors (config : SystemConfig) (readings : Readings) : Prop where
  collected : config.sensorConfig.skipCollection = false
  primary : config.sensorConfig.primarySensor = ""
  rounded : ∀ sensor ∈ readings.temps.getD [], twoDecimals sensor.scaled = sensor.scaled
  keys : ((readings.temps.getD []).map (·.sensorKey) ++
    (reportedGpus config readings).map (·.name)).Nodup
  named : ∀ gpu ∈ reportedGpus config readings, gpu.name ≠ ""
  cooler : sensorTemp config readings ≠ 0 →
    ∀ gpu ∈ reportedGpus config readings, gpu.temperature ≤ sensorTemp config readings

theorem updateTemperatures_dashboardTemp {config : SystemConfig} (readings : Readings)
    (hskip : config.sensorConfig.skipCollection = false) (stats : Stats) (info : Info) :
    (updateTemperatures config.pathMatch config.sensorConfig readings.temps stats
      info).2.dashboardTemp = sensorTemp config readings := by
  simp only [sensorTemp, updateTemperatures, hskip, Bool.false_eq_true, if_false]
  split <;> rfl

/-- **The temperature of the dashboard** is the highest one of the stats, for sensors without
    a preference. -/
theorem payload_highest {config : SystemConfig} (history : List Readings) {readings : Readings}
    (h : PlainSensors config readings) :
    Highest ((payload config history readings).stats.temperatures.getD ∅)
      (payload config history readings).info.dashboardTemp := by
  unfold payload getSystemStats
  dsimp only
  obtain ⟨hsensors, hfresh⟩ := updateTemperatures_highest config.pathMatch
    (systemInfo config history)
    (show
      { readings.stats with temperatures := none, extraFs := none, gpuData := none }.temperatures
      = none from rfl)
    h.collected h.primary h.rounded h.keys
  have hdash := updateTemperatures_dashboardTemp readings h.collected
    { readings.stats with temperatures := none, extraFs := none, gpuData := none }
    (systemInfo config history)
  have hcool := h.cooler
  have hnodup := (nodup_append.mp h.keys).2.1
  have hname := h.named
  rw [← hdash] at hcool
  unfold reportedGpus at hcool hnodup hname hfresh
  cases hman : config.hasGpuManager with
  | false => exact hsensors
  | true =>
    simp only [hman, if_true] at hcool hnodup hname hfresh
    exact updateGpus_highest hnodup hname h.primary hcool hsensors hfresh

/-! ## One entry for each reading -/

section Sensors

variable (pathMatch : String → String → Bool) (config : SensorConfig)

/-- The temperature that would be reported is reasonable. -/
def TemperatureStat.inRange (sensor : TemperatureStat) : Bool :=
  ¬ (sensor.scaled ≤ 0 ∨ 200 ≤ sensor.scaled)

/-- The reading is to be reported. -/
def allowed (reading : TemperatureStat × ℕ) : Bool :=
  !config.skipCollection && !reading.1.malformed && reading.1.inRange &&
    isValidSensor pathMatch reading.1.sensorKey config

/-- The names of readings, the last one first: that of the sensor, with the position if it is in
    use. -/
def givenNames : List (TemperatureStat × ℕ) → List String
  | [] => []
  | (sensor, i) :: earlier =>
    (if sensor.sensorKey ∈ givenNames earlier then sensor.sensorKey ++ "_" ++ toString i
      else sensor.sensorKey) :: givenNames earlier

/-- The names are allowed and all different. -/
def NamesFit (readings : List (TemperatureStat × ℕ)) : Prop :=
  (givenNames readings).Nodup ∧ ∀ name ∈ givenNames readings, isValidSensor pathMatch name config

/-- The map after the allowed readings `readings`, the last one first. -/
structure Entered (readings : List (TemperatureStat × ℕ)) (m : GoMap String ℚ) : Prop where
  valid : ∀ name ∈ m, isValidSensor pathMatch name config
  length : m.keys.length ≤ readings.length
  fits : m.keys.length = readings.length ↔ NamesFit pathMatch config readings
  names : NamesFit pathMatch config readings → ∀ name, name ∈ m ↔ name ∈ givenNames readings

variable {pathMatch config} {readings : List (TemperatureStat × ℕ)} {m : GoMap String ℚ}

/-- A reading is entered under its name, or dropped if the name is not allowed. -/
theorem Entered.enter (h : Entered pathMatch config readings m) (sensor : TemperatureStat) (i : ℕ)
    (value : ℚ) :
    let name := if (m.lookup sensor.sensorKey).isSome then sensor.sensorKey ++ "_" ++ toString i
      else sensor.sensorKey
    Entered pathMatch config ((sensor, i) :: readings)
      (if isValidSensor pathMatch name config then m.insert name value else m) := by
  intro name
  have hname : NamesFit pathMatch config readings →
      givenNames ((sensor, i) :: readings) = name :: givenNames readings := by
    intro hfit
    simp only [givenNames, name, AList.lookup_isSome, h.names hfit]
  have hfits : NamesFit pathMatch config ((sensor, i) :: readings) ↔
      NamesFit pathMatch config readings ∧ isValidSensor pathMatch name config ∧ name ∉ m := by
    constructor
    · rintro ⟨hnodup, hvalid⟩
      have hfit : NamesFit pathMatch config readings :=
        ⟨(nodup_cons.mp hnodup).2, fun name hmem => hvalid name (mem_cons_of_mem _ hmem)⟩
      rw [hname hfit, nodup_cons] at hnodup
      rw [hname hfit] at hvalid
      exact ⟨hfit, hvalid name mem_cons_self, (h.names hfit name).not.mpr hnodup.1⟩
    · rintro ⟨hfit, hvalid, hnew⟩
      rw [NamesFit, hname hfit, nodup_cons, forall_mem_cons]
      exact ⟨⟨(h.names hfit name).not.mp hnew, hfit.1⟩, hvalid, hfit.2⟩
  have hlength : (m.insert name value).keys.length =
      m.keys.length + if name ∈ m then 0 else 1 := by
    rw [AList.keys_insert, length_cons]
    split
    · next hmem => rw [length_erase_of_mem hmem]; have := length_pos_of_mem hmem; omega
    · next hmem => rw [erase_of_not_mem hmem]
  have hle := h.length
  have hiff := h.fits
  split
  · next hvalid =>
    constructor
    · intro other hother
      rcases (AList.mem_insert m).mp hother with rfl | hother
      · exact hvalid
      · exact h.valid other hother
    · rw [hlength, length_cons]
      split <;> omega
    · rw [hfits, ← hiff, hlength, length_cons]
      by_cases hmem : name ∈ m
      · simp only [hmem, hvalid]
        simp
        omega
      · simp [hmem, hvalid]
    · intro hfit other
      rw [hname (hfits.mp hfit).1, AList.mem_insert, mem_cons, h.names (hfits.mp hfit).1]
  · next hvalid =>
    constructor
    · exact h.valid
    · exact hle.trans (Nat.le_succ _)
    · rw [hfits, length_cons]
      simp only [hvalid]
      simp
      omega
    · intro hfit
      exact absurd (hfits.mp hfit).2.1 hvalid

/-- One turn of the loop: a reading that is not allowed changes nothing. -/
theorem Entered.addSensor {pass : SensorPass}
    (h : Entered pathMatch config readings pass.temperatures)
    (hskip : config.skipCollection = false) (reading : TemperatureStat × ℕ) :
    Entered pathMatch config
      (if allowed pathMatch config reading then reading :: readings else readings)
      (addSensor pathMatch config pass reading).temperatures := by
  obtain ⟨sensor, i⟩ := reading
  unfold Agent.addSensor allowed TemperatureStat.inRange
  dsimp only
  generalize sensor.scaled = temperature
  cases hmal : sensor.malformed with
  | true => simpa [hmal] using h
  | false =>
    by_cases hrange : temperature ≤ 0 ∨ 200 ≤ temperature
    · simpa [hrange] using h
    have henter := h.enter sensor i (twoDecimals temperature)
    simp only [hskip, hrange, Bool.not_false, Bool.and_true, decide_true, not_false_eq_true,
      Bool.true_and, if_false, Bool.false_eq_true]
    cases hown : isValidSensor pathMatch sensor.sensorKey config with
    | true =>
      simp only [if_true, Bool.not_eq_true']
      convert henter using 1
      cases hgiven : isValidSensor pathMatch _ config <;> simp
    | false =>
      -- a name that is not allowed is not in use
      have hnew : (pass.temperatures.lookup sensor.sensorKey).isSome = false := by
        rw [Bool.eq_false_iff]
        intro hsome
        have := h.valid _ (AList.lookup_isSome.mp hsome)
        simp [hown] at this
      simpa [hnew, hown] using h

/-- The loop: induction over the readings that are left. -/
theorem Entered.foldl (hskip : config.skipCollection = false) (rest : List (TemperatureStat × ℕ))
    {pass : SensorPass} (h : Entered pathMatch config readings pass.temperatures) :
    Entered pathMatch config ((rest.filter (allowed pathMatch config)).reverse ++ readings)
      (rest.foldl (Agent.addSensor pathMatch config) pass).temperatures := by
  induction rest generalizing pass readings with
  | nil => exact h
  | cons reading rest ih =>
    have hnext := ih (h.addSensor hskip reading)
    split at hnext <;> simp_all

end Sensors

/-- **Every allowed reading has an entry of its own** exactly if the names they get are allowed and
    all different. -/
theorem one_entry_per_reading_iff (pathMatch : String → String → Bool) (config : SensorConfig)
    (temps : List TemperatureStat) (stats : Stats) (info : Info) :
    ((updateTemperatures pathMatch config (some temps) { stats with temperatures := none }
        info).1.temperatures.getD ∅).keys.length =
        (temps.zipIdx.filter (allowed pathMatch config)).length ↔
      NamesFit pathMatch config (temps.zipIdx.filter (allowed pathMatch config)).reverse := by
  have hnil : Entered pathMatch config [] ∅ :=
    ⟨by simp, by simp, by simp [NamesFit, givenNames], by simp [givenNames]⟩
  cases hskip : config.skipCollection with
  | true =>
    have hnone : temps.zipIdx.filter (allowed pathMatch config) = [] := by simp [allowed, hskip]
    simp [updateTemperatures, hskip, hnone, NamesFit, givenNames]
  | false =>
    have hloop := @Entered.foldl pathMatch config [] hskip temps.zipIdx {} hnil
    rw [append_nil] at hloop
    rw [← hloop.fits, length_reverse]
    cases temps with
    | nil => simp [updateTemperatures, hskip]
    | cons sensor temps => simp [updateTemperatures, hskip]

/-- Two sensors of one name, after a sensor whose name is that name with a position. -/
def repeatedSensors : List TemperatureStat :=
  [⟨"cpu_2", 40, false⟩, ⟨"cpu", 50, false⟩, ⟨"cpu", 60, false⟩]

/-- **A reading is lost**: the second `cpu` is entered as `cpu_2`, over another sensor. -/
theorem repeated_sensor_overwrites :
    ((updateTemperatures (fun _ _ => false) {} (some repeatedSensors) {} {}).1.temperatures.getD
        ∅).keys.length = 2 ∧
      (repeatedSensors.zipIdx.filter (allowed (fun _ _ => false) {})).length = 3 := by
  constructor <;> decide +kernel

end Bantay.Agent
