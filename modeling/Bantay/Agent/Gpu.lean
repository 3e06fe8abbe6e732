import Bantay.Lib.GoMap
import Bantay.Lib.Rounding

/-!
# Statistics of GPUs

Collectors add the readings of every sample to running totals of a GPU and count the samples.
`GetCurrentData` reports averages since the previous call with the same cache key: it keeps a
snapshot of the totals for every key and GPU.  If there is no new sample, the latest average of
the GPU is reported again, or zeros if the GPU appears suspended.

The floats are exact rationals.  The collectors run concurrently but hold the lock of the manager
while they add a sample, so a run is a list of events.
-/

namespace Bantay.Agent.Gpu

open Bantay.Lib

/-! ## Totals -/

/-- Totals of usage, power and engines, and the latest temperature and memory. -/
structure GpuData where
  name : String
  temperature : ℚ
  memoryUsed : ℚ
  memoryTotal : ℚ
  usage : ℚ
  power : ℚ
  count : ℕ
  engines : Option (GoMap String ℚ)
  powerPkg : ℚ

def GpuData.new (name : String) : GpuData := ⟨name, 0, 0, 0, 0, 0, 0, none, 0⟩

/-- What a collector has read.  Only the one for Intel reads busy times of engines, as percentages,
    and only the one for nvtop sets the name of a known GPU.  Readings that fail are left out. -/
structure GpuSample where
  name : String
  renames : Bool
  temperature : Option ℚ
  memoryUsed : Option ℚ
  memoryTotal : Option ℚ
  usage : ℚ
  power : ℚ
  powerPkg : ℚ
  engines : Option (GoMap String ℚ≥0)

def addEngines (totals : GoMap String ℚ) (readings : GoMap String ℚ≥0) : GoMap String ℚ :=
  .accumulate (fun total (busy : ℚ≥0) => total.getD 0 + (busy : ℚ)) totals readings

def GpuData.addSample (gpu : GpuData) (sample : GpuSample) : GpuData where
  name := if sample.renames then sample.name else gpu.name
  temperature := sample.temperature.getD gpu.temperature
  memoryUsed := sample.memoryUsed.getD gpu.memoryUsed
  memoryTotal := sample.memoryTotal.getD gpu.memoryTotal
  usage := gpu.usage + sample.usage
  power := gpu.power + sample.power
  count := gpu.count + 1
  engines :=
    match sample.engines with
    | none => gpu.engines
    | some readings => some (addEngines (gpu.engines.getD ∅) readings)
  powerPkg := gpu.powerPkg + sample.powerPkg

/-- A GPU that NVML finds suspended: no sample, but the latest values are zero. -/
def GpuData.suspend (gpu : GpuData) : GpuData := { gpu with temperature := 0, memoryUsed := 0 }

/-! ## Averages -/

structure GpuSnapshot where
  count : UInt32
  usage : ℚ
  power : ℚ
  powerPkg : ℚ
  engines : Option (GoMap String ℚ)

structure GpuManager where
  gpuDataMap : GoMap String GpuData
  lastAvgData : String → Option GpuData
  lastSnapshots : UInt16 → String → Option GpuSnapshot

def GpuManager.new : GpuManager := ⟨∅, fun _ => none, fun _ _ => none⟩

def twoDecimals (value : ℚ) : ℚ := roundTo 100 value

def calculateDeltaCount (currentCount : UInt32) : Option GpuSnapshot → UInt32
  | some snapshot => currentCount - snapshot.count
  | none => currentCount

/-- `calculateDeltas`: usage, power and package power. -/
def calculateDeltas (gpu : GpuData) : Option GpuSnapshot → ℚ × ℚ × ℚ
  | some snapshot =>
    (gpu.usage - snapshot.usage, gpu.power - snapshot.power, gpu.powerPkg - snapshot.powerPkg)
  | none => (gpu.usage, gpu.power, gpu.powerPkg)

/-- The snapshot may have been taken before there were engines. -/
def deltaEngine (lastSnapshot : Option GpuSnapshot) (name : String) (engine : ℚ) : ℚ :=
  match lastSnapshot.bind GpuSnapshot.engines with
  | some engines => engine - (engines.lookup name).getD 0
  | none => engine

/-- `calculateIntelGPUUsage`: the averages of the engines, and the largest one. -/
def calculateIntelGPUUsage (engines : GoMap String ℚ) (lastSnapshot : Option GpuSnapshot)
    (deltaCount : UInt32) : GoMap String ℚ × ℚ :=
  let mean (entry : (_ : String) × ℚ) : ℚ :=
    deltaEngine lastSnapshot entry.1 entry.2 / deltaCount.toNat
  (engines.entries.foldl (fun avg entry => avg.insert entry.1 (twoDecimals (mean entry))) ∅,
    twoDecimals (engines.entries.foldl (fun largest entry => max largest (mean entry)) 0))

/-- The new average of `calculateGPUAverage`. -/
def newAverage (gpu : GpuData) (lastSnapshot : Option GpuSnapshot) (deltaCount : UInt32) :
    GpuData :=
  let (deltaUsage, deltaPower, deltaPowerPkg) := calculateDeltas gpu lastSnapshot
  let power := twoDecimals (deltaPower / deltaCount.toNat)
  match gpu.engines with
  | some engines =>
    let (avgEngines, usage) := calculateIntelGPUUsage engines lastSnapshot deltaCount
    { gpu with
      power := power, engines := some avgEngines, usage := usage
      powerPkg := twoDecimals (deltaPowerPkg / deltaCount.toNat) }
  | none => { gpu with power := power, usage := twoDecimals (deltaUsage / deltaCount.toNat) }

/-- The number of samples `calculateGPUAverage` finds since the previous call with the key. -/
def GpuManager.deltaCount (manager : GpuManager) (cacheKey : UInt16) (id : String)
    (gpu : GpuData) : UInt32 :=
  calculateDeltaCount (.ofNat gpu.count) (manager.lastSnapshots cacheKey id)

def calculateGPUAverage (manager : GpuManager) (cacheKey : UInt16) (id : String) (gpu : GpuData) :
    GpuData :=
  let deltaCount := manager.deltaCount cacheKey id gpu
  if deltaCount = 0 then
    if gpu.temperature = 0 ∧ gpu.memoryUsed = 0 then .new gpu.name
    else (manager.lastAvgData id).getD (.new "")
  else newAverage gpu (manager.lastSnapshots cacheKey id) deltaCount

def updateInstantaneousValues (gpuAvg gpu : GpuData) : GpuData :=
  { gpuAvg with
    temperature := twoDecimals gpu.temperature
    memoryUsed := twoDecimals gpu.memoryUsed
    memoryTotal := twoDecimals gpu.memoryTotal }

def takeSnapshot (gpu : GpuData) : GpuSnapshot :=
  ⟨.ofNat gpu.count, gpu.usage, gpu.power, gpu.powerPkg, gpu.engines⟩

def countGPUNames (manager : GpuManager) (name : String) : ℕ :=
  manager.gpuDataMap.entries.countP fun entry => entry.2.name = name

/-- What `GetCurrentData` returns for a GPU. -/
def reportGpu (manager : GpuManager) (cacheKey : UInt16) (id : String) (gpu : GpuData) : GpuData :=
  let gpuAvg := updateInstantaneousValues (calculateGPUAverage manager cacheKey id gpu) gpu
  if 1 < countGPUNames manager gpu.name then { gpuAvg with name := gpu.name ++ " " ++ id }
  else gpuAvg

/-- The loop reads and writes for each GPU only what is kept for it, so the order does not
    matter. -/
def report (manager : GpuManager) (cacheKey : UInt16) (id : String) : Option GpuData :=
  (manager.gpuDataMap.lookup id).map (reportGpu manager cacheKey id)

/-- What `GetCurrentData` stores: an average only if there were samples, a snapshot always. -/
def GpuManager.afterReport (manager : GpuManager) (cacheKey : UInt16) : GpuManager where
  gpuDataMap := manager.gpuDataMap
  lastAvgData id :=
    match manager.gpuDataMap.lookup id with
    | none => manager.lastAvgData id
    | some gpu =>
      if manager.deltaCount cacheKey id gpu = 0 then manager.lastAvgData id
      else some (calculateGPUAverage manager cacheKey id gpu)
  lastSnapshots key id :=
    if key = cacheKey then
      match manager.gpuDataMap.lookup id with
      | none => manager.lastSnapshots key id
      | some gpu => some (takeSnapshot gpu)
    else manager.lastSnapshots key id

def getCurrentData (manager : GpuManager) (cacheKey : UInt16) :
    GpuManager × (String → Option GpuData) :=
  (manager.afterReport cacheKey, report manager cacheKey)

/-! ## Runs -/

inductive GpuEvent where
  | detect (id name : String)
  | sample (id : String) (sample : GpuSample)
  | suspend (id name : String)
  | getCurrentData (cacheKey : UInt16)

def GpuManager.update (manager : GpuManager) (id name : String) (change : GpuData → GpuData) :
    GpuManager :=
  let gpu := (manager.gpuDataMap.lookup id).getD (.new name)
  { manager with gpuDataMap := manager.gpuDataMap.insert id (change gpu) }

def step (manager : GpuManager) : GpuEvent → GpuManager
  | .detect id name => manager.update id name fun gpu => gpu
  | .sample id sample => manager.update id sample.name fun gpu => gpu.addSample sample
  | .suspend id name => manager.update id name GpuData.suspend
  | .getCurrentData cacheKey => (getCurrentData manager cacheKey).1

/-- The manager after a run from the start of the agent. -/
def after (history : List GpuEvent) : GpuManager := history.foldl step .new

end Bantay.Agent.Gpu
