import Mathlib.Data.Fin.VecNotation
import Bantay.Lib.GoMap
import Bantay.Lib.Rounding

/-!
# Averages of System Stats

`AverageSystemStatsSlice` of `internal/records/records.go` over the `Stats` of
`internal/entities/system`: one loop that sums the records and keeps peaks, and one pass that
divides and rounds.

Floats are read as rationals.  A `uint64` is a natural number whose sums are reduced modulo
`2 ^ 64`.  A map that may be `nil` is an `Option`; a slice is a list, since a `nil` slice and an
empty one are treated alike.
-/

namespace Bantay.Records

open Bantay.Lib

/-! ## Data -/

/-- The fields of `FsStats` that records carry. -/
structure FsStats where
  diskTotal : ℚ := 0
  diskUsed : ℚ := 0
  diskReadPs : ℚ := 0
  diskWritePs : ℚ := 0
  maxDiskReadPS : ℚ := 0
  maxDiskWritePS : ℚ := 0
  diskReadBytes : ℕ := 0
  diskWriteBytes : ℕ := 0
  maxDiskReadBytes : ℕ := 0
  maxDiskWriteBytes : ℕ := 0
  diskIoStats : Fin 6 → ℚ := fun _ => 0
  maxDiskIoStats : Fin 6 → ℚ := fun _ => 0

structure GPUData where
  name : String
  temperature : ℚ := 0
  memoryUsed : ℚ := 0
  memoryTotal : ℚ := 0
  usage : ℚ := 0
  power : ℚ := 0
  count : ℚ := 0
  engines : Option (GoMap String ℚ) := none
  powerPkg : ℚ := 0

structure Stats where
  cpu : ℚ := 0
  maxCpu : ℚ := 0
  mem : ℚ := 0
  maxMem : ℚ := 0
  memUsed : ℚ := 0
  memPct : ℚ := 0
  memBuffCache : ℚ := 0
  memZfsArc : ℚ := 0
  swap : ℚ := 0
  swapUsed : ℚ := 0
  diskTotal : ℚ := 0
  diskUsed : ℚ := 0
  diskPct : ℚ := 0
  diskReadPs : ℚ := 0
  diskWritePs : ℚ := 0
  maxDiskReadPs : ℚ := 0
  maxDiskWritePs : ℚ := 0
  networkSent : ℚ := 0
  networkRecv : ℚ := 0
  maxNetworkSent : ℚ := 0
  maxNetworkRecv : ℚ := 0
  temperatures : Option (GoMap String ℚ) := none
  extraFs : Option (GoMap String FsStats) := none
  gpuData : Option (GoMap String GPUData) := none
  bandwidth : Fin 2 → ℕ := fun _ => 0
  maxBandwidth : Fin 2 → ℕ := fun _ => 0
  loadAvg : Fin 3 → ℚ := fun _ => 0
  battery : ℕ × ℕ := (0, 0)
  networkInterfaces : Option (GoMap String (Fin 4 → ℕ)) := none
  diskIo : Fin 2 → ℕ := fun _ => 0
  maxDiskIo : Fin 2 → ℕ := fun _ => 0
  cpuBreakdown : List ℚ := []
  cpuCoresUsage : List ℕ := []
  diskIoStats : Fin 6 → ℚ := fun _ => 0
  maxDiskIoStats : Fin 6 → ℚ := fun _ => 0

/-! ## The loop -/

def addUint64 (a b : ℕ) : ℕ := (a + b) % 2 ^ 64

def max3 {α : Type*} [Max α] (a b c : α) : α := max (max a b) c

/-- Values are added index by index to sums that are first extended to their length. -/
def addSlice {α β : Type*} [Zero α] (add : α → β → α) : List α → List β → List α
  | sums, [] => sums
  | [], value :: values => add 0 value :: addSlice add [] values
  | sum :: sums, value :: values => add sum value :: addSlice add sums values

/-- Entries are accumulated, into a new map if there is none yet. -/
def accumulateMap {β γ : Type*} (f : Option β → γ → β) (acc : Option (GoMap String β)) :
    Option (GoMap String γ) → Option (GoMap String β)
  | none => acc
  | some m => some (GoMap.accumulate f (acc.getD ∅) m)

def addFsStats (sum : Option FsStats) (value : FsStats) : FsStats :=
  let fs := sum.getD {}
  { diskTotal := fs.diskTotal + value.diskTotal
    diskUsed := fs.diskUsed + value.diskUsed
    diskWritePs := fs.diskWritePs + value.diskWritePs
    diskReadPs := fs.diskReadPs + value.diskReadPs
    maxDiskReadPS := max3 fs.maxDiskReadPS value.maxDiskReadPS value.diskReadPs
    maxDiskWritePS := max3 fs.maxDiskWritePS value.maxDiskWritePS value.diskWritePs
    diskReadBytes := addUint64 fs.diskReadBytes value.diskReadBytes
    diskWriteBytes := addUint64 fs.diskWriteBytes value.diskWriteBytes
    maxDiskReadBytes := max3 fs.maxDiskReadBytes value.maxDiskReadBytes value.diskReadBytes
    maxDiskWriteBytes := max3 fs.maxDiskWriteBytes value.maxDiskWriteBytes value.diskWriteBytes
    diskIoStats := fun i => fs.diskIoStats i + value.diskIoStats i
    maxDiskIoStats := fun i =>
      max3 (fs.maxDiskIoStats i) (value.maxDiskIoStats i) (value.diskIoStats i) }

def addGPUData (sum : Option GPUData) (value : GPUData) : GPUData :=
  let gpu := sum.getD { name := value.name }
  { gpu with
    temperature := gpu.temperature + value.temperature
    memoryUsed := gpu.memoryUsed + value.memoryUsed
    memoryTotal := gpu.memoryTotal + value.memoryTotal
    usage := gpu.usage + value.usage
    power := gpu.power + value.power
    count := gpu.count + value.count
    engines := accumulateMap (fun sum value => sum.getD 0 + value) gpu.engines value.engines }

/-- The rates are summed, of the totals the larger is kept. -/
def addNetworkInterface (sum : Option (Fin 4 → ℕ)) (value : Fin 4 → ℕ) : Fin 4 → ℕ :=
  let sum := sum.getD fun _ => 0
  ![addUint64 (sum 0) (value 0), addUint64 (sum 1) (value 1), max (sum 2) (value 2),
    max (sum 3) (value 3)]

/-- The rates of a network interface, up and down. -/
def interfaceRates (value : Fin 4 → ℕ) : ℕ × ℕ := (value 0, value 1)

/-- The totals of a network interface, sent and received. -/
def interfaceTotals (value : Fin 4 → ℕ) : ℕ × ℕ := (value 2, value 3)

/-- The variables of the loop. -/
structure Totals where
  sum : Stats := {}
  batterySum : ℕ := 0
  cpuCoresSums : List ℕ := []
  cpuBreakdownSums : List ℚ := []
  tempCount : ℕ := 0

def accumulateTotals (totals : Totals) (stats : Stats) : Totals :=
  let sum := totals.sum
  { batterySum := totals.batterySum + stats.battery.1
    cpuCoresSums := addSlice addUint64 totals.cpuCoresSums stats.cpuCoresUsage
    cpuBreakdownSums := addSlice (· + ·) totals.cpuBreakdownSums stats.cpuBreakdown
    tempCount := if stats.temperatures.isSome then totals.tempCount + 1 else totals.tempCount
    sum :=
      { sum with
        cpu := sum.cpu + stats.cpu
        mem := sum.mem + stats.mem
        memUsed := sum.memUsed + stats.memUsed
        memPct := sum.memPct + stats.memPct
        memBuffCache := sum.memBuffCache + stats.memBuffCache
        memZfsArc := sum.memZfsArc + stats.memZfsArc
        swap := sum.swap + stats.swap
        swapUsed := sum.swapUsed + stats.swapUsed
        diskTotal := sum.diskTotal + stats.diskTotal
        diskUsed := sum.diskUsed + stats.diskUsed
        diskPct := sum.diskPct + stats.diskPct
        diskReadPs := sum.diskReadPs + stats.diskReadPs
        diskWritePs := sum.diskWritePs + stats.diskWritePs
        networkSent := sum.networkSent + stats.networkSent
        networkRecv := sum.networkRecv + stats.networkRecv
        loadAvg := fun i => sum.loadAvg i + stats.loadAvg i
        bandwidth := fun i => addUint64 (sum.bandwidth i) (stats.bandwidth i)
        diskIo := fun i => addUint64 (sum.diskIo i) (stats.diskIo i)
        diskIoStats := fun i => sum.diskIoStats i + stats.diskIoStats i
        -- the charge state of the last record stays
        battery := (sum.battery.1, stats.battery.2)
        maxCpu := max3 sum.maxCpu stats.maxCpu stats.cpu
        maxMem := max3 sum.maxMem stats.maxMem stats.memUsed
        maxNetworkSent := max3 sum.maxNetworkSent stats.maxNetworkSent stats.networkSent
        maxNetworkRecv := max3 sum.maxNetworkRecv stats.maxNetworkRecv stats.networkRecv
        maxDiskReadPs := max3 sum.maxDiskReadPs stats.maxDiskReadPs stats.diskReadPs
        maxDiskWritePs := max3 sum.maxDiskWritePs stats.maxDiskWritePs stats.diskWritePs
        maxBandwidth := fun i =>
          max3 (sum.maxBandwidth i) (stats.maxBandwidth i) (stats.bandwidth i)
        maxDiskIo := fun i => max3 (sum.maxDiskIo i) (stats.maxDiskIo i) (stats.diskIo i)
        maxDiskIoStats := fun i =>
          max3 (sum.maxDiskIoStats i) (stats.maxDiskIoStats i) (stats.diskIoStats i)
        networkInterfaces := some (GoMap.accumulate addNetworkInterface
          (sum.networkInterfaces.getD ∅) (stats.networkInterfaces.getD ∅))
        temperatures :=
          accumulateMap (fun sum value => sum.getD 0 + value) sum.temperatures
            stats.temperatures
        extraFs := accumulateMap addFsStats sum.extraFs stats.extraFs
        gpuData := accumulateMap addGPUData sum.gpuData stats.gpuData } }

/-! ## The averages -/

def twoDecimals (value : ℚ) : ℚ := roundTo 100 value

def averageFsStats (count : ℕ) (fs : FsStats) : FsStats :=
  { fs with
    diskTotal := twoDecimals (fs.diskTotal / count)
    diskUsed := twoDecimals (fs.diskUsed / count)
    diskWritePs := twoDecimals (fs.diskWritePs / count)
    diskReadPs := twoDecimals (fs.diskReadPs / count)
    diskReadBytes := fs.diskReadBytes / count
    diskWriteBytes := fs.diskWriteBytes / count
    diskIoStats := fun i => twoDecimals (fs.diskIoStats i / count) }

def averageGPUData (count : ℕ) (gpu : GPUData) : GPUData :=
  { gpu with
    temperature := twoDecimals (gpu.temperature / count)
    memoryUsed := twoDecimals (gpu.memoryUsed / count)
    memoryTotal := twoDecimals (gpu.memoryTotal / count)
    usage := twoDecimals (gpu.usage / count)
    power := twoDecimals (gpu.power / count)
    count := twoDecimals (gpu.count / count)
    engines := gpu.engines.map (GoMap.mapValues fun value => twoDecimals (value / count)) }

/-- `uint8(v)` of a rounded average of `uint8` values -/
def roundUint8 (value : ℚ) : ℕ := (roundHalfAway value).toNat % 2 ^ 8

def computeAverages (count : ℕ) (totals : Totals) : Stats :=
  let sum := totals.sum
  { sum with
    cpu := twoDecimals (sum.cpu / count)
    mem := twoDecimals (sum.mem / count)
    memUsed := twoDecimals (sum.memUsed / count)
    memPct := twoDecimals (sum.memPct / count)
    memBuffCache := twoDecimals (sum.memBuffCache / count)
    memZfsArc := twoDecimals (sum.memZfsArc / count)
    swap := twoDecimals (sum.swap / count)
    swapUsed := twoDecimals (sum.swapUsed / count)
    diskTotal := twoDecimals (sum.diskTotal / count)
    diskUsed := twoDecimals (sum.diskUsed / count)
    diskPct := twoDecimals (sum.diskPct / count)
    diskReadPs := twoDecimals (sum.diskReadPs / count)
    diskWritePs := twoDecimals (sum.diskWritePs / count)
    diskIo := fun i => sum.diskIo i / count
    diskIoStats := fun i => twoDecimals (sum.diskIoStats i / count)
    networkSent := twoDecimals (sum.networkSent / count)
    networkRecv := twoDecimals (sum.networkRecv / count)
    loadAvg := fun i => twoDecimals (sum.loadAvg i / count)
    bandwidth := fun i => sum.bandwidth i / count
    battery := (totals.batterySum / count % 2 ^ 8, sum.battery.2)
    networkInterfaces := sum.networkInterfaces.map (GoMap.mapValues fun value =>
      ![value 0 / count, value 1 / count, value 2, value 3])
    -- temperatures are divided by the number of records that have them
    temperatures := sum.temperatures.map (GoMap.mapValues fun value =>
      twoDecimals (value / totals.tempCount))
    extraFs := sum.extraFs.map (GoMap.mapValues (averageFsStats count))
    gpuData := sum.gpuData.map (GoMap.mapValues (averageGPUData count))
    cpuCoresUsage := totals.cpuCoresSums.map fun value => roundUint8 (value / count)
    cpuBreakdown := totals.cpuBreakdownSums.map fun value => twoDecimals (value / count) }

def averageSystemStatsSlice (records : List Stats) : Stats :=
  if records.length = 0 then
    {}
  else
    computeAverages records.length (records.foldl accumulateTotals {})

end Bantay.Records
