import Bantay.Lib.Tally
import Bantay.Records.PeakValues
import Mathlib.Tactic.FinCases

/-!
# Averages Field by Field

`AverageSystemStatsSlice` goes through some forty fields twice: once to accumulate them, once to
divide them.  Here each averaged field is a quantity of its own, with its value in a record, its
running total in the loop, and what the averages make of the total.  What the function returns
in a field then depends on the values of that field alone (`AveragedField.view_average`).

Main result: `averages_of_permutation` — the order of the records does not matter, the charge
state of the battery and the names of GPUs apart.
-/

namespace Bantay.Records

open Bantay.Lib

attribute [ext] FsStats GPUData Stats

/-! ## Entries of the maps -/

def Stats.temperature (s : Stats) (key : String) : Option ℚ := s.temperatures.bind (·.lookup key)

def Stats.gpu (s : Stats) (id : String) : Option GPUData := s.gpuData.bind (·.lookup id)

def Stats.network (s : Stats) (key : String) : Option (Fin 4 → ℕ) :=
  s.networkInterfaces.bind (·.lookup key)

def GPUData.engine (gpu : GPUData) (key : String) : Option ℚ := gpu.engines.bind (·.lookup key)

def tempCount (records : List Stats) : ℕ := records.countP (·.temperatures.isSome)

variable {β α : Type} {records : List Stats}

theorem lookup_map_mapValues (f : β → β) (m : Option (GoMap String β)) (key : String) :
    (m.map (GoMap.mapValues f)).bind (·.lookup key) = (m.bind (·.lookup key)).map f := by
  cases m with
  | none => rfl
  | some m => exact GoMap.lookup_mapValues f m key

theorem gpu_accumulateTotals (totals : Totals) (stats : Stats) (id : String) :
    (accumulateTotals totals stats).sum.gpu id =
      (stats.gpu id).elim (totals.sum.gpu id) fun value =>
        some (addGPUData (totals.sum.gpu id) value) :=
  lookup_accumulateMap addGPUData totals.sum.gpuData stats.gpuData id

theorem network_accumulateTotals (totals : Totals) (stats : Stats) (key : String) :
    (accumulateTotals totals stats).sum.network key =
      (stats.network key).elim (totals.sum.network key) fun value =>
        some (addNetworkInterface (totals.sum.network key) value) := by
  have hgetD : ∀ m : Option (GoMap String (Fin 4 → ℕ)),
      (m.getD ∅).lookup key = m.bind (·.lookup key) := by
    intro m
    cases m <;> rfl
  -- the loop makes the map even if the record has none
  show (GoMap.accumulate addNetworkInterface _ _).lookup key = _
  rw [GoMap.lookup_accumulate, hgetD, hgetD]
  rfl

variable (count : ℕ)

theorem gpu_computeAverages (totals : Totals) (id : String) :
    (computeAverages count totals).gpu id = (totals.sum.gpu id).map (averageGPUData count) :=
  lookup_map_mapValues _ totals.sum.gpuData id

theorem network_computeAverages (totals : Totals) (key : String) :
    (computeAverages count totals).network key =
      (totals.sum.network key).map fun value =>
        ![value 0 / count, value 1 / count, value 2, value 3] :=
  lookup_map_mapValues _ totals.sum.networkInterfaces key

theorem engine_addGPUData (sum : Option GPUData) (value : GPUData) (key : String) :
    (addGPUData sum value).engine key =
      (value.engine key).elim (sum.bind (·.engine key)) fun engine =>
        some ((sum.bind (·.engine key)).getD 0 + engine) := by
  have heng := lookup_accumulateMap (fun sum value => sum.getD 0 + value)
    (sum.getD { name := value.name }).engines value.engines key
  -- a new entry has no engines yet
  cases sum <;> exact heng

theorem getElem?_addSlice [Zero α] (add : α → β → α) (sums : List α) (values : List β) (i : ℕ) :
    (addSlice add sums values)[i]? =
      values[i]?.elim sums[i]? fun value => some (add (sums[i]?.getD 0) value) := by
  induction sums, values using addSlice.induct generalizing i with
  | case1 sums => simp [addSlice]
  | case2 value values ih =>
    cases i with
    | zero => rfl
    | succ i => simpa [addSlice] using ih i
  | case3 sum sums value values ih =>
    cases i with
    | zero => rfl
    | succ i => simpa [addSlice] using ih i

theorem map_elim_some {γ : Type} {get : β → α} {read : γ → α} {addEntry : Option β → γ → β}
    (add : Option α → α → α)
    (hadd : ∀ sum value, get (addEntry sum value) = add (sum.map get) (read value))
    (entry : Option γ) (sum : Option β) :
    (entry.elim sum fun value => some (addEntry sum value)).map get =
      (entry.map read).elim (sum.map get) fun value => some (add (sum.map get) value) := by
  cases entry with
  | none => rfl
  | some value => exact congrArg some (hadd sum value)

/-! ## Averaged fields -/

structure AveragedField (α : Type) extends Tally accumulateTotals ({} : Totals) α where
  /-- from the number of records, the number of records with temperatures, and the total -/
  scale : ℕ → ℕ → α → α
  view_averages : ∀ count totals, view (computeAverages count totals) =
    (total totals).map (scale count totals.tempCount)

theorem tempCount_foldl (records : List Stats) (totals : Totals) :
    (records.foldl accumulateTotals totals).tempCount = totals.tempCount + tempCount records := by
  induction records generalizing totals with
  | nil => rfl
  | cons stats records ih =>
    have hstep : (accumulateTotals totals stats).tempCount =
        totals.tempCount + if stats.temperatures.isSome then 1 else 0 := by
      simp only [accumulateTotals]
      split <;> rfl
    rw [List.foldl_cons, ih, hstep, tempCount, tempCount, List.countP_cons]
    omega

variable (f : AveragedField α)

/-- **A field of an average** is known from the values of the field in the records. -/
theorem AveragedField.view_average (hne : records ≠ []) :
    f.view (averageSystemStatsSlice records) =
      (collect f.add (records.filterMap f.view)).map
        (f.scale records.length (Records.tempCount records)) := by
  have hlen : records.length ≠ 0 := fun h => hne (List.length_eq_zero_iff.mp h)
  rw [averageSystemStatsSlice, if_neg hlen, f.view_averages, f.total_foldl hne,
    tempCount_foldl, Nat.zero_add]

theorem AveragedField.view_perm (hswap : Swaps f.add) {records' : List Stats}
    (hperm : records.Perm records') :
    f.view (averageSystemStatsSlice records) = f.view (averageSystemStatsSlice records') := by
  rcases eq_or_ne records [] with rfl | hne
  · rw [hperm.nil_eq]
  · have hne' : records' ≠ [] := by
      rintro rfl
      exact hne hperm.eq_nil
    rw [f.view_average hne, f.view_average hne', hperm.length_eq, tempCount,
      hperm.countP_eq, collect_perm hswap (hperm.filterMap f.view)]
    rfl

/-! ### Floats -/

/-- The averaged fields that are floats, each rounded to two decimals. -/
inductive FloatField where
  | cpu
  | mem
  | memUsed
  | memPct
  | memBuffCache
  | memZfsArc
  | swap
  | swapUsed
  | diskTotal
  | diskUsed
  | diskPct
  | diskReadPs
  | diskWritePs
  | networkSent
  | networkRecv
  | loadAvg (i : Fin 3)
  | diskIoStats (i : Fin 6)
  | cpuBreakdown (i : ℕ)
  | temperature (key : String)
  | fsDiskTotal (key : String)
  | fsDiskUsed (key : String)
  | fsDiskReadPs (key : String)
  | fsDiskWritePs (key : String)
  | fsDiskIoStats (key : String) (i : Fin 6)
  | gpuTemperature (id : String)
  | gpuMemoryUsed (id : String)
  | gpuMemoryTotal (id : String)
  | gpuUsage (id : String)
  | gpuPower (id : String)
  | gpuCount (id : String)
  | gpuEngine (id key : String)

namespace FloatField

/-- The field in a record; a record may lack the sensor, the filesystem, the GPU or the
    engine. -/
def view : FloatField → Stats → Option ℚ
  | cpu, s => some s.cpu
  | mem, s => some s.mem
  | memUsed, s => some s.memUsed
  | memPct, s => some s.memPct
  | memBuffCache, s => some s.memBuffCache
  | memZfsArc, s => some s.memZfsArc
  | swap, s => some s.swap
  | swapUsed, s => some s.swapUsed
  | diskTotal, s => some s.diskTotal
  | diskUsed, s => some s.diskUsed
  | diskPct, s => some s.diskPct
  | diskReadPs, s => some s.diskReadPs
  | diskWritePs, s => some s.diskWritePs
  | networkSent, s => some s.networkSent
  | networkRecv, s => some s.networkRecv
  | loadAvg i, s => some (s.loadAvg i)
  | diskIoStats i, s => some (s.diskIoStats i)
  | cpuBreakdown i, s => s.cpuBreakdown[i]?
  | temperature key, s => s.temperature key
  | fsDiskTotal key, s => (s.fs key).map (·.diskTotal)
  | fsDiskUsed key, s => (s.fs key).map (·.diskUsed)
  | fsDiskReadPs key, s => (s.fs key).map (·.diskReadPs)
  | fsDiskWritePs key, s => (s.fs key).map (·.diskWritePs)
  | fsDiskIoStats key i, s => (s.fs key).map (·.diskIoStats i)
  | gpuTemperature id, s => (s.gpu id).map (·.temperature)
  | gpuMemoryUsed id, s => (s.gpu id).map (·.memoryUsed)
  | gpuMemoryTotal id, s => (s.gpu id).map (·.memoryTotal)
  | gpuUsage id, s => (s.gpu id).map (·.usage)
  | gpuPower id, s => (s.gpu id).map (·.power)
  | gpuCount id, s => (s.gpu id).map (·.count)
  | gpuEngine id key, s => (s.gpu id).bind (·.engine key)

/-- The sum in the loop; the CPU times have their own variable. -/
def total : FloatField → Totals → Option ℚ
  | cpuBreakdown i, totals => totals.cpuBreakdownSums[i]?
  | f, totals => f.view totals.sum

def divisor : FloatField → ℕ → ℕ → ℕ
  | temperature _, _, tempCount => tempCount
  | _, count, _ => count

variable (f : FloatField)

theorem total_accumulateTotals (totals : Totals) (stats : Stats) :
    f.total (accumulateTotals totals stats) =
      (f.view stats).elim (f.total totals) fun value =>
        some ((f.total totals).getD 0 + value) := by
  cases f with
  | cpuBreakdown i => exact getElem?_addSlice _ totals.cpuBreakdownSums stats.cpuBreakdown i
  | temperature key => exact lookup_accumulateMap _ totals.sum.temperatures stats.temperatures key
  | fsDiskTotal key | fsDiskUsed key | fsDiskReadPs key | fsDiskWritePs key
  | fsDiskIoStats key i | gpuTemperature id | gpuMemoryUsed id | gpuMemoryTotal id
  | gpuUsage id | gpuPower id | gpuCount id =>
    simp only [total, view, fs_accumulateTotals, gpu_accumulateTotals]
    refine map_elim_some (fun total value => total.getD 0 + value) ?_ _ _
    intro sum value
    cases sum <;> rfl
  | gpuEngine id key =>
    simp only [total, view, gpu_accumulateTotals]
    cases stats.gpu id with
    | none => rfl
    | some value => exact engine_addGPUData (totals.sum.gpu id) value key
  | _ => rfl

theorem total_start :
    f.total {} = none ∨ (∀ value, (f.total {}).getD 0 + value = (none : Option ℚ).getD 0 + value) ∧
      ∀ stats, (f.view stats).isSome := by
  cases f with
  | cpuBreakdown i | temperature key | fsDiskTotal key | fsDiskUsed key | fsDiskReadPs key
  | fsDiskWritePs key | fsDiskIoStats key i | gpuTemperature id | gpuMemoryUsed id
  | gpuMemoryTotal id | gpuUsage id | gpuPower id | gpuCount id | gpuEngine id key =>
    exact .inl rfl
  | _ => exact .inr ⟨fun _ => rfl, fun _ => rfl⟩

theorem view_computeAverages (count : ℕ) (totals : Totals) :
    f.view (computeAverages count totals) =
      (f.total totals).map fun total =>
        twoDecimals (total / (f.divisor count totals.tempCount : ℕ)) := by
  cases f with
  | cpuBreakdown i => exact List.getElem?_map
  | temperature key => exact lookup_map_mapValues _ totals.sum.temperatures key
  | fsDiskTotal key | fsDiskUsed key | fsDiskReadPs key | fsDiskWritePs key
  | fsDiskIoStats key i | gpuTemperature id | gpuMemoryUsed id | gpuMemoryTotal id
  | gpuUsage id | gpuPower id | gpuCount id =>
    simp only [view, total, fs_computeAverages, gpu_computeAverages, Option.map_map]
    rfl
  | gpuEngine id key =>
    simp only [view, total, gpu_computeAverages, divisor]
    cases totals.sum.gpu id with
    | none => rfl
    | some gpu => exact lookup_map_mapValues _ gpu.engines key
  | _ => rfl

/-- A float is summed, divided and rounded. -/
def averaged (f : FloatField) : AveragedField ℚ where
  view := f.view
  total := f.total
  add total value := total.getD 0 + value
  total_step := f.total_accumulateTotals
  total_start := f.total_start
  scale count tempCount total := twoDecimals (total / (f.divisor count tempCount : ℕ))
  view_averages := f.view_computeAverages

theorem averaged_swaps : Swaps f.averaged.add :=
  fun total v w => add_right_comm (total.getD 0) v w

end FloatField

/-! ### Integers -/

inductive IntField where
  | bandwidth (i : Fin 2)
  | diskIo (i : Fin 2)
  | batteryPercent
  | cpuCoresUsage (i : ℕ)
  | networkSent (key : String)
  | networkRecv (key : String)
  | fsDiskReadBytes (key : String)
  | fsDiskWriteBytes (key : String)

namespace IntField

def view : IntField → Stats → Option ℕ
  | bandwidth i, s => some (s.bandwidth i)
  | diskIo i, s => some (s.diskIo i)
  | batteryPercent, s => some s.battery.1
  | cpuCoresUsage i, s => s.cpuCoresUsage[i]?
  | networkSent key, s => (s.network key).map fun value => (interfaceRates value).1
  | networkRecv key, s => (s.network key).map fun value => (interfaceRates value).2
  | fsDiskReadBytes key, s => (s.fs key).map (·.diskReadBytes)
  | fsDiskWriteBytes key, s => (s.fs key).map (·.diskWriteBytes)

/-- The sum in the loop; the battery and the cores have their own variables. -/
def total : IntField → Totals → Option ℕ
  | batteryPercent, totals => some totals.batterySum
  | cpuCoresUsage i, totals => totals.cpuCoresSums[i]?
  | f, totals => f.view totals.sum

/-- `batterySum` is an `int`, all other sums are `uint64`. -/
def add : IntField → ℕ → ℕ → ℕ
  | batteryPercent => (· + ·)
  | _ => addUint64

/-- Integers are divided as such, but for the cores, which are rounded. -/
def scale : IntField → ℕ → ℕ → ℕ
  | batteryPercent, count, sum => sum / count % 2 ^ 8
  | cpuCoresUsage _, count, sum => roundUint8 (sum / count)
  | _, count, sum => sum / count

variable (f : IntField)

theorem total_accumulateTotals (totals : Totals) (stats : Stats) :
    f.total (accumulateTotals totals stats) =
      (f.view stats).elim (f.total totals) fun value =>
        some (f.add ((f.total totals).getD 0) value) := by
  cases f with
  | bandwidth i | diskIo i | batteryPercent => rfl
  | cpuCoresUsage i => exact getElem?_addSlice _ totals.cpuCoresSums stats.cpuCoresUsage i
  | networkSent key | networkRecv key | fsDiskReadBytes key | fsDiskWriteBytes key =>
    simp only [total, view, network_accumulateTotals, fs_accumulateTotals]
    refine map_elim_some (fun total value => addUint64 (total.getD 0) value) ?_ _ _
    intro sum value
    cases sum <;> rfl

theorem total_start :
    f.total {} = none ∨ (∀ value, f.add ((f.total {}).getD 0) value =
      f.add ((none : Option ℕ).getD 0) value) ∧ ∀ stats, (f.view stats).isSome := by
  cases f with
  | bandwidth i | diskIo i | batteryPercent => exact .inr ⟨fun _ => rfl, fun _ => rfl⟩
  | cpuCoresUsage i | networkSent key | networkRecv key | fsDiskReadBytes key
  | fsDiskWriteBytes key => exact .inl rfl

theorem view_computeAverages (count : ℕ) (totals : Totals) :
    f.view (computeAverages count totals) = (f.total totals).map (f.scale count) := by
  cases f with
  | bandwidth i | diskIo i | batteryPercent => rfl
  | cpuCoresUsage i =>
    -- the sums are converted to floats before the division
    have hfloats : (totals.cpuCoresSums >>= fun sum => pure (sum : ℚ)) =
        List.map (Nat.cast : ℕ → ℚ) totals.cpuCoresSums := List.flatMap_pure_eq_map _ _
    show ((totals.cpuCoresSums >>= fun sum => pure (sum : ℚ)).map fun value =>
      roundUint8 (value / count))[i]? = _
    rw [hfloats, List.map_map, List.getElem?_map]
    rfl
  | networkSent key | networkRecv key | fsDiskReadBytes key | fsDiskWriteBytes key =>
    simp only [view, total, network_computeAverages, fs_computeAverages, Option.map_map]
    rfl

def averaged (f : IntField) : AveragedField ℕ where
  view := f.view
  total := f.total
  add total value := f.add (total.getD 0) value
  total_step := f.total_accumulateTotals
  total_start := f.total_start
  scale count _ total := f.scale count total
  view_averages := f.view_computeAverages

theorem addUint64_swap (total v w : ℕ) :
    addUint64 (addUint64 total v) w = addUint64 (addUint64 total w) v := by
  simp only [addUint64, Nat.mod_add_mod]
  rw [Nat.add_right_comm]

theorem averaged_swaps : Swaps f.averaged.add := by
  intro total v w
  cases f with
  | batteryPercent => exact Nat.add_right_comm _ v w
  | bandwidth i | diskIo i | cpuCoresUsage i | networkSent key | networkRecv key
  | fsDiskReadBytes key | fsDiskWriteBytes key => exact addUint64_swap _ v w

end IntField

/-! ### What is kept without being divided -/

def Stats.networkTotals (s : Stats) (key : String) : Option (ℕ × ℕ) :=
  (s.network key).map interfaceTotals

/-- Of the totals of a network interface the larger is kept. -/
def networkTotalsField (key : String) : AveragedField (ℕ × ℕ) where
  view s := s.networkTotals key
  total totals := totals.sum.networkTotals key
  add total value := ((total.getD (0, 0)) ⊔ value)
  total_step totals stats := by
    simp only [Stats.networkTotals, network_accumulateTotals]
    refine map_elim_some (fun total value => (total.getD (0, 0)) ⊔ value) ?_ _ _
    intro sum value
    cases sum <;> rfl
  total_start := .inl rfl
  scale _ _ total := total
  view_averages count totals := by
    simp only [Stats.networkTotals, network_computeAverages, Option.map_map]
    rfl

theorem networkTotalsField_swaps (key : String) : Swaps (networkTotalsField key).add :=
  fun total v w => sup_right_comm (total.getD (0, 0)) v w

/-- The whole entry of an extra filesystem, its peaks included. -/
def fsField (key : String) : AveragedField FsStats where
  view s := s.fs key
  total totals := totals.sum.fs key
  add := addFsStats
  total_step totals stats := fs_accumulateTotals totals stats key
  total_start := .inl rfl
  scale count _ total := averageFsStats count total
  view_averages count totals := fs_computeAverages count totals key

theorem max3_swap {α : Type*} [LinearOrder α] (a b c d e : α) :
    max3 (max3 a b c) d e = max3 (max3 a d e) b c := by
  simp only [max3]
  ac_rfl

theorem fsField_swaps (key : String) : Swaps (fsField key).add := by
  intro total v w
  apply FsStats.ext
  case diskTotal | diskUsed | diskReadPs | diskWritePs => exact add_right_comm _ _ _
  case diskIoStats => exact funext fun i => add_right_comm _ _ _
  case diskReadBytes | diskWriteBytes => exact IntField.addUint64_swap _ _ _
  case maxDiskIoStats => exact funext fun i => max3_swap _ _ _ _ _
  case maxDiskReadPS | maxDiskWritePS | maxDiskReadBytes | maxDiskWriteBytes =>
    exact max3_swap _ _ _ _ _

/-- The package power of a GPU is not accumulated: a new entry starts with zero. -/
def powerPkgField (id : String) : AveragedField ℚ where
  view s := (s.gpu id).map (·.powerPkg)
  total totals := (totals.sum.gpu id).map (·.powerPkg)
  add total _ := total.getD 0
  total_step totals stats := by
    simp only [gpu_accumulateTotals]
    refine map_elim_some (fun total _ => total.getD 0) ?_ _ _
    intro sum value
    cases sum <;> rfl
  total_start := .inl rfl
  scale _ _ total := total
  view_averages count totals := by
    simp only [gpu_computeAverages, Option.map_map]
    rfl

/-- The maps that a record may lack. -/
inductive MapField where
  | temperatures
  | extraFs
  | gpuData
  | engines (id : String)

namespace MapField

/-- Whether a record has the map. -/
def view : MapField → Stats → Option Unit
  | temperatures, s => s.temperatures.map fun _ => ()
  | extraFs, s => s.extraFs.map fun _ => ()
  | gpuData, s => s.gpuData.map fun _ => ()
  | engines id, s => (s.gpu id).bind fun gpu => gpu.engines.map fun _ => ()

theorem map_accumulateMap {β γ : Type} (f : Option β → γ → β) (acc : Option (GoMap String β))
    (m : Option (GoMap String γ)) :
    (accumulateMap f acc m).map (fun _ => ()) =
      (m.map fun _ => ()).elim (acc.map fun _ => ()) fun _ => some () := by
  cases m <;> rfl

theorem view_accumulateTotals (m : MapField) (totals : Totals) (stats : Stats) :
    m.view (accumulateTotals totals stats).sum =
      (m.view stats).elim (m.view totals.sum) fun _ => some () := by
  cases m with
  | temperatures => exact map_accumulateMap _ totals.sum.temperatures stats.temperatures
  | extraFs => exact map_accumulateMap _ totals.sum.extraFs stats.extraFs
  | gpuData => exact map_accumulateMap _ totals.sum.gpuData stats.gpuData
  | engines id =>
    simp only [view, gpu_accumulateTotals]
    cases stats.gpu id with
    | none => rfl
    | some value =>
      have hengs := map_accumulateMap (fun sum value => sum.getD 0 + value)
        ((totals.sum.gpu id).getD { name := value.name }).engines value.engines
      generalize totals.sum.gpu id = sum at hengs ⊢
      cases sum <;> exact hengs

theorem view_computeAverages (m : MapField) (count : ℕ) (totals : Totals) :
    m.view (computeAverages count totals) = m.view totals.sum := by
  cases m with
  | temperatures | extraFs | gpuData => exact Option.map_map ..
  | engines id =>
    simp only [view, gpu_computeAverages]
    cases totals.sum.gpu id with
    | none => rfl
    | some gpu => exact Option.map_map ..

def averaged (m : MapField) : AveragedField Unit where
  view := m.view
  total totals := m.view totals.sum
  add _ _ := ()
  total_step := m.view_accumulateTotals
  total_start := .inl (by cases m <;> rfl)
  scale _ _ total := total
  view_averages count totals := (m.view_computeAverages count totals).trans Option.map_id'.symm

end MapField

/-! ## The order of the records -/

def Stats.withoutMaps (s : Stats) : Stats :=
  { s with
    battery := (s.battery.1, 0)
    temperatures := none
    extraFs := none
    gpuData := none
    networkInterfaces := none }

/-- What a map has for each key. -/
def entriesOf {β : Type} (m : Option (GoMap String β)) : Option (String → Option β) :=
  m.map fun m key => m.lookup key

/-- The fields of a GPU, without its name. -/
def GPUData.content (gpu : GPUData) : GPUData × Option (String → Option ℚ) :=
  ({ gpu with name := "", engines := none }, entriesOf gpu.engines)

structure SameResult (a b : Stats) : Prop where
  fields : a.withoutMaps = b.withoutMaps
  temperatures : entriesOf a.temperatures = entriesOf b.temperatures
  extraFs : entriesOf a.extraFs = entriesOf b.extraFs
  gpuData : (entriesOf a.gpuData).map (fun gpus id => (gpus id).map GPUData.content) =
    (entriesOf b.gpuData).map fun gpus id => (gpus id).map GPUData.content
  networkInterfaces : entriesOf a.networkInterfaces = entriesOf b.networkInterfaces

theorem entriesOf_map_eq {β δ : Type} (f : β → δ) {m m' : Option (GoMap String β)}
    (hpres : m.map (fun _ => ()) = m'.map fun _ => ())
    (hlookup : ∀ key, (m.bind (·.lookup key)).map f = (m'.bind (·.lookup key)).map f) :
    (entriesOf m).map (fun entries key => (entries key).map f) =
      (entriesOf m').map fun entries key => (entries key).map f := by
  cases m <;> cases m'
  · rfl
  · cases hpres
  · cases hpres
  · exact congrArg some (funext hlookup)

theorem entriesOf_eq {β : Type} {m m' : Option (GoMap String β)}
    (hpres : m.map (fun _ => ()) = m'.map fun _ => ())
    (hlookup : ∀ key, m.bind (·.lookup key) = m'.bind (·.lookup key)) :
    entriesOf m = entriesOf m' := by
  simpa using entriesOf_map_eq id hpres (by simpa using hlookup)

section Views

variable {a b : Stats}

theorem network_eq_of_views (hints : ∀ f : IntField, f.view a = f.view b)
    (htotals : ∀ key, a.networkTotals key = b.networkTotals key) (key : String) :
    a.network key = b.network key := by
  have hsent := hints (.networkSent key)
  have hrecv := hints (.networkRecv key)
  have htot := htotals key
  simp only [IntField.view, Stats.networkTotals] at hsent hrecv htot
  cases ha : a.network key with
  | none => rw [ha] at hsent; exact (Option.map_eq_none_iff.mp hsent.symm).symm
  | some value =>
    cases hb : b.network key with
    | none => simp [ha, hb] at hsent
    | some value' =>
      simp only [ha, hb, Option.map_some, Option.some.injEq] at hsent hrecv htot
      congr 1
      funext i
      fin_cases i
      exacts [hsent, hrecv, congrArg Prod.fst htot, congrArg Prod.snd htot]

theorem gpu_content_eq_of_views (hfloats : ∀ f : FloatField, f.view a = f.view b)
    (hpowerPkg : ∀ id, (a.gpu id).map (·.powerPkg) = (b.gpu id).map (·.powerPkg))
    (hmaps : ∀ m : MapField, m.view a = m.view b) (id : String) :
    (a.gpu id).map GPUData.content = (b.gpu id).map GPUData.content := by
  have hpkg := hpowerPkg id
  have hengs := hmaps (.engines id)
  have heng := fun key => hfloats (.gpuEngine id key)
  have hfields := And.intro (hfloats (.gpuTemperature id)) <| And.intro
    (hfloats (.gpuMemoryUsed id)) <| And.intro (hfloats (.gpuMemoryTotal id)) <| And.intro
    (hfloats (.gpuUsage id)) <| And.intro (hfloats (.gpuPower id)) (hfloats (.gpuCount id))
  simp only [FloatField.view, MapField.view] at hfields heng hengs
  cases ha : a.gpu id with
  | none => rw [ha] at hpkg; rw [Option.map_eq_none_iff.mp hpkg.symm]
  | some gpu =>
    cases hb : b.gpu id with
    | none => simp [ha, hb] at hpkg
    | some gpu' =>
      simp only [ha, hb, Option.map_some, Option.some.injEq] at hpkg hfields
      simp only [ha, hb, Option.bind_some] at heng hengs
      obtain ⟨htemperature, hused, htot, husage, hpower, hcount⟩ := hfields
      rw [Option.map_some, Option.map_some, GPUData.content, GPUData.content,
        entriesOf_eq hengs heng]
      congr 2
      apply GPUData.ext <;> first | rfl | assumption

theorem withoutMaps_eq_of_views (hfloats : ∀ f : FloatField, f.view a = f.view b)
    (hints : ∀ f : IntField, f.view a = f.view b)
    (hfloatPeaks : ∀ f : FloatPeak, f.view a = f.view b)
    (hbytePeaks : ∀ f : BytePeak, f.view a = f.view b) : a.withoutMaps = b.withoutMaps := by
  have hpeak : ∀ f : FloatPeak, (f.view a).map Reading.peak = (f.view b).map Reading.peak :=
    fun f => congrArg (Option.map Reading.peak) (hfloatPeaks f)
  have hbytePeak : ∀ f : BytePeak, (f.view a).map Reading.peak = (f.view b).map Reading.peak :=
    fun f => congrArg (Option.map Reading.peak) (hbytePeaks f)
  apply Stats.ext
  case cpu => exact Option.some.inj (hfloats .cpu)
  case mem => exact Option.some.inj (hfloats .mem)
  case memUsed => exact Option.some.inj (hfloats .memUsed)
  case memPct => exact Option.some.inj (hfloats .memPct)
  case memBuffCache => exact Option.some.inj (hfloats .memBuffCache)
  case memZfsArc => exact Option.some.inj (hfloats .memZfsArc)
  case swap => exact Option.some.inj (hfloats .swap)
  case swapUsed => exact Option.some.inj (hfloats .swapUsed)
  case diskTotal => exact Option.some.inj (hfloats .diskTotal)
  case diskUsed => exact Option.some.inj (hfloats .diskUsed)
  case diskPct => exact Option.some.inj (hfloats .diskPct)
  case diskReadPs => exact Option.some.inj (hfloats .diskReadPs)
  case diskWritePs => exact Option.some.inj (hfloats .diskWritePs)
  case networkSent => exact Option.some.inj (hfloats .networkSent)
  case networkRecv => exact Option.some.inj (hfloats .networkRecv)
  case loadAvg => exact funext fun i => Option.some.inj (hfloats (.loadAvg i))
  case diskIoStats => exact funext fun i => Option.some.inj (hfloats (.diskIoStats i))
  case cpuBreakdown => exact List.ext_getElem? fun i => hfloats (.cpuBreakdown i)
  case bandwidth => exact funext fun i => Option.some.inj (hints (.bandwidth i))
  case diskIo => exact funext fun i => Option.some.inj (hints (.diskIo i))
  case battery => exact congrArg (·, 0) (Option.some.inj (hints .batteryPercent))
  case cpuCoresUsage => exact List.ext_getElem? fun i => hints (.cpuCoresUsage i)
  case maxCpu => exact Option.some.inj (hpeak .cpu)
  case maxMem => exact Option.some.inj (hpeak .mem)
  case maxNetworkSent => exact Option.some.inj (hpeak .networkSent)
  case maxNetworkRecv => exact Option.some.inj (hpeak .networkRecv)
  case maxDiskReadPs => exact Option.some.inj (hpeak .diskReadPs)
  case maxDiskWritePs => exact Option.some.inj (hpeak .diskWritePs)
  case maxDiskIoStats => exact funext fun i => Option.some.inj (hpeak (.diskIoStats i))
  case maxBandwidth => exact funext fun i => Option.some.inj (hbytePeak (.bandwidth i))
  case maxDiskIo => exact funext fun i => Option.some.inj (hbytePeak (.diskIo i))
  -- the maps are left out
  all_goals rfl

end Views

section Order

variable {records' : List Stats}

theorem FloatPeak.view_perm (f : FloatPeak) (hperm : records.Perm records') (hne : records ≠ []) :
    f.view (averageSystemStatsSlice records) = f.view (averageSystemStatsSlice records') := by
  have hne' : records' ≠ [] := fun h => hne (h ▸ hperm).eq_nil
  rw [f.view_average records hne, f.view_average records' hne', hperm.length_eq]
  exact Reading.average_perm add_right_comm _ _ (hperm.filterMap f.view)

theorem BytePeak.view_perm (f : BytePeak) (hperm : records.Perm records') (hne : records ≠ []) :
    f.view (averageSystemStatsSlice records) = f.view (averageSystemStatsSlice records') := by
  have hne' : records' ≠ [] := fun h => hne (h ▸ hperm).eq_nil
  rw [f.view_average records hne, f.view_average records' hne', hperm.length_eq]
  exact Reading.average_perm IntField.addUint64_swap _ _ (hperm.filterMap f.view)

theorem networkInterfaces_isSome (hne : records ≠ []) :
    (averageSystemStatsSlice records).networkInterfaces.map (fun _ => ()) = some () := by
  obtain ⟨first, rest, rfl⟩ := List.exists_cons_of_ne_nil hne
  have hfirst : (accumulateTotals {} first).sum.networkInterfaces.map (fun _ => ()) =
      some () := rfl
  have hsome : (rest.foldl accumulateTotals (accumulateTotals {} first)).sum.networkInterfaces.map
      (fun _ => ()) = some () :=
    List.foldlRecOn (motive := fun totals : Totals =>
      totals.sum.networkInterfaces.map (fun _ => ()) = some ()) rest accumulateTotals hfirst
      fun _ _ _ _ => rfl
  rw [← hsome]
  exact Option.map_map ..

/-- **The order of the records does not matter**: a permutation has the same averages, sums, peaks
    and maps, the charge state of the battery and the names of GPUs apart. -/
theorem averages_of_permutation (hperm : records.Perm records') :
    SameResult (averageSystemStatsSlice records) (averageSystemStatsSlice records') := by
  rcases eq_or_ne records [] with rfl | hne
  · rw [hperm.nil_eq]
    exact ⟨rfl, rfl, rfl, rfl, rfl⟩
  · have hne' : records' ≠ [] := fun h => hne (h ▸ hperm).eq_nil
    have hfloats := fun f : FloatField => f.averaged.view_perm f.averaged_swaps hperm
    have hints := fun f : IntField => f.averaged.view_perm f.averaged_swaps hperm
    have hmaps := fun m : MapField => m.averaged.view_perm (fun _ _ _ => rfl) hperm
    have htotals := fun key =>
      (networkTotalsField key).view_perm (networkTotalsField_swaps key) hperm
    have hpowerPkg := fun id => (powerPkgField id).view_perm (fun _ _ _ => rfl) hperm
    constructor
    case fields =>
      exact withoutMaps_eq_of_views hfloats hints (fun f => f.view_perm hperm hne)
        fun f => f.view_perm hperm hne
    case temperatures =>
      exact entriesOf_eq (hmaps .temperatures) fun key => hfloats (.temperature key)
    case extraFs =>
      exact entriesOf_eq (hmaps .extraFs) fun key =>
        (fsField key).view_perm (fsField_swaps key) hperm
    case networkInterfaces =>
      refine entriesOf_eq ?_ (network_eq_of_views hints htotals)
      rw [networkInterfaces_isSome hne, networkInterfaces_isSome hne']
    case gpuData =>
      exact entriesOf_map_eq GPUData.content (hmaps .gpuData)
        (gpu_content_eq_of_views hfloats hpowerPkg hmaps)

theorem averages_of_swapped :
    [busyStats, idleStats].Perm [idleStats, busyStats] ∧
      SameResult (averageSystemStatsSlice [busyStats, idleStats])
        (averageSystemStatsSlice [idleStats, busyStats]) :=
  ⟨List.Perm.swap .., averages_of_permutation (List.Perm.swap ..)⟩

end Order

end Bantay.Records
