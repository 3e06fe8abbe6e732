import Bantay.Agent.Gpu
import Mathlib.Data.List.DropRight
import Mathlib.Data.NNRat.BigOperators

/-!
# The Averages GetCurrentData Returns

What a call reports for a GPU, in terms of the events before it: the samples since the previous
call with the same key, and their means.

- `tracks_after` — the totals of the manager are those of all samples, its snapshot for a key those
  of the samples before the previous call with the key
- `report_of_new_samples` — with new samples, the report has their means
- `report_of_gap` — without, it repeats the latest average, perhaps that of another key
-/

namespace Bantay.Agent.Gpu

open Bantay.Lib List

/-! ## Samples of a history -/

def sampleOf (id : String) : GpuEvent → Option GpuSample
  | .sample id' sample => if id' = id then some sample else none
  | _ => none

def samples (id : String) (history : List GpuEvent) : List GpuSample :=
  history.filterMap (sampleOf id)

def isCall (cacheKey : UInt16) : GpuEvent → Bool
  | .getCurrentData key => key = cacheKey
  | _ => false

/-- The samples since the previous call with a key. -/
def newSamples (cacheKey : UInt16) (id : String) (history : List GpuEvent) : List GpuSample :=
  samples id (history.rtakeWhile fun event => !isCall cacheKey event)

/-- The samples up to the previous call with a key. -/
def seenSamples (cacheKey : UInt16) (id : String) (history : List GpuEvent) : List GpuSample :=
  samples id (history.rdropWhile fun event => !isCall cacheKey event)

/-- The busy time of an engine in a sample. -/
def reading (name : String) (sample : GpuSample) : ℚ≥0 :=
  (sample.engines.bind fun readings => readings.lookup name).getD 0

def sampleEngines (sample : GpuSample) : Finset String :=
  ((sample.engines.getD ∅).keys).toFinset

/-! ## Means -/

def mean (readings : List ℚ) : ℚ := readings.sum / readings.length

def engineMean (new : List GpuSample) (name : String) : ℚ≥0 :=
  (new.map (reading name)).sum / new.length

def ReportsEngines (all : List GpuSample) : Prop := ∃ sample ∈ all, sample.engines.isSome
deriving Decidable

def engineNames (all : List GpuSample) : Finset String :=
  all.foldr (fun sample names => sampleEngines sample ∪ names) ∅

def largestEngineMean (all new : List GpuSample) : ℚ≥0 :=
  (engineNames all).sup (engineMean new)

def averagePower (new : List GpuSample) : ℚ := roundTo 100 (mean (new.map (·.power)))

def averageUsage (all new : List GpuSample) : ℚ :=
  if ReportsEngines all then roundTo 100 (largestEngineMean all new)
  else roundTo 100 (mean (new.map (·.usage)))

/-! ## Histories that grow -/

section Histories

variable {cacheKey : UInt16} {id : String} {history : List GpuEvent} {event : GpuEvent}

theorem after_concat : after (history ++ [event]) = step (after history) event := by
  simp [after]

theorem samples_concat :
    samples id (history ++ [event]) = samples id history ++ (sampleOf id event).toList := by
  cases h : sampleOf id event <;> simp [samples, h]

theorem seenSamples_concat_call (h : isCall cacheKey event = true) :
    seenSamples cacheKey id (history ++ [event]) = samples id history := by
  have hnone : sampleOf id event = none := by
    cases event <;> simp_all [isCall, sampleOf]
  rw [seenSamples, rdropWhile_concat_neg _ _ _ (by simp [h]), samples_concat, hnone]
  simp

theorem seenSamples_concat (h : isCall cacheKey event = false) :
    seenSamples cacheKey id (history ++ [event]) = seenSamples cacheKey id history := by
  rw [seenSamples, rdropWhile_concat_pos _ _ _ (by simp [h]), seenSamples]

theorem samples_eq_seen_append_new (cacheKey : UInt16) (id : String) (history : List GpuEvent) :
    samples id history = seenSamples cacheKey id history ++ newSamples cacheKey id history := by
  unfold seenSamples newSamples samples
  rw [← filterMap_append, rdropWhile_append_rtakeWhile]

end Histories

/-! ## The totals of the manager -/

def engineTotal (engines : Option (GoMap String ℚ)) (name : String) : ℚ :=
  (engines.bind fun engines => engines.lookup name).getD 0

def totalReading (all : List GpuSample) (name : String) : ℚ≥0 := (all.map (reading name)).sum

structure EntryTracks (gpu : GpuData) (all : List GpuSample) : Prop where
  usage : gpu.usage = (all.map (·.usage)).sum
  power : gpu.power = (all.map (·.power)).sum
  count : gpu.count = all.length
  engine : ∀ name, engineTotal gpu.engines name = totalReading all name
  isSome : gpu.engines.isSome ↔ ReportsEngines all
  names : ∀ name, name ∈ gpu.engines.getD ∅ ↔ name ∈ engineNames all

variable (name : String)

theorem entryTracks_new : EntryTracks (.new name) [] where
  usage := rfl
  power := rfl
  count := rfl
  engine _ := by simp [GpuData.new, engineTotal, totalReading]
  isSome := by simp [GpuData.new, ReportsEngines]
  names name' := by simp [GpuData.new, engineNames]

variable {gpu : GpuData} {all : List GpuSample}

theorem EntryTracks.suspend (h : EntryTracks gpu all) :
    EntryTracks gpu.suspend all :=
  ⟨h.usage, h.power, h.count, h.engine, h.isSome, h.names⟩

variable (totals : GoMap String ℚ) (readings : GoMap String ℚ≥0)

theorem lookup_addEngines :
    ((addEngines totals readings).lookup name).getD 0 =
      (totals.lookup name).getD 0 + ((readings.lookup name).getD 0 : ℚ≥0) := by
  rw [addEngines, GoMap.lookup_accumulate]
  cases readings.lookup name <;> simp

theorem mem_addEngines :
    name ∈ addEngines totals readings ↔ name ∈ readings ∨ name ∈ totals := by
  rw [← AList.lookup_isSome, ← AList.lookup_isSome, ← AList.lookup_isSome, addEngines,
    GoMap.lookup_accumulate]
  cases readings.lookup name <;> simp

theorem engineTotal_addSample (gpu : GpuData) (sample : GpuSample) (name : String) :
    engineTotal (gpu.addSample sample).engines name =
      engineTotal gpu.engines name + reading name sample := by
  unfold engineTotal reading GpuData.addSample
  cases hengs : sample.engines with
  | none => simp
  | some readings =>
    rw [Option.bind_some, lookup_addEngines]
    cases gpu.engines <;> simp

theorem engineNames_concat (all : List GpuSample) (sample : GpuSample) (name : String) :
    name ∈ engineNames (all ++ [sample]) ↔
      name ∈ sampleEngines sample ∨ name ∈ engineNames all := by
  induction all with
  | nil => simp [engineNames]
  | cons first all ih =>
    have hcons (rest : List GpuSample) :
        name ∈ engineNames (first :: rest) ↔
          name ∈ sampleEngines first ∨ name ∈ engineNames rest := by
      simp [engineNames]
    rw [cons_append, hcons, ih, hcons]
    tauto

theorem EntryTracks.addSample (h : EntryTracks gpu all) (sample : GpuSample) :
    EntryTracks (gpu.addSample sample) (all ++ [sample]) where
  usage := by simp [GpuData.addSample, h.usage]
  power := by simp [GpuData.addSample, h.power]
  count := by simp [GpuData.addSample, h.count]
  engine name := by
    rw [engineTotal_addSample, h.engine]
    simp [totalReading]
  isSome := by
    have hall : ReportsEngines (all ++ [sample]) ↔ ReportsEngines all ∨ sample.engines.isSome := by
      simp [ReportsEngines, or_and_right, exists_or]
    rw [hall, ← h.isSome]
    cases hengs : sample.engines <;> simp [GpuData.addSample, hengs]
  names name := by
    rw [engineNames_concat, ← h.names]
    cases hengs : sample.engines with
    | none => simp [GpuData.addSample, sampleEngines, hengs]
    | some readings =>
      have hset : (gpu.addSample sample).engines =
          some (addEngines (gpu.engines.getD ∅) readings) := by
        simp [GpuData.addSample, hengs]
      rw [hset, Option.getD_some, mem_addEngines, sampleEngines, hengs, Option.getD_some,
        mem_toFinset, AList.mem_keys]

/-- A snapshot holds the totals of the samples it has seen.  None holds zeros. -/
structure SnapshotTracks (snapshot : Option GpuSnapshot) (seen : List GpuSample) : Prop where
  usage : snapshot.elim 0 (·.usage) = (seen.map (·.usage)).sum
  power : snapshot.elim 0 (·.power) = (seen.map (·.power)).sum
  count : snapshot.elim 0 (·.count) = UInt32.ofNat seen.length
  engine : ∀ name, engineTotal (snapshot.bind (·.engines)) name = totalReading seen name

theorem snapshotTracks_none : SnapshotTracks none [] where
  usage := rfl
  power := rfl
  count := rfl
  engine _ := by simp [engineTotal, totalReading]

theorem EntryTracks.takeSnapshot (h : EntryTracks gpu all) :
    SnapshotTracks (some (takeSnapshot gpu)) all where
  usage := h.usage
  power := h.power
  count := congrArg UInt32.ofNat h.count
  engine := h.engine

structure Tracks (history : List GpuEvent) (manager : GpuManager) : Prop where
  missing : ∀ id, manager.gpuDataMap.lookup id = none → samples id history = []
  entry : ∀ id gpu, manager.gpuDataMap.lookup id = some gpu → EntryTracks gpu (samples id history)
  snapshot : ∀ cacheKey id,
    SnapshotTracks (manager.lastSnapshots cacheKey id) (seenSamples cacheKey id history)

theorem tracks_new : Tracks [] .new where
  missing _ _ := rfl
  entry id gpu h := by simp [GpuManager.new] at h
  snapshot _ _ := snapshotTracks_none

section Steps

variable {history : List GpuEvent} {manager : GpuManager} (h : Tracks history manager)
include h

theorem Tracks.seen_new_of_missing (cacheKey : UInt16) {id : String}
    (hlookup : manager.gpuDataMap.lookup id = none) :
    seenSamples cacheKey id history = [] ∧ newSamples cacheKey id history = [] := by
  have hall := h.missing id hlookup
  rw [samples_eq_seen_append_new cacheKey] at hall
  exact append_eq_nil_iff.mp hall

variable (event : GpuEvent)

theorem Tracks.update (id name : String) (change : GpuData → GpuData)
    (hcall : ∀ cacheKey, isCall cacheKey event = false)
    (hother : ∀ id', id' ≠ id → sampleOf id' event = none)
    (hchg : ∀ gpu all, EntryTracks gpu all →
      EntryTracks (change gpu) (all ++ (sampleOf id event).toList)) :
    Tracks (history ++ [event]) (manager.update id name change) := by
  have hgpu : EntryTracks ((manager.gpuDataMap.lookup id).getD (.new name))
      (samples id history) := by
    cases hlookup : manager.gpuDataMap.lookup id with
    | none =>
      rw [h.missing id hlookup]
      exact entryTracks_new name
    | some gpu => exact h.entry id gpu hlookup
  refine ⟨fun id' hlookup => ?_, fun id' gpu hlookup => ?_, fun cacheKey id' => ?_⟩
  · -- the GPU of the event has an entry now
    by_cases hid : id' = id
    · subst hid
      simp [GpuManager.update] at hlookup
    · rw [GpuManager.update, AList.lookup_insert_ne hid] at hlookup
      rw [samples_concat, h.missing id' hlookup, hother id' hid]
      rfl
  · rw [samples_concat]
    by_cases hid : id' = id
    · subst hid
      rw [GpuManager.update, AList.lookup_insert, Option.some.injEq] at hlookup
      rw [← hlookup]
      exact hchg _ _ hgpu
    · rw [GpuManager.update, AList.lookup_insert_ne hid] at hlookup
      rw [hother id' hid, Option.toList_none, append_nil]
      exact h.entry id' gpu hlookup
  · -- snapshots are taken by calls alone
    rw [seenSamples_concat (hcall cacheKey)]
    exact h.snapshot cacheKey id'

theorem Tracks.afterReport (cacheKey : UInt16) :
    Tracks (history ++ [.getCurrentData cacheKey]) (manager.afterReport cacheKey) := by
  have hsamps (id : String) :
      samples id (history ++ [.getCurrentData cacheKey]) = samples id history := by
    rw [samples_concat]
    simp [sampleOf]
  refine ⟨fun id hlookup => ?_, fun id gpu hlookup => ?_, fun key id => ?_⟩
  · rw [hsamps]
    exact h.missing id hlookup
  · rw [hsamps]
    exact h.entry id gpu hlookup
  · by_cases hkey : key = cacheKey
    · subst hkey
      rw [seenSamples_concat_call (by simp [isCall])]
      simp only [GpuManager.afterReport, if_true]
      cases hlookup : manager.gpuDataMap.lookup id with
      | some gpu => exact (h.entry id gpu hlookup).takeSnapshot
      | none =>
        -- no snapshot is taken, and the old one is as good as one of no samples
        have hsnap := h.snapshot key id
        rw [(h.seen_new_of_missing key hlookup).1] at hsnap
        rw [h.missing id hlookup]
        exact hsnap
    · -- the snapshots for other keys stay
      rw [seenSamples_concat (by simpa [isCall] using fun heq => hkey heq.symm)]
      simp only [GpuManager.afterReport, if_neg hkey]
      exact h.snapshot key id

/-- **One event** is added to the history and to the sums. -/
theorem Tracks.step : Tracks (history ++ [event]) (step manager event) := by
  cases event with
  | detect id name =>
    refine h.update (.detect id name) id name (fun gpu => gpu) ?_ ?_ ?_
    · simp [isCall]
    · simp [sampleOf]
    · simp [sampleOf]
  | sample id sample =>
    refine h.update (.sample id sample) id sample.name (fun gpu => gpu.addSample sample)
      (by simp [isCall]) (fun id' hid => if_neg (Ne.symm hid)) fun gpu all hgpu => ?_
    rw [sampleOf, if_pos rfl]
    exact hgpu.addSample sample
  | suspend id name =>
    refine h.update (.suspend id name) id name _ (by simp [isCall]) (by simp [sampleOf])
      fun gpu all hgpu => ?_
    simpa [sampleOf] using hgpu.suspend
  | getCurrentData cacheKey => exact h.afterReport cacheKey

end Steps

/-- **Totals**: after every history the manager keeps the totals of its samples. -/
theorem tracks_after (history : List GpuEvent) : Tracks history (after history) := by
  -- on the history from its end: the last event is a step of the manager
  induction history using reverseRecOn with
  | nil => exact tracks_new
  | append_singleton history event ih =>
    rw [after_concat]
    exact ih.step event

/-! ## Differences since a snapshot -/

section Differences

variable {manager : GpuManager} {cacheKey : UInt16} {id : String} {history : List GpuEvent}
  {snapshot : Option GpuSnapshot} {seen new : List GpuSample}

section

variable (hent : EntryTracks gpu (seen ++ new))
include hent

variable (hsnap : SnapshotTracks snapshot seen)
include hsnap

theorem calculateDeltaCount_eq :
    calculateDeltaCount (.ofNat gpu.count) snapshot = .ofNat new.length := by
  have hdelta : calculateDeltaCount (.ofNat gpu.count) snapshot =
      .ofNat gpu.count - snapshot.elim 0 (·.count) := by
    cases snapshot <;> simp [calculateDeltaCount]
  -- the counters wrap around, and so does their difference
  rw [hdelta, hsnap.count, hent.count, length_append, UInt32.ofNat_add]
  rw [UInt32.add_comm, UInt32.add_sub_cancel]

theorem calculateDeltas_eq :
    (calculateDeltas gpu snapshot).1 = (new.map (·.usage)).sum ∧
      (calculateDeltas gpu snapshot).2.1 = (new.map (·.power)).sum := by
  have hdelta : (calculateDeltas gpu snapshot).1 = gpu.usage - snapshot.elim 0 (·.usage) ∧
      (calculateDeltas gpu snapshot).2.1 = gpu.power - snapshot.elim 0 (·.power) := by
    cases snapshot <;> simp [calculateDeltas]
  rw [hdelta.1, hdelta.2, hsnap.usage, hsnap.power, hent.usage, hent.power]
  simp

/-- An engine since the snapshot, which may not know it or have no engines at all. -/
theorem deltaEngine_eq {name : String} {engine : ℚ} (heng : engineTotal gpu.engines name = engine) :
    deltaEngine snapshot name engine = totalReading new name := by
  have hdelta : deltaEngine snapshot name engine =
      engine - engineTotal (snapshot.bind (·.engines)) name := by
    -- an engine that the snapshot does not know starts from zero
    unfold deltaEngine engineTotal
    cases snapshot.bind (·.engines) <;> simp
  rw [hdelta, hsnap.engine, ← heng, hent.engine]
  simp [totalReading]

end

theorem foldl_max_eq (value : String → ℚ≥0) (entries : List ((_ : String) × ℚ)) (start : ℚ≥0) :
    entries.foldl (fun largest entry => max largest ((value entry.1 : ℚ≥0) : ℚ)) (start : ℚ) =
      ((start ⊔ (entries.keys.toFinset.sup value) : ℚ≥0) : ℚ) := by
  induction entries generalizing start with
  | nil => simp
  | cons entry entries ih =>
    have hmax : max (start : ℚ) ((value entry.1 : ℚ≥0) : ℚ) = ((start ⊔ value entry.1 : ℚ≥0) : ℚ) :=
      (NNRat.coe_max _ _).symm
    rw [foldl_cons, hmax, ih, keys_cons, toFinset_cons, Finset.sup_insert, sup_assoc]

theorem calculateIntelGPUUsage_eq (hent : EntryTracks gpu (seen ++ new))
    (hsnap : SnapshotTracks snapshot seen) {engines : GoMap String ℚ}
    (hengs : gpu.engines = some engines) (hlen : new.length < 2 ^ 32) :
    (calculateIntelGPUUsage engines snapshot (.ofNat new.length)).2 =
      roundTo 100 (largestEngineMean (seen ++ new) new) := by
  have hmean : ∀ entry ∈ engines.entries,
      deltaEngine snapshot entry.1 entry.2 / (UInt32.ofNat new.length).toNat =
        engineMean new entry.1 := by
    intro entry hent'
    have hlookup : engines.lookup entry.1 = some entry.2 := AList.mem_lookup_iff.mpr hent'
    have htot : engineTotal gpu.engines entry.1 = entry.2 := by
      simp [engineTotal, hengs, hlookup]
    rw [deltaEngine_eq hent hsnap htot, UInt32.toNat_ofNat_of_lt' hlen]
    simp [engineMean, totalReading]
  have hnames : engines.entries.keys.toFinset = engineNames (seen ++ new) := by
    ext name
    have hname := hent.names name
    rw [hengs, Option.getD_some] at hname
    rw [mem_toFinset, ← hname]
    rfl
  have hlargest : engines.entries.foldl (fun largest entry => max largest
      (deltaEngine snapshot entry.1 entry.2 / (UInt32.ofNat new.length).toNat)) 0 =
        largestEngineMean (seen ++ new) new := by
    calc engines.entries.foldl _ 0
      _ = engines.entries.foldl
            (fun largest entry => max largest ((engineMean new entry.1 : ℚ≥0) : ℚ)) 0 :=
          foldl_ext _ _ _ fun largest entry hmem => by rw [hmean entry hmem]
      _ = ((0 ⊔ engines.entries.keys.toFinset.sup (engineMean new) : ℚ≥0) : ℚ) :=
          foldl_max_eq (engineMean new) engines.entries 0
      _ = largestEngineMean (seen ++ new) new := by
          rw [hnames, largestEngineMean, ← bot_eq_zero, bot_sup_eq]
  rw [calculateIntelGPUUsage, twoDecimals, hlargest]

/-- **Averages**: what is computed from new samples. -/
theorem newAverage_eq (hent : EntryTracks gpu (seen ++ new))
    (hsnap : SnapshotTracks snapshot seen) (hlen : new.length < 2 ^ 32) :
    (newAverage gpu snapshot (.ofNat new.length)).power = averagePower new ∧
      (newAverage gpu snapshot (.ofNat new.length)).usage = averageUsage (seen ++ new) new := by
  obtain ⟨husage, hpower⟩ := calculateDeltas_eq hent hsnap
  have hcount : ((UInt32.ofNat new.length).toNat : ℚ) = new.length := by
    rw [UInt32.toNat_ofNat_of_lt' hlen]
  have hpower' : twoDecimals ((calculateDeltas gpu snapshot).2.1 /
      (UInt32.ofNat new.length).toNat) = averagePower new := by
    rw [hpower, hcount, averagePower, mean, length_map, twoDecimals]
  unfold newAverage averageUsage
  -- an entry has engines exactly if a sample had some, seen or new
  cases hengs : gpu.engines with
  | none =>
    have hnot : ¬ ReportsEngines (seen ++ new) := by
      rw [← hent.isSome, hengs]
      simp
    refine ⟨hpower', ?_⟩
    rw [if_neg hnot]
    dsimp only
    rw [husage, hcount, mean, length_map, twoDecimals]
  | some engines =>
    have hreps : ReportsEngines (seen ++ new) := by
      rw [← hent.isSome, hengs]
      rfl
    refine ⟨hpower', ?_⟩
    rw [if_pos hreps]
    exact calculateIntelGPUUsage_eq hent hsnap hengs hlen

end Differences

/-! ## Reports -/

section Reports

variable {id : String} {history : List GpuEvent}

theorem reportGpu_usage_power (manager : GpuManager) (cacheKey : UInt16) (id : String)
    (gpu : GpuData) :
    (reportGpu manager cacheKey id gpu).usage =
        (calculateGPUAverage manager cacheKey id gpu).usage ∧
      (reportGpu manager cacheKey id gpu).power =
        (calculateGPUAverage manager cacheKey id gpu).power := by
  unfold reportGpu updateInstantaneousValues
  split_ifs
  · exact ⟨rfl, rfl⟩
  · exact ⟨rfl, rfl⟩

theorem deltaCount_after (cacheKey : UInt16)
    (hgpu : (after history).gpuDataMap.lookup id = some gpu) :
    (after history).deltaCount cacheKey id gpu =
      .ofNat (newSamples cacheKey id history).length := by
  have htracks := tracks_after history
  have hent := htracks.entry id gpu hgpu
  rw [samples_eq_seen_append_new cacheKey] at hent
  exact calculateDeltaCount_eq hent (htracks.snapshot cacheKey id)

theorem ofNat_length_ne_zero {new : List GpuSample} (hne : new ≠ []) (hlen : new.length < 2 ^ 32) :
    UInt32.ofNat new.length ≠ 0 := by
  intro hzero
  have hnat := congrArg UInt32.toNat hzero
  rw [UInt32.toNat_ofNat_of_lt' hlen] at hnat
  exact hne (length_eq_zero_iff.mp hnat)

end Reports

/-- With new samples of a GPU, a call reports the two-decimal means of these samples: the mean of
the power, and the mean of the usage or, if the GPU reports engines, the largest mean of an
engine. -/
theorem report_of_new_samples (history : List GpuEvent) (cacheKey : UInt16) (id : String)
    (hcount : (samples id history).length < 2 ^ 32)
    (hnew : newSamples cacheKey id history ≠ []) :
    ∃ data, (getCurrentData (after history) cacheKey).2 id = some data ∧
      data.power = averagePower (newSamples cacheKey id history) ∧
      data.usage = averageUsage (samples id history) (newSamples cacheKey id history) := by
  have htracks := tracks_after history
  have hsplit := samples_eq_seen_append_new cacheKey id history
  obtain ⟨gpu, hgpu⟩ : ∃ gpu, (after history).gpuDataMap.lookup id = some gpu := by
    rw [← Option.ne_none_iff_exists']
    exact fun hnone => hnew (htracks.seen_new_of_missing cacheKey hnone).2
  have hent := htracks.entry id gpu hgpu
  rw [hsplit] at hent
  have hlen : (newSamples cacheKey id history).length < 2 ^ 32 := by
    rw [hsplit, length_append] at hcount
    omega
  have hdelta := deltaCount_after cacheKey hgpu
  have hne : (after history).deltaCount cacheKey id gpu ≠ 0 := by
    rw [hdelta]
    exact ofNat_length_ne_zero hnew hlen
  obtain ⟨husage, hpower⟩ := reportGpu_usage_power (after history) cacheKey id gpu
  obtain ⟨hpower', husage'⟩ := newAverage_eq hent (htracks.snapshot cacheKey id) hlen
  have havg : calculateGPUAverage (after history) cacheKey id gpu =
      newAverage gpu ((after history).lastSnapshots cacheKey id)
        (.ofNat (newSamples cacheKey id history).length) := by
    rw [calculateGPUAverage, if_neg hne, hdelta]
  refine ⟨reportGpu (after history) cacheKey id gpu, by simp [getCurrentData, report, hgpu], ?_, ?_⟩
  · rw [hpower, havg, hpower']
  · rw [husage, havg, husage', hsplit]

/-- A sample of a GPU without engines, at 50 degrees. -/
def plainSample (usage : ℚ) : GpuSample where
  name := "GPU"
  renames := false
  temperature := some 50
  memoryUsed := none
  memoryTotal := none
  usage := usage
  power := 20
  powerPkg := 0
  engines := none

def engineSample (engine : String) (busy : ℚ≥0) : GpuSample :=
  { plainSample 0 with engines := some (AList.insert engine busy ∅) }

/-- An engine appears after the snapshot, and the other key takes one in between. -/
def sampleHistory : List GpuEvent :=
  [.sample "i0" (engineSample "Render" 90), .getCurrentData 1000,
    .sample "i0" (engineSample "Render" 10), .getCurrentData 60000,
    .sample "i0" (engineSample "Video" 40)]

theorem report_of_new_samples_engines :
    (samples "i0" sampleHistory).length < 2 ^ 32 ∧ newSamples 1000 "i0" sampleHistory ≠ [] ∧
      ∃ data, (getCurrentData (after sampleHistory) 1000).2 "i0" = some data ∧
        data.power = averagePower (newSamples 1000 "i0" sampleHistory) ∧
        data.usage = averageUsage (samples "i0" sampleHistory)
          (newSamples 1000 "i0" sampleHistory) := by
  have hcount : (samples "i0" sampleHistory).length < 2 ^ 32 := by decide
  have hnew : newSamples 1000 "i0" sampleHistory ≠ [] := cons_ne_nil _ _
  exact ⟨hcount, hnew, report_of_new_samples sampleHistory 1000 "i0" hcount hnew⟩

/-! ## Gaps -/

/-- The latest call with samples of a GPU that were new to it, modulo `2 ^ 32`, as the events
    before it and its key; the latest event of the history is the first. -/
def lastAveraging (id : String) : List GpuEvent → Option (List GpuEvent × UInt16)
  | [] => none
  | .getCurrentData cacheKey :: earlier =>
    if UInt32.ofNat (newSamples cacheKey id earlier.reverse).length = 0 then
      lastAveraging id earlier
    else some (earlier.reverse, cacheKey)
  | _ :: earlier => lastAveraging id earlier

/-- The usage and the power that were reported, zero for none. -/
def usagePower (data : Option GpuData) : ℚ × ℚ := data.elim (0, 0) fun gpu => (gpu.usage, gpu.power)

/-- What the latest call with new samples has reported for a GPU. -/
def lastAverage (id : String) (history : List GpuEvent) : ℚ × ℚ :=
  (lastAveraging id history.reverse).elim (0, 0) fun (earlier, cacheKey) =>
    usagePower ((getCurrentData (after earlier) cacheKey).2 id)

theorem lastAverage_concat {id : String} {history : List GpuEvent} {event : GpuEvent}
    (h : ∀ cacheKey, isCall cacheKey event = false) :
    lastAverage id (history ++ [event]) = lastAverage id history := by
  unfold lastAverage
  rw [reverse_append, reverse_singleton, singleton_append]
  cases event with
  | getCurrentData cacheKey => exact absurd (h cacheKey) (by simp [isCall])
  | detect | sample | suspend => rfl

theorem lastAverage_concat_call (id : String) (history : List GpuEvent) (cacheKey : UInt16) :
    lastAverage id (history ++ [.getCurrentData cacheKey]) =
      if UInt32.ofNat (newSamples cacheKey id history).length = 0 then lastAverage id history
      else usagePower ((getCurrentData (after history) cacheKey).2 id) := by
  unfold lastAverage
  rw [reverse_append, reverse_singleton, singleton_append, lastAveraging,
    reverse_reverse]
  split_ifs
  · rfl
  · rfl

theorem lastAvgData_after (id : String) (history : List GpuEvent) :
    usagePower ((after history).lastAvgData id) = lastAverage id history := by
  induction history using reverseRecOn with
  | nil => rfl
  | append_singleton history event ih =>
    rw [after_concat]
    cases event with
    | detect | sample | suspend =>
      rw [lastAverage_concat (by simp [isCall])]
      exact ih
    | getCurrentData cacheKey =>
      rw [lastAverage_concat_call, ← ih]
      simp only [step, getCurrentData, GpuManager.afterReport]
      cases hgpu : (after history).gpuDataMap.lookup id with
      | none =>
        simp [((tracks_after history).seen_new_of_missing cacheKey hgpu).2]
      | some gpu =>
        dsimp only
        rw [deltaCount_after cacheKey hgpu]
        split_ifs with hzero
        · rfl
        · -- the average is stored before its other fields and its name are set
          obtain ⟨husage, hpower⟩ := reportGpu_usage_power (after history) cacheKey id gpu
          simp [usagePower, report, hgpu, husage, hpower]

/-- Without new samples of a GPU, a call reports zeros if the GPU appears suspended, and otherwise
what the latest call with new samples has reported, for whatever key. -/
theorem report_of_gap (history : List GpuEvent) (cacheKey : UInt16) (id : String) (gpu : GpuData)
    (hgpu : (after history).gpuDataMap.lookup id = some gpu)
    (hnew : newSamples cacheKey id history = []) :
    usagePower ((getCurrentData (after history) cacheKey).2 id) =
      if gpu.temperature = 0 ∧ gpu.memoryUsed = 0 then (0, 0) else lastAverage id history := by
  have hdelta : (after history).deltaCount cacheKey id gpu = 0 := by
    rw [deltaCount_after cacheKey hgpu, hnew]
    rfl
  obtain ⟨husage, hpower⟩ := reportGpu_usage_power (after history) cacheKey id gpu
  have hrep : usagePower ((getCurrentData (after history) cacheKey).2 id) =
      ((calculateGPUAverage (after history) cacheKey id gpu).usage,
        (calculateGPUAverage (after history) cacheKey id gpu).power) := by
    simp [usagePower, getCurrentData, report, hgpu, husage, hpower]
  rw [hrep, calculateGPUAverage, if_pos hdelta]
  split_ifs with hsuspended
  · rfl
  · rw [← lastAvgData_after]
    cases (after history).lastAvgData id <;> rfl

/-- Two samples, with or without a call of another key after each of them. -/
def gapHistory (others : List GpuEvent) : List GpuEvent :=
  [.sample "0" (plainSample 10)] ++ others ++
    [.sample "0" (plainSample 30), .getCurrentData 1000] ++ others

theorem report_of_gap_sample :
    ∃ gpu, (after (gapHistory [])).gpuDataMap.lookup "0" = some gpu ∧
      newSamples 1000 "0" (gapHistory []) = [] ∧
      usagePower ((getCurrentData (after (gapHistory [])) 1000).2 "0") =
        if gpu.temperature = 0 ∧ gpu.memoryUsed = 0 then (0, 0)
        else lastAverage "0" (gapHistory []) :=
  ⟨_, rfl, rfl, report_of_gap (gapHistory []) 1000 "0" _ rfl rfl⟩

/-- The calls with the key 60000 change what is reported for the key 1000: the mean of both
samples without them, the second sample with them. -/
theorem gap_shows_other_key :
    newSamples 1000 "0" (gapHistory []) = [] ∧
      newSamples 1000 "0" (gapHistory [.getCurrentData 60000]) = [] ∧
      (gapHistory [.getCurrentData 60000]).filter (fun event => !isCall 60000 event) =
        gapHistory [] ∧
      usagePower ((getCurrentData (after (gapHistory [])) 1000).2 "0") = (20, 20) ∧
      usagePower ((getCurrentData (after (gapHistory [.getCurrentData 60000])) 1000).2 "0") =
        (30, 20) := by
  refine ⟨rfl, rfl, rfl, ?_, ?_⟩
  · decide +kernel
  · decide +kernel

end Bantay.Agent.Gpu
