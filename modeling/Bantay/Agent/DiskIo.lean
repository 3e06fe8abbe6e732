import Bantay.Agent.CachedResponses

/-!
# Disk I/O from Call to Call

The rates of a device are computed from the counters of two samples.  The earlier sample is kept
for each cache time apart; a cache time that is new starts from the totals in the entry of the
filesystem, which `updateDiskUsage` sets to zero when the usage cannot be read.  A rate above the
limit is not written: `initializeDiskIoStats` takes the present counters as the new start, and
makes the list of the devices to ask for anew from the devices that were just read.
-/

namespace Bantay.Agent.Shared

open Bantay.Lib Function List PointerMap
open Bantay.Agent.Docker (nanosecondsSince zeroTime toNat_rate_of_le toNat_millisecondsElapsed)

/-! ## Calls -/

variable {φ : Type}

/-- What `disk.IOCounters` returns: a map in which every device has its own name. -/
structure DiskReading where
  counters : List (String × IoCounters)
  keys : (counters.map Prod.fst).Nodup
  named : ∀ c ∈ counters, c.2.name = c.1

inductive DiskCall (φ : Type) where
  | updateDiskUsage (now : ℤ) (usage : String → Option (DiskUsage φ))
  | updateDiskIo (cacheTimeMs : UInt16) (now : ℤ) (reading : Option DiskReading)

/-- Every call is made with a new `system.Stats`. -/
def DiskCall.run (lib : DiskLibrary φ) (disk : DiskState φ) :
    DiskCall φ → DiskState φ × DiskTotals φ
  | .updateDiskUsage now usage => disk.updateDiskUsage lib now usage (.zero lib)
  | .updateDiskIo cacheTimeMs now reading =>
    disk.updateDiskIo lib cacheTimeMs now (reading.map DiskReading.counters) (.zero lib)

def diskStep (lib : DiskLibrary φ) (disk : DiskState φ) (call : DiskCall φ) :
    Option (DiskState φ) :=
  some (call.run lib disk).1

theorem DiskReading.lookup_of_mem (reading : DiskReading) {c : String × IoCounters}
    (hc : c ∈ reading.counters) : reading.counters.lookup c.1 = some c.2 := by
  obtain ⟨counters, hkeys, _⟩ := reading
  induction counters with
  | nil => cases hc
  | cons first rest ih =>
    obtain ⟨hnew, hrest⟩ := nodup_cons.mp hkeys
    rcases mem_cons.mp hc with rfl | hmem
    · exact lookup_cons_self
    · have hne : c.1 ≠ first.1 := fun heq => hnew (heq ▸ mem_map_of_mem hmem)
      rw [lookup_cons, beq_false_of_ne hne]
      exact ih hrest (by simp_all) hmem

/-- One round of the loop of `updateDiskIo`. -/
def ioStep (lib : DiskLibrary φ) (cacheTimeMs : UInt16) (now : ℤ) (r : DiskReading)
    (q : DiskState φ × DiskTotals φ) (c : String × IoCounters) :
    Option (DiskState φ × DiskTotals φ) :=
  some (ioOf lib cacheTimeMs now r.counters q c)

theorem updateDiskIo_invariant {lib : DiskLibrary φ} {cacheTimeMs : UInt16} {now : ℤ}
    {r : DiskReading} {I : DiskState φ × DiskTotals φ → Prop}
    {G : DiskState φ × DiskTotals φ → String × IoCounters → Prop}
    (hround : ∀ q, ∀ c ∈ r.counters, I q → G q c → I (ioOf lib cacheTimeMs now r.counters q c))
    {q : DiskState φ × DiskTotals φ} (hI : I q)
    (hG : EveryStep (ioStep lib cacheTimeMs now r) G q r.counters) :
    I (q.1.updateDiskIo lib cacheTimeMs now (some r.counters) q.2) := by
  refine exec_invariant ?_ hI (hG.and (everyStep_of_forall_mem fun _ hc => hc)) exec_total
  rintro q c _ hq ⟨hguard, hc⟩ hstep
  cases hstep
  exact hround q c hc hq hguard

structure DiskRates (φ : Type) where
  read : UInt64
  write : UInt64
  readPs : φ
  writePs : φ
deriving DecidableEq

def PrevDisk.msElapsed (prev : PrevDisk) (now : ℤ) : UInt64 :=
  UInt64.ofInt ((nanosecondsSince now prev.at').tdiv 1000000)

/-- What `updateDiskIo` computes from a snapshot and the present counters. -/
def PrevDisk.rates (lib : DiskLibrary φ) (prev : PrevDisk) (d : IoCounters) (now : ℤ) :
    DiskRates φ :=
  let read := (d.readBytes - prev.readBytes) * 1000 / prev.msElapsed now
  let write := (d.writeBytes - prev.writeBytes) * 1000 / prev.msElapsed now
  ⟨read, write, lib.bytesToMegabytes read, lib.bytesToMegabytes write⟩

/-! ## The devices that are asked for -/

/-- The device has a rate above the limit, at which `updateDiskIo` starts anew. -/
def AboveLimit (lib : DiskLibrary φ) (cacheTimeMs : UInt16) (now : ℤ) (disk : DiskState φ)
    (c : String × IoCounters) : Prop :=
  ∃ stats ∈ disk.fsStats.read c.2.name,
    let prev := disk.prevDisk cacheTimeMs c.1 stats c.2 now
    ¬ prev.msElapsed now < 100 ∧ (lib.exceeds50000 (prev.rates lib c.2 now).readPs ||
      lib.exceeds50000 (prev.rates lib c.2 now).writePs) = true
deriving Decidable

section Devices

variable {φ : Type} {lib : DiskLibrary φ} {disk : DiskState φ}
  {counters : List (String × IoCounters)} {now : ℤ}

theorem initializeDevice_spec {q : PointerMap String (FsStats φ) × List String} {device : String}
    (hdev : device ∈ q.1.slots.keys) :
    (initializeDevice counters now q device).1.slots = q.1.slots ∧
      (initializeDevice counters now q device).2 =
        q.2 ++ [device].filter fun device => (counters.lookup device).isSome := by
  obtain ⟨stats, hread⟩ := Option.isSome_iff_exists.mp (read_isSome hdev)
  unfold initializeDevice
  cases hlookup : counters.lookup device with
  | none => simp [hlookup]
  | some d => simp [hread, hlookup, slots_store hread]

/-- `initializeDiskIoStats` keeps the filesystems, and makes a list of those with counters. -/
theorem initializeDiskIoStats_spec :
    (disk.initializeDiskIoStats counters now).fsStats.slots = disk.fsStats.slots ∧
      (disk.initializeDiskIoStats counters now).fsNames =
        disk.fsStats.slots.keys.filter fun device => (counters.lookup device).isSome := by
  -- the loop over some of the devices, from any list
  have hloop : ∀ (devices : List String) (q : PointerMap String (FsStats φ) × List String),
      devices ⊆ q.1.slots.keys →
      (devices.foldl (initializeDevice counters now) q).1.slots = q.1.slots ∧
        (devices.foldl (initializeDevice counters now) q).2 =
          q.2 ++ devices.filter fun device => (counters.lookup device).isSome := by
    intro devices
    induction devices with
    | nil => simp
    | cons device devices ih =>
      intro q hsub
      obtain ⟨hdev, hrest⟩ := cons_subset.mp hsub
      obtain ⟨hslots, hnames⟩ := @initializeDevice_spec φ counters now q device hdev
      have htail := ih (initializeDevice counters now q device) (hslots ▸ hrest)
      rw [foldl_cons, htail.1, htail.2, hslots, hnames, append_assoc,
        ← filter_append]
      exact ⟨rfl, rfl⟩
  exact hloop _ (disk.fsStats, []) (List.Subset.refl _)

structure Asks (slots : GoMap String ℕ) (names : List String) (disk : DiskState φ) : Prop where
  slots : disk.fsStats.slots = slots
  asked : ∀ device ∈ names, device ∈ disk.fsNames

variable {slots : GoMap String ℕ} {names : List String}

theorem asks_initializeDiskIoStats (hslots : disk.fsStats.slots = slots)
    (hnames : ∀ device ∈ names, device ∈ slots.keys ∧ (counters.lookup device).isSome) :
    Asks slots names (disk.initializeDiskIoStats counters now) := by
  refine ⟨initializeDiskIoStats_spec.1.trans hslots, ?_⟩
  intro device hdev
  rw [initializeDiskIoStats_spec.2, hslots]
  exact mem_filter.mpr (hnames device hdev)

theorem Asks.ioOf {q : DiskState φ × DiskTotals φ} (h : Asks slots names q.1)
    {cacheTimeMs : UInt16} {c : String × IoCounters}
    (hnames : AboveLimit lib cacheTimeMs now q.1 c →
      ∀ device ∈ names, device ∈ slots.keys ∧ (counters.lookup device).isSome) :
    Asks slots names (ioOf lib cacheTimeMs now counters q c).1 := by
  unfold Shared.ioOf
  dsimp only
  cases hread : q.1.fsStats.read c.2.name with
  | none => exact h
  | some stats =>
    dsimp only
    split_ifs with hshort habove
    · exact ⟨h.slots, h.asked⟩
    · exact asks_initializeDiskIoStats h.slots (hnames ⟨stats, hread, hshort, habove⟩)
    · exact ⟨(slots_store hread).trans h.slots, h.asked⟩
    · exact ⟨(slots_store hread).trans h.slots, h.asked⟩

theorem Asks.updateDiskUsage (h : Asks slots names disk) (usage : String → Option (DiskUsage φ))
    (totals : DiskTotals φ) :
    Asks slots names (disk.updateDiskUsage lib now usage totals).1 := by
  refine ⟨?_, h.asked⟩
  refine foldlRecOn (motive := fun q : PointerMap String (FsStats φ) × DiskTotals φ =>
    q.1.slots = slots) _ _ h.slots ?_
  intro q hq device _
  unfold usageOf
  cases hread : q.1.read device with
  | none => exact hq
  | some stats =>
    dsimp only
    split
    · exact hq
    · split
      · exact (slots_store hread).trans hq
      · exact (slots_store hread).trans hq

end Devices

def countedDevices (disk : DiskState φ) (reading : DiskReading) : List String :=
  disk.fsStats.slots.keys.filter fun device => (reading.counters.lookup device).isSome

/-- What is read has the counters of all these devices, if the loop comes to a rate above the
    limit. -/
def ReadsAll (lib : DiskLibrary φ) (names : List String) (disk : DiskState φ) :
    DiskCall φ → Prop
  | .updateDiskUsage _ _ => True
  | .updateDiskIo cacheTimeMs now reading =>
    ∀ r ∈ reading, EveryStep (ioStep lib cacheTimeMs now r) (fun q c =>
      AboveLimit lib cacheTimeMs now q.1 c → ∀ device ∈ names, (r.counters.lookup device).isSome)
      (disk, .zero lib) r.counters

instance (lib : DiskLibrary φ) (names : List String) (disk : DiskState φ) (call : DiskCall φ) :
    Decidable (ReadsAll lib names disk call) := by
  unfold ReadsAll
  split <;> infer_instance

/-- **Devices stay monitored**: the devices with counters at start-up are asked for in every state,
    if every reading with a rate above the limit has all of them. -/
theorem startup_devices_asked (lib : DiskLibrary φ) (disk : DiskState φ)
    (start : DiskReading) (now : ℤ) (calls : List (DiskCall φ))
    (hG : EveryStep (diskStep lib) (ReadsAll lib (countedDevices disk start))
      (disk.initializeDiskIoStats start.counters now) calls) :
    EveryState (diskStep lib) (fun s => ∀ device ∈ countedDevices disk start, device ∈ s.fsNames)
      (disk.initializeDiskIoStats start.counters now) calls := by
  apply everyState_of_invariant (I := Asks disk.fsStats.slots (countedDevices disk start))
    (G := ReadsAll lib (countedDevices disk start))
  · intro s call s' h hguard hstep
    cases call with cases hstep
    | updateDiskUsage now usage =>
      exact h.updateDiskUsage usage _
    | updateDiskIo cacheTimeMs now reading =>
      cases reading with
      | none => exact h
      | some r =>
        refine updateDiskIo_invariant
          (I := fun q => Asks disk.fsStats.slots (countedDevices disk start) q.1) ?_ h
          (hguard r rfl)
        intro q c _ hq hreads
        refine hq.ioOf fun habove device hdev => ?_
        exact ⟨(mem_filter.mp hdev).1, hreads habove device hdev⟩
  · intro s h
    exact h.asked
  · exact asks_initializeDiskIoStats rfl fun device hdev => mem_filter.mp hdev
  · exact hG

def sampleCounters (name : String) (readBytes : UInt64) : IoCounters :=
  ⟨name, readBytes, 0, 0, 0, 0, 0, 0, 0⟩

/-- A filesystem of which nothing is known yet. -/
def sampleFs : FsStats ℕ :=
  { time := zeroTime, root := false, mountpoint := "", name := "", diskTotal := 0, diskUsed := 0,
    totalRead := 0, totalWrite := 0, diskReadPs := 0, diskWritePs := 0, diskReadBytes := 0,
    diskWriteBytes := 0, diskIoStats := ⟨0, 0, 0, 0, 0, 0⟩ }

def twoDisks : DiskState ℕ where
  fsStats := (PointerMap.empty.store "sda" sampleFs).store "sdb" sampleFs
  fsNames := []
  diskPrev := fun _ _ => none
  lastDiskUsageUpdate := zeroTime
  diskUsageCacheDuration := 0

/-- A reading of both devices, and one without `sda`. -/
def readBoth (sda sdb : UInt64) : DiskReading where
  counters := [("sda", sampleCounters "sda" sda), ("sdb", sampleCounters "sdb" sdb)]
  keys := by simp
  named := by simp [sampleCounters]

def readSdb (sdb : UInt64) : DiskReading where
  counters := [("sdb", sampleCounters "sdb" sdb)]
  keys := by simp
  named := by simp [sampleCounters]

theorem both_asked_after_reset :
    EveryState (diskStep sampleDisk) (fun s => ∀ device ∈ ["sdb", "sda"], device ∈ s.fsNames)
      (twoDisks.initializeDiskIoStats (readBoth 0 0).counters 0)
      [.updateDiskIo 1000 1000000000 (some (readBoth 0 100000000000000))] :=
  startup_devices_asked sampleDisk twoDisks (readBoth 0 0) 0 _ (by decide +kernel)

/-- **A device that is missing from the reading of a reset is lost.** -/
theorem device_lost_by_reset :
    countedDevices twoDisks (readBoth 0 0) = ["sdb", "sda"] ∧
      (exec (diskStep sampleDisk) (twoDisks.initializeDiskIoStats (readBoth 0 0).counters 0)
        [.updateDiskIo 1000 1000000000 (some (readSdb 100000000000000))]).map
          DiskState.fsNames = some ["sdb"] := by
  decide +kernel

/-! ## The rates of a device -/

/-- The byte counters of a device, and the time at which they are taken. -/
structure DiskSample where
  time : ℤ
  read : UInt64
  write : UInt64

def IoCounters.sample (d : IoCounters) (now : ℤ) : DiskSample := ⟨now, d.readBytes, d.writeBytes⟩

def PrevDisk.sample (prev : PrevDisk) : DiskSample := ⟨prev.at', prev.readBytes, prev.writeBytes⟩

def FsStats.sample (stats : FsStats φ) : DiskSample :=
  ⟨stats.time, stats.totalRead, stats.totalWrite⟩

def FsStats.rates (stats : FsStats φ) : DiskRates φ :=
  ⟨stats.diskReadBytes, stats.diskWriteBytes, stats.diskReadPs, stats.diskWritePs⟩

/-- The whole milliseconds from a sample `s'` to a later one `s`. -/
def DiskSample.millisecondsSince (s s' : DiskSample) : ℕ := ((s.time - s'.time) / 1000000).toNat

/-- The rates are those of two samples: `1000 d / t` for the growth `d` of a counter in `t`
    milliseconds. -/
def RatesBetween (lib : DiskLibrary φ) (s' s : DiskSample) (rates : DiskRates φ) : Prop :=
  s'.read ≤ s.read ∧ s'.write ≤ s.write ∧ 0 < s.millisecondsSince s' ∧
    rates.read.toNat = 1000 * (s.read.toNat - s'.read.toNat) / s.millisecondsSince s' ∧
    rates.write.toNat = 1000 * (s.write.toNat - s'.write.toNat) / s.millisecondsSince s' ∧
    rates.readPs = lib.bytesToMegabytes rates.read ∧
    rates.writePs = lib.bytesToMegabytes rates.write

/-- The rates have not been written since the start, or are those of two samples. -/
def RatesOf (lib : DiskLibrary φ) (rates₀ : Option (DiskRates φ))
    (samples : List DiskSample) (rates : DiskRates φ) : Prop :=
  rates₀ = some rates ∨ ∃ s ∈ samples, ∃ s' ∈ samples, RatesBetween lib s' s rates

def DiskTotals.rates (totals : DiskTotals φ) : DiskRates φ :=
  ⟨totals.diskIo.1, totals.diskIo.2, totals.diskReadPs, totals.diskWritePs⟩

/-- The disks and what the last call reports, with the history of one device: its samples, and
    whether its usage could not be read once. -/
structure WatchedDisk (φ : Type) where
  disk : DiskState φ
  totals : DiskTotals φ
  samples : List DiskSample
  usageFailed : Bool

def DiskCall.sample? (name : String) : DiskCall φ → Option DiskSample
  | .updateDiskUsage _ _ => none
  | .updateDiskIo _ now reading =>
    reading.bind fun r => (r.counters.lookup name).map fun d => d.sample now

def DiskCall.usageFails (name : String) : DiskCall φ → Bool
  | .updateDiskUsage _ usage => (usage name).isNone
  | .updateDiskIo _ _ _ => false

def watchDisk (lib : DiskLibrary φ) (name : String) (w : WatchedDisk φ)
    (call : DiskCall φ) : Option (WatchedDisk φ) :=
  let q := call.run lib w.disk
  some ⟨q.1, q.2, (call.sample? name).toList ++ w.samples, w.usageFailed || call.usageFails name⟩

def startDisk (lib : DiskLibrary φ) (name : String) (disk : DiskState φ) (start : DiskReading)
    (now : ℤ) : WatchedDisk φ :=
  ⟨disk.initializeDiskIoStats start.counters now, .zero lib,
    ((start.counters.lookup name).map fun d => d.sample now).toList, false⟩

/-- A counter has grown, and by so little that the code can multiply it by 1000. -/
def Grows (before now : UInt64) : Prop :=
  before.toNat ≤ now.toNat ∧ 1000 * (now.toNat - before.toNat) < 2 ^ 64

/-- The sample `s` is a later one than `s'`, by 292 years at most, and its counters have grown. -/
def DiskSample.Follows (s s' : DiskSample) : Prop :=
  (0 ≤ s.time - s'.time ∧ s.time - s'.time < 2 ^ 63) ∧ Grows s'.read s.read ∧ Grows s'.write s.write

/-- When the loop comes to the device, its counters have grown since the sample they are compared
    with, and if its cache time is new, no usage error has set the totals to zero. -/
def RateGuard (lib : DiskLibrary φ) (name : String) (w : WatchedDisk φ) : DiskCall φ → Prop
  | .updateDiskUsage _ _ => True
  | .updateDiskIo cacheTimeMs now reading =>
    ∀ r ∈ reading, EveryStep (ioStep lib cacheTimeMs now r) (fun q c =>
      c.1 = name → (q.1.diskPrev cacheTimeMs name = none → w.usageFailed = false) ∧
        ∀ stats ∈ q.1.fsStats.read name,
          (c.2.sample now).Follows (q.1.prevDisk cacheTimeMs name stats c.2 now).sample)
      (w.disk, .zero lib) r.counters

/-- No other filesystem is the root. -/
def OnlyRoot (name : String) (fsStats : PointerMap String (FsStats φ)) : Prop :=
  ∀ device ≠ name, ∀ stats ∈ fsStats.read device, stats.root = false

/-- The rates in the entry of the device are right, and those in `system.Stats`, which are copied
    from the root. -/
structure RatesCorrect (lib : DiskLibrary φ) (name : String) (disk : DiskState φ)
    (w : WatchedDisk φ) : Prop where
  device : ∀ stats ∈ w.disk.fsStats.read name,
    RatesOf lib ((disk.fsStats.read name).map FsStats.rates) w.samples stats.rates
  root : OnlyRoot name disk.fsStats →
    RatesOf lib (some (DiskTotals.zero lib).rates) w.samples w.totals.rates

instance [DecidableEq φ] (lib : DiskLibrary φ) (rates₀ : Option (DiskRates φ))
    (samples : List DiskSample) (rates : DiskRates φ) :
    Decidable (RatesOf lib rates₀ samples rates) := by
  unfold RatesOf RatesBetween
  infer_instance

instance (lib : DiskLibrary φ) (name : String) (w : WatchedDisk φ) (call : DiskCall φ) :
    Decidable (RateGuard lib name w call) := by
  unfold RateGuard DiskSample.Follows Grows
  split <;> infer_instance

section Rates

variable {φ : Type} {lib : DiskLibrary φ} {name : String} {rates₀ : Option (DiskRates φ)}
  {samples samples' : List DiskSample} {failed failed' : Bool} {disk : DiskState φ} {now : ℤ}
  {counters : List (String × IoCounters)} {cacheTimeMs : UInt16} {d : IoCounters}

theorem ratesBetween_of_follows {prev : PrevDisk} (h : (d.sample now).Follows prev.sample)
    (hlong : ¬ prev.msElapsed now < 100) :
    RatesBetween lib prev.sample (d.sample now) (prev.rates lib d now) := by
  obtain ⟨⟨hpos, hlt⟩, hread, hwrite⟩ := h
  have helapsed : (prev.msElapsed now).toNat = (d.sample now).millisecondsSince prev.sample :=
    toNat_millisecondsElapsed hpos hlt
  have hlarge : 100 ≤ (prev.msElapsed now).toNat :=
    UInt64.le_iff_toNat_le.mp (UInt64.not_lt.mp hlong)
  refine ⟨UInt64.le_iff_toNat_le.mpr hread.1, UInt64.le_iff_toNat_le.mpr hwrite.1, ?_, ?_, ?_,
    rfl, rfl⟩
  · omega
  · rw [← helapsed]
    exact toNat_rate_of_le hread.1 hread.2
  · rw [← helapsed]
    exact toNat_rate_of_le hwrite.1 hwrite.2

theorem follows_self (s : DiskSample) : s.Follows s := by
  simp [DiskSample.Follows, Grows]

/-- The entries are as before but for the usage and the totals, which are of an earlier entry or
    as said. -/
def Refreshed (totals : String → DiskSample → Prop)
    (fsStats fsStats' : PointerMap String (FsStats φ)) : Prop :=
  ∀ name, ∀ stats' ∈ fsStats'.read name, ∃ stats ∈ fsStats.read name,
    stats'.rates = stats.rates ∧ stats'.root = stats.root ∧
      (stats'.sample = stats.sample ∨ totals name stats'.sample)

theorem Refreshed.refl {totals : String → DiskSample → Prop}
    (fsStats : PointerMap String (FsStats φ)) : Refreshed totals fsStats fsStats :=
  fun _ stats hstats => ⟨stats, hstats, rfl, rfl, .inl rfl⟩

theorem Refreshed.store {totals : String → DiskSample → Prop}
    {fsStats fsStats' : PointerMap String (FsStats φ)} (h : Refreshed totals fsStats fsStats')
    {device : String} {stats stats' : FsStats φ} (hread : fsStats'.read device = some stats)
    (hrates : stats'.rates = stats.rates) (hroot : stats'.root = stats.root)
    (htotals : stats'.sample = stats.sample ∨ totals device stats'.sample) :
    Refreshed totals fsStats (fsStats'.store device stats') := by
  intro name
  refine forall_read_store (h name) ?_
  rintro rfl
  obtain ⟨stats₀, hstats₀, hrates₀, hroot₀, htotals₀⟩ := h device stats hread
  refine ⟨stats₀, hstats₀, hrates.trans hrates₀, hroot.trans hroot₀, ?_⟩
  rcases htotals with hsame | hnew
  · rwa [hsame]
  · exact .inr hnew

theorem refreshed_initializeDiskIoStats :
    Refreshed (fun name s => ∃ d ∈ counters.lookup name, s = d.sample now) disk.fsStats
      (disk.initializeDiskIoStats counters now).fsStats := by
  refine foldlRecOn (motive := fun q : PointerMap String (FsStats φ) × List String =>
    Refreshed _ disk.fsStats q.1) _ _ (.refl _) ?_
  intro q hq device _
  unfold initializeDevice
  split
  · next d stats hd hread => exact hq.store hread rfl rfl (.inr ⟨d, hd, rfl⟩)
  · exact hq

/-- The rates in `system.Stats` are not of the usage. -/
theorem refreshed_updateDiskUsage (usage : String → Option (DiskUsage φ))
    (totals : DiskTotals φ) :
    Refreshed (fun name _ => usage name = none) disk.fsStats
        (disk.updateDiskUsage lib now usage totals).1.fsStats ∧
      (disk.updateDiskUsage lib now usage totals).2.rates = totals.rates := by
  refine foldlRecOn (motive := fun q : PointerMap String (FsStats φ) × DiskTotals φ =>
    Refreshed _ disk.fsStats q.1 ∧ q.2.rates = totals.rates) _ _ ⟨.refl _, rfl⟩ ?_
  rintro q ⟨hq, hrates⟩ device _
  unfold usageOf
  cases hread : q.1.read device with
  | none => exact ⟨hq, hrates⟩
  | some stats =>
    dsimp only
    split
    · exact ⟨hq, hrates⟩
    · split
      · refine ⟨hq.store hread rfl rfl (.inl rfl), ?_⟩
        dsimp only
        split
        · exact hrates
        · exact hrates
      · next hnone => exact ⟨hq.store hread rfl rfl (.inr hnone), hrates⟩

/-- What is kept of the device is of its samples: the snapshots, the totals unless they are set to
    zero or there are none, the rates and their copies. -/
structure RateInv (lib : DiskLibrary φ) (name : String) (disk : DiskState φ) (failed : Bool)
    (samples : List DiskSample) (q : DiskState φ × DiskTotals φ) : Prop where
  prev : ∀ cacheTimeMs, ∀ prev ∈ q.1.diskPrev cacheTimeMs name, prev.sample ∈ samples
  totals : ∀ stats ∈ q.1.fsStats.read name,
    failed = true ∨ stats.sample.time = zeroTime ∨ stats.sample ∈ samples
  rates : ∀ stats ∈ q.1.fsStats.read name,
    RatesOf lib ((disk.fsStats.read name).map FsStats.rates) samples stats.rates
  root : OnlyRoot name disk.fsStats → OnlyRoot name q.1.fsStats ∧
    RatesOf lib (some (DiskTotals.zero lib).rates) samples q.2.rates

variable {q q' : DiskState φ × DiskTotals φ}

section

variable (h : RateInv lib name disk failed samples q)
include h

theorem RateInv.refreshed {totals : String → DiskSample → Prop}
    (hprev : q'.1.diskPrev = q.1.diskPrev) (hnew : Refreshed totals q.1.fsStats q'.1.fsStats)
    (htotals : ∀ s, totals name s → failed = true ∨ s ∈ samples) (hrates : q'.2.rates = q.2.rates) :
    RateInv lib name disk failed samples q' where
  prev := hprev ▸ h.prev
  totals stats' hstats' := by
    obtain ⟨stats, hstats, _, _, hsame | hset⟩ := hnew name stats' hstats'
    · rw [hsame]
      exact h.totals stats hstats
    · exact (htotals _ hset).imp_right .inr
  rates stats' hstats' := by
    obtain ⟨stats, hstats, hsame, _, _⟩ := hnew name stats' hstats'
    rw [hsame]
    exact h.rates stats hstats
  root honly := by
    obtain ⟨hroot, hcopies⟩ := h.root honly
    refine ⟨?_, hrates ▸ hcopies⟩
    intro device hne stats' hstats'
    obtain ⟨stats, hstats, _, hsame, _⟩ := hnew device stats' hstats'
    exact hsame.trans (hroot device hne stats hstats)

/-- The next call, with a new `system.Stats`. -/
theorem RateInv.next (hsub : samples ⊆ samples') (hfailed : failed = true → failed' = true) :
    RateInv lib name disk failed' samples' (q.1, .zero lib) where
  prev cacheTimeMs prev hprev := hsub (h.prev cacheTimeMs prev hprev)
  totals stats hstats := (h.totals stats hstats).imp hfailed (.imp_right fun hmem => hsub hmem)
  rates stats hstats := by
    refine (h.rates stats hstats).imp_right ?_
    rintro ⟨s, hs, s', hs', hbetween⟩
    exact ⟨s, hsub hs, s', hsub hs', hbetween⟩
  root honly := ⟨(h.root honly).1, .inl rfl⟩

theorem RateInv.prevDisk (hd : d.sample now ∈ samples) {stats : FsStats φ}
    (hstats : q.1.fsStats.read name = some stats)
    (hok : q.1.diskPrev cacheTimeMs name = none → failed = false) :
    (q.1.prevDisk cacheTimeMs name stats d now).sample ∈ samples := by
  unfold DiskState.prevDisk
  cases hprev : q.1.diskPrev cacheTimeMs name with
  | some prev => exact h.prev cacheTimeMs prev hprev
  | none =>
    dsimp only
    split
    · exact hd
    · next htime =>
      have hzeroed : failed ≠ true := by simp [hok hprev]
      exact ((h.totals stats hstats).resolve_left hzeroed).resolve_left htime

end

/-- **One round of the loop**: a snapshot is taken, and rates are written or totals started anew. -/
theorem RateInv.ioOf (h : RateInv lib name disk failed samples q) {c : String × IoCounters}
    (hname : c.2.name = c.1) (hsamp : ∀ d ∈ counters.lookup name, d.sample now ∈ samples)
    (hown : c.1 = name → c.2.sample now ∈ samples)
    (hG : c.1 = name → (q.1.diskPrev cacheTimeMs name = none → failed = false) ∧
      ∀ stats ∈ q.1.fsStats.read name,
        (c.2.sample now).Follows (q.1.prevDisk cacheTimeMs name stats c.2 now).sample) :
    RateInv lib name disk failed samples (ioOf lib cacheTimeMs now counters q c) := by
  unfold Shared.ioOf
  dsimp only
  cases hread : q.1.fsStats.read c.2.name with
  | none => exact h
  | some stats =>
    -- the new snapshot
    have hsnap : RateInv lib name disk failed samples ({ q.1 with
        diskPrev := update q.1.diskPrev cacheTimeMs
          (update (q.1.diskPrev cacheTimeMs) c.1 (some (prevDiskFromCounter c.2 now))) }, q.2) := by
      refine ⟨?_, h.totals, h.rates, h.root⟩
      intro cacheTimeMs' prev hprev
      by_cases hct : cacheTimeMs' = cacheTimeMs
      · subst hct
        by_cases hc : name = c.1
        · simp only [hc, update_self, Option.mem_def, Option.some.injEq] at hprev
          rw [← hprev]
          exact hown hc.symm
        · simp only [update_self, update_of_ne hc] at hprev
          exact h.prev cacheTimeMs' prev hprev
      · simp only [update_of_ne hct] at hprev
        exact h.prev cacheTimeMs' prev hprev
    dsimp only
    split
    · exact hsnap
    · next hlong =>
      split
      · refine hsnap.refreshed rfl refreshed_initializeDiskIoStats ?_ rfl
        rintro s ⟨d, hd, rfl⟩
        exact .inr (hsamp d hd)
      · -- the rates of the device itself are those since the sample that was kept
        have hrates : c.2.name = name → c.2.sample now ∈ samples ∧ ∀ rates₀, RatesOf lib rates₀
            samples ((q.1.prevDisk cacheTimeMs c.1 stats c.2 now).rates lib c.2 now) := by
          rintro rfl
          obtain ⟨hok, hfollows⟩ := hG hname.symm
          have hd := hown hname.symm
          rw [← hname] at hlong ⊢
          exact ⟨hd, fun _ => .inr ⟨_, hd, _, h.prevDisk hd hread hok,
            ratesBetween_of_follows (hfollows stats hread) hlong⟩⟩
        refine ⟨hsnap.prev, forall_read_store h.totals fun hc => .inr (.inr (hrates hc).1),
          forall_read_store h.rates fun hc => (hrates hc).2 _, ?_⟩
        intro honly
        obtain ⟨hroot, hcopies⟩ := h.root honly
        refine ⟨fun device hne => forall_read_store (hroot device hne) ?_, ?_⟩
        · rintro rfl
          exact hroot _ hne stats hread
        · split
          · next hisRoot =>
            have hc : c.2.name = name := by
              by_contra hne
              simp [hroot _ hne stats hread] at hisRoot
            exact (hrates hc).2 _
          · exact hcopies

/-- **One step**: a call that meets the condition keeps what is kept of the samples. -/
theorem RateInv.step {w w' : WatchedDisk φ} {call : DiskCall φ}
    (h : RateInv lib name disk w.usageFailed w.samples (w.disk, w.totals))
    (hG : RateGuard lib name w call) (hstep : watchDisk lib name w call = some w') :
    RateInv lib name disk w'.usageFailed w'.samples (w'.disk, w'.totals) := by
  have hnext := h.next (subset_append_right (call.sample? name).toList w.samples)
    (Bool.or_eq_true_iff.mpr <| .inl · : _ → (w.usageFailed || call.usageFails name) = true)
  cases call with cases hstep
  | updateDiskUsage now usage =>
    obtain ⟨hentries, hrates⟩ := refreshed_updateDiskUsage usage (.zero lib)
    refine hnext.refreshed rfl hentries ?_ hrates
    intro s hnone
    simp [DiskCall.usageFails, hnone]
  | updateDiskIo cacheTimeMs now reading =>
    cases reading with
    | none => exact hnext
    | some r =>
      refine updateDiskIo_invariant (I := RateInv lib name disk _ _) ?_ hnext (hG r rfl)
      intro q c hc hq hguard
      have hsamp : ∀ d ∈ r.counters.lookup name, d.sample now ∈
          ((DiskCall.updateDiskIo cacheTimeMs now (some r) : DiskCall φ).sample? name).toList ++
            w.samples := by
        intro d hd
        simp [DiskCall.sample?, Option.mem_def.mp hd]
      refine hq.ioOf (r.named c hc) hsamp ?_ (by simpa [DiskCall.usageFails] using hguard)
      rintro rfl
      exact hsamp c.2 (r.lookup_of_mem hc)

end Rates

/-- Nothing has been sampled. -/
structure DiskState.New {φ : Type} (disk : DiskState φ) : Prop where
  diskPrev : ∀ cacheTimeMs name, disk.diskPrev cacheTimeMs name = none
  time : ∀ name, ∀ stats ∈ disk.fsStats.read name, stats.time = zeroTime

/-- **Rates are those of two samples**: as at start-up, or `1000 d / t` for the growth `d` of the
    counters between two samples `t` milliseconds apart, if the counters grow from the sample that
    is kept to the present one and no usage error comes before a new cache time. -/
theorem rates_between_samples (lib : DiskLibrary φ) (name : String)
    (disk : DiskState φ) (hnew : disk.New) (start : DiskReading) (now : ℤ)
    (calls : List (DiskCall φ))
    (hG : EveryStep (watchDisk lib name) (RateGuard lib name) (startDisk lib name disk start now)
      calls) :
    EveryState (watchDisk lib name) (RatesCorrect lib name disk)
      (startDisk lib name disk start now) calls := by
  apply everyState_of_invariant
    (I := fun w => RateInv lib name disk w.usageFailed w.samples (w.disk, w.totals))
    (G := RateGuard lib name)
  · intro w call w' h hguard hstep
    exact h.step hguard hstep
  · exact fun w h => ⟨h.rates, fun honly => (h.root honly).2⟩
  · have hbefore : RateInv lib name disk false (startDisk lib name disk start now).samples
        (disk, .zero lib) := by
      refine ⟨?_, ?_, ?_, fun honly => ⟨honly, .inl rfl⟩⟩
      · intro cacheTimeMs prev hprev
        simp [hnew.diskPrev] at hprev
      · exact fun stats hstats => .inr (.inl (hnew.time name stats hstats))
      · intro stats hstats
        exact .inl (congrArg (Option.map FsStats.rates) hstats)
    refine hbefore.refreshed rfl refreshed_initializeDiskIoStats ?_ rfl
    rintro s ⟨d, hd, rfl⟩
    simp [startDisk, Option.mem_def.mp hd]
  · exact hG

theorem twoDisks_new : twoDisks.New where
  diskPrev _ _ := rfl
  time name := by
    have hone : ∀ stats ∈ (PointerMap.empty.store "sda" sampleFs).read name,
        stats.time = zeroTime := by
      refine forall_read_store ?_ fun _ => rfl
      intro stats hstats
      cases hstats
    exact forall_read_store hone fun _ => rfl

def ratesAfter (start : DiskReading) (calls : List (DiskCall ℕ)) : Option (DiskRates ℕ) := do
  let w ← exec (watchDisk sampleDisk "sda") (startDisk sampleDisk "sda" twoDisks start 0) calls
  let stats ← w.disk.fsStats.read "sda"
  return stats.rates

/-- The usage is read, and half a second later `sda` has read another 4 MiB. -/
def growingRun : List (DiskCall ℕ) :=
  [.updateDiskUsage 0 fun _ => some ⟨0, 0, 0⟩,
    .updateDiskIo 1000 500000000 (some (readBoth 5242880 0))]

theorem rates_of_growing_device :
    ratesAfter (readBoth 1048576 0) growingRun = some ⟨8388608, 0, 8, 0⟩ ∧
      EveryState (watchDisk sampleDisk "sda") (RatesCorrect sampleDisk "sda" twoDisks)
        (startDisk sampleDisk "sda" twoDisks (readBoth 1048576 0) 0) growingRun :=
  ⟨by decide +kernel, rates_between_samples sampleDisk "sda" twoDisks twoDisks_new
    (readBoth 1048576 0) 0 growingRun (by decide +kernel)⟩

/-- The usage of `sda` cannot be read, and a new cache time comes a second later.  The counter has
    not moved. -/
def usageErrorRun : List (DiskCall ℕ) :=
  [.updateDiskUsage 0 fun _ => none,
    .updateDiskIo 1000 1000000000 (some (readBoth 10737418240 0))]

/-- The counter of `sda` starts again at zero, and the next call comes after five days. -/
def counterResetRun : List (DiskCall ℕ) :=
  [.updateDiskIo 1000 432000000000000 (some (readBoth 0 0))]

/-- **Totals and wrapped differences are reported**: after a usage error the 10 GiB since boot, and
    after a reset of the counter and five days a difference below zero that passes the limit. -/
theorem since_boot_total_reported :
    ratesAfter (readBoth 10737418240 0) usageErrorRun = some ⟨10737418240, 0, 10240, 0⟩ ∧
      ratesAfter (readBoth 1000 0) counterResetRun = some ⟨42700796466, 0, 40722, 0⟩ ∧
      (∃ w, exec (watchDisk sampleDisk "sda")
          (startDisk sampleDisk "sda" twoDisks (readBoth 10737418240 0) 0) usageErrorRun = some w ∧
        ¬ RatesCorrect sampleDisk "sda" twoDisks w) ∧
      ∃ w, exec (watchDisk sampleDisk "sda")
          (startDisk sampleDisk "sda" twoDisks (readBoth 1000 0) 0) counterResetRun = some w ∧
        ¬ RatesCorrect sampleDisk "sda" twoDisks w := by
  refine ⟨by decide +kernel, by decide +kernel, ⟨_, rfl, ?_⟩, _, rfl, ?_⟩
  · exact fun h => absurd h.device (by decide +kernel)
  · exact fun h => absurd h.device (by decide +kernel)

end Bantay.Agent.Shared
