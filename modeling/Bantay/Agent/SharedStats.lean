import Bantay.Agent.ContainerIsolation
import Bantay.Agent.ContainerSamples
import Bantay.Agent.GatherStats
import Bantay.Lib.PointerMap

/-!
# Statistics behind Pointers

The data that `gatherStats` puts into its cache holds pointers: to the structs of the extra
filesystems, which are those of `Agent.fsStats`, and to the structs of the containers, which are
those of `dockerManager.containerStatsMap`.  Both maps are the same for all cache times.  Here they
are maps of pointers into a heap, and the functions that gather data write to it as the source
does.

What `gatherStats` does with the data is in `GatherStats`.
-/

namespace Bantay.Agent.Shared

open Bantay.Lib PointerMap
open Bantay.Agent.Docker (DockerAction ApiInfoDoc Answers nanosecondsSince zeroTime dockerStep
  updateContainerStats)

/-! ## Filesystems -/

structure IoStats (φ : Type) where
  readTime : φ
  writeTime : φ
  utilPct : φ
  rAwait : φ
  wAwait : φ
  weightedIo : φ
deriving DecidableEq

/-- `system.FsStats`, without the maxima, which the hub computes. -/
structure FsStats (φ : Type) where
  time : ℤ
  root : Bool
  mountpoint : String
  name : String
  diskTotal : φ
  diskUsed : φ
  totalRead : UInt64
  totalWrite : UInt64
  diskReadPs : φ
  diskWritePs : φ
  diskReadBytes : UInt64
  diskWriteBytes : UInt64
  diskIoStats : IoStats φ
deriving DecidableEq

/-- The fields of `system.Stats` for the root filesystem. -/
structure DiskTotals (φ : Type) where
  diskTotal : φ
  diskUsed : φ
  diskPct : φ
  diskReadPs : φ
  diskWritePs : φ
  diskIo : UInt64 × UInt64
  diskIoStats : IoStats φ
deriving DecidableEq

structure IoCounters where
  name : String
  readBytes : UInt64
  writeBytes : UInt64
  readTime : UInt64
  writeTime : UInt64
  ioTime : UInt64
  weightedIo : UInt64
  readCount : UInt64
  writeCount : UInt64

structure PrevDisk where
  readBytes : UInt64
  writeBytes : UInt64
  readTime : UInt64
  writeTime : UInt64
  ioTime : UInt64
  weightedIo : UInt64
  readCount : UInt64
  writeCount : UInt64
  at' : ℤ

structure DiskUsage (φ : Type) where
  total : UInt64
  used : UInt64
  usedPercent : φ

/-- What the code computes with `float64`. -/
structure DiskLibrary (φ : Type) where
  zero : φ
  bytesToGigabytes : UInt64 → φ
  bytesToMegabytes : UInt64 → φ
  twoDecimals : φ → φ
  /-- `mb > 50_000`. -/
  exceeds50000 : φ → Bool
  /-- `utils.TwoDecimals(float64(part) / float64(whole) * 100)`. -/
  percent : UInt64 → UInt64 → φ
  /-- `utils.TwoDecimals(float64(part) / float64(whole))`. -/
  quotient : UInt64 → UInt64 → φ
  /-- `total > 0`. -/
  positive : φ → Bool
  /-- `utils.TwoDecimals((used / total) * 100)`. -/
  usedPct : φ → φ → φ

/-- The fields of `Agent` for filesystems. -/
structure DiskState (φ : Type) where
  fsStats : PointerMap String (FsStats φ)
  fsNames : List String
  diskPrev : UInt16 → String → Option PrevDisk
  lastDiskUsageUpdate : ℤ
  diskUsageCacheDuration : ℤ

section Disk

variable {φ : Type} (lib : DiskLibrary φ)

/-- The values of a new `system.Stats`. -/
def DiskTotals.zero : DiskTotals φ where
  diskTotal := lib.zero
  diskUsed := lib.zero
  diskPct := lib.zero
  diskReadPs := lib.zero
  diskWritePs := lib.zero
  diskIo := (0, 0)
  diskIoStats := ⟨lib.zero, lib.zero, lib.zero, lib.zero, lib.zero, lib.zero⟩

/-- Extra filesystems are not asked, to let their disks sleep. -/
def DiskState.cacheExtraFs (d : DiskState φ) (now : ℤ) : Bool :=
  0 < d.diskUsageCacheDuration && d.lastDiskUsageUpdate != zeroTime &&
    nanosecondsSince now d.lastDiskUsageUpdate < d.diskUsageCacheDuration

def usageOf (cacheExtraFs : Bool) (usage : String → Option (DiskUsage φ))
    (q : PointerMap String (FsStats φ) × DiskTotals φ) (device : String) :
    PointerMap String (FsStats φ) × DiskTotals φ :=
  match q.1.read device with
  | none => q
  | some stats =>
    if cacheExtraFs && !stats.root then q
    else
      match usage device with
      | some d =>
        let stats :=
          { stats with
            diskTotal := lib.bytesToGigabytes d.total
            diskUsed := lib.bytesToGigabytes d.used }
        (q.1.store device stats,
          if stats.root then
            { q.2 with
              diskTotal := lib.bytesToGigabytes d.total
              diskUsed := lib.bytesToGigabytes d.used
              diskPct := lib.twoDecimals d.usedPercent }
          else q.2)
      | none =>
        -- likely unmounted
        (q.1.store device
          { stats with
            diskTotal := lib.zero
            diskUsed := lib.zero
            totalRead := 0
            totalWrite := 0 },
          q.2)

def DiskState.updateDiskUsage (d : DiskState φ) (now : ℤ)
    (usage : String → Option (DiskUsage φ)) (totals : DiskTotals φ) :
    DiskState φ × DiskTotals φ :=
  let cacheExtraFs := d.cacheExtraFs now
  let q := d.fsStats.slots.keys.foldl (usageOf lib cacheExtraFs usage) (d.fsStats, totals)
  ({ d with
      fsStats := q.1
      lastDiskUsageUpdate := if cacheExtraFs then d.lastDiskUsageUpdate else now }, q.2)

def initializeDevice (counters : List (String × IoCounters)) (now : ℤ)
    (q : PointerMap String (FsStats φ) × List String) (device : String) :
    PointerMap String (FsStats φ) × List String :=
  match counters.lookup device, q.1.read device with
  | some d, some stats =>
    (q.1.store device
      { stats with time := now, totalRead := d.readBytes, totalWrite := d.writeBytes },
      q.2 ++ [device])
  | _, _ => q

def DiskState.initializeDiskIoStats (d : DiskState φ) (counters : List (String × IoCounters))
    (now : ℤ) : DiskState φ :=
  let q := d.fsStats.slots.keys.foldl (initializeDevice counters now) (d.fsStats, [])
  { d with fsStats := q.1, fsNames := q.2 }

def prevDiskFromCounter (d : IoCounters) (now : ℤ) : PrevDisk where
  readBytes := d.readBytes
  writeBytes := d.writeBytes
  readTime := d.readTime
  writeTime := d.writeTime
  ioTime := d.ioTime
  weightedIo := d.weightedIo
  readCount := d.readCount
  writeCount := d.writeCount
  at' := now

/-- That of the cache time, that of the agent, or the present one. -/
def DiskState.prevDisk (disk : DiskState φ) (cacheTimeMs : UInt16) (name : String)
    (stats : FsStats φ) (d : IoCounters) (now : ℤ) : PrevDisk :=
  match disk.diskPrev cacheTimeMs name with
  | some prev => prev
  | none =>
    if stats.time = zeroTime then prevDiskFromCounter d now
    else
      { prevDiskFromCounter d now with
        readBytes := stats.totalRead
        writeBytes := stats.totalWrite
        at' := stats.time }

/-- The times and the queue of a device since a snapshot. -/
def ioStats (d : IoCounters) (prev : PrevDisk) (msElapsed : UInt64) : IoStats φ where
  readTime := lib.percent (d.readTime - prev.readTime) msElapsed
  writeTime := lib.percent (d.writeTime - prev.writeTime) msElapsed
  utilPct := lib.percent (d.ioTime - prev.ioTime) msElapsed
  rAwait :=
    if 0 < d.readCount - prev.readCount then
      lib.quotient (d.readTime - prev.readTime) (d.readCount - prev.readCount)
    else lib.zero
  wAwait :=
    if 0 < d.writeCount - prev.writeCount then
      lib.quotient (d.writeTime - prev.writeTime) (d.writeCount - prev.writeCount)
    else lib.zero
  weightedIo := lib.percent (d.weightedIo - prev.weightedIo) msElapsed

def ioOf (cacheTimeMs : UInt16) (now : ℤ) (counters : List (String × IoCounters))
    (q : DiskState φ × DiskTotals φ) (counter : String × IoCounters) :
    DiskState φ × DiskTotals φ :=
  let disk := q.1
  let (name, d) := counter
  match disk.fsStats.read d.name with
  | none => q
  | some stats =>
    let prev := disk.prevDisk cacheTimeMs name stats d now
    let msElapsed := UInt64.ofInt ((nanosecondsSince now prev.at').tdiv 1000000)
    let disk :=
      { disk with
        diskPrev := Function.update disk.diskPrev cacheTimeMs
          (Function.update (disk.diskPrev cacheTimeMs) name (some (prevDiskFromCounter d now))) }
    if msElapsed < 100 then (disk, q.2)
    else
      let diskIoRead := (d.readBytes - prev.readBytes) * 1000 / msElapsed
      let diskIoWrite := (d.writeBytes - prev.writeBytes) * 1000 / msElapsed
      let readMbPerSecond := lib.bytesToMegabytes diskIoRead
      let writeMbPerSecond := lib.bytesToMegabytes diskIoWrite
      if lib.exceeds50000 readMbPerSecond || lib.exceeds50000 writeMbPerSecond then
        (disk.initializeDiskIoStats counters now, q.2)
      else
        let stats :=
          { stats with
            time := now
            totalRead := d.readBytes
            totalWrite := d.writeBytes
            diskReadPs := readMbPerSecond
            diskWritePs := writeMbPerSecond
            diskReadBytes := diskIoRead
            diskWriteBytes := diskIoWrite
            diskIoStats := ioStats lib d prev msElapsed }
        ({ disk with fsStats := disk.fsStats.store d.name stats },
          if stats.root then
            { q.2 with
              diskReadPs := readMbPerSecond
              diskWritePs := writeMbPerSecond
              diskIo := (diskIoRead, diskIoWrite)
              diskIoStats := ioStats lib d prev msElapsed }
          else q.2)

/-- The counters are `none` for an error. -/
def DiskState.updateDiskIo (disk : DiskState φ) (cacheTimeMs : UInt16) (now : ℤ)
    (counters : Option (List (String × IoCounters))) (totals : DiskTotals φ) :
    DiskState φ × DiskTotals φ :=
  match counters with
  | none => (disk, totals)
  | some counters => counters.foldl (ioOf lib cacheTimeMs now counters) (disk, totals)

def extraFilesystem (fsStats : PointerMap String (FsStats φ))
    (q : GoMap String ℕ × GoMap String φ) (entry : (_ : String) × ℕ) :
    GoMap String ℕ × GoMap String φ :=
  match fsStats.deref entry.2 with
  | none => q
  | some stats =>
    if !stats.root && lib.positive stats.diskTotal then
      -- Use custom name if available, otherwise use device name
      let key := if stats.name ≠ "" then stats.name else entry.1
      (q.1.insert key entry.2, q.2.insert key (lib.usedPct stats.diskUsed stats.diskTotal))
    else q

def extraFs (fsStats : PointerMap String (FsStats φ)) : GoMap String ℕ × GoMap String φ :=
  fsStats.slots.entries.foldl (extraFilesystem lib fsStats) (∅, ∅)

end Disk

/-! ## Containers -/

structure SharedDocker (φ : Type) where
  manager : Docker.DockerManager φ
  containerStatsMap : PointerMap String (Docker.Stats φ)

/-- A call of `getDockerStats`: the list, and the steps after it, the last one apart. -/
structure DockerCall where
  podman : Bool
  windows : Bool
  reply : Docker.Reply (List ApiInfoDoc)
  steps : List DockerAction

/-- A step between the list and the end of a call. -/
def inCall : DockerAction → Bool
  | .version _ | .enter _ | .update _ _ _ | .retry _ _ _ => true
  | .list _ _ _ _ | .finish => false

section Containers

variable {φ : Type} (lib : Docker.Library φ) (excludeContainers : List String)

/-- The struct of a container after an answer: it is written to whether the update succeeds or
    not. -/
def SharedDocker.written (d : SharedDocker φ) (i : ℕ) (id : String) (answers : Answers) :
    PointerMap String (Docker.Stats φ) :=
  if answers.stats = .unreachable then d.containerStatsMap
  else
    match d.manager.apiContainerList.elems[i]? with
    | none => d.containerStatsMap
    | some ctr =>
      match (updateContainerStats lib d.manager.call ctr (d.manager.tracked id) d.manager.shared
        answers).own.stats with
      | some stats => d.containerStatsMap.store id stats
      | none => d.containerStatsMap

def deleteIfNone (map : PointerMap String (Docker.Stats φ)) (id : String)
    (stats : Option (Docker.Stats φ)) : PointerMap String (Docker.Stats φ) :=
  if stats.isNone then map.delete id else map

def SharedDocker.mapAfter (d : SharedDocker φ) (m' : Docker.DockerManager φ) :
    DockerAction → PointerMap String (Docker.Stats φ)
  | .version _ | .list _ _ _ _ => d.containerStatsMap
  | .enter id => deleteIfNone d.containerStatsMap id (m'.tracked id).stats
  | .update i id answers => deleteIfNone (d.written lib i id answers) id (m'.tracked id).stats
  | .retry i id answers => d.written lib i id answers
  | .finish => d.containerStatsMap.retain fun id => (d.manager.tracked id).valid

def SharedDocker.step (d : SharedDocker φ) (a : DockerAction) : Option (SharedDocker φ) :=
  (dockerStep lib excludeContainers d.manager a).map fun m' => ⟨m', d.mapAfter lib m' a⟩

/-- The pointers to the structs of the containers, `none` for an error. -/
def SharedDocker.getDockerStats (d : SharedDocker φ) (cacheTimeMs : UInt16) (call : DockerCall) :
    Option (SharedDocker φ × Option (List ℕ)) := do
  let d ← d.step lib excludeContainers (.list cacheTimeMs call.podman call.windows call.reply)
  if d.manager.busy then
    let d ← exec (SharedDocker.step lib excludeContainers) d (call.steps.filter inCall)
    let d ← d.step lib excludeContainers .finish
    pure (d, some (d.containerStatsMap.slots.entries.map Sigma.snd))
  else pure (d, none)

end Containers

/-! ## The agent -/

structure SystemStats (μ φ : Type) where
  measured : μ
  disk : DiskTotals φ
  extraFs : GoMap String ℕ

structure SystemInfo (ι φ : Type) where
  info : ι
  extraFsPct : GoMap String φ
deriving DecidableEq

/-- `system.Stats` as it is sent: the structs in place of the pointers. -/
structure SentStats (μ φ : Type) where
  measured : μ
  disk : DiskTotals φ
  extraFs : List (String × Option (FsStats φ))
deriving DecidableEq

abbrev Payload (μ ι φ υ δ : Type) := CombinedData (SystemStats μ φ) (SystemInfo ι φ) ℕ υ δ

abbrev Contents (μ ι φ υ δ : Type) :=
  CombinedData (SentStats μ φ) (SystemInfo ι φ) (Option (Docker.Stats φ)) υ δ

/-- What the agent meets while it gathers data. -/
structure Collection (μ ι φ δ : Type) where
  measured : μ
  info : ι
  usage : String → Option (DiskUsage φ)
  ioCounters : Option (List (String × IoCounters))
  docker : DockerCall
  details : Option δ

structure SharedAgent (μ ι φ υ δ : Type) where
  agent : StatsAgent (SystemStats μ φ) (SystemInfo ι φ) ℕ υ δ
  disk : DiskState φ
  docker : SharedDocker φ

/-- What the agent is configured with, and the functions it uses. -/
structure Setup (φ : Type) where
  disk : DiskLibrary φ
  docker : Docker.Library φ
  excludeContainers : List String

section Gather

variable {μ ι φ υ δ : Type} (setup : Setup φ)

variable (a : SharedAgent μ ι φ υ δ)

/-- The contents of data: what its pointers point to now. -/
def SharedAgent.contents (data : Payload μ ι φ υ δ) : Contents μ ι φ υ δ where
  stats :=
    { measured := data.stats.measured
      disk := data.stats.disk
      extraFs := data.stats.extraFs.entries.map fun entry =>
        (entry.1, a.disk.fsStats.deref entry.2) }
  info := data.info
  services := data.services
  containers := data.containers.map a.docker.containerStatsMap.deref
  systemdServices := data.systemdServices
  details := data.details

def SharedAgent.collectDocker (cacheTimeMs : UInt16)
    (collection : Collection μ ι φ δ) : Option (SharedDocker φ × Option (List ℕ)) :=
  if a.agent.dockerManager then
    a.docker.getDockerStats setup.docker setup.excludeContainers cacheTimeMs collection.docker
  else some (a.docker, none)

def SharedAgent.collectDisk (now : ℕ) (cacheTimeMs : UInt16)
    (collection : Collection μ ι φ δ) : DiskState φ × DiskTotals φ :=
  let q := a.disk.updateDiskUsage setup.disk now collection.usage (DiskTotals.zero setup.disk)
  q.1.updateDiskIo setup.disk cacheTimeMs now collection.ioCounters q.2

def SharedAgent.collect (now : ℕ) (cacheTimeMs : UInt16) (collection : Collection μ ι φ δ) :
    Option (SharedAgent μ ι φ υ δ × Sample (SystemStats μ φ) (SystemInfo ι φ) ℕ δ) := do
  let q := a.collectDisk setup now cacheTimeMs collection
  let (docker, containers) ← a.collectDocker setup cacheTimeMs collection
  let extra := extraFs setup.disk q.1.fsStats
  pure ({ a with disk := q.1, docker },
    { stats := ⟨collection.measured, q.2, extra.1⟩
      info := ⟨collection.info, extra.2⟩
      containers
      details := collection.details })

/-- `gatherStats`, with the contents of its response. -/
def SharedAgent.gatherStats (now : ℕ)
    (collection : Collection μ ι φ δ) (options : DataRequestOptions) :
    Option (SharedAgent μ ι φ υ δ × Contents μ ι φ υ δ) :=
  match a.agent.cached now options.cacheTimeMs with
  | some data => some (a, a.contents data)
  | none =>
    (a.collect setup now options.cacheTimeMs collection).map fun (a, sample) =>
      let q := a.agent.gatherStats now sample options
      ({ a with agent := q.1 }, a.contents q.2)

end Gather

/-! ## What a collection does not write to -/

/-- A call of `getDockerStats`: the list, and the steps and the end if it could be decoded. -/
theorem getDockerStats_eq_some {φ : Type} {lib : Docker.Library φ} {excludeContainers : List String}
    {d d' : SharedDocker φ} {cacheTimeMs : UInt16}
    {call : DockerCall} {containers : Option (List ℕ)}
    (hs : d.getDockerStats lib excludeContainers cacheTimeMs call = some (d', containers)) :
    ∃ d₁, d.step lib excludeContainers
        (.list cacheTimeMs call.podman call.windows call.reply) = some d₁ ∧
      ((∃ d₂, exec (SharedDocker.step lib excludeContainers) d₁ (call.steps.filter inCall) =
          some d₂ ∧ d₂.step lib excludeContainers .finish = some d' ∧
          containers = some (d'.containerStatsMap.slots.entries.map Sigma.snd)) ∨
        (d' = d₁ ∧ containers = none)) := by
  simp only [SharedDocker.getDockerStats, Option.bind_eq_bind, Option.bind_eq_some_iff] at hs
  obtain ⟨d₁, hlist, hs⟩ := hs
  refine ⟨d₁, hlist, ?_⟩
  split at hs
  · simp only [Option.bind_eq_some_iff] at hs
    obtain ⟨d₂, hrun, d₃, hfinish, hs⟩ := hs
    obtain ⟨rfl, rfl⟩ := hs
    exact .inl ⟨d₂, hrun, hfinish, rfl⟩
  · simp only [pure, Option.some.injEq, Prod.mk.injEq] at hs
    exact .inr ⟨hs.1.symm, hs.2.symm⟩

section Agreement

variable {φ : Type} {lib : Docker.Library φ} {excludeContainers : List String}
  {d d' : SharedDocker φ} {m' : Docker.DockerManager φ}

/-- The structs are the statistics that the manager tracks. -/
def SharedDocker.Agrees (d : SharedDocker φ) : Prop :=
  ∀ id, d.containerStatsMap.read id = (d.manager.tracked id).stats

theorem read_deleteIfNone_of_ne (map : PointerMap String (Docker.Stats φ)) {id id' : String}
    (hne : id' ≠ id) (stats : Option (Docker.Stats φ)) :
    (deleteIfNone map id stats).read id' = map.read id' := by
  unfold deleteIfNone
  split
  · rw [read_delete, if_neg hne]
  · rfl

theorem read_deleteIfNone_self {map : PointerMap String (Docker.Stats φ)} {id : String}
    {stats : Option (Docker.Stats φ)} (h : stats ≠ none → map.read id = stats) :
    (deleteIfNone map id stats).read id = stats := by
  cases stats with
  | none => simp [deleteIfNone, read_delete]
  | some st => exact h nofun

/-- The struct after an answer is what `updateContainerStats` leaves, errors included. -/
theorem read_written (h : d.Agrees) {i : ℕ} {id : String} {answers : Answers}
    {ctr : Docker.ApiInfo} (hctr : d.manager.apiContainerList.elems[i]? = some ctr) (id' : String) :
    (d.written lib i id answers).read id' =
      if id' = id then
        (updateContainerStats lib d.manager.call ctr (d.manager.tracked id) d.manager.shared
          answers).own.stats
      else (d.manager.tracked id').stats := by
  unfold SharedDocker.written
  split
  case isTrue hun =>
    rw [h id', updateContainerStats, if_pos hun]
    split <;> simp_all
  case isFalse hreach =>
    simp only [hctr]
    have hsome : (updateContainerStats lib d.manager.call ctr (d.manager.tracked id)
        d.manager.shared answers).own.stats.isSome := by
      simp only [updateContainerStats, if_neg hreach]
      split
      · simp only [Docker.measure]
        repeat' split
        all_goals rfl
      · rfl
    obtain ⟨stats, hstats⟩ := Option.isSome_iff_exists.mp hsome
    simp only [hstats]
    split
    case isTrue heq => rw [heq, read_store_self]
    case isFalse hne => rw [read_store_of_ne hne, h id']

theorem enter_stats_of_ne {id id' : String}
    (hs : d.manager.enter lib excludeContainers id = some m') (hne : id' ≠ id) :
    (m'.tracked id').stats = (d.manager.tracked id').stats := by
  obtain ⟨ctr, _, _, _, ⟨_, rfl⟩ | ⟨name, _, rfl⟩⟩ := Docker.enter_eq_some hs
  · rfl
  · split
    · rfl
    · simp only [Function.update_of_ne hne]

theorem enter_stats (own : Docker.Tracked φ) (status : String) :
    (own.enter status).stats = none ∨ (own.enter status).stats = own.stats := by
  unfold Docker.Tracked.enter
  split
  · exact .inl rfl
  · exact .inr rfl

theorem enter_stats_of_ne_none {id : String}
    (hs : d.manager.enter lib excludeContainers id = some m')
    (hstats : (m'.tracked id).stats ≠ none) :
    (m'.tracked id).stats = (d.manager.tracked id).stats := by
  obtain ⟨ctr, _, _, _, ⟨_, rfl⟩ | ⟨name, _, rfl⟩⟩ := Docker.enter_eq_some hs
  · rfl
  · split at hstats
    case isTrue hex => rw [if_pos hex]
    case isFalse hex =>
      rw [if_neg hex]
      simp only [Function.update_self] at hstats ⊢
      exact (enter_stats _ _).resolve_left hstats

/-- **Every step writes to the structs what it tracks.** -/
theorem step_agrees {a : DockerAction} (h : d.Agrees)
    (hs : d.step lib excludeContainers a = some d') : d'.Agrees := by
  obtain ⟨m', hm, rfl⟩ := Option.map_eq_some_iff.mp hs
  intro id'
  cases a with
  | version reply =>
    simp only [dockerStep] at hm
    split at hm
    case isTrue => cases hm
    case isFalse =>
      cases hm
      exact h id'
  | list cacheTimeMs podman windows reply =>
    simp only [dockerStep] at hm
    split at hm
    case isTrue => cases hm
    case isFalse =>
      cases hm
      simp only [SharedDocker.mapAfter, h id', Docker.DockerManager.list]
      repeat' split
      all_goals rfl
  | enter id =>
    by_cases heq : id' = id
    · subst heq
      exact read_deleteIfNone_self fun hne =>
        (h id').trans (enter_stats_of_ne_none hm hne).symm
    · exact (read_deleteIfNone_of_ne _ heq _).trans ((h id').trans (enter_stats_of_ne hm heq).symm)
  | update i id answers =>
    obtain ⟨ctr, hctr, _, _, _, rfl⟩ := Docker.update_eq_some hm
    by_cases heq : id' = id
    · subst heq
      refine read_deleteIfNone_self fun hne => ?_
      rw [read_written h hctr, if_pos rfl]
      simp only [Docker.DockerManager.updateAt, Function.update_self] at hne ⊢
      split at hne
      case isTrue hok => rw [if_pos hok]
      case isFalse => exact absurd rfl hne
    · refine (read_deleteIfNone_of_ne _ heq _).trans ?_
      rw [read_written h hctr, if_neg heq]
      simp only [Docker.DockerManager.updateAt, Function.update_of_ne heq]
  | retry i id answers =>
    obtain ⟨ctr, hctr, _, _, _, rfl⟩ := Docker.retry_eq_some hm
    simp only [SharedDocker.mapAfter, read_written h hctr, Docker.DockerManager.updateAt]
    by_cases heq : id' = id <;> simp [heq]
  | finish =>
    simp only [dockerStep, Docker.DockerManager.finish] at hm
    split at hm
    case isFalse => cases hm
    case isTrue =>
      cases hm
      simp only [SharedDocker.mapAfter, read_retain, h id', Docker.Tracked.finish]

/-- In every run the pointers lead to the statistics that `DockerManager` tracks. -/
theorem structs_agree {as : List DockerAction}
    (hrun : exec (SharedDocker.step lib excludeContainers)
      ⟨Docker.newDockerManager, PointerMap.empty⟩ as = some d) : d.Agrees :=
  exec_invariant (fun _ _ _ h _ hs => step_agrees h hs) (fun _ => rfl)
    (everyStep_of_forall_mem fun _ _ => trivial) hrun

end Agreement

section Frame

variable {φ : Type} {addr : ℕ}
  {lib : Docker.Library φ} {excludeContainers : List String} {d d' : SharedDocker φ}

/-- The container whose struct a step writes to. -/
def writesTo : DockerAction → Option String
  | .update _ id answers | .retry _ id answers =>
    if answers.stats = .unreachable then none else some id
  | _ => none

theorem written_spares {i : ℕ} {id : String} {answers : Answers}
    (haddr : addr < d.containerStatsMap.cells.length)
    (hid : answers.stats ≠ .unreachable → d.containerStatsMap.slots.lookup id ≠ some addr) :
    Spares addr d.containerStatsMap (d.written lib i id answers) := by
  unfold SharedDocker.written
  split
  case isTrue => exact Spares.refl _ _
  case isFalse hreach =>
    split
    · exact Spares.refl _ _
    · split
      · exact spares_store haddr (hid hreach)
      · exact Spares.refl _ _

theorem deleteIfNone_spares (map : PointerMap String (Docker.Stats φ)) (id : String)
    (stats : Option (Docker.Stats φ)) :
    Spares addr map (deleteIfNone map id stats) := by
  unfold deleteIfNone
  split
  · exact spares_delete
  · exact Spares.refl _ _

variable (haddr : addr < d.containerStatsMap.cells.length)
include haddr

/-- A step leaves the structs of other containers alone. -/
theorem step_spares {a : DockerAction}
    (hid : ∀ id ∈ writesTo a, d.containerStatsMap.slots.lookup id ≠ some addr)
    (hs : d.step lib excludeContainers a = some d') :
    Spares addr d.containerStatsMap d'.containerStatsMap := by
  obtain ⟨m', _, rfl⟩ := Option.map_eq_some_iff.mp hs
  have hwrites : ∀ i id answers, writesTo a = writesTo (.update i id answers) →
      answers.stats ≠ .unreachable → d.containerStatsMap.slots.lookup id ≠ some addr := by
    intro i id answers heq hreach
    exact hid id (by rw [heq]; simp [writesTo, hreach])
  cases a with
  | version | list => exact Spares.refl _ _
  | enter id => exact deleteIfNone_spares _ _ _
  | update i id answers =>
    exact (written_spares haddr (hwrites i id answers rfl)).trans (deleteIfNone_spares _ _ _)
  | retry i id answers => exact written_spares haddr (hwrites i id answers rfl)
  | finish => exact spares_retain _

theorem exec_spares {as : List DockerAction}
    (hid : ∀ a ∈ as, ∀ id ∈ writesTo a, d.containerStatsMap.slots.lookup id ≠ some addr)
    (hrun : exec (SharedDocker.step lib excludeContainers) d as = some d') :
    Spares addr d.containerStatsMap d'.containerStatsMap := by
  induction as generalizing d with
  | nil =>
    cases hrun
    exact Spares.refl _ _
  | cons a as ih =>
    obtain ⟨d₁, hs, hrest⟩ := exec_cons_eq_some.mp hrun
    have hfirst := step_spares haddr (hid a List.mem_cons_self) hs
    refine hfirst.trans (ih (Nat.lt_of_lt_of_le haddr hfirst.size) ?_ hrest)
    intro b hb id hwrites hslot
    exact hid b (List.mem_cons_of_mem a hb) id hwrites (hfirst.slots id hslot)

/-- **A call of `getDockerStats`** writes to the structs of the containers it updates. -/
theorem getDockerStats_spares {call : DockerCall} {containers : Option (List ℕ)}
    (hid : ∀ a ∈ call.steps, ∀ id ∈ writesTo a, d.containerStatsMap.slots.lookup id ≠ some addr)
    (hs : d.getDockerStats lib excludeContainers cacheTimeMs call = some (d', containers)) :
    Spares addr d.containerStatsMap d'.containerStatsMap := by
  obtain ⟨d₁, hlist, hcases⟩ := getDockerStats_eq_some hs
  have hfirst := step_spares haddr (by simp [writesTo]) hlist
  rcases hcases with ⟨d₂, hrun, hfinish, _⟩ | ⟨rfl, _⟩
  · have haddr₁ := Nat.lt_of_lt_of_le haddr hfirst.size
    have hrun' := exec_spares haddr₁ (fun a ha id hwrites hslot =>
      hid a (List.mem_of_mem_filter ha) id hwrites (hfirst.slots id hslot)) hrun
    have hlast := step_spares (Nat.lt_of_lt_of_le haddr₁ hrun'.size) (by simp [writesTo]) hfinish
    exact hfirst.trans (hrun'.trans hlast)
  · exact hfirst

end Frame

/-! ### Filesystems -/

section DiskFrame

variable {φ : Type} {lib : DiskLibrary φ} {addr : ℕ} {d : DiskState φ} {now : ℤ}
  {counters : List (String × IoCounters)}

theorem usageOf_spares (lib : DiskLibrary φ) (usage : String → Option (DiskUsage φ))
    {q : PointerMap String (FsStats φ) × DiskTotals φ} (haddr : addr < q.1.cells.length)
    (hroot : ∀ stats ∈ q.1.deref addr, stats.root = false) (device : String) :
    Spares addr q.1 (usageOf lib true usage q device).1 := by
  unfold usageOf
  cases hread : q.1.read device with
  | none => exact Spares.refl _ _
  | some stats =>
    by_cases hslot : q.1.slots.lookup device = some addr
    · -- the filesystem of the struct: it is not the root, so it is skipped
      have hstats : q.1.deref addr = some stats := by
        simpa [PointerMap.read, hslot] using hread
      simp only [hroot stats hstats, Bool.not_false, Bool.and_self, if_true]
      exact Spares.refl _ _
    · dsimp only
      split
      · exact Spares.refl _ _
      · cases usage device with
        | some d => exact PointerMap.spares_store haddr hslot
        | none => exact spares_store haddr hslot

/-- **`updateDiskUsage`** does not write to extra filesystems while they are cached. -/
theorem updateDiskUsage_spares {usage : String → Option (DiskUsage φ)} {totals : DiskTotals φ}
    (haddr : addr < d.fsStats.cells.length) (hcached : d.cacheExtraFs now = true)
    (hroot : ∀ stats ∈ d.fsStats.deref addr, stats.root = false) :
    Spares addr d.fsStats (d.updateDiskUsage lib now usage totals).1.fsStats := by
  unfold DiskState.updateDiskUsage
  rw [hcached]
  refine spares_foldl (C := fun m => ∀ stats ∈ m.deref addr, stats.root = false)
    Prod.fst ?_ ?_ (d.fsStats, totals) haddr hroot
  · -- the struct is as it was, and so is its `root`
    exact fun m m' hm hspares stats hstats => hm stats (hspares.deref ▸ hstats)
  · exact fun q device _ hq hroot => usageOf_spares lib usage hq hroot device

/-- The counters are those of other devices. -/
def CountersElsewhere (map : PointerMap String (FsStats φ))
    (counters : List (String × IoCounters)) (addr : ℕ) : Prop :=
  ∀ q ∈ counters, map.slots.lookup q.1 ≠ some addr ∧ map.slots.lookup q.2.name ≠ some addr

theorem CountersElsewhere.mono {map map' : PointerMap String (FsStats φ)}
    (h : CountersElsewhere map counters addr)
    (hspares : Spares addr map map') : CountersElsewhere map' counters addr :=
  fun q hq => ⟨fun hslot => (h q hq).1 (hspares.slots _ hslot),
    fun hslot => (h q hq).2 (hspares.slots _ hslot)⟩

theorem initializeDevice_spares {q : PointerMap String (FsStats φ) × List String}
    (haddr : addr < q.1.cells.length)
    (helse : CountersElsewhere q.1 counters addr) (device : String) :
    Spares addr q.1 (initializeDevice counters now q device).1 := by
  unfold initializeDevice
  split
  case h_1 d stats hd _ =>
    have hmem : (device, d) ∈ counters := by
      obtain ⟨l, l', rfl, _⟩ := List.lookup_eq_some_iff.mp hd
      simp
    exact spares_store haddr (helse _ hmem).1
  case h_2 => exact Spares.refl _ _

theorem initializeDiskIoStats_spares (haddr : addr < d.fsStats.cells.length)
    (helse : CountersElsewhere d.fsStats counters addr) :
    Spares addr d.fsStats (d.initializeDiskIoStats counters now).fsStats :=
  PointerMap.spares_foldl (C := fun m => CountersElsewhere m counters addr) Prod.fst
    (fun _ _ hm hspares => hm.mono hspares)
    (fun _ device _ hq helse => initializeDevice_spares hq helse device) (d.fsStats, []) haddr helse

theorem ioOf_spares (lib : DiskLibrary φ) (cacheTimeMs : UInt16) (now : ℤ)
    {q : DiskState φ × DiskTotals φ} {counter : String × IoCounters}
    (haddr : addr < q.1.fsStats.cells.length) (helse : CountersElsewhere q.1.fsStats counters addr)
    (hmem : counter ∈ counters) :
    Spares addr q.1.fsStats (ioOf lib cacheTimeMs now counters q counter).1.fsStats := by
  unfold ioOf
  dsimp only
  split
  · exact Spares.refl _ _
  · split_ifs
    · exact Spares.refl _ _
    · exact initializeDiskIoStats_spares haddr helse
    · exact spares_store haddr (helse counter hmem).2
    · exact spares_store haddr (helse counter hmem).2

/-- **`updateDiskIo`** writes to the filesystems whose devices have counters. -/
theorem updateDiskIo_spares {cacheTimeMs : UInt16} {counters : Option (List (String × IoCounters))}
    {totals : DiskTotals φ}
    (haddr : addr < d.fsStats.cells.length)
    (helse : ∀ list ∈ counters, CountersElsewhere d.fsStats list addr) :
    Spares addr d.fsStats
      (d.updateDiskIo lib cacheTimeMs now counters totals).1.fsStats := by
  cases counters with
  | none => exact Spares.refl _ _
  | some list =>
    exact spares_foldl (C := fun m => CountersElsewhere m list addr)
      (fun q => q.1.fsStats) (fun _ _ hm hspares => hm.mono hspares)
      (fun _ _ hmem hq helse => ioOf_spares lib cacheTimeMs now hq helse hmem) (d, totals) haddr
      (helse list rfl)

end DiskFrame

end Bantay.Agent.Shared
