import Bantay.Agent.SharedStats

/-!
# Responses from the Cache

A response that comes from the cache of `gatherStats` should be the one that filled the entry.  The
entry holds pointers, so it is what they point to now.  A collection for another cache time writes
to the same structs: to every extra filesystem that is asked for its usage or has counters, and to
every container that is updated.  And the response that filled an entry may carry details, which
the entry does not have.

Beside the agent runs what every entry was filled with.
-/

namespace Bantay.Agent.Shared

open Bantay.Lib

/-! ## Requests -/

/-- A request, the time since the one before it, and what the agent meets if it gathers data. -/
structure Request (μ ι φ δ : Type) where
  options : DataRequestOptions
  elapsed : ℕ
  collection : Collection μ ι φ δ

/-- The agent, the time of the last request, and the responses that filled the entries. -/
structure Served (μ ι φ υ δ : Type) where
  agent : SharedAgent μ ι φ υ δ
  now : ℕ
  filled : UInt16 → Option (Contents μ ι φ υ δ)

section Requests

variable {μ ι φ υ δ : Type} (setup : Setup φ)

/-- The entry that the request is answered from. -/
def Served.hit (s : Served μ ι φ υ δ) (r : Request μ ι φ δ) : Option (Payload μ ι φ υ δ) :=
  s.agent.agent.cached (s.now + r.elapsed) r.options.cacheTimeMs

def Served.respond (s : Served μ ι φ υ δ) (r : Request μ ι φ δ) :
    Option (SharedAgent μ ι φ υ δ × Contents μ ι φ υ δ) :=
  s.agent.gatherStats setup (s.now + r.elapsed) r.collection r.options

/-- A request is answered.  A response with new data fills its entry. -/
def serve (s : Served μ ι φ υ δ) (r : Request μ ι φ δ) : Option (Served μ ι φ υ δ) :=
  (s.respond setup r).map fun q =>
    { agent := q.1
      now := s.now + r.elapsed
      filled :=
        if (s.hit r).isSome then s.filled
        else Function.update s.filled r.options.cacheTimeMs (some q.2) }

/-- A response from the cache is the one that filled the entry. -/
def AnsweredAsFilled (s : Served μ ι φ υ δ) (r : Request μ ι φ δ) : Prop :=
  ∀ a response, s.respond setup r = some (a, response) → (s.hit r).isSome = true →
    s.filled r.options.cacheTimeMs = some response

/-! ## The condition -/

variable (a : SharedAgent μ ι φ υ δ)

/-- The filesystem is not asked for its usage, and its device has no counters. -/
def SharedAgent.SparesFs (now : ℕ) (collection : Collection μ ι φ δ) (addr : ℕ) : Prop :=
  a.disk.cacheExtraFs now = true ∧
    (∀ stats ∈ a.disk.fsStats.deref addr, stats.root = false) ∧
    ∀ list ∈ collection.ioCounters, CountersElsewhere a.disk.fsStats list addr

/-- No update that is answered is of the container that has the struct. -/
def SharedAgent.SparesContainer (collection : Collection μ ι φ δ) (addr : ℕ) : Prop :=
  ∀ step ∈ collection.docker.steps, ∀ id ∈ writesTo step,
    a.docker.containerStatsMap.slots.lookup id ≠ some addr
deriving Decidable

/-- The collection writes to nothing that the data points to. -/
def SharedAgent.SparesData (now : ℕ)
    (collection : Collection μ ι φ δ) (data : Payload μ ι φ υ δ) : Prop :=
  (∀ entry ∈ data.stats.extraFs.entries, a.SparesFs now collection entry.2) ∧
    ∀ addr ∈ data.containers, a.SparesContainer collection addr

/-- The request does not ask for details, and they have not changed or the cache time is not the
    default. -/
def SharedAgent.WithoutDetails (r : Request μ ι φ δ) : Prop :=
  r.options.includeDetails = false ∧ (r.options.cacheTimeMs = defaultDataCacheTimeMs →
    a.agent.detailsDirty = false ∧ r.collection.details = none)
deriving Decidable

/-- New data is gathered without details, and not written to what an entry that can be used for
    another cache time points to. -/
def CollectGuard (s : Served μ ι φ υ δ) (r : Request μ ι φ δ) : Prop :=
  (s.hit r).isNone = true → s.agent.WithoutDetails r ∧
    ∀ entry ∈ s.agent.agent.cache.entries, entry.1 ≠ r.options.cacheTimeMs →
      ∀ data ∈ s.agent.agent.cached (s.now + r.elapsed) entry.1,
        s.agent.SparesData (s.now + r.elapsed) r.collection data

instance (map : PointerMap String (FsStats φ)) (counters : List (String × IoCounters))
    (addr : ℕ) : Decidable (CountersElsewhere map counters addr) :=
  inferInstanceAs (Decidable (∀ q ∈ counters, _ ∧ _))

instance (now : ℕ) (collection : Collection μ ι φ δ) (addr : ℕ) :
    Decidable (a.SparesFs now collection addr) :=
  inferInstanceAs (Decidable (_ ∧ _ ∧ _))

instance (now : ℕ) (collection : Collection μ ι φ δ)
    (data : Payload μ ι φ υ δ) : Decidable (a.SparesData now collection data) :=
  inferInstanceAs (Decidable (_ ∧ _))

instance [DecidableEq δ] (s : Served μ ι φ υ δ) (r : Request μ ι φ δ) :
    Decidable (CollectGuard s r) :=
  inferInstanceAs (Decidable (_ → _ ∧ _))

end Requests

/-! ## Entries -/

section Entries

variable {σ ι κ υ δ : Type} {a : StatsAgent σ ι κ υ δ} {now now' : ℕ} {cacheTimeMs : UInt16}
  {data : CombinedData σ ι κ υ δ}

theorem cached_mono (hle : now ≤ now') (h : a.cached now' cacheTimeMs = some data) :
    a.cached now cacheTimeMs = some data := by
  unfold StatsAgent.cached at h ⊢
  cases hnode : a.cache.lookup cacheTimeMs with
  | none => simp [hnode] at h
  | some node =>
    simp only [hnode] at h ⊢
    split at h
    case isTrue hfresh =>
      rw [if_pos (by omega)]
      exact h
    case isFalse => exact absurd h (Option.some_ne_none _).symm

theorem mem_entries_of_cached (h : a.cached now cacheTimeMs = some data) :
    ∃ node, (⟨cacheTimeMs, node⟩ : (_ : UInt16) × CacheNode σ ι κ υ δ) ∈ a.cache.entries := by
  unfold StatsAgent.cached at h
  cases hnode : a.cache.lookup cacheTimeMs with
  | none => simp [hnode] at h
  | some node => exact ⟨node, AList.mem_lookup_iff.mp hnode⟩

theorem cached_of_insert {a' : StatsAgent σ ι κ υ δ} {new : CombinedData σ ι κ υ δ}
    {filledFor : UInt16} (hcache : a'.cache = a.cache.insert filledFor ⟨new, now⟩)
    (h : a'.cached now' cacheTimeMs = some data) :
    (cacheTimeMs = filledFor ∧ data = new) ∨
      (cacheTimeMs ≠ filledFor ∧ a.cached now' cacheTimeMs = some data) := by
  unfold StatsAgent.cached at h ⊢
  rw [hcache] at h
  by_cases hct : cacheTimeMs = filledFor
  · subst hct
    simp only [AList.lookup_insert] at h
    split at h
    · exact .inl ⟨rfl, (Option.some.inj h).symm⟩
    · exact absurd h (Option.some_ne_none _).symm
  · rw [AList.lookup_insert_ne hct] at h
    exact .inr ⟨hct, h⟩

theorem getDockerStats_cache (sample : Sample σ ι κ δ) :
    (a.getDockerStats sample).1.cache = a.cache := by
  unfold StatsAgent.getDockerStats
  split
  · cases sample.details <;> rfl
  · rfl

theorem addServices_kept (data : CombinedData σ ι κ υ δ) (cacheTimeMs : UInt16) :
    (a.addServices data cacheTimeMs).1.cache = a.cache ∧
      (a.addServices data cacheTimeMs).1.detailsDirty = a.detailsDirty ∧
      (a.addServices data cacheTimeMs).2.stats = data.stats ∧
      (a.addServices data cacheTimeMs).2.containers = data.containers := by
  unfold StatsAgent.addServices
  cases a.systemdManager with
  | none => exact ⟨rfl, rfl, rfl, rfl⟩
  | some sm =>
    dsimp only
    split
    · split
      · split <;> exact ⟨rfl, rfl, rfl, rfl⟩
      · split <;> exact ⟨rfl, rfl, rfl, rfl⟩
    · exact ⟨rfl, rfl, rfl, rfl⟩

theorem attachSystemDetails_none {includeRequested : Bool} (hreq : includeRequested = false)
    (hclean : cacheTimeMs = defaultDataCacheTimeMs → a.detailsDirty = false)
    (data : CombinedData σ ι κ υ δ) :
    a.attachSystemDetails data cacheTimeMs includeRequested = (a, data) := by
  unfold StatsAgent.attachSystemDetails
  by_cases hct : cacheTimeMs = defaultDataCacheTimeMs
  · simp [hreq, hclean hct]
  · simp [hreq, hct]

theorem gatherStats_fills (sample : Sample σ ι κ δ) {options : DataRequestOptions}
    (hmiss : a.cached now options.cacheTimeMs = none) (hreq : options.includeDetails = false)
    (hdet : options.cacheTimeMs = defaultDataCacheTimeMs →
      a.detailsDirty = false ∧ sample.details = none) :
    (a.gatherStats now sample options).1.cache =
        a.cache.insert options.cacheTimeMs ⟨(a.gatherStats now sample options).2, now⟩ ∧
      (a.gatherStats now sample options).2.stats = sample.stats ∧
      (a.gatherStats now sample options).2.containers = (a.getDockerStats sample).2 := by
  obtain ⟨hcache, hdirty, hstats, hctrs⟩ :=
    addServices_kept (a := (a.getDockerStats sample).1)
      ⟨sample.stats, sample.info, [], (a.getDockerStats sample).2, [], none⟩ options.cacheTimeMs
  rw [gatherStats_of_uncached options hmiss]
  rw [attachSystemDetails_none hreq]
  · exact ⟨by rw [hcache, getDockerStats_cache], hstats, hctrs⟩
  · intro hct
    obtain ⟨hclean, hnone⟩ := hdet hct
    rw [hdirty]
    unfold StatsAgent.getDockerStats
    split
    · rw [hnone]
      exact hclean
    · exact hclean

end Entries

/-! ## The frame of a collection -/

section Collecting

variable {μ ι φ υ δ : Type} {setup : Setup φ} {a a' : SharedAgent μ ι φ υ δ} {now : ℕ}
  {cacheTimeMs : UInt16} {collection : Collection μ ι φ δ}
  {sample : Sample (SystemStats μ φ) (SystemInfo ι φ) ℕ δ}

theorem collect_eq_some (h : a.collect setup now cacheTimeMs collection = some (a', sample)) :
    a'.agent = a.agent ∧ a'.disk = (a.collectDisk setup now cacheTimeMs collection).1 ∧
      a.collectDocker setup cacheTimeMs collection = some (a'.docker, sample.containers) ∧
      sample.stats.extraFs = (extraFs setup.disk a'.disk.fsStats).1 ∧
      sample.details = collection.details := by
  simp only [SharedAgent.collect, Option.bind_eq_bind, Option.bind_eq_some_iff] at h
  obtain ⟨⟨docker, containers⟩, hdocker, h⟩ := h
  obtain ⟨rfl, rfl⟩ := h
  exact ⟨rfl, rfl, hdocker, rfl, rfl⟩

variable {addr : ℕ} {docker : SharedDocker φ} {containers : Option (List ℕ)}

theorem collectDisk_spares (haddr : addr < a.disk.fsStats.cells.length)
    (h : a.SparesFs now collection addr) :
    PointerMap.Spares addr a.disk.fsStats
      (a.collectDisk setup now cacheTimeMs collection).1.fsStats := by
  obtain ⟨hcached, hroot, helse⟩ := h
  have husage : PointerMap.Spares addr a.disk.fsStats (a.disk.updateDiskUsage setup.disk now
      collection.usage (DiskTotals.zero setup.disk)).1.fsStats :=
    updateDiskUsage_spares haddr hcached hroot
  refine husage.trans (updateDiskIo_spares (Nat.lt_of_lt_of_le haddr husage.size) ?_)
  exact fun list hlist => (helse list hlist).mono husage

theorem collectDocker_spares (haddr : addr < a.docker.containerStatsMap.cells.length)
    (h : a.SparesContainer collection addr)
    (hs : a.collectDocker setup cacheTimeMs collection = some (docker, containers)) :
    PointerMap.Spares addr a.docker.containerStatsMap docker.containerStatsMap := by
  unfold SharedAgent.collectDocker at hs
  split at hs
  · exact getDockerStats_spares haddr h hs
  · simp only [Option.some.injEq, Prod.mk.injEq] at hs
    exact hs.1 ▸ PointerMap.Spares.refl _ _

structure InHeap (a : SharedAgent μ ι φ υ δ) (data : Payload μ ι φ υ δ) : Prop where
  fs : ∀ entry ∈ data.stats.extraFs.entries, entry.2 < a.disk.fsStats.cells.length
  containers : ∀ addr ∈ data.containers, addr < a.docker.containerStatsMap.cells.length

/-- **The frame of a collection**: data that it does not write to has the contents it had. -/
theorem contents_after_collect {data : Payload μ ι φ υ δ} (hheap : InHeap a data)
    (hspares : a.SparesData now collection data)
    (h : a.collect setup now cacheTimeMs collection = some (a', sample)) :
    a'.contents data = a.contents data ∧ InHeap a' data := by
  obtain ⟨_, hdisk, hdocker, _, _⟩ := collect_eq_some h
  have hfs : ∀ entry ∈ data.stats.extraFs.entries,
      PointerMap.Spares entry.2 a.disk.fsStats a'.disk.fsStats := by
    intro entry hent
    rw [hdisk]
    exact collectDisk_spares (hheap.fs entry hent) (hspares.1 entry hent)
  have hctrs : ∀ addr ∈ data.containers,
      PointerMap.Spares addr a.docker.containerStatsMap a'.docker.containerStatsMap :=
    fun addr haddr => collectDocker_spares (hheap.containers addr haddr)
      (hspares.2 addr haddr) hdocker
  constructor
  · unfold SharedAgent.contents
    have hextra : (data.stats.extraFs.entries.map fun entry =>
        (entry.1, a'.disk.fsStats.deref entry.2)) =
        data.stats.extraFs.entries.map fun entry => (entry.1, a.disk.fsStats.deref entry.2) :=
      List.map_congr_left fun entry hent => by rw [(hfs entry hent).deref]
    have hstats : data.containers.map a'.docker.containerStatsMap.deref =
        data.containers.map a.docker.containerStatsMap.deref :=
      List.map_congr_left fun addr haddr => (hctrs addr haddr).deref
    rw [hextra, hstats]
  · exact ⟨fun entry hent => Nat.lt_of_lt_of_le (hheap.fs entry hent) (hfs entry hent).size,
      fun addr haddr => Nat.lt_of_lt_of_le (hheap.containers addr haddr)
        (hctrs addr haddr).size⟩

theorem extraFs_lt (lib : DiskLibrary φ) (fsStats : PointerMap String (FsStats φ)) :
    ∀ entry ∈ (extraFs lib fsStats).1.entries, entry.2 < fsStats.cells.length := by
  have hloop : ∀ (entries : List ((_ : String) × ℕ)) (q : GoMap String ℕ × GoMap String φ),
      GoMap.Forall (fun _ addr => addr < fsStats.cells.length) q.1 →
      GoMap.Forall (fun _ addr => addr < fsStats.cells.length)
        (entries.foldl (extraFilesystem lib fsStats) q).1 := by
    intro entries
    induction entries with
    | nil => exact fun _ h => h
    | cons entry entries ih =>
      intro q hq
      refine ih _ ?_
      unfold extraFilesystem
      cases hstats : fsStats.deref entry.2 with
      | none => exact hq
      | some stats =>
        dsimp only
        split
        · exact hq.insert (List.getElem?_eq_some_iff.mp hstats).1
        · exact hq
  intro entry hent
  exact (hloop _ (∅, ∅) GoMap.forall_empty).of_mem_entries hent

theorem collectDocker_lt
    (hs : a.collectDocker setup cacheTimeMs collection = some (docker, containers)) :
    ∀ addr ∈ containers.getD [], addr < docker.containerStatsMap.cells.length := by
  unfold SharedAgent.collectDocker at hs
  split at hs
  · obtain ⟨_, _, ⟨_, _, _, rfl⟩ | ⟨_, rfl⟩⟩ := getDockerStats_eq_some hs
    · intro addr haddr
      obtain ⟨entry, hent, rfl⟩ := List.mem_map.mp haddr
      exact docker.containerStatsMap.bound entry.1 entry.2 (AList.mem_lookup_iff.mpr hent)
    · simp
  · simp only [Option.some.injEq, Prod.mk.injEq] at hs
    simp [← hs.2]

end Collecting

/-! ## Runs -/

section Runs

variable {μ ι φ υ δ : Type} {setup : Setup φ} {s s' : Served μ ι φ υ δ} {r : Request μ ι φ δ}

/-- Every entry that can be used has the contents it was filled with. -/
def EntriesKept (s : Served μ ι φ υ δ) : Prop :=
  ∀ cacheTimeMs data, s.agent.agent.cached s.now cacheTimeMs = some data →
    s.filled cacheTimeMs = some (s.agent.contents data) ∧ InHeap s.agent data

variable (h : EntriesKept s)
include h

theorem entriesKept_of_hit {data : Payload μ ι φ υ δ}
    (hhit : s.hit r = some data) (hs : serve setup s r = some s') : EntriesKept s' := by
  have hcached : s.agent.agent.cached (s.now + r.elapsed) r.options.cacheTimeMs = some data := hhit
  simp only [serve, Served.respond, SharedAgent.gatherStats, hcached, hhit, Option.map_some,
    Option.some.injEq, Option.isSome_some, if_true] at hs
  subst hs
  -- an entry that can be used later could be used now
  intro cacheTimeMs data' hdata'
  exact h cacheTimeMs data' (cached_mono (Nat.le_add_right _ _) hdata')

/-- A collection fills one entry and writes into no other. -/
theorem entriesKept_of_miss (hG : CollectGuard s r) (hmiss : s.hit r = none)
    (hs : serve setup s r = some s') : EntriesKept s' := by
  obtain ⟨⟨hreq, hdet⟩, hspares⟩ := hG (by rw [hmiss]; rfl)
  have hcached : s.agent.agent.cached (s.now + r.elapsed) r.options.cacheTimeMs = none := hmiss
  obtain ⟨q, hq, rfl⟩ := Option.map_eq_some_iff.mp hs
  simp only [Served.respond, SharedAgent.gatherStats, hcached, Option.map_eq_some_iff] at hq
  obtain ⟨⟨a', sample⟩, hcollect, rfl⟩ := hq
  obtain ⟨hagent, _, hdocker, hextra, hsamp⟩ := collect_eq_some hcollect
  have hmiss' : a'.agent.cached (s.now + r.elapsed) r.options.cacheTimeMs = none :=
    hagent ▸ hcached
  obtain ⟨hcache, hstats, hctrs⟩ := gatherStats_fills sample hmiss' hreq
    (fun hct => ⟨hagent ▸ (hdet hct).1, hsamp.trans (hdet hct).2⟩)
  intro cacheTimeMs data hdata
  simp only [hmiss, Option.isSome_none, Bool.false_eq_true, if_false]
  rcases cached_of_insert hcache hdata with ⟨rfl, rfl⟩ | ⟨hne, hold⟩
  · -- The entry that was filled.
    refine ⟨Function.update_self _ _ _, ?_, ?_⟩
    · rw [hstats, hextra]
      exact extraFs_lt _ _
    · rw [hctrs]
      intro addr haddr
      refine collectDocker_lt hdocker addr ?_
      unfold StatsAgent.getDockerStats at haddr
      split at haddr
      · exact haddr
      · simp at haddr
  · -- An entry for another cache time.
    rw [hagent] at hold
    obtain ⟨hfill, hheap⟩ := h cacheTimeMs data (cached_mono (Nat.le_add_right _ _) hold)
    obtain ⟨node, hmem⟩ := mem_entries_of_cached hold
    obtain ⟨hcont, hheap'⟩ := contents_after_collect hheap
      (hspares _ hmem hne data hold) hcollect
    rw [Function.update_of_ne hne, hfill]
    exact ⟨congrArg some hcont.symm, hheap'.fs, hheap'.containers⟩

/-- **One request** under the condition keeps the contents of the entries. -/
theorem entriesKept_step (hG : CollectGuard s r)
    (hs : serve setup s r = some s') : EntriesKept s' := by
  cases hhit : s.hit r with
  | some data => exact entriesKept_of_hit h hhit hs
  | none => exact entriesKept_of_miss h hG hhit hs

theorem EntriesKept.answered : AnsweredAsFilled setup s r := by
  intro a response hresp hhit
  obtain ⟨data, hdata⟩ := Option.isSome_iff_exists.mp hhit
  have hcached : s.agent.agent.cached (s.now + r.elapsed) r.options.cacheTimeMs = some data := hdata
  simp only [Served.respond, SharedAgent.gatherStats, hcached, Option.some.injEq,
    Prod.mk.injEq] at hresp
  rw [← hresp.2]
  exact (h _ data (cached_mono (Nat.le_add_right _ _) hcached)).1

end Runs

/-- **Responses from the cache**: from an empty cache, if the requests that gather data meet the
    condition, every response from the cache is the one that filled its entry. -/
theorem answered_as_filled {μ ι φ υ δ : Type} (setup : Setup φ) {a : SharedAgent μ ι φ υ δ}
    (hcache : a.agent.cache = ∅) (now : ℕ) {requests : List (Request μ ι φ δ)}
    (hG : EveryStep (serve setup) CollectGuard ⟨a, now, fun _ => none⟩ requests) :
    EveryStep (serve setup) (AnsweredAsFilled setup) ⟨a, now, fun _ => none⟩ requests := by
  refine everyStep_of_invariant (I := EntriesKept) ?_ ?_ ?_ hG
  · exact fun s r s' h hguard hs => entriesKept_step h hguard hs
  · exact fun s r h _ => h.answered
  · intro cacheTimeMs data hdata
    simp [StatsAgent.cached, hcache] at hdata

/-! ## Two intervals -/

/-- Numbers in place of `float64`. -/
def sampleDisk : DiskLibrary ℕ where
  zero := 0
  bytesToGigabytes := fun bytes => bytes.toNat / 1073741824
  bytesToMegabytes := fun bytes => bytes.toNat / 1048576
  twoDecimals := fun x => x
  exceeds50000 := fun mb => decide (50000 < mb)
  percent := fun part whole => part.toNat * 100 / whole.toNat
  quotient := fun part whole => part.toNat / whole.toNat
  positive := fun total => decide (0 < total)
  usedPct := fun used total => used * 100 / total

def sampleSetup : Setup ℕ := ⟨sampleDisk, Docker.sampleLibrary, []⟩

def sampleAgent (diskUsageCacheDuration : ℤ) : SharedAgent ℕ Unit ℕ Unit Unit where
  agent :=
    { dockerManager := true
      systemdManager := none
      systemDetails := ()
      detailsDirty := false
      cache := ∅ }
  disk :=
    { fsStats := PointerMap.empty.store "sdb1"
        { time := Docker.zeroTime, root := false, mountpoint := "/mnt/data", name := "",
          diskTotal := 0, diskUsed := 0, totalRead := 0, totalWrite := 0, diskReadPs := 0,
          diskWritePs := 0, diskReadBytes := 0, diskWriteBytes := 0,
          diskIoStats := ⟨0, 0, 0, 0, 0, 0⟩ }
      fsNames := ["sdb1"]
      diskPrev := fun _ _ => none
      lastDiskUsageUpdate := Docker.zeroTime
      diskUsageCacheDuration }
  docker := ⟨Docker.newDockerManager, PointerMap.empty⟩

/-- A request one second after the one before it.  The filesystem uses `used` of 100 GiB. -/
def sampleRequest (cacheTimeMs : UInt16) (used : UInt64) (docker : DockerCall) :
    Request ℕ Unit ℕ Unit where
  options := ⟨cacheTimeMs, false⟩
  elapsed := 1000000000
  collection :=
    { measured := 7
      info := ()
      usage := fun _ => some ⟨107374182400, used * 1073741824, used.toNat⟩
      ioCounters := none
      docker
      details := none }

def webCall (memory : UInt64) : DockerCall where
  podman := false
  windows := false
  reply := .document [Docker.sampleEntry "web000000000" "/web" none] true
  steps := [.enter "web000000000", .update 0 "web000000000"
    (Docker.sampleAnswers (Docker.sampleStats 2000 20000 memory))]

def failedCall : DockerCall := ⟨false, false, .unreachable, []⟩

/-- The used space of the filesystems, and the memory of the containers. -/
structure Figures where
  used : List (String × Option ℕ)
  memory : List (Option ℕ)
deriving DecidableEq

def figures (c : Contents ℕ Unit ℕ Unit Unit) : Figures where
  used := c.stats.extraFs.map fun fs => (fs.1, fs.2.map FsStats.diskUsed)
  memory := c.containers.map fun stats => stats.map Docker.Stats.mem

/-- With a disk usage cache, and docker silent at the other cache time, the second request for 5000
    is answered as the first one. -/
theorem second_response_as_filled :
    ∃ s, exec (serve sampleSetup) ⟨sampleAgent 60000000000, 1000000000, fun _ => none⟩
        [sampleRequest 5000 10 (webCall 4194304), sampleRequest 1000 20 failedCall] = some s ∧
      (s.hit (sampleRequest 5000 20 failedCall)).isSome = true ∧
      (s.filled 5000).map figures = some ⟨[("sdb1", some 10)], [some 4]⟩ ∧
      AnsweredAsFilled sampleSetup s (sampleRequest 5000 20 failedCall) := by
  have hG : EveryStep (serve sampleSetup) CollectGuard
      ⟨sampleAgent 60000000000, 1000000000, fun _ => none⟩
      [sampleRequest 5000 10 (webCall 4194304), sampleRequest 1000 20 failedCall,
        sampleRequest 5000 20 failedCall] := by decide +kernel
  have hrun : ((exec (serve sampleSetup) ⟨sampleAgent 60000000000, 1000000000, fun _ => none⟩
      [sampleRequest 5000 10 (webCall 4194304), sampleRequest 1000 20 failedCall]).map fun s =>
        ((s.hit (sampleRequest 5000 20 failedCall)).isSome,
          (s.filled 5000).map figures)) =
      some (true, some ⟨[("sdb1", some 10)], [some 4]⟩) := by decide +kernel
  obtain ⟨s, hs, hvals⟩ := Option.map_eq_some_iff.mp hrun
  simp only [Prod.mk.injEq] at hvals
  obtain ⟨hhit, hfill⟩ := hvals
  obtain ⟨s₁, hfirst, hrest⟩ := exec_cons_eq_some.mp hs
  obtain ⟨s₂, hsecond, hnil⟩ := exec_cons_eq_some.mp hrest
  rw [exec_nil, Option.some.injEq] at hnil
  subst hnil
  have hall := answered_as_filled sampleSetup (a := sampleAgent 60000000000) rfl 1000000000 hG
  exact ⟨s₂, hs, hhit, hfill, ((hall.2 s₁ hfirst).2 s₂ hsecond).1⟩

/-- A request for 1000 between two for 5000: the second response for 5000 comes from the cache,
    with the used space and the memory of the response for 1000. -/
theorem cached_response_changes :
    ∃ s, exec (serve sampleSetup) ⟨sampleAgent 0, 1000000000, fun _ => none⟩
        [sampleRequest 5000 10 (webCall 4194304),
          sampleRequest 1000 20 (webCall 8388608)] = some s ∧
      (s.filled 5000).map figures = some ⟨[("sdb1", some 10)], [some 4]⟩ ∧
      (s.respond sampleSetup (sampleRequest 5000 20 (webCall 8388608))).map
        (fun q => figures q.2) = some ⟨[("sdb1", some 20)], [some 8]⟩ ∧
      ¬ AnsweredAsFilled sampleSetup s (sampleRequest 5000 20 (webCall 8388608)) := by
  have hrun : ((exec (serve sampleSetup) ⟨sampleAgent 0, 1000000000, fun _ => none⟩
      [sampleRequest 5000 10 (webCall 4194304), sampleRequest 1000 20 (webCall 8388608)]).map
        fun s => ((s.filled 5000).map figures,
          (s.respond sampleSetup (sampleRequest 5000 20 (webCall 8388608))).map
            (fun q => figures q.2),
          (s.hit (sampleRequest 5000 20 (webCall 8388608))).isSome)) =
      some (some ⟨[("sdb1", some 10)], [some 4]⟩, some ⟨[("sdb1", some 20)], [some 8]⟩, true) := by
    decide +kernel
  obtain ⟨s, hs, hvals⟩ := Option.map_eq_some_iff.mp hrun
  simp only [Prod.mk.injEq] at hvals
  obtain ⟨hfill, hresp, hhit⟩ := hvals
  refine ⟨s, hs, hfill, hresp, fun hanswered => ?_⟩
  obtain ⟨⟨a, response⟩, hrespond, hcont⟩ := Option.map_eq_some_iff.mp hresp
  have hsame : s.filled 5000 = some response := hanswered a response hrespond hhit
  rw [hsame, Option.map_some, Option.some.injEq] at hfill
  exact absurd (hfill.symm.trans hcont) (by decide)

end Bantay.Agent.Shared
