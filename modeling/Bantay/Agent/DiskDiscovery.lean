import Bantay.Agent.IoDevices
import Bantay.Lib.GoMap

/-!
# The Filesystems to Monitor

`initializeDiskInfo` registers the root filesystem and the extra filesystems in one map.  Their
keys are names of I/O devices, found by fuzzy matching, so two filesystems may come to the same
key.  `addFsStat` leaves an entry that is there alone; `addPartitionRootFs` reports success even
then, and `addLastResortRootFs` writes without a look.
-/

namespace Bantay.Agent.Disk

open Bantay.Lib

/-! ## Entries -/

structure PartitionStat where
  device : String
  mountpoint : String

/-- The fields of `system.FsStats` that are set when a filesystem is registered. -/
structure FsEntry where
  root : Bool
  mountpoint : String
  name : String := ""
deriving DecidableEq

/-- `strings.SplitN(entry, "__", 2)`, if there are two parts. -/
def splitName : List Char → Option (List Char × List Char)
  | '_' :: '_' :: rest => some ([], rest)
  | c :: rest => (splitName rest).map fun parts => (c :: parts.1, parts.2)
  | [] => none

def parseFilesystemEntry (entry : String) : String × String :=
  match splitName (trimSpace entry).toList with
  | some (device, customName) =>
    (trimSpace (String.ofList device), trimSpace (String.ofList customName))
  | none => (trimSpace entry, "")

def isDockerSpecialMountpoint (mountpoint : String) : Bool :=
  mountpoint ∈ ["/etc/hosts", "/etc/resolv.conf", "/etc/hostname"]

def efPath : String := "/extra-filesystems"

/-- `diskDiscovery` with its context, and what else `initializeDiskInfo` finds. -/
structure DiskDiscovery where
  paths : Paths
  isWindows : Bool := false
  filesystem : String := ""
  extraFilesystems : Option String := none
  rootMountPoint : String
  partitions : List PartitionStat
  diskIoCounters : List (String × IOCountersStat)
  /-- in which each search goes through the map of the counters -/
  order : ℕ → List IOCountersStat → List IOCountersStat := fun _ counters => counters
  /-- whether `disk.Usage` knows a path -/
  usageFn : String → Bool
  /-- the directories in `efPath` -/
  folderNames : List String := []

/-- The registered filesystems, and as history the keys of the extra filesystems that were
    replaced and the number of searches. -/
structure Discovered where
  fsStats : GoMap String FsEntry := ∅
  replaced : List String := []
  searches : ℕ := 1

def Discovered.assign (d : Discovered) (key : String) (stats : FsEntry) : Discovered where
  fsStats := d.fsStats.insert key stats
  replaced :=
    match d.fsStats.lookup key with
    | some old => if old.root then d.replaced else key :: d.replaced
    | none => d.replaced
  searches := d.searches

def Discovered.search (d : Discovered) (n : ℕ) : Discovered :=
  { d with searches := d.searches + n }

namespace DiskDiscovery

variable (disc : DiskDiscovery)

def hasCounters (key : String) : Bool := key ∈ disc.diskIoCounters.map Prod.fst

/-- The counters in the order of the `n`-th search. -/
def counters (n : ℕ) : List IOCountersStat := disc.order n (disc.diskIoCounters.map Prod.snd)

def findIoDevice (n : ℕ) (filesystem : String) : Option String :=
  Disk.findIoDevice disc.paths filesystem (disc.counters n)

/-- The key of `registerFilesystemStats` before the counters are searched. -/
def deviceKey (device : String) : String :=
  if disc.isWindows then device else disc.paths.base device

/-- The key that `registerFilesystemStats` finds for the root filesystem. -/
def rootKey (n : ℕ) (device : String) : String :=
  let key := disc.deviceKey device
  if disc.hasCounters key then key
  else
    match disc.findIoDevice n key with
    | some matchedKey => matchedKey
    | none =>
      if disc.filesystem ≠ "" then (disc.findIoDevice (n + 1) disc.filesystem).getD key else key

/-- The key that `registerFilesystemStats` finds for an extra filesystem. -/
def extraKey (n : ℕ) (device mountpoint : String) : String :=
  let key := disc.deviceKey device
  if disc.hasCounters key then key
  else
    -- the folder may name the device behind a mapper path
    let folderDevice := (parseFilesystemEntry (disc.paths.base mountpoint)).1
    let key :=
      if hasPrefix mountpoint efPath && folderDevice ≠ "" then
        (disc.findIoDevice n folderDevice).getD key
      else key
    if disc.hasCounters key then key else (disc.findIoDevice (n + 1) key).getD key

def registerFilesystemStats (n : ℕ) (existing : GoMap String FsEntry)
    (device mountpoint : String) (root : Bool) (customName : String) : Option (String × FsEntry) :=
  let key := if root then disc.rootKey n device else disc.extraKey n device mountpoint
  if key ∈ existing then none else some (key, ⟨root, mountpoint, customName⟩)

variable (d : Discovered)

def addFsStat (device mountpoint : String) (root : Bool) (customName : String) : Discovered :=
  match disc.registerFilesystemStats d.searches d.fsStats device mountpoint root customName with
  | none => d.search 2
  | some (key, stats) => (d.search 2).assign key stats

/-! ## Root -/

def filesystemMatchesPartitionSetting (p : PartitionStat) : Bool :=
  let filesystem := trimSpace disc.filesystem
  let fsName := normalizeDeviceName disc.paths filesystem
  let partName := normalizeDeviceName disc.paths p.device
  filesystem ≠ "" &&
    (p.mountpoint = filesystem ||
      (fsName ≠ "" && partName ≠ "" && (fsName = partName || prefixRelated partName fsName)))

def addConfiguredRootFs : Bool × Discovered :=
  if disc.filesystem = "" then (false, d)
  else
    match disc.partitions.find? disc.filesystemMatchesPartitionSetting with
    | some p => (true, disc.addFsStat d p.device p.mountpoint true "")
    | none =>
      match disc.findIoDevice 0 disc.filesystem with
      | some ioKey => (true, d.assign ioKey ⟨true, disc.rootMountPoint, ""⟩)
      | none => (false, d)

def isRootFallbackPartition (p : PartitionStat) : Bool :=
  p.mountpoint = disc.rootMountPoint ||
    (isDockerSpecialMountpoint p.mountpoint && hasPrefix p.device "/dev")

def addPartitionRootFs (p : PartitionStat) : Bool × Discovered :=
  match disc.findIoDevice d.searches (disc.paths.base p.device) with
  | none => (false, d.search 1)
  | some fs => (true, disc.addFsStat (d.search 1) fs p.mountpoint true "")

def lastResortKey : String :=
  let active := mostActiveIoDevice (disc.counters d.searches)
  if active ≠ "" then active
  else if disc.paths.base disc.rootMountPoint ∈ d.fsStats then "root"
  else disc.paths.base disc.rootMountPoint

def addLastResortRootFs : Discovered :=
  d.assign (disc.lastResortKey d) ⟨true, disc.rootMountPoint, ""⟩

/-! ## Extra filesystems -/

/-- By the end of the device, or by the mountpoint. -/
def findPartitionByFilesystemSetting (filesystem : String) : Option PartitionStat :=
  disc.partitions.find? fun p =>
    filesystem.toList.isSuffixOf p.device.toList || p.mountpoint = filesystem

def addConfiguredExtraFsEntry (entry : String) : Discovered :=
  let (filesystem, customName) := parseFilesystemEntry entry
  match disc.findPartitionByFilesystemSetting filesystem with
  | some p => disc.addFsStat d p.device p.mountpoint false customName
  | none =>
    if disc.usageFn filesystem then
      disc.addFsStat d (disc.paths.base filesystem) filesystem false customName
    else d

def addConfiguredExtraFilesystems : Discovered :=
  match disc.extraFilesystems with
  | none => d
  | some value =>
    ((value.toList.splitOn ',').map String.ofList).foldl disc.addConfiguredExtraFsEntry d

def partitionInfo (p : PartitionStat) : String × String :=
  let (folderDevice, customName) := parseFilesystemEntry (disc.paths.base p.mountpoint)
  (if trimSpace p.device = "" then folderDevice else trimSpace p.device, customName)

def addPartitionExtraFs (p : PartitionStat) : Discovered :=
  if disc.paths.dir p.mountpoint ≠ efPath then d
  else
    let (device, customName) := disc.partitionInfo p
    disc.addFsStat d device p.mountpoint false customName

def addExtraFilesystemFolders : Discovered :=
  -- the mountpoints that there are when the loop starts
  let existingMountpoints := d.fsStats.entries.map (·.2.mountpoint)
  disc.folderNames.foldl (fun d folderName =>
    let mountpoint := disc.paths.join efPath folderName
    if mountpoint ∈ existingMountpoints then d
    else
      let (device, customName) := parseFilesystemEntry folderName
      disc.addFsStat d device mountpoint false customName) d

/-! ## Discovery -/

def addPartition (q : Bool × Discovered) (p : PartitionStat) : Bool × Discovered :=
  -- one search is counted for every partition
  let (hasRoot, d) :=
    if !q.1 && disc.isRootFallbackPartition p then disc.addPartitionRootFs q.2 p
    else (q.1, q.2.search 1)
  (hasRoot, disc.addPartitionExtraFs d p)

/-- `initializeDiskInfo` up to the pruning of duplicates. -/
def initializeDiskInfo : Discovered :=
  let (hasRoot, d) := disc.addConfiguredRootFs {}
  let d := disc.addConfiguredExtraFilesystems d
  let (hasRoot, d) := disc.partitions.foldl disc.addPartition (hasRoot, d)
  let d := disc.addExtraFilesystemFolders d
  if hasRoot then d else disc.addLastResortRootFs d

end DiskDiscovery

/-! ## The property and the condition -/

def Discovered.numRoots (d : Discovered) : ℕ := d.fsStats.entries.countP (·.2.root)

/-- One filesystem is the root, and no extra filesystem has been replaced. -/
def Discovered.Sound (d : Discovered) : Prop := d.numRoots = 1 ∧ d.replaced = []

namespace DiskDiscovery

variable (disc : DiskDiscovery)

/-- `FILESYSTEM` names a partition or a device. -/
def Configured : Prop :=
  disc.filesystem ≠ "" ∧
    ((disc.partitions.find? disc.filesystemMatchesPartitionSetting).isSome ∨
      (disc.findIoDevice 0 disc.filesystem).isSome)

def rootDevice? (n : ℕ) (p : PartitionStat) : Option String :=
  if disc.isRootFallbackPartition p then disc.findIoDevice n (disc.paths.base p.device) else none

/-- No extra filesystem has the key of the root filesystem when this is registered. -/
def KeyFree (d : Discovered) : List PartitionStat → Prop
  | [] =>
    disc.lastResortKey (disc.addExtraFilesystemFolders d) ∉
      (disc.addExtraFilesystemFolders d).fsStats
  | p :: ps =>
    match disc.rootDevice? d.searches p with
    | some fs => disc.rootKey (d.searches + 1) fs ∉ d.fsStats
    | none => KeyFree (disc.addPartitionExtraFs (d.search 1) p) ps

end DiskDiscovery

/-! ## Extra filesystems change nothing about root -/

structure SameRoots (d d' : Discovered) : Prop where
  numRoots : d'.numRoots = d.numRoots
  replaced : d'.replaced = d.replaced

theorem SameRoots.refl (d : Discovered) : SameRoots d d := ⟨rfl, rfl⟩

theorem SameRoots.search (d : Discovered) (n : ℕ) : SameRoots d (d.search n) := ⟨rfl, rfl⟩

theorem SameRoots.trans {d d' d'' : Discovered} (h : SameRoots d d') (h' : SameRoots d' d'') :
    SameRoots d d'' :=
  ⟨h'.numRoots.trans h.numRoots, h'.replaced.trans h.replaced⟩

theorem SameRoots.sound_iff {d d' : Discovered} (h : SameRoots d d') : d'.Sound ↔ d.Sound := by
  rw [Discovered.Sound, Discovered.Sound, h.numRoots, h.replaced]

theorem sameRoots_foldl {α : Type} {f : Discovered → α → Discovered}
    (hf : ∀ d a, SameRoots d (f d a)) (as : List α) (d : Discovered) :
    SameRoots d (as.foldl f d) := by
  induction as generalizing d with
  | nil => exact .refl d
  | cons a as ih => exact (hf d a).trans (ih (f d a))

theorem assign_of_notMem {d : Discovered} {key : String} (hkey : key ∉ d.fsStats)
    (stats : FsEntry) :
    (d.assign key stats).numRoots = d.numRoots + (if stats.root then 1 else 0) ∧
      (d.assign key stats).replaced = d.replaced := by
  constructor
  · simp only [Discovered.numRoots, Discovered.assign, AList.entries_insert_of_notMem hkey,
      List.countP_cons]
  · simp only [Discovered.assign, AList.lookup_eq_none.mpr hkey]

section Extra

variable (disc : DiskDiscovery) (d : Discovered)

theorem sameRoots_addFsStat (device mountpoint customName : String) :
    SameRoots d (disc.addFsStat d device mountpoint false customName) := by
  unfold DiskDiscovery.addFsStat DiskDiscovery.registerFilesystemStats
  by_cases hkey : disc.extraKey d.searches device mountpoint ∈ d.fsStats
  · simpa [hkey] using SameRoots.search d 2
  · obtain ⟨hroots, hrepl⟩ := assign_of_notMem (d := d.search 2) hkey
      ⟨false, mountpoint, customName⟩
    simpa [hkey] using (SameRoots.search d 2).trans ⟨hroots, hrepl⟩

theorem sameRoots_addConfiguredExtraFilesystems :
    SameRoots d (disc.addConfiguredExtraFilesystems d) := by
  unfold DiskDiscovery.addConfiguredExtraFilesystems
  split
  · exact .refl d
  · apply sameRoots_foldl
    intro d entry
    unfold DiskDiscovery.addConfiguredExtraFsEntry
    dsimp only
    split
    · exact sameRoots_addFsStat disc d _ _ _
    · split
      · exact sameRoots_addFsStat disc d _ _ _
      · exact .refl d

theorem sameRoots_addPartitionExtraFs (p : PartitionStat) :
    SameRoots d (disc.addPartitionExtraFs d p) := by
  unfold DiskDiscovery.addPartitionExtraFs
  split
  · exact .refl d
  · exact sameRoots_addFsStat disc d _ _ _

theorem sameRoots_addExtraFilesystemFolders : SameRoots d (disc.addExtraFilesystemFolders d) := by
  apply sameRoots_foldl
  intro d folderName
  dsimp only
  split
  · exact .refl d
  · exact sameRoots_addFsStat disc d _ _ _

end Extra

/-! ## Root -/

section Root

variable (disc : DiskDiscovery) {d : Discovered}

theorem sound_assign_iff (hroots : d.numRoots = 0) (hrepl : d.replaced = []) (key : String)
    (mountpoint : String) : (d.assign key ⟨true, mountpoint, ""⟩).Sound ↔ key ∉ d.fsStats := by
  constructor
  · rintro ⟨-, hnone⟩ hkey
    obtain ⟨old, hold⟩ := Option.isSome_iff_exists.mp (AList.lookup_isSome.mpr hkey)
    -- the entry that is there is that of an extra filesystem
    have hextra : ¬ old.root = true :=
      List.countP_eq_zero.mp hroots _ (AList.mem_lookup_iff.mp hold)
    simp [Discovered.assign, hold, hextra] at hnone
  · intro hkey
    obtain ⟨hone, hsame⟩ := assign_of_notMem hkey ⟨true, mountpoint, ""⟩
    exact ⟨by rw [hone, hroots]; rfl, hsame.trans hrepl⟩

theorem sound_addFsStat_iff (hroots : d.numRoots = 0) (hrepl : d.replaced = [])
    (device mountpoint : String) :
    (disc.addFsStat d device mountpoint true "").Sound ↔
      disc.rootKey d.searches device ∉ d.fsStats := by
  have hassign := sound_assign_iff (d := d.search 2) hroots hrepl (disc.rootKey d.searches device)
    mountpoint
  unfold DiskDiscovery.addFsStat DiskDiscovery.registerFilesystemStats
  by_cases hkey : disc.rootKey d.searches device ∈ d.fsStats
  · -- nothing is registered, and there is no root
    have hnone : ¬ (d.search 2).Sound := fun h => absurd (h.1.symm.trans hroots) Nat.one_ne_zero
    simp [hkey, hnone]
  · simpa [hkey] using hassign.mpr hkey

theorem addPartition_false (p : PartitionStat) :
    disc.addPartition (false, d) p =
      match disc.rootDevice? d.searches p with
      | some fs =>
        (true, disc.addPartitionExtraFs (disc.addFsStat (d.search 1) fs p.mountpoint true "") p)
      | none => (false, disc.addPartitionExtraFs (d.search 1) p) := by
  unfold DiskDiscovery.addPartition DiskDiscovery.rootDevice? DiskDiscovery.addPartitionRootFs
  by_cases hp : disc.isRootFallbackPartition p
  · cases disc.findIoDevice d.searches (disc.paths.base p.device) <;> simp [hp]
  · simp [hp]

variable (ps : List PartitionStat)

theorem foldl_addPartition_true (d : Discovered) :
    (ps.foldl disc.addPartition (true, d)).1 = true ∧
      SameRoots d (ps.foldl disc.addPartition (true, d)).2 := by
  induction ps generalizing d with
  | nil => exact ⟨rfl, .refl d⟩
  | cons p ps ih =>
    obtain ⟨hroot, hsame⟩ := ih (disc.addPartitionExtraFs (d.search 1) p)
    have hfirst := (SameRoots.search d 1).trans (sameRoots_addPartitionExtraFs disc _ p)
    exact ⟨hroot, hfirst.trans hsame⟩

def DiskDiscovery.finish (q : Bool × Discovered) : Discovered :=
  if q.1 then disc.addExtraFilesystemFolders q.2
  else disc.addLastResortRootFs (disc.addExtraFilesystemFolders q.2)

theorem finish_true (d : Discovered) :
    SameRoots d (disc.finish (ps.foldl disc.addPartition (true, d))) := by
  obtain ⟨hroot, hsame⟩ := foldl_addPartition_true disc ps d
  rw [DiskDiscovery.finish, hroot]
  exact hsame.trans (sameRoots_addExtraFilesystemFolders disc _)

/-- The loop over the partitions, with extra filesystems only: induction over the partitions. -/
theorem finish_false_iff (hroots : d.numRoots = 0) (hrepl : d.replaced = []) :
    (disc.finish (ps.foldl disc.addPartition (false, d))).Sound ↔ disc.KeyFree d ps := by
  induction ps generalizing d with
  | nil =>
    have hsame := sameRoots_addExtraFilesystemFolders disc d
    exact sound_assign_iff (hsame.numRoots.trans hroots) (hsame.replaced.trans hrepl) _ _
  | cons p ps ih =>
    rw [List.foldl_cons, addPartition_false, DiskDiscovery.KeyFree]
    cases disc.rootDevice? d.searches p with
    | some fs =>
      rw [(finish_true disc ps _).sound_iff, (sameRoots_addPartitionExtraFs disc _ p).sound_iff]
      exact sound_addFsStat_iff disc (d := d.search 1) hroots hrepl fs p.mountpoint
    | none =>
      have hsame := (SameRoots.search d 1).trans (sameRoots_addPartitionExtraFs disc _ p)
      exact ih (hsame.numRoots.trans hroots) (hsame.replaced.trans hrepl)

end Root

/-- **One root, and nothing replaced**: exactly if `FILESYSTEM` names the root filesystem, or no
    extra filesystem has its key when it is registered. -/
theorem discovery_sound_iff (disc : DiskDiscovery) :
    disc.initializeDiskInfo.Sound ↔ disc.Configured ∨
      disc.KeyFree (disc.addConfiguredExtraFilesystems {}) disc.partitions := by
  have hsame := sameRoots_addConfiguredExtraFilesystems disc
  have hresult : disc.initializeDiskInfo = disc.finish (disc.partitions.foldl disc.addPartition
      ((disc.addConfiguredRootFs {}).1,
        disc.addConfiguredExtraFilesystems (disc.addConfiguredRootFs {}).2)) := rfl
  by_cases hconf : disc.Configured
  · -- the first entry of the map is the root
    have hroot : (disc.addConfiguredRootFs {}).1 = true ∧
        (disc.addConfiguredRootFs {}).2.Sound := by
      obtain ⟨hset, hmatch⟩ := hconf
      unfold DiskDiscovery.addConfiguredRootFs
      rw [if_neg hset]
      cases hpart : disc.partitions.find? disc.filesystemMatchesPartitionSetting with
      | some p => exact ⟨rfl, (sound_addFsStat_iff disc rfl rfl _ _).mpr (AList.notMem_empty _)⟩
      | none =>
        rw [hpart] at hmatch
        obtain ⟨ioKey, hio⟩ := Option.isSome_iff_exists.mp (hmatch.resolve_left Bool.noConfusion)
        simp only [hio]
        exact ⟨trivial, (sound_assign_iff rfl rfl _ _).mpr (AList.notMem_empty _)⟩
    rw [hresult, hroot.1, (finish_true disc _ _).sound_iff, (hsame _).sound_iff]
    exact iff_of_true hroot.2 (.inl hconf)
  · have hnone : disc.addConfiguredRootFs {} = (false, {}) := by
      unfold DiskDiscovery.addConfiguredRootFs
      split
      · rfl
      · next hset =>
        obtain ⟨hpart, hio⟩ := not_or.mp fun h => hconf ⟨hset, h⟩
        rw [Option.not_isSome_iff_eq_none] at hpart hio
        rw [hpart]
        rw [hio]
    rw [hresult, hnone, or_iff_right hconf]
    exact finish_false_iff disc _ (hsame _).numRoots (hsame _).replaced

/-! ## Runs -/

/-- A disk with one partition, which `EXTRA_FILESYSTEMS` names. -/
def oneDisk (mountpoint : String) : DiskDiscovery where
  paths := unixPaths
  extraFilesystems := some mountpoint
  rootMountPoint := "/"
  partitions := [⟨"/dev/sda1", mountpoint⟩]
  diskIoCounters := [("sda1", ⟨"sda1", "", 1, 0, 1, 0⟩)]
  usageFn _ := true

/-- **Root may be missing, and an extra filesystem replaced**: nothing is the root if it is also an
    extra filesystem, and if it is not among the partitions, the busiest device replaces an extra
    filesystem. -/
theorem extra_filesystem_takes_root :
    (oneDisk "/").initializeDiskInfo.fsStats.lookup "sda1" = some ⟨false, "/", ""⟩ ∧
      (oneDisk "/").initializeDiskInfo.numRoots = 0 ∧
      (oneDisk "/mnt/data").initializeDiskInfo.fsStats.lookup "sda1" = some ⟨true, "/", ""⟩ ∧
      (oneDisk "/mnt/data").initializeDiskInfo.replaced = ["sda1"] := by
  decide +kernel

end Bantay.Agent.Disk
