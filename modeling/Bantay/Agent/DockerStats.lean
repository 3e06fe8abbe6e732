import Mathlib.Data.List.Infix
import Mathlib.Algebra.Order.Ring.Int
import Bantay.Lib.GoSlice
import Bantay.Lib.GoStrings
import Bantay.Lib.Transition

/-!
# The Statistics of Containers

`dockerManager` of `agent/docker.go` asks the Docker API for the list of containers and then, in
one goroutine a container, for the statistics of each of them.  All of them share
- `apiContainerList`, a slice whose elements are decoded in place by every list
- `apiStats`, the one struct that every response with statistics is decoded into
- the decoder, which returns its first syntax error again on every later use; the probe of the
  version uses it too

What the manager remembers of a container is one record a short id: `Tracked`.  A response is a
document whose fields may be absent, which decoding leaves as they are.  The functions of the
standard library on numbers and strings are a parameter, `Library`; a time is a number of
nanoseconds.  A step is what happens under one lock: the probe, the list, one iteration of the loop
over the list, one container, and the end of the call.
-/

namespace Bantay.Agent.Docker

open Bantay.Lib

/-! ## Values of the API -/

inductive DockerHealth where
  | none
  | starting
  | healthy
  | unhealthy
deriving DecidableEq

structure Port where
  publicPort : UInt16
  ip : String

/-- `container.ApiInfo`.  `IdShort` is computed from `id`. -/
structure ApiInfo where
  id : String
  names : List String
  status : String
  image : String
  healthStatus : String
  ports : Slice Port

structure NetworkStats where
  rxBytes : UInt64
  txBytes : UInt64
deriving DecidableEq

/-- `container.ApiStats` with its nested structs. -/
structure ApiStats where
  read : ℤ
  numProcs : UInt32
  networks : List NetworkStats
  totalUsage : UInt64
  systemUsage : UInt64
  usage : UInt64
  cache : UInt64
  inactiveFile : UInt64
  privateWorkingSet : UInt64

/-- The zero `time.Time`. -/
def zeroTime : ℤ := -62135596800000000000

def Port.zero : Port := ⟨0, ""⟩

def ApiInfo.zero : ApiInfo := ⟨"", [], "", "", "", Slice.nil⟩

def ApiStats.zero : ApiStats := ⟨zeroTime, 0, [], 0, 0, 0, 0, 0, 0⟩

/-! ## Documents and their decoding -/

structure PortDoc where
  publicPort : Option UInt16
  ip : Option String
deriving DecidableEq

/-- An entry of `/containers/json`. -/
structure ApiInfoDoc where
  id : Option String
  names : Option (List String)
  status : Option String
  image : Option String
  healthStatus : Option String
  ports : Option (List PortDoc)
  /-- If a value does not have the type of its field, it is left out, and the list is returned with
      an error. -/
  typed : Bool := true
deriving DecidableEq

/-- A response of `/containers/{id}/stats`, or any other: the status code is not looked at. -/
structure ApiStatsDoc where
  read : Option ℤ
  numProcs : Option UInt32
  networks : Option (List NetworkStats)
  totalUsage : Option UInt64
  systemUsage : Option UInt64
  usage : Option UInt64
  cache : Option UInt64
  inactiveFile : Option UInt64
  privateWorkingSet : Option UInt64
deriving DecidableEq

def PortDoc.into (doc : PortDoc) (p : Port) : Port where
  publicPort := doc.publicPort.getD p.publicPort
  ip := doc.ip.getD p.ip

/-- Decode an entry of the list into an existing one. -/
def ApiInfoDoc.into (doc : ApiInfoDoc) (info : ApiInfo) : ApiInfo where
  id := doc.id.getD info.id
  names := doc.names.getD info.names
  status := doc.status.getD info.status
  image := doc.image.getD info.image
  healthStatus := doc.healthStatus.getD info.healthStatus
  ports :=
    match doc.ports with
    | none => info.ports
    | some ports => Slice.decode PortDoc.into Port.zero ports info.ports

/-- Decode statistics into an existing struct. -/
def ApiStatsDoc.into (doc : ApiStatsDoc) (stats : ApiStats) : ApiStats where
  read := doc.read.getD stats.read
  numProcs := doc.numProcs.getD stats.numProcs
  networks := doc.networks.getD stats.networks
  totalUsage := doc.totalUsage.getD stats.totalUsage
  systemUsage := doc.systemUsage.getD stats.systemUsage
  usage := doc.usage.getD stats.usage
  cache := doc.cache.getD stats.cache
  inactiveFile := doc.inactiveFile.getD stats.inactiveFile
  privateWorkingSet := doc.privateWorkingSet.getD stats.privateWorkingSet

/-- What a request to the API ends with. -/
inductive Reply (δ : Type) where
  | unreachable
  /-- The body cannot be read to its end. -/
  | unreadable
  | malformed
  /-- `typed`: the values have the types of the fields; if not, the others are decoded and an error
      is returned. -/
  | document (doc : δ) (typed : Bool)
deriving DecidableEq

/-- The list has the type of a list, and so have its entries. -/
def Reply.entriesTyped : Reply (List ApiInfoDoc) → Reply (List ApiInfoDoc)
  | .document docs typed => .document docs (typed && docs.all (·.typed))
  | .unreachable => .unreachable
  | .unreadable => .unreadable
  | .malformed => .malformed

/-- What `dm.decode` leaves. -/
structure Decoded (α : Type) where
  value : α
  ok : Bool
  decoderFailed : Bool

/-- `dm.decode`.  The decoder keeps a syntax error, and returns it from then on. -/
def decode {α δ : Type} (into : δ → α → α) (decoderFailed : Bool) (reply : Reply δ) (old : α) :
    Decoded α :=
  match reply with
  | .unreachable | .unreadable => ⟨old, false, decoderFailed⟩
  | .malformed => ⟨old, false, true⟩
  | .document doc typed =>
    if decoderFailed then ⟨old, false, true⟩ else ⟨into doc old, typed, false⟩

/-! ## Functions of the standard library -/

/-- What the code computes with `float64`, `path`, `sort` and `strings`. -/
structure Library (φ : Type) where
  zero : φ
  /-- `float64(part) / float64(whole) * 100.0`. -/
  percent : UInt64 → UInt64 → φ
  /-- `cpuPct > 100`. -/
  exceeds100 : φ → Bool
  twoDecimals : φ → φ
  bytesToMegabytes : UInt64 → φ
  /-- `path.Match(pattern, name)`, `false` for an invalid pattern. -/
  pathMatch : String → String → Bool
  /-- `sort.Slice` by the public port. -/
  sortPorts : List Port → List Port
  toLower : List Char → List Char

/-- `strings.Replace(text, part, "", 1)`. -/
def removeFirst (part : List Char) : List Char → List Char
  | [] => []
  | c :: text =>
    if part <+: c :: text then (c :: text).drop part.length else c :: removeFirst part text

/-- The text before and after the last `mark`. -/
def splitLast (mark : Char) (text : List Char) : Option (List Char × List Char) :=
  match text.reverse.span (· ≠ mark) with
  | (_, []) => none
  | (after, _ :: before) => some (before.reverse, after.reverse)

/-- The text before and after the first `mark`. -/
def splitFirst (mark : Char) (text : List Char) : Option (List Char × List Char) :=
  match text.span (· ≠ mark) with
  | (_, []) => none
  | (before, _ :: after) => some (before, after)

/-- `t.Sub(u).Nanoseconds()`, which saturates. -/
def nanosecondsSince (t u : ℤ) : ℤ := max (-2 ^ 63) (min (t - u) (2 ^ 63 - 1))

/-! ## Health and ports -/

def dockerHealthStrings : List (String × DockerHealth) :=
  [("none", .none), ("starting", .starting), ("healthy", .healthy), ("unhealthy", .unhealthy)]

section Functions

variable {φ : Type} (lib : Library φ)

def parseDockerHealthStatus (status : List Char) : Option DockerHealth :=
  dockerHealthStrings.lookup (String.ofList (lib.toLower (trimChars status)))

/-- The health in parentheses, without a `health:` in front of it. -/
def healthText (text : List Char) : List Char :=
  let text := trimChars text
  match splitFirst ':' text with
  | none => text
  | some (before, after) =>
    if lib.toLower (trimChars before) = "health".toList ∨
        lib.toLower (trimChars before) = "health status".toList then
      trimChars after
    else text

def parseDockerStatus (status : String) : String × DockerHealth :=
  match trimChars status.toList with
  | [] => ("", .none)
  | c :: text =>
    let trimmed := removeFirst "About ".toList (c :: text)
    match splitLast '(' trimmed with
    | none => (String.ofList trimmed, .none)
    | some (before, after) =>
      if after.getLast? = some ')' then
        match parseDockerHealthStatus lib (healthText lib after.dropLast) with
        | none => (String.ofList trimmed, .none)
        | some health =>
          let statusText := trimChars before
          (String.ofList (if statusText = [] then trimmed else statusText), health)
      else (String.ofList trimmed, .none)

def portText (p : Port) : String :=
  if p.ip = "0.0.0.0" ∨ p.ip = "::" then toString p.publicPort.toNat
  else p.ip ++ ":" ++ toString p.publicPort.toNat

/-- The loop of `convertContainerPortsToString`: no port is named twice. -/
def portTexts : List UInt16 → List Port → List String
  | _, [] => []
  | seenPorts, p :: ports =>
    if p.publicPort = 0 ∨ p.publicPort ∈ seenPorts then portTexts seenPorts ports
    else portText p :: portTexts (p.publicPort :: seenPorts) ports

/-- The slice it clears is cleared in `clearPorts`. -/
def convertContainerPortsToString (ports : List Port) : String :=
  ", ".intercalate (portTexts [] (lib.sortPorts ports))

/-- `ctr.Ports = nil`, if there are ports. -/
def ApiInfo.clearPorts (ctr : ApiInfo) : ApiInfo :=
  if ctr.ports.elems = [] then ctr else { ctr with ports := Slice.nil }

/-! ## What is remembered of a container -/

/-- What a `DeltaTracker` has for one key. -/
structure Tracker where
  current : Option UInt64
  previous : Option UInt64

/-- `Set`. -/
def Tracker.record (t : Tracker) (value : UInt64) : Tracker := { t with current := some value }

def Tracker.delta (t : Tracker) : UInt64 :=
  match t.current, t.previous with
  | some current, some previous => current - previous
  | _, _ => 0

def Tracker.cycle (t : Tracker) : Tracker := ⟨none, t.current⟩

structure Stats (φ : Type) where
  name : String
  cpu : φ
  mem : φ
  networkSent : φ
  networkRecv : φ
  bandwidth : UInt64 × UInt64
  health : DockerHealth
  status : String
  id : String
  image : String
  ports : String
  prevNet : UInt64 × UInt64
  prevReadTime : ℤ
deriving DecidableEq

/-- What the maps of the manager hold for one short id, and what was reported for it. -/
structure Tracked (φ : Type) where
  /-- The entry of `containerStatsMap`. -/
  stats : Option (Stats φ)
  /-- The id is in `validIds`. -/
  valid : Bool
  lastCpuContainer : UInt16 → UInt64
  lastCpuSystem : UInt16 → UInt64
  lastCpuReadTime : UInt16 → ℤ
  networkSent : UInt16 → Tracker
  networkRecv : UInt16 → Tracker
  lastNetworkReadTime : UInt16 → Option ℤ
  /-- What the calls so far returned for the container, the latest first. -/
  reports : List (Option (Stats φ))

/-- A container the manager knows nothing about. -/
def Tracked.new : Tracked φ where
  stats := none
  valid := false
  lastCpuContainer := fun _ => 0
  lastCpuSystem := fun _ => 0
  lastCpuReadTime := fun _ => zeroTime
  networkSent := fun _ => ⟨none, none⟩
  networkRecv := fun _ => ⟨none, none⟩
  lastNetworkReadTime := fun _ => none
  reports := []

variable (own : Tracked φ) (res : ApiStats)

/-- `deleteContainerStatsSync`. -/
def Tracked.deleteContainerStats : Tracked φ :=
  { own with
    stats := none
    lastCpuContainer := fun _ => 0
    lastCpuSystem := fun _ => 0
    lastCpuReadTime := fun _ => zeroTime
    lastNetworkReadTime := fun _ => none }

/-- `delete(dm.containerStatsMap, ctr.IdShort)`. -/
def Tracked.deleteStats : Tracked φ := { own with stats := none }

/-- A container that is not excluded: a young one is new. -/
def Tracked.enter (status : String) : Tracked φ :=
  let own := { own with valid := true }
  if "second".toList <:+: status.toList then own.deleteContainerStats else own

/-- A call that returns an error reports nothing. -/
def Tracked.reportNothing : Tracked φ :=
  { own with reports := none :: own.reports }

/-- The statistics of valid ids are returned, others are deleted, and the trackers are cycled. -/
def Tracked.finish (cacheTimeMs : UInt16) : Tracked φ :=
  let stats := if own.valid then own.stats else none
  { own with
    stats
    networkSent := Function.update own.networkSent cacheTimeMs (own.networkSent cacheTimeMs).cycle
    networkRecv := Function.update own.networkRecv cacheTimeMs (own.networkRecv cacheTimeMs).cycle
    reports := stats :: own.reports }

/-! ## Measurements -/

def calculateCpuPercentLinux (prevCpuContainer prevCpuSystem : UInt64) : φ :=
  let cpuDelta := res.totalUsage - prevCpuContainer
  let systemDelta := res.systemUsage - prevCpuSystem
  if systemDelta = 0 ∨ prevCpuContainer = 0 then lib.zero else lib.percent cpuDelta systemDelta

def calculateCpuPercentWindows (prevCpuUsage : UInt64) (prevRead : ℤ) : φ :=
  let possIntervals := UInt64.ofInt (nanosecondsSince res.read prevRead)
  let possIntervals := possIntervals / 100 * res.numProcs.toUInt64
  let intervalsUsed := res.totalUsage - prevCpuUsage
  if 0 < possIntervals then lib.percent intervalsUsed possIntervals else lib.zero

/-- `maxMemoryUsage`, 100 TB. -/
def maxMemoryUsage : UInt64 := 100 * 1024 * 1024 * 1024 * 1024

def maxNetworkSpeedBps : UInt64 := 5000000000

def calculateMemoryUsage (isWindows : Bool) : Option UInt64 :=
  if isWindows then some res.privateWorkingSet
  else
    let memCache := if res.inactiveFile = 0 then res.cache else res.inactiveFile
    let usedDelta := res.usage - memCache
    if usedDelta ≤ 0 ∨ maxMemoryUsage < usedDelta then none else some usedDelta

/-- The bytes per second from the bytes since the last time. -/
def networkRate (delta millisecondsElapsed : UInt64) : UInt64 :=
  let rate := delta * 1000 / millisecondsElapsed
  if 0 < delta ∧ rate ≤ maxNetworkSpeedBps then rate else 0

/-- The part of the manager that is the same for all containers of a call. -/
structure Call where
  cacheTimeMs : UInt16
  usingPodman : Bool
  isWindows : Bool

/-- What the requests and the clock answer while one container is updated. -/
structure Answers where
  stats : Reply ApiStatsDoc
  /-- What `getPodmanContainerHealth` returns, `none` for an error. -/
  podmanHealth : Option DockerHealth
  now : ℤ
  later : ℤ
deriving DecidableEq

/-- The bytes sent and received over all networks. -/
def ApiStats.totals : UInt64 × UInt64 :=
  res.networks.foldl (fun total v => (total.1 + v.txBytes, total.2 + v.rxBytes)) (0, 0)

def Tracked.recordNetwork (ct : UInt16) (res : ApiStats) : Tracked φ :=
  { own with
    networkSent := Function.update own.networkSent ct ((own.networkSent ct).record res.totals.1)
    networkRecv := Function.update own.networkRecv ct ((own.networkRecv ct).record res.totals.2) }

/-- `calculateNetworkStats`, for the recorded totals. -/
def Tracked.calculateNetworkStats (ct : UInt16) (now : ℤ) : UInt64 × UInt64 :=
  match own.lastNetworkReadTime ct with
  | none => (0, 0)
  | some prevReadTime =>
    let millisecondsElapsed := UInt64.ofInt ((nanosecondsSince now prevReadTime).tdiv 1000000)
    if 0 < millisecondsElapsed then
      (networkRate (own.networkSent ct).delta millisecondsElapsed,
        networkRate (own.networkRecv ct).delta millisecondsElapsed)
    else (0, 0)

def updateContainerStatsValues (stats : Stats φ) (cpuPct : φ) (usedMemory : UInt64)
    (deltas : UInt64 × UInt64) (readTime : ℤ) : Stats φ :=
  { stats with
    cpu := lib.twoDecimals cpuPct
    mem := lib.bytesToMegabytes usedMemory
    bandwidth := deltas
    networkSent := lib.bytesToMegabytes deltas.1
    networkRecv := lib.bytesToMegabytes deltas.2
    prevReadTime := readTime }

/-- `updateContainerStats` after the decoding; `false` where an error is returned. -/
def measure (call : Call) (own : Tracked φ) (stats : Stats φ) (res : ApiStats)
    (answers : Answers) : Tracked φ × Bool :=
  let ct := call.cacheTimeMs
  let cpuPct :=
    if call.isWindows then
      calculateCpuPercentWindows lib res (own.lastCpuContainer ct) (own.lastCpuReadTime ct)
    else calculateCpuPercentLinux lib res (own.lastCpuContainer ct) (own.lastCpuSystem ct)
  match calculateMemoryUsage res call.isWindows with
  | none => (own, false)
  | some usedMemory =>
    let own :=
      { own with
        lastCpuContainer := Function.update own.lastCpuContainer ct res.totalUsage
        lastCpuSystem := Function.update own.lastCpuSystem ct res.systemUsage }
    if lib.exceeds100 cpuPct then (own, false)
    else
      let own := own.recordNetwork ct res
      let deltas := own.calculateNetworkStats ct answers.now
      let stats := { stats with prevNet := res.totals }
      let stats := updateContainerStatsValues lib stats cpuPct usedMemory deltas res.read
      ({ own with
          lastNetworkReadTime := Function.update own.lastNetworkReadTime ct (some answers.later)
          lastCpuReadTime := Function.update own.lastCpuReadTime ct res.read
          stats := some stats }, true)

/-! ## The update of a container -/

/-- `ctr.Id[:12]`. -/
def shortId (id : String) : String := String.ofList (id.toList.take 12)

/-- `ctr.IdShort`, as the loop over the list computes it. -/
def ApiInfo.idShort (ctr : ApiInfo) : String := shortId ctr.id

/-- `ctr.Names[0][1:]`, which panics without a name. -/
def ApiInfo.name? (ctr : ApiInfo) : Option String :=
  match ctr.names with
  | [] => none
  | first :: _ =>
    match first.toList with
    | [] => none
    | _ :: name => some (String.ofList name)

/-- The name that the loop over the list reads, if it does not panic; lengths are those of the
    bytes. -/
def ApiInfo.takenName? (ctr : ApiInfo) : Option String :=
  if ctr.id.utf8ByteSize < 12 then none else ctr.name?

theorem ApiInfo.takenName?_eq_some (ctr : ApiInfo) {name : String} :
    ctr.takenName? = some name ↔ 12 ≤ ctr.id.utf8ByteSize ∧ ctr.name? = some name := by
  unfold ApiInfo.takenName?
  split
  · exact iff_of_false nofun fun h => absurd h.1 (Nat.not_le.mpr ‹_›)
  · exact (and_iff_right (Nat.not_lt.mp ‹_›)).symm

/-- The health of a container: from its entry in the list, or from the inspect endpoint. -/
def containerHealth (call : Call) (ctr : ApiInfo) (answers : Answers) : DockerHealth :=
  let health := (parseDockerStatus lib ctr.status).2
  if ctr.healthStatus ≠ "" then
    (parseDockerHealthStatus lib ctr.healthStatus.toList).getD health
  else if call.usingPodman then answers.podmanHealth.getD health
  else health

/-- What the list says, and no measurements. -/
def resetStats (call : Call) (ctr : ApiInfo) (own : Tracked φ) (answers : Answers) : Stats φ :=
  let old := own.stats.getD
    { name := ctr.name?.getD "", cpu := lib.zero, mem := lib.zero, networkSent := lib.zero,
      networkRecv := lib.zero, bandwidth := (0, 0), health := .none, status := "",
      id := ctr.idShort, image := ctr.image, ports := "", prevNet := (0, 0),
      prevReadTime := zeroTime }
  { old with
    id := ctr.idShort
    status := (parseDockerStatus lib ctr.status).1
    health := containerHealth lib call ctr answers
    ports :=
      if ctr.ports.elems = [] then old.ports
      else convertContainerPortsToString lib ctr.ports.elems
    cpu := lib.zero
    mem := lib.zero
    bandwidth := (0, 0)
    networkSent := lib.zero
    networkRecv := lib.zero }

/-- What all containers are decoded with. -/
structure Shared where
  apiStats : ApiStats
  decoderFailed : Bool

structure Updated (φ : Type) where
  ctr : ApiInfo
  own : Tracked φ
  shared : Shared
  ok : Bool

def updateContainerStats (call : Call) (ctr : ApiInfo) (own : Tracked φ) (shared : Shared)
    (answers : Answers) : Updated φ :=
  if answers.stats = .unreachable then ⟨ctr, own, shared, false⟩
  else
    let stats := resetStats lib call ctr own answers
    let own := { own with stats := some stats }
    -- Only the networks are reset before the struct is used again.
    let res := { shared.apiStats with networks := [] }
    let decoded := decode ApiStatsDoc.into shared.decoderFailed answers.stats res
    let shared := ⟨decoded.value, decoded.decoderFailed⟩
    if decoded.ok then
      let measured := measure lib call own stats decoded.value answers
      ⟨ctr.clearPorts, measured.1, shared, measured.2⟩
    else ⟨ctr.clearPorts, own, shared, false⟩

end Functions

/-! ## The manager -/

/-- `dockerManager`, with the position of a call to `getDockerStats`. -/
structure DockerManager (φ : Type) where
  apiContainerList : Slice ApiInfo
  shared : Shared
  call : Call
  tracked : String → Tracked φ
  busy : Bool
  next : ℕ
  running : List ℕ
  /-- `failedContainers`, without those that were retried. -/
  failed : List ℕ
  dockerVersionChecked : Bool
  /-- The loop has panicked, which ends the process: the call does not come to its end. -/
  panicked : Bool

def newDockerManager {φ : Type} : DockerManager φ where
  apiContainerList := Slice.nil
  shared := ⟨ApiStats.zero, false⟩
  call := ⟨0, false, false⟩
  tracked := fun _ => Tracked.new
  busy := false
  next := 0
  running := []
  failed := []
  dockerVersionChecked := false
  panicked := false

/-- What happens in a call.  The environment supplies the responses and the order. -/
inductive DockerAction where
  /-- The probe of the version, at the start and after a list while none has succeeded: the engine
      is Podman. -/
  | version (reply : Reply Bool)
  /-- The list is requested and decoded.  `podman` and `windows` say what the server is. -/
  | list (cacheTimeMs : UInt16) (podman windows : Bool) (reply : Reply (List ApiInfoDoc))
  /-- The loop takes the next entry of the list, which is that of `id`. -/
  | enter (id : String)
  /-- The goroutine for position `i`, which is that of `id`, updates its container. -/
  | update (i : ℕ) (id : String) (answers : Answers)
  /-- The failed container at position `i` is retried. -/
  | retry (i : ℕ) (id : String) (answers : Answers)
  | finish

section Steps

variable {φ : Type} (lib : Library φ) (excludeContainers : List String)

def shouldExcludeContainer (name : String) : Bool :=
  excludeContainers.any fun pattern => lib.pathMatch pattern name

variable (m : DockerManager φ)

def DockerManager.checkDockerVersion (reply : Reply Bool) : DockerManager φ :=
  let decoded := decode (fun podman _ => podman) m.shared.decoderFailed reply false
  { m with
    shared := { m.shared with decoderFailed := decoded.decoderFailed }
    call := { m.call with usingPodman := m.call.usingPodman || (decoded.ok && decoded.value) }
    dockerVersionChecked := decoded.ok }

/-- After an error the call returns, with nothing to report. -/
def DockerManager.failList : DockerManager φ :=
  { m with tracked := fun id => (m.tracked id).reportNothing }

def DockerManager.list (cacheTimeMs : UInt16) (podman windows : Bool)
    (reply : Reply (List ApiInfoDoc)) : DockerManager φ :=
  if reply = .unreachable then m.failList
  else
    let decoded := decode (Slice.decode ApiInfoDoc.into ApiInfo.zero) m.shared.decoderFailed
      reply.entriesTyped m.apiContainerList.truncate
    let m :=
      { m with
        apiContainerList := decoded.value
        shared := { m.shared with decoderFailed := decoded.decoderFailed } }
    if decoded.ok then
      { m with
        call := ⟨cacheTimeMs, m.call.usingPodman || podman, windows⟩
        dockerVersionChecked := m.dockerVersionChecked || podman
        tracked := fun id => { m.tracked id with valid := false }
        busy := true
        next := 0 }
    else m.failList

/-- One iteration of the loop, which panics for a short id or without a name. -/
def DockerManager.enter (id : String) : Option (DockerManager φ) :=
  match m.apiContainerList.elems[m.next]? with
  | none => none
  | some ctr =>
    if m.busy ∧ ctr.idShort = id then
      match ctr.takenName? with
      | none => some { m with panicked := true }
      | some name =>
        let m' := { m with next := m.next + 1 }
        if shouldExcludeContainer lib excludeContainers name then some m'
        else some
          { m' with
            running := m.running ++ [m.next]
            tracked := Function.update m.tracked id ((m.tracked id).enter ctr.status) }
    else none

/-- After an error the statistics may be deleted. -/
def DockerManager.updateAt (i : ℕ) (id : String) (ctr : ApiInfo)
    (answers : Answers) (onError : Tracked φ → Tracked φ) : DockerManager φ × Bool :=
  let updated := updateContainerStats lib m.call ctr (m.tracked id) m.shared answers
  let own := if updated.ok then updated.own else onError updated.own
  ({ m with
      apiContainerList := m.apiContainerList.set i updated.ctr
      shared := updated.shared
      tracked := Function.update m.tracked id own }, updated.ok)

/-- The goroutine of a container.  After an error its statistics are deleted and it is to be
    retried. -/
def DockerManager.update (i : ℕ) (id : String) (answers : Answers) : Option (DockerManager φ) :=
  match m.apiContainerList.elems[i]? with
  | none => none
  | some ctr =>
    if m.busy ∧ i ∈ m.running ∧ ctr.idShort = id then
      let (m', ok) := m.updateAt lib i id ctr answers Tracked.deleteStats
      some
        { m' with
          running := m.running.erase i
          failed := if ok then m.failed else m.failed ++ [i] }
    else none

/-- The second try for a container, when all first ones are through.  Its error is logged. -/
def DockerManager.retry (i : ℕ) (id : String) (answers : Answers) : Option (DockerManager φ) :=
  match m.apiContainerList.elems[i]? with
  | none => none
  | some ctr =>
    if m.busy ∧ m.next = m.apiContainerList.elems.length ∧ m.running = [] ∧ i ∈ m.failed ∧
        ctr.idShort = id then
      let (m', _) := m.updateAt lib i id ctr answers fun own => own
      some { m' with failed := m.failed.erase i }
    else none

def DockerManager.finish : Option (DockerManager φ) :=
  if m.busy ∧ m.next = m.apiContainerList.elems.length ∧ m.running = [] ∧ m.failed = [] then
    some
      { m with
        tracked := fun id => (m.tracked id).finish m.call.cacheTimeMs
        busy := false }
  else none

/-- `getDockerStats`, call after call. -/
def dockerStep : DockerAction → Option (DockerManager φ)
  | .version reply =>
    if m.dockerVersionChecked ∨ m.busy ∧ m.next ≠ 0 then none
    else some (m.checkDockerVersion reply)
  | .list cacheTimeMs podman windows reply =>
    if m.busy then none else some (m.list cacheTimeMs podman windows reply)
  | .enter id => m.enter lib excludeContainers id
  | .update i id answers => m.update lib i id answers
  | .retry i id answers => m.retry lib i id answers
  | .finish => m.finish

end Steps

/-! ## Panics -/

section Panics

variable {φ : Type} (lib : Library φ) (excludeContainers : List String)

/-- One iteration of the loop of `getDockerStats`; the entry is nil for a null in the response. -/
def takeEntry (entry : Option ApiInfo) : Option (List ApiInfo) := do
  let ctr ← entry
  let name ← ctr.takenName?
  return if shouldExcludeContainer lib excludeContainers name then [] else [ctr]

/-- The places of `getDockerStats` that can panic, for a decoded list.  Every goroutine reads the
    name again; those that return an error, `fails`, are started once more. -/
def getDockerStats (fails : ApiInfo → Bool) (list : List (Option ApiInfo)) : Option Unit := do
  let started := (← list.mapM (takeEntry lib excludeContainers)).flatten
  let _ ← started.mapM (·.name?)
  let _ ← (started.filter fails).mapM (·.name?)

/-- An entry with an id of at least 12 bytes and a first name that is not empty. -/
def Complete : Option ApiInfo → Prop
  | none => False
  | some ctr => 12 ≤ ctr.id.utf8ByteSize ∧ ctr.name?.isSome

theorem exists_mapM {α β : Type} {f : α → Option β} {l : List α} :
    (∃ l', l.mapM f = some l') ↔ ∀ a ∈ l, ∃ b, f a = some b := by
  induction l with
  | nil => simp
  | cons a l ih =>
    rw [List.forall_mem_cons, ← ih]
    cases hf : f a <;> cases hl : l.mapM f <;> simp [hf, hl]

variable {lib excludeContainers}

theorem exists_takeEntry {entry : Option ApiInfo} :
    (∃ started, takeEntry lib excludeContainers entry = some started) ↔ Complete entry := by
  cases entry with
  | none => simp [takeEntry, Complete]
  | some ctr =>
    rw [Complete, Option.isSome_iff_exists]
    constructor
    · rintro ⟨started, hstarted⟩
      obtain ⟨name, htaken, -⟩ := Option.bind_eq_some_iff.mp hstarted
      obtain ⟨hid, hname⟩ := ctr.takenName?_eq_some.mp htaken
      exact ⟨hid, name, hname⟩
    · rintro ⟨hid, name, hname⟩
      exact ⟨_, Option.bind_eq_some_iff.mpr
        ⟨name, ctr.takenName?_eq_some.mpr ⟨hid, hname⟩, rfl⟩⟩

theorem name_of_started {list : List (Option ApiInfo)} {started : List (List ApiInfo)}
    (h : list.mapM (takeEntry lib excludeContainers) = some started) :
    ∀ ctr ∈ started.flatten, ∃ name, ctr.name? = some name := by
  induction list generalizing started with
  | nil => simp_all
  | cons entry list ih =>
    simp only [List.mapM_cons, Option.bind_eq_bind, Option.bind_eq_some_iff] at h
    obtain ⟨first, hfirst, rest, hrest, hstarted⟩ := h
    cases hstarted
    rw [List.flatten_cons, List.forall_mem_append]
    refine ⟨?_, ih hrest⟩
    cases entry with
    | none => simp [takeEntry] at hfirst
    | some ctr =>
      obtain ⟨name, htaken, hstarted⟩ := Option.bind_eq_some_iff.mp hfirst
      obtain ⟨-, hname⟩ := ctr.takenName?_eq_some.mp htaken
      cases hstarted
      split <;> simp [hname]

end Panics

/-- **No panic** exactly if every entry is there, with an id of at least 12 bytes and a first name
    that is not empty. -/
theorem getDockerStats_iff {φ : Type} (lib : Library φ) (excludeContainers : List String)
    (fails : ApiInfo → Bool) (list : List (Option ApiInfo)) :
    (getDockerStats lib excludeContainers fails list).isSome ↔ ∀ entry ∈ list, Complete entry := by
  have hloop : (∃ started, list.mapM (takeEntry lib excludeContainers) = some started) ↔
      ∀ entry ∈ list, Complete entry := by
    rw [exists_mapM]
    exact forall₂_congr fun _ _ => exists_takeEntry
  rw [← hloop, getDockerStats]
  cases hstarted : list.mapM (takeEntry lib excludeContainers) with
  | none => simp
  | some started =>
    have hnames := name_of_started hstarted
    obtain ⟨names, hrun⟩ := exists_mapM.mpr hnames
    obtain ⟨names', hretry⟩ := exists_mapM.mpr fun ctr hctr =>
      hnames ctr (List.mem_filter (p := fails).mp hctr).1
    simp only [Option.bind_eq_bind, Option.bind_some, hrun, hretry, pure]
    simp

/-- **A container without names** makes the loop panic. -/
theorem nameless_container_panics :
    getDockerStats ⟨(), fun _ _ => (), fun _ => false, id, fun _ => (), fun _ _ => false, id, id⟩ []
      (fun _ => false)
      [some ⟨"0123456789abcdef", [], "Up 2 hours", "app", "", Slice.nil⟩] = none := by
  decide +kernel

end Bantay.Agent.Docker
