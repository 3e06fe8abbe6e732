import Bantay.Lib.GoMap
import Bantay.Lib.Transition

/-!
# The Statistics of the Agent and the Requests of the Hub

`Agent.gatherStats` answers a request for data from a cache that is keyed by the cache time of the
request, or gathers new data.  Services of systemd and changed details ride only on responses for
`defaultDataCacheTimeMs`, unless the hub asks for details.  The hub asks every `interval`
milliseconds, and the interval is the cache time of its periodic requests (`System.update`).

What the agent measures is supplied with the request.  A response of docker can change the details
of the agent while it gathers data.
-/

namespace Bantay.Agent

open Bantay.Lib

def defaultDataCacheTimeMs : UInt16 := 60000

/-- `interval` of the hub, in milliseconds. -/
def interval : ℕ := 5000

def realtimeCacheTimeMs : UInt16 := 1000

/-! ## Data -/

structure DataRequestOptions where
  cacheTimeMs : UInt16
  includeDetails : Bool

inductive ServiceState where
  | active
  | inactive
  | failed
  | activating
  | deactivating
  | reloading
deriving DecidableEq

/-- `systemd.Service`, with its measured values in `usage`. -/
structure Service (υ : Type) where
  name : String
  state : ServiceState
  usage : υ
deriving DecidableEq

structure SystemdManager (υ : Type) where
  serviceStatsMap : GoMap String (Service υ)
  hasFreshStats : Bool

/-- `system.CombinedData`; `services` is the field `Services` of its `Info`. -/
structure CombinedData (σ ι κ υ δ : Type) where
  stats : σ
  info : ι
  services : List UInt16
  containers : List κ
  systemdServices : List (Service υ)
  details : Option δ
deriving DecidableEq

/-- `cacheNode`, with its time in nanoseconds. -/
structure CacheNode (σ ι κ υ δ : Type) where
  data : CombinedData σ ι κ υ δ
  lastUpdate : ℕ

/-- The fields of `Agent` that `gatherStats` uses. -/
structure StatsAgent (σ ι κ υ δ : Type) where
  dockerManager : Bool
  systemdManager : Option (SystemdManager υ)
  systemDetails : δ
  detailsDirty : Bool
  cache : GoMap UInt16 (CacheNode σ ι κ υ δ)

/-- What the agent meets while it gathers data. -/
structure Sample (σ ι κ δ : Type) where
  stats : σ
  info : ι
  containers : Option (List κ)
  details : Option δ

variable {σ ι κ υ δ : Type}

/-! ## Gathering statistics -/

namespace SystemdManager

variable (sm : SystemdManager υ)

def getServiceStatsCount : ℕ := sm.serviceStatsMap.entries.length

def serviceList : List (Service υ) :=
  sm.serviceStatsMap.entries.map Sigma.snd

def getFailedServiceCount : UInt16 :=
  sm.serviceList.foldl (fun count service => if service.state = .failed then count + 1 else count) 0

/-- `getServiceStats` without a refresh. -/
def getServiceStats : SystemdManager υ × List (Service υ) :=
  ({ sm with hasFreshStats := false }, sm.serviceList)

end SystemdManager

namespace StatsAgent

variable (a : StatsAgent σ ι κ υ δ)

/-- `systemDataCache.Get`: the node is there, and is younger than half of the cache time. -/
def cached (now : ℕ) (cacheTimeMs : UInt16) : Option (CombinedData σ ι κ υ δ) :=
  match a.cache.lookup cacheTimeMs with
  | none => none
  | some node =>
    if now - node.lastUpdate < (cacheTimeMs / 2).toNat * 1000000 then some node.data else none

def updateSystemDetails (details : δ) : StatsAgent σ ι κ υ δ :=
  { a with systemDetails := details, detailsDirty := true }

/-- `dockerManager.getDockerStats`, as far as the agent sees it. -/
def getDockerStats (sample : Sample σ ι κ δ) : StatsAgent σ ι κ υ δ × List κ :=
  if a.dockerManager then
    (sample.details.elim a a.updateSystemDetails, sample.containers.getD [])
  else
    (a, [])

/-- The part of `gatherStats` about systemd. -/
def addServices (data : CombinedData σ ι κ υ δ) (cacheTimeMs : UInt16) :
    StatsAgent σ ι κ υ δ × CombinedData σ ι κ υ δ :=
  match a.systemdManager with
  | none => (a, data)
  | some sm =>
    -- skip updating systemd services if cache time is not the default
    if cacheTimeMs = defaultDataCacheTimeMs then
      let totalCount := UInt16.ofNat sm.getServiceStatsCount
      let data :=
        if totalCount > 0 then { data with services := [totalCount, sm.getFailedServiceCount] }
        else data
      if sm.hasFreshStats then
        ({ a with systemdManager := some sm.getServiceStats.1 },
          { data with systemdServices := sm.getServiceStats.2 })
      else
        (a, data)
    else
      (a, data)

def attachSystemDetails (data : CombinedData σ ι κ υ δ)
    (cacheTimeMs : UInt16) (includeRequested : Bool) :
    StatsAgent σ ι κ υ δ × CombinedData σ ι κ υ δ :=
  if !includeRequested && (cacheTimeMs != defaultDataCacheTimeMs || !a.detailsDirty) then
    (a, data)
  else
    ({ a with detailsDirty := false }, { data with details := some a.systemDetails })

def gatherStats (now : ℕ) (sample : Sample σ ι κ δ)
    (options : DataRequestOptions) : StatsAgent σ ι κ υ δ × CombinedData σ ι κ υ δ :=
  match a.cached now options.cacheTimeMs with
  | some data => (a, data)
  | none =>
    let (a, containers) := a.getDockerStats sample
    let data : CombinedData σ ι κ υ δ :=
      ⟨sample.stats, sample.info, [], containers, [], none⟩
    let (a, data) := a.addServices data options.cacheTimeMs
    -- the cached data has no details
    let a := { a with cache := a.cache.insert options.cacheTimeMs ⟨data, now⟩ }
    a.attachSystemDetails data options.cacheTimeMs options.includeDetails

/-- The services that a response should carry. -/
def dueServices : List (Service υ) :=
  match a.systemdManager with
  | none => []
  | some sm => if sm.hasFreshStats then sm.serviceList else []

/-- The details that a response should carry: they have changed since they were sent. -/
def dueDetails : Option δ :=
  if a.detailsDirty then some a.systemDetails else none

end StatsAgent

/-! ## One agent and its hub -/

structure ExchangeState (σ ι κ υ δ : Type) where
  agent : StatsAgent σ ι κ υ δ
  detailsFetched : Bool
  now : ℕ

inductive ExchangeAction (σ ι κ υ δ : Type) where
  | tick (elapsed : ℕ)
  /-- the request of `update`; with `saved` the hub stores what it has received -/
  | periodic (sample : Sample σ ι κ δ) (saved : Bool)
  /-- the request of `fetchRealtimeDataAndNotify` -/
  | realtime (sample : Sample σ ι κ δ)
  | updateServices (services : GoMap String (Service υ))
  | refreshed
  | changeDetails (details : δ)
  | reconnect

section

variable (s : ExchangeState σ ι κ υ δ)

def ExchangeState.options : DataRequestOptions where
  cacheTimeMs := UInt16.ofNat interval
  includeDetails := !s.detailsFetched

def ExchangeState.response (sample : Sample σ ι κ δ) : CombinedData σ ι κ υ δ :=
  (s.agent.gatherStats s.now sample s.options).2

def exchange : ExchangeAction σ ι κ υ δ → ExchangeState σ ι κ υ δ
  | .tick elapsed => { s with now := s.now + elapsed }
  | .periodic sample saved =>
    { s with
      agent := (s.agent.gatherStats s.now sample s.options).1
      detailsFetched := s.detailsFetched || saved && (s.response sample).details.isSome }
  | .realtime sample =>
    { s with agent := (s.agent.gatherStats s.now sample ⟨realtimeCacheTimeMs, false⟩).1 }
  | .updateServices services =>
    { s with agent := { s.agent with systemdManager := s.agent.systemdManager.map fun sm =>
        { sm with serviceStatsMap := services } } }
  | .refreshed =>
    { s with agent := { s.agent with systemdManager := s.agent.systemdManager.map fun sm =>
        { sm with hasFreshStats := true } } }
  | .changeDetails details => { s with agent := s.agent.updateSystemDetails details }
  | .reconnect => { s with detailsFetched := false }

/-- Every action can be taken at any time. -/
def exchangeStep (a : ExchangeAction σ ι κ υ δ) : Option (ExchangeState σ ι κ υ δ) :=
  some (exchange s a)

end

/-! ## The property and the condition -/

/-- A periodic request is not answered from the cache. -/
def ExchangeState.Uncached (s : ExchangeState σ ι κ υ δ) : Prop :=
  s.agent.cached s.now (UInt16.ofNat interval) = none
deriving Decidable

/-- An uncached periodic response carries the services while their statistics are fresh, and the
    details that have changed. -/
def CarriesDue (s : ExchangeState σ ι κ υ δ) : ExchangeAction σ ι κ υ δ → Prop
  | .periodic sample _ =>
    s.Uncached →
      (∀ sm ∈ s.agent.systemdManager, sm.hasFreshStats = true →
        (s.response sample).systemdServices = sm.serviceList) ∧
      ∀ details ∈ (s.agent.getDockerStats sample).1.dueDetails,
        (s.response sample).details = some details
  | _ => True

/-- No services are due, and details only while the hub asks for them. -/
def NothingWithheld (s : ExchangeState σ ι κ υ δ) : ExchangeAction σ ι κ υ δ → Prop
  | .periodic sample _ =>
    s.Uncached →
      s.agent.dueServices = [] ∧
      ((s.agent.getDockerStats sample).1.detailsDirty = true → s.detailsFetched = false)
  | _ => True

/-! ## What a response carries -/

section Response

variable {a : StatsAgent σ ι κ υ δ} {data : CombinedData σ ι κ υ δ} {now : ℕ}
  {sample : Sample σ ι κ δ} {options : DataRequestOptions} {cacheTimeMs : UInt16}

/-- Docker has nothing to do with systemd. -/
@[simp]
theorem getDockerStats_systemdManager :
    (a.getDockerStats sample).1.systemdManager = a.systemdManager := by
  unfold StatsAgent.getDockerStats
  split
  · cases sample.details <;> rfl
  · rfl

theorem addServices_of_ne (h : cacheTimeMs ≠ defaultDataCacheTimeMs) :
    a.addServices data cacheTimeMs = (a, data) := by
  unfold StatsAgent.addServices
  cases a.systemdManager with
  | none => rfl
  | some sm => exact if_neg h

theorem gatherStats_of_uncached (options : DataRequestOptions)
    (h : a.cached now options.cacheTimeMs = none) :
    a.gatherStats now sample options =
      let asked := a.getDockerStats sample
      let gathered := asked.1.addServices
        ⟨sample.stats, sample.info, [], asked.2, [], none⟩ options.cacheTimeMs
      { gathered.1 with
        cache := gathered.1.cache.insert options.cacheTimeMs ⟨gathered.2, now⟩
      }.attachSystemDetails gathered.2 options.cacheTimeMs options.includeDetails := by
  unfold StatsAgent.gatherStats
  rw [h]

theorem gatherStats_of_ne (sample : Sample σ ι κ δ) (options : DataRequestOptions)
    (h : a.cached now options.cacheTimeMs = none)
    (hne : options.cacheTimeMs ≠ defaultDataCacheTimeMs) :
    (a.gatherStats now sample options).2.systemdServices = [] ∧
      (a.gatherStats now sample options).2.details =
        if options.includeDetails then some (a.getDockerStats sample).1.systemDetails
        else none := by
  rw [gatherStats_of_uncached _ h]
  dsimp only
  rw [addServices_of_ne hne]
  unfold StatsAgent.attachSystemDetails
  constructor
  · split <;> rfl
  · cases options.includeDetails <;> simp [hne]

end Response

/-! ## Main theorem -/

section Due

variable {s : ExchangeState σ ι κ υ δ} {a : ExchangeAction σ ι κ υ δ}

theorem interval_ne_default : UInt16.ofNat interval ≠ defaultDataCacheTimeMs := by
  decide

theorem carriesDue_iff : CarriesDue s a ↔ NothingWithheld s a := by
  cases a with
  | periodic sample saved =>
    apply forall_congr'
    intro huncached
    obtain ⟨hsvcs, hdet⟩ :=
      gatherStats_of_ne sample s.options huncached interval_ne_default
    have hresp : (s.response sample).details =
        if s.options.includeDetails then some (s.agent.getDockerStats sample).1.systemDetails
        else none := hdet
    rw [show (s.response sample).systemdServices = [] from hsvcs, hresp]
    constructor
    · rintro ⟨hcarried, hsent⟩
      constructor
      · unfold StatsAgent.dueServices
        split
        · rfl
        · next sm hsm =>
          split
          · next hfresh => exact (hcarried sm hsm hfresh).symm
          · rfl
      · intro hdirty
        have hsent := hsent _ (if_pos hdirty)
        cases hfet : s.detailsFetched with
        | false => rfl
        | true => simp [ExchangeState.options, hfet] at hsent
    · rintro ⟨hnone, hasked⟩
      constructor
      · intro sm hsm hfresh
        rw [StatsAgent.dueServices, Option.mem_def.mp hsm] at hnone
        exact (hnone.symm.trans (if_pos hfresh))
      · intro details hdue
        unfold StatsAgent.dueDetails at hdue
        split at hdue
        · next hdirty =>
          rw [ExchangeState.options, hasked hdirty]
          exact hdue
        · cases hdue
  | tick | realtime | updateServices | refreshed | changeDetails | reconnect => exact Iff.rfl

end Due

/-- **Periodic responses**: from any state of the agent and the hub, the uncached periodic
    responses of a run carry the services and the details that are due exactly if at each of them
    no services are due, and changed details only while the hub asks for details. -/
theorem periodic_responses_carry_iff (s : ExchangeState σ ι κ υ δ)
    (as : List (ExchangeAction σ ι κ υ δ)) :
    EveryStep exchangeStep CarriesDue s as ↔ EveryStep exchangeStep NothingWithheld s as :=
  ⟨EveryStep.mono fun _ _ => carriesDue_iff.mp, EveryStep.mono fun _ _ => carriesDue_iff.mpr⟩

/-- An agent with docker and systemd that has just started, and a new system of the hub. -/
def startedExchange : ExchangeState Unit Unit Unit Unit Bool where
  agent :=
    { dockerManager := true
      systemdManager := some ⟨∅, false⟩
      systemDetails := false
      detailsDirty := false
      cache := ∅ }
  detailsFetched := false
  now := 0

/-- A service is found and Podman detected after the first response, and the hub asks again. -/
def changedAfterFirst : List (ExchangeAction Unit Unit Unit Unit Bool) :=
  [.periodic ⟨(), (), some [], none⟩ true,
   .updateServices ((∅ : GoMap String (Service Unit)).insert "nginx" ⟨"nginx", .active, ()⟩),
   .refreshed, .changeDetails true, .tick 5000000000]

/-- After `changedAfterFirst` services are fresh and the details have changed, and the uncached
    response to the next periodic request has neither. -/
theorem services_and_details_are_withheld :
    ∃ s, exec exchangeStep startedExchange changedAfterFirst = some s ∧
      s.Uncached ∧ s.agent.dueServices = [⟨"nginx", .active, ()⟩] ∧
      s.agent.dueDetails = some true ∧
      (s.response ⟨(), (), some [], none⟩).systemdServices = [] ∧
      (s.response ⟨(), (), some [], none⟩).details = none ∧
      ¬ CarriesDue s (.periodic ⟨(), (), some [], none⟩ true) := by
  refine ⟨_, rfl, by decide +kernel, by decide +kernel, by decide +kernel, by decide +kernel,
    by decide +kernel, ?_⟩
  intro hcarries
  have hsvcs := (hcarries (by decide +kernel)).1 _ rfl rfl
  revert hsvcs
  decide +kernel

end Bantay.Agent
