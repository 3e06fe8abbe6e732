import Bantay.Agent.DockerStats
import Bantay.Lib.Mealy
import Mathlib.Algebra.BigOperators.Ring.List
import Mathlib.Algebra.Order.BigOperators.Group.List
import Mathlib.Algebra.Order.Group.Nat
import Mathlib.Data.List.Dedup
import Mathlib.Data.List.Forall2

/-!
# Network Statistics of the Agent

`updateNetworkStats` turns the byte counters of the network interfaces into rates.  The counters
at the previous call are kept for every cache interval apart: the totals with their time in
`netIoStats`, those of the single interfaces in a delta tracker.  The set of interfaces is shared
by all intervals.  A rate that cannot be right resets everything, for all intervals.

The environment of a call (`NetCall`) holds what the clock and gopsutil answer during it.
-/

namespace Bantay.Agent.Network

open Bantay.Lib Function List

/-! ## Delta trackers -/

structure DeltaTracker (κ ν : Type) where
  current : κ → Option ν
  previous : κ → Option ν

namespace DeltaTracker

variable {κ ν : Type}

def new : DeltaTracker κ ν := ⟨fun _ => none, fun _ => none⟩

def set [DecidableEq κ] (t : DeltaTracker κ ν) (id : κ) (value : ν) : DeltaTracker κ ν :=
  { t with current := Function.update t.current id (some value) }

def cycle (t : DeltaTracker κ ν) : DeltaTracker κ ν := ⟨fun _ => none, t.current⟩

end DeltaTracker

/-! ## The interfaces -/

structure IoCountersStat where
  name : String
  bytesSent : UInt64
  bytesRecv : UInt64

structure NicConfig where
  nics : List String
  isBlacklist : Bool
  hasWildcards : Bool

def newNicConfig (nicsEnvVal : List Char) : NicConfig :=
  let isBlacklist := nicsEnvVal.head? == some '-'
  let entries := if isBlacklist then nicsEnvVal.tail else nicsEnvVal
  let nics := ((entries.splitOn ',').map trimChars).filter (· ≠ [])
  ⟨nics.map String.ofList, isBlacklist, nics.any fun nic => '*' ∈ nic⟩

/-- `isValidNic`, with `path.Match` as a parameter. -/
def isValidNic (pathMatch : String → String → Bool) (nicName : String) (cfg : NicConfig) : Bool :=
  if cfg.nics = [] then cfg.isBlacklist
  else if nicName ∈ cfg.nics then !cfg.isBlacklist
  else if !cfg.hasWildcards then cfg.isBlacklist
  else if cfg.nics.any fun pattern => '*' ∈ pattern.toList && pathMatch pattern nicName then
    !cfg.isBlacklist
  else cfg.isBlacklist

/-- The interfaces that are left out without a word of the user. -/
def autoSkip (v : IoCountersStat) : Bool :=
  (["lo", "docker", "br-", "veth", "bond", "cali"].any fun start => v.name.startsWith start) ||
    v.bytesRecv == 0 || v.bytesSent == 0

def skipNetworkInterface (pathMatch : String → String → Bool) (v : IoCountersStat)
    (nicCfg : Option NicConfig) : Bool :=
  match nicCfg with
  | none => autoSkip v
  | some cfg =>
    if !isValidNic pathMatch v.name cfg then true
    -- a whitelist is taken at its word
    else if !cfg.isBlacklist then false
    else autoSkip v

/-! ## The agent -/

/-- `system.NetIoStats`; there is no time before the first call. -/
structure NetIoStats where
  time : Option ℤ
  bytesSent : UInt64
  bytesRecv : UInt64

def NetIoStats.zero : NetIoStats := ⟨none, 0, 0⟩

/-- The fields of `Agent` for the network.  A missing baseline is the zero value. -/
structure NetAgent where
  netInterfaces : List String
  netInterfaceDeltaTrackers : UInt16 → Option (DeltaTracker String UInt64)
  netIoStats : UInt16 → NetIoStats

/-- A call: its interval, `NICS`, the answers of `IOCounters` at the detection, in the call and at
    a reset, and two readings of the clock. -/
structure NetCall where
  cacheTimeMs : UInt16
  nics : Option (List Char)
  detected : Option (List IoCountersStat)
  netIo : Option (List IoCountersStat)
  redetected : Option (List IoCountersStat)
  since : ℤ
  now : ℤ

/-- `[4]uint64` of an interface. -/
structure NicRates where
  up : UInt64
  down : UInt64
  bytesSent : UInt64
  bytesRecv : UInt64

/-- What a call sets in `system.Stats`. -/
structure NetReport where
  bandwidth : UInt64 × UInt64
  networkInterfaces : String → Option NicRates

def NetReport.empty : NetReport := ⟨(0, 0), fun _ => none⟩

def initializeNetIoStats (pathMatch : String → String → Bool) (nics : Option (List Char))
    (netIo : Option (List IoCountersStat)) : NetAgent where
  netInterfaces :=
    ((netIo.getD []).filter fun v => !skipNetworkInterface pathMatch v (nics.map newNicConfig)).map
      IoCountersStat.name
  netInterfaceDeltaTrackers _ := none
  netIoStats _ := .zero

section Calls

variable (pathMatch : String → String → Bool) (agent : NetAgent) (call : NetCall)

def ensureNetInterfacesInitialized : NetAgent :=
  if agent.netInterfaces = [] then initializeNetIoStats pathMatch call.nics call.detected
  else agent

def loadAndTickNetBaseline (stats : NetIoStats) (call : NetCall) : NetIoStats × UInt64 :=
  match stats.time with
  | none => ({ stats with time := some call.now }, 0)
  | some time =>
    ({ stats with time := some call.now }, UInt64.ofInt ((call.since - time).tdiv 1000000))

/-- The rate of one counter.  A counter that has decreased has started again from zero. -/
def nicRate (msElapsed value : UInt64) (previous : Option UInt64) : UInt64 :=
  match previous with
  | none => 0
  | some prevVal =>
    if msElapsed = 0 then 0
    else (if prevVal ≤ value then value - prevVal else value) * 1000 / msElapsed

/-- The loop of `sumAndTrackPerNicDeltas`. -/
structure NicSums where
  tracker : DeltaTracker String UInt64
  totalBytesSent : UInt64
  totalBytesRecv : UInt64
  networkInterfaces : String → Option NicRates

def trackNic (netInterfaces : List String) (msElapsed : UInt64) (sums : NicSums)
    (v : IoCountersStat) : NicSums :=
  if v.name ∈ netInterfaces then
    let upKey := v.name ++ "up"
    let downKey := v.name ++ "down"
    let rates : NicRates :=
      ⟨nicRate msElapsed v.bytesSent (sums.tracker.previous upKey),
        nicRate msElapsed v.bytesRecv (sums.tracker.previous downKey), v.bytesSent, v.bytesRecv⟩
    { tracker := (sums.tracker.set upKey v.bytesSent).set downKey v.bytesRecv
      totalBytesSent := sums.totalBytesSent + v.bytesSent
      totalBytesRecv := sums.totalBytesRecv + v.bytesRecv
      networkInterfaces := Function.update sums.networkInterfaces v.name (some rates) }
  else sums

def sumAndTrackPerNicDeltas (netInterfaces : List String)
    (tracker : Option (DeltaTracker String UInt64)) (msElapsed : UInt64)
    (netIo : List IoCountersStat) : NicSums :=
  netIo.foldl (trackNic netInterfaces msElapsed) ⟨(tracker.getD .new).cycle, 0, 0, fun _ => none⟩

def computeBytesPerSecond (msElapsed totalBytesSent totalBytesRecv : UInt64) (nis : NetIoStats) :
    UInt64 × UInt64 :=
  if 0 < msElapsed then
    ((totalBytesSent - nis.bytesSent) * 1000 / msElapsed,
      (totalBytesRecv - nis.bytesRecv) * 1000 / msElapsed)
  else (0, 0)

def isInvalid (bytesPerSecond : UInt64 × UInt64) : Bool :=
  10000000000 < bytesPerSecond.1 || 10000000000 < bytesPerSecond.2

/-- What a call computes from the interfaces and what its interval keeps. -/
structure NetSample where
  nis : NetIoStats
  sums : NicSums
  bytesPerSecond : UInt64 × UInt64

/-- The baseline for the next call. -/
def NetSample.baseline (sample : NetSample) : NetIoStats :=
  { sample.nis with
    bytesSent := sample.sums.totalBytesSent, bytesRecv := sample.sums.totalBytesRecv }

def NetSample.report (sample : NetSample) : NetReport :=
  ⟨sample.bytesPerSecond, sample.sums.networkInterfaces⟩

def sampleNetwork (netInterfaces : List String) (stats : NetIoStats)
    (tracker : Option (DeltaTracker String UInt64)) (call : NetCall)
    (netIo : List IoCountersStat) : NetSample :=
  let (nis, msElapsed) := loadAndTickNetBaseline stats call
  let sums := sumAndTrackPerNicDeltas netInterfaces tracker msElapsed netIo
  ⟨nis, sums, computeBytesPerSecond msElapsed sums.totalBytesSent sums.totalBytesRecv nis⟩

def applyNetworkTotals (sample : NetSample) : NetAgent × NetReport :=
  if isInvalid sample.bytesPerSecond then
    (initializeNetIoStats pathMatch call.nics call.redetected,
      ⟨(0, 0), sample.sums.networkInterfaces⟩)
  else
    let tracker := some sample.sums.tracker
    ({ agent with
        netInterfaceDeltaTrackers :=
          Function.update agent.netInterfaceDeltaTrackers call.cacheTimeMs tracker
        netIoStats := Function.update agent.netIoStats call.cacheTimeMs sample.baseline },
      sample.report)

def NetAgent.sample (netIo : List IoCountersStat) : NetSample :=
  sampleNetwork agent.netInterfaces (agent.netIoStats call.cacheTimeMs)
    (agent.netInterfaceDeltaTrackers call.cacheTimeMs) call netIo

def updateNetworkStats : NetAgent × NetReport :=
  let agent := ensureNetInterfacesInitialized pathMatch agent call
  match call.netIo with
  | none => (agent, .empty)
  | some netIo => applyNetworkTotals pathMatch agent call (agent.sample call netIo)

/-- The call finds the stats invalid and resets them. -/
def takesReset : Bool :=
  let agent := ensureNetInterfacesInitialized pathMatch agent call
  call.netIo.any fun netIo => isInvalid (agent.sample call netIo).bytesPerSecond

end Calls

/-! ## Isolation of the intervals -/

section Isolation

variable {pathMatch : String → String → Bool} {agent agent' : NetAgent} {call : NetCall}

structure SameInterval (cacheTimeMs : UInt16) (agent agent' : NetAgent) : Prop where
  ne_nil : agent.netInterfaces ≠ []
  netInterfaces : agent.netInterfaces = agent'.netInterfaces
  tracker : agent.netInterfaceDeltaTrackers cacheTimeMs =
    agent'.netInterfaceDeltaTrackers cacheTimeMs
  stats : agent.netIoStats cacheTimeMs = agent'.netIoStats cacheTimeMs

theorem ensureNetInterfacesInitialized_of_ne_nil (h : agent.netInterfaces ≠ []) :
    ensureNetInterfacesInitialized pathMatch agent call = agent :=
  if_neg h

/-- A call that does not reset the stats: without counters nothing happens, otherwise the sample
is stored for its interval and reported. -/
theorem updateNetworkStats_of_valid (hne : agent.netInterfaces ≠ [])
    (hreset : takesReset pathMatch agent call = false) :
    (call.netIo = none ∧ updateNetworkStats pathMatch agent call = (agent, .empty)) ∨
      ∃ netIo, call.netIo = some netIo ∧
        (updateNetworkStats pathMatch agent call).2 = (agent.sample call netIo).report ∧
        (updateNetworkStats pathMatch agent call).1.netInterfaces = agent.netInterfaces ∧
        (updateNetworkStats pathMatch agent call).1.netIoStats =
          update agent.netIoStats call.cacheTimeMs (agent.sample call netIo).baseline ∧
        (updateNetworkStats pathMatch agent call).1.netInterfaceDeltaTrackers =
          update agent.netInterfaceDeltaTrackers call.cacheTimeMs
            (some (agent.sample call netIo).sums.tracker) := by
  unfold takesReset at hreset
  unfold updateNetworkStats
  rw [ensureNetInterfacesInitialized_of_ne_nil hne] at hreset ⊢
  cases hnetIo : call.netIo with
  | none => exact .inl ⟨rfl, rfl⟩
  | some netIo =>
    have hvalid : isInvalid (agent.sample call netIo).bytesPerSecond = false := by
      simpa [hnetIo] using hreset
    refine .inr ⟨netIo, rfl, ?_⟩
    simp [applyNetworkTotals, hvalid]

section

variable (h : SameInterval call.cacheTimeMs agent agent')
include h

theorem SameInterval.sample_eq
    (netIo : List IoCountersStat) : agent.sample call netIo = agent'.sample call netIo := by
  unfold NetAgent.sample
  rw [h.netInterfaces, h.tracker, h.stats]

theorem SameInterval.takesReset_eq :
    takesReset pathMatch agent call = takesReset pathMatch agent' call := by
  have hne' : agent'.netInterfaces ≠ [] := h.netInterfaces ▸ h.ne_nil
  unfold takesReset
  rw [ensureNetInterfacesInitialized_of_ne_nil h.ne_nil,
    ensureNetInterfacesInitialized_of_ne_nil hne']
  simp only [h.sample_eq]

theorem SameInterval.own_call (hreset : takesReset pathMatch agent call = false) :
    (updateNetworkStats pathMatch agent call).2 = (updateNetworkStats pathMatch agent' call).2 ∧
      SameInterval call.cacheTimeMs (updateNetworkStats pathMatch agent call).1
        (updateNetworkStats pathMatch agent' call).1 := by
  have hne' : agent'.netInterfaces ≠ [] := h.netInterfaces ▸ h.ne_nil
  have hreset' : takesReset pathMatch agent' call = false := h.takesReset_eq ▸ hreset
  -- both agents read the same counters, so they take the same of the two ways
  rcases updateNetworkStats_of_valid h.ne_nil hreset with
    ⟨hnone, heq⟩ | ⟨netIo, hnetIo, hrep, hinterfaces, hstats, htrk⟩
  · rcases updateNetworkStats_of_valid hne' hreset' with ⟨_, heq'⟩ | ⟨netIo, hnetIo, _⟩
    · rw [heq, heq']
      exact ⟨rfl, h⟩
    · rw [hnone] at hnetIo
      exact absurd hnetIo (by simp)
  · rcases updateNetworkStats_of_valid hne' hreset' with
      ⟨hnone, _⟩ | ⟨netIo', hnetIo', hrep', hinterfaces', hstats', htrk'⟩
    · rw [hnone] at hnetIo
      exact absurd hnetIo (by simp)
    · obtain rfl : netIo = netIo' := Option.some.inj (hnetIo.symm.trans hnetIo')
      refine ⟨by rw [hrep, hrep', h.sample_eq], ?_, ?_, ?_, ?_⟩
      · rw [hinterfaces]
        exact h.ne_nil
      · rw [hinterfaces, hinterfaces', h.netInterfaces]
      · rw [htrk, htrk', update_self, update_self, h.sample_eq]
      · rw [hstats, hstats', update_self, update_self, h.sample_eq]

end

theorem SameInterval.other_call {cacheTimeMs : UInt16} (h : SameInterval cacheTimeMs agent agent')
    (hne : call.cacheTimeMs ≠ cacheTimeMs) (hreset : takesReset pathMatch agent call = false) :
    SameInterval cacheTimeMs (updateNetworkStats pathMatch agent call).1 agent' := by
  rcases updateNetworkStats_of_valid h.ne_nil hreset with
    ⟨_, heq⟩ | ⟨netIo, _, _, hinterfaces, hstats, htrk⟩
  · rw [heq]
    exact h
  · -- what is stored is stored for the interval of the call
    refine ⟨?_, ?_, ?_, ?_⟩
    · rw [hinterfaces]
      exact h.ne_nil
    · rw [hinterfaces, h.netInterfaces]
    · rw [htrk, update_of_ne hne.symm, h.tracker]
    · rw [hstats, update_of_ne hne.symm, h.stats]

end Isolation

/-- In a run without a reset, over a set of interfaces that is not empty, the calls at one
interval report what they report in the run without the calls at other intervals. -/
theorem network_rates_isolated (pathMatch : String → String → Bool) (agent : NetAgent)
    (calls : List NetCall) (cacheTimeMs : UInt16) (hinterfaces : agent.netInterfaces ≠ [])
    (hreset : Always (updateNetworkStats pathMatch)
      (fun agent call => takesReset pathMatch agent call = false) agent calls) :
    outputsAt (fun call => call.cacheTimeMs = cacheTimeMs) (updateNetworkStats pathMatch) agent
        calls =
      outputs (updateNetworkStats pathMatch) agent
        (calls.filter fun call => call.cacheTimeMs = cacheTimeMs) := by
  -- on the left the agent of the whole run, on the right the one that gets the own calls alone
  refine outputsAt_eq_outputs_filter (SameInterval cacheTimeMs) ?_ ?_
    ⟨hinterfaces, rfl, rfl, rfl⟩ hreset
  · intro agent agent' call hsim hvalid hown
    obtain rfl : call.cacheTimeMs = cacheTimeMs := by simpa using hown
    exact hsim.own_call hvalid
  · intro agent agent' call hsim hvalid hother
    exact hsim.other_call (by simpa using hother) hvalid

/-- An agent that has just found its interface. -/
def sampleAgent : NetAgent where
  netInterfaces := ["eth0"]
  netInterfaceDeltaTrackers _ := none
  netIoStats _ := .zero

/-- A call at the second `seconds`, with a counter for the sent bytes. -/
def sampleCall (cacheTimeMs : UInt16) (seconds : ℤ) (sent : UInt64) : NetCall where
  cacheTimeMs := cacheTimeMs
  nics := none
  detected := none
  netIo := some [⟨"lo", 7, 7⟩, ⟨"eth0", sent, 1⟩]
  redetected := none
  since := seconds * 1000000000
  now := seconds * 1000000000

def sampleCalls : List NetCall :=
  [sampleCall 60000 1 1000, sampleCall 1000 2 3000, sampleCall 1000 3 5000,
    sampleCall 60000 5 9000]

theorem network_rates_isolated_sample :
    sampleAgent.netInterfaces ≠ [] ∧
      Always (updateNetworkStats fun _ _ => false)
        (fun agent call => takesReset (fun _ _ => false) agent call = false) sampleAgent
        sampleCalls ∧
      outputsAt (fun call => call.cacheTimeMs = 60000) (updateNetworkStats fun _ _ => false)
          sampleAgent sampleCalls =
        outputs (updateNetworkStats fun _ _ => false) sampleAgent
          (sampleCalls.filter fun call => call.cacheTimeMs = 60000) ∧
      (outputsAt (fun call => call.cacheTimeMs = 60000) (updateNetworkStats fun _ _ => false)
        sampleAgent sampleCalls).map (·.bandwidth) = [(0, 0), (2000, 0)] := by
  have hne : sampleAgent.netInterfaces ≠ [] := by decide
  have hvalid : Always (updateNetworkStats fun _ _ => false)
      (fun agent call => takesReset (fun _ _ => false) agent call = false) sampleAgent
      sampleCalls := by
    decide +kernel
  exact ⟨hne, hvalid, network_rates_isolated _ sampleAgent sampleCalls 60000 hne hvalid,
    by decide +kernel⟩

/-! ## The total and the single interfaces -/

def NetAgent.monitored (agent : NetAgent) (netIo : List IoCountersStat) : List IoCountersStat :=
  netIo.filter fun v => v.name ∈ agent.netInterfaces

/-- The total differs from the sum of the rates by less than their number. -/
def Close (total : UInt64) (rates : List ℕ) : Prop :=
  total.toNat < rates.sum + rates.length ∧ rates.sum < total.toNat + rates.length

section Steady

variable (pathMatch : String → String → Bool) (agent : NetAgent) (call : NetCall)

/-- Without a reset, the totals are close to the rates of the interfaces. -/
def TotalsMatch : Prop :=
  let report := (updateNetworkStats pathMatch agent call).2
  let ready := ensureNetInterfacesInitialized pathMatch agent call
  takesReset pathMatch agent call = false → ∀ netIo ∈ call.netIo,
    let rates (rate : NicRates → UInt64) :=
      ((ready.monitored netIo).map (·.name)).dedup.map fun name =>
        (report.networkInterfaces name).elim 0 fun rates => (rate rates).toNat
    Close report.bandwidth.1 (rates (·.up)) ∧ Close report.bandwidth.2 (rates (·.down))

instance : Decidable (TotalsMatch pathMatch agent call) := by
  unfold TotalsMatch Close
  infer_instance

/-- No counter is new or has decreased since the previous call, whose counters add up to the stored
    total. -/
def Steady (nics : List IoCountersStat) (previous : IoCountersStat → Option UInt64)
    (counter : IoCountersStat → UInt64) (stored : UInt64) : Prop :=
  (∀ v ∈ nics, (previous v).any (· ≤ counter v)) ∧
    (nics.map fun v => ((previous v).getD 0).toNat).sum % 2 ^ 64 = stored.toNat ∧
    (nics.map fun v => (counter v).toNat - ((previous v).getD 0).toNat).sum * 1000 < 2 ^ 64

/-- A call lists interfaces, each of them once, and is steady after the first one at its
    interval. -/
def SteadyCall : Prop :=
  let ready := ensureNetInterfacesInitialized pathMatch agent call
  let stats := ready.netIoStats call.cacheTimeMs
  let previous := ((ready.netInterfaceDeltaTrackers call.cacheTimeMs).getD .new).current
  ∀ netIo ∈ call.netIo, ready.monitored netIo ≠ [] ∧
    ((ready.monitored netIo).map (·.name)).Nodup ∧ (stats.time ≠ none →
      Steady (ready.monitored netIo) (fun v => previous (v.name ++ "up")) (·.bytesSent)
        stats.bytesSent ∧
      Steady (ready.monitored netIo) (fun v => previous (v.name ++ "down")) (·.bytesRecv)
        stats.bytesRecv)

instance : Decidable (SteadyCall pathMatch agent call) := by
  unfold SteadyCall Steady
  infer_instance

end Steady

/-- The loop after the interfaces `nics`. -/
structure Tracked (msElapsed : UInt64) (previous : String → Option UInt64)
    (nics : List IoCountersStat) (sums : NicSums) : Prop where
  sent : sums.totalBytesSent.toNat = (nics.map (·.bytesSent.toNat)).sum % 2 ^ 64
  recv : sums.totalBytesRecv.toNat = (nics.map (·.bytesRecv.toNat)).sum % 2 ^ 64
  tracker : sums.tracker.previous = previous
  current : ∀ v ∈ nics, sums.tracker.current (v.name ++ "up") = some v.bytesSent ∧
    sums.tracker.current (v.name ++ "down") = some v.bytesRecv
  rates : ∀ v ∈ nics, sums.networkInterfaces v.name =
    some ⟨nicRate msElapsed v.bytesSent (previous (v.name ++ "up")),
      nicRate msElapsed v.bytesRecv (previous (v.name ++ "down")), v.bytesSent, v.bytesRecv⟩

section Totals

variable {netInterfaces : List String} {msElapsed total stored : UInt64} {sums : NicSums}
  {v : IoCountersStat} {nics : List IoCountersStat}

theorem up_ne_down (name name' : String) : name ++ "up" ≠ name' ++ "down" := by
  intro heq
  have hlast := congrArg (fun key => key.toList.getLast?) heq
  simp at hlast

theorem Tracked.nic {previous : String → Option UInt64} (h : Tracked msElapsed previous nics sums)
    (hv : v.name ∈ netInterfaces) (hnew : v.name ∉ nics.map (·.name)) :
    Tracked msElapsed previous (nics ++ [v]) (trackNic netInterfaces msElapsed sums v) := by
  rw [trackNic, if_pos hv]
  refine ⟨?_, ?_, h.tracker, fun w hw => ?_, fun w hw => ?_⟩
  · simp [UInt64.toNat_add, h.sent]
  · simp [UInt64.toNat_add, h.recv]
  · rcases mem_append.mp hw with hw | hw
    · have hne : w.name ≠ v.name := fun heq => hnew (heq ▸ mem_map_of_mem hw)
      simpa [DeltaTracker.set, hne, up_ne_down, (up_ne_down _ _).symm] using h.current w hw
    · simp [mem_singleton.mp hw, DeltaTracker.set]
  · rcases mem_append.mp hw with hw | hw
    · have hne : w.name ≠ v.name := fun heq => hnew (heq ▸ mem_map_of_mem hw)
      exact (update_of_ne hne ..).trans (h.rates w hw)
    · rw [mem_singleton.mp hw, ← h.tracker]
      exact update_self ..

/-- Over the whole reading, by induction on what the loop has seen. -/
theorem tracked_sumAndTrackPerNicDeltas (msElapsed : UInt64)
    (tracker : Option (DeltaTracker String UInt64)) (netIo : List IoCountersStat)
    (hnd : ((netIo.filter fun v => v.name ∈ netInterfaces).map (·.name)).Nodup) :
    Tracked msElapsed (tracker.getD .new).current (netIo.filter fun v => v.name ∈ netInterfaces)
      (sumAndTrackPerNicDeltas netInterfaces tracker msElapsed netIo) := by
  unfold sumAndTrackPerNicDeltas
  induction netIo using reverseRecOn with
  | nil => exact ⟨rfl, rfl, rfl, nofun, nofun⟩
  | append_singleton netIo v ih =>
    rw [foldl_append, foldl_cons, foldl_nil]
    rw [filter_append] at hnd ⊢
    by_cases hv : v.name ∈ netInterfaces
    · rw [filter_cons_of_pos (by simpa using hv), filter_nil] at hnd ⊢
      rw [map_append, nodup_append] at hnd
      refine (ih hnd.1).nic hv fun hmem => ?_
      exact hnd.2.2 _ hmem _ (mem_singleton_self _) rfl
    · rw [filter_cons_of_neg (by simpa using hv), filter_nil, append_nil] at hnd ⊢
      rw [trackNic, if_neg hv]
      exact ih hnd

/-- Rounding down one by one loses less than one for each number. -/
theorem sum_div_bounds {m : ℕ} (hm : 0 < m) (xs : List ℕ) (hne : xs ≠ []) :
    (xs.map (· / m)).sum ≤ xs.sum / m ∧ xs.sum / m < (xs.map (· / m)).sum + xs.length := by
  induction xs with
  | nil => exact absurd rfl hne
  | cons x xs ih =>
    simp only [map_cons, sum_cons, length_cons, Nat.add_div hm]
    rcases eq_or_ne xs [] with rfl | hxs
    · simp [Nat.mod_lt x hm]
    · have := ih hxs
      split <;> omega

section

variable {previous : IoCountersStat → Option UInt64} {counter : IoCountersStat → UInt64}
  (h : Steady nics previous counter stored)
include h

theorem Steady.exists_previous (hv : v ∈ nics) :
    ∃ prev, previous v = some prev ∧ prev.toNat ≤ (counter v).toNat := by
  simpa [Option.any_eq_true, UInt64.le_iff_toNat_le] using h.1 v hv

theorem Steady.total_sub (htot : total.toNat = (nics.map fun v => (counter v).toNat).sum % 2 ^ 64) :
    (total - stored).toNat =
      (nics.map fun v => (counter v).toNat - ((previous v).getD 0).toNat).sum := by
  have hsplit : ∀ v ∈ nics, (counter v).toNat =
      ((previous v).getD 0).toNat + ((counter v).toNat - ((previous v).getD 0).toNat) := by
    intro v hv
    obtain ⟨prev, hprev, hle⟩ := h.exists_previous hv
    simp only [hprev, Option.getD_some]
    omega
  obtain ⟨-, hstored, hsmall⟩ := h
  rw [map_congr_left hsplit, sum_map_add] at htot
  rw [UInt64.toNat_sub, htot, ← hstored]
  omega

theorem Steady.rate_eq (hms : msElapsed ≠ 0) (hv : v ∈ nics) :
    (nicRate msElapsed (counter v) (previous v)).toNat =
      ((counter v).toNat - ((previous v).getD 0).toNat) * 1000 / msElapsed.toNat := by
  obtain ⟨prev, hprev, hle⟩ := h.exists_previous hv
  have hsum := le_sum_of_mem (mem_map_of_mem
    (f := fun v => (counter v).toNat - ((previous v).getD 0).toNat) hv)
  have hfit := (Nat.mul_le_mul_right 1000 hsum).trans_lt h.2.2
  simp only [hprev, Option.getD_some] at hfit ⊢
  rw [nicRate, if_neg hms, if_pos (UInt64.le_iff_toNat_le.mpr hle), UInt64.toNat_div,
    UInt64.toNat_mul, UInt64.toNat_sub_of_le _ _ (UInt64.le_iff_toNat_le.mpr hle)]
  exact congrArg (· / msElapsed.toNat) (Nat.mod_eq_of_lt hfit)

end

/-- **One call and one direction**: the total is close to the rates. -/
theorem close_of_steady {previous : IoCountersStat → Option UInt64}
    {counter : IoCountersStat → UInt64} (h : msElapsed ≠ 0 → Steady nics previous counter stored)
    (hne : nics ≠ []) (htot : total.toNat = (nics.map fun v => (counter v).toNat).sum % 2 ^ 64) :
    Close (if 0 < msElapsed then (total - stored) * 1000 / msElapsed else 0)
      (nics.map fun v => (nicRate msElapsed (counter v) (previous v)).toNat) := by
  have hlen := length_pos_of_ne_nil hne
  by_cases hms : msElapsed = 0
  · have hzero : ∀ v ∈ nics, (nicRate msElapsed (counter v) (previous v)).toNat = 0 := by
      intro v _
      rw [hms]
      cases previous v <;> rfl
    rw [map_congr_left hzero]
    simp [hms, Close, hlen]
  · have hsteady := h hms
    have hpos : 0 < msElapsed := UInt64.pos_iff_ne_zero.mpr hms
    have hbounds := sum_div_bounds (m := msElapsed.toNat) hpos
      (nics.map fun v => ((counter v).toNat - ((previous v).getD 0).toNat) * 1000)
      (by simpa using hne)
    rw [sum_map_mul_right, ← hsteady.total_sub htot, map_map,
      length_map] at hbounds
    have hmul := Nat.mod_eq_of_lt (hsteady.total_sub htot ▸ hsteady.2.2)
    rw [Close, if_pos hpos, UInt64.toNat_div, UInt64.toNat_mul, length_map,
      map_congr_left fun v hv => hsteady.rate_eq hms hv]
    have hdiv : (total - stored).toNat * UInt64.toNat 1000 % 2 ^ 64 / msElapsed.toNat =
      (total - stored).toNat * 1000 / msElapsed.toNat := congrArg (· / msElapsed.toNat) hmul
    dsimp only [comp_def] at hbounds
    omega

theorem loadAndTickNetBaseline_eq (stats : NetIoStats) (call : NetCall) :
    ∃ msElapsed, loadAndTickNetBaseline stats call =
        ({ stats with time := some call.now }, msElapsed) ∧
      (msElapsed ≠ 0 → stats.time ≠ none) := by
  unfold loadAndTickNetBaseline
  split
  · exact ⟨0, rfl, fun h => absurd rfl h⟩
  · rename_i htime
    exact ⟨_, rfl, fun _ => by simp [htime]⟩

theorem SteadyCall.totalsMatch {pathMatch : String → String → Bool} {agent : NetAgent}
    {call : NetCall} (hG : SteadyCall pathMatch agent call) : TotalsMatch pathMatch agent call := by
  intro hreset netIo hnetIo
  obtain ⟨hne, hnd, hsteady⟩ := hG netIo hnetIo
  rw [Option.mem_def] at hnetIo
  simp only [takesReset, updateNetworkStats, hnetIo, Option.any_some] at hreset ⊢
  generalize ensureNetInterfacesInitialized pathMatch agent call = ready at *
  obtain ⟨msElapsed, hms, htime⟩ :=
    loadAndTickNetBaseline_eq (ready.netIoStats call.cacheTimeMs) call
  have hsums := tracked_sumAndTrackPerNicDeltas msElapsed
    (ready.netInterfaceDeltaTrackers call.cacheTimeMs) netIo hnd
  have hrates : ∀ rate : NicRates → UInt64, (ready.monitored netIo).map _ = _ := fun rate =>
    map_congr_left fun v hv =>
      congrArg (fun entry => Option.elim entry 0 fun rates => (rate rates).toNat) (hsums.rates v hv)
  rw [applyNetworkTotals, hreset, if_neg Bool.false_ne_true]
  simp only [NetSample.report, NetAgent.sample, sampleNetwork, hms, computeBytesPerSecond,
    hnd.dedup, map_map]
  constructor
  · have hsent := close_of_steady (fun h => (hsteady (htime h)).1) hne hsums.sent
    convert hsent using 1
    · split <;> rfl
    · exact hrates (·.up)
  · have hrecv := close_of_steady (fun h => (hsteady (htime h)).2) hne hsums.recv
    convert hrecv using 1
    · split <;> rfl
    · exact hrates (·.down)

end Totals

/-- **The totals are close to the rates** in every run in which the calls after the first at their
interval read the same interfaces as the one before, with counters that have not decreased. -/
theorem network_totals_match (pathMatch : String → String → Bool) (agent : NetAgent)
    (calls : List NetCall)
    (hsteady : Always (updateNetworkStats pathMatch) (SteadyCall pathMatch) agent calls) :
    Always (updateNetworkStats pathMatch) (TotalsMatch pathMatch) agent calls :=
  hsteady.imp fun _ _ => SteadyCall.totalsMatch

/-! ## Readings of the same interfaces -/

/-- The calls read the same interfaces, each of them once, and counters that have not decreased
    since the `last` reading at the interval. -/
def Growing (netInterfaces : List String) :
    (UInt16 → Option (List IoCountersStat)) → List NetCall → Prop
  | _, [] => True
  | last, call :: calls =>
    match call.netIo with
    | none => Growing netInterfaces last calls
    | some netIo =>
      let nics := netIo.filter fun v => v.name ∈ netInterfaces
      nics ≠ [] ∧ (nics.map (·.name)).Nodup ∧
        (nics.map (·.bytesSent.toNat)).sum * 1000 < 2 ^ 64 ∧
        (nics.map (·.bytesRecv.toNat)).sum * 1000 < 2 ^ 64 ∧
        (∀ before ∈ last call.cacheTimeMs, Forall₂ (fun v w => w.name = v.name ∧
          v.bytesSent ≤ w.bytesSent ∧ v.bytesRecv ≤ w.bytesRecv) before nics) ∧
        Growing netInterfaces (update last call.cacheTimeMs (some nics)) calls

/-- The interval has the totals and the counters of the reading. -/
def NetAgent.Keeps (agent : NetAgent) (cacheTimeMs : UInt16) (nics : List IoCountersStat) : Prop :=
  ∃ (sample : NetSample) (msElapsed : _) (previous : _),
    agent.netIoStats cacheTimeMs = sample.baseline ∧
    agent.netInterfaceDeltaTrackers cacheTimeMs = some sample.sums.tracker ∧
    Tracked msElapsed previous nics sample.sums

theorem steady_of_forall₂ {before nics : List IoCountersStat} {stored : UInt64}
    {previous : IoCountersStat → Option UInt64} {counter : IoCountersStat → UInt64}
    (hgrown : Forall₂ (fun v w => previous w = some (counter v) ∧ counter v ≤ counter w)
      before nics)
    (hstored : stored.toNat = (before.map fun v => (counter v).toNat).sum % 2 ^ 64)
    (hsmall : (nics.map fun v => (counter v).toNat).sum * 1000 < 2 ^ 64) :
    Steady nics previous counter stored := by
  have hprev : (∀ w ∈ nics, (previous w).any (· ≤ counter w)) ∧
      nics.map (fun w => ((previous w).getD 0).toNat) = before.map fun v => (counter v).toNat := by
    clear hstored hsmall
    induction hgrown with
    | nil => simp
    | cons hpair _ ih => exact ⟨by simpa [hpair] using ih.1, by simp [hpair, ih.2]⟩
  refine ⟨hprev.1, by rw [hprev.2, hstored], ?_⟩
  exact (Nat.mul_le_mul_right 1000 (sum_le_sum fun w _ => Nat.sub_le _ _)).trans_lt hsmall

/-- **Runs over the same interfaces are steady**, as long as the counters grow and nothing resets
    the stats. -/
theorem steady_of_growing {pathMatch : String → String → Bool} {agent : NetAgent}
    {last : UInt16 → Option (List IoCountersStat)} {calls : List NetCall}
    (hne : agent.netInterfaces ≠ [])
    (hkept : ∀ ct, (last ct).elim ((agent.netIoStats ct).time = none) (agent.Keeps ct))
    (hreset : Always (updateNetworkStats pathMatch)
      (fun agent call => takesReset pathMatch agent call = false) agent calls)
    (hgrow : Growing agent.netInterfaces last calls) :
    Always (updateNetworkStats pathMatch) (SteadyCall pathMatch) agent calls := by
  induction calls generalizing agent last with
  | nil => trivial
  | cons call calls ih =>
    obtain ⟨hvalid, hreset⟩ := hreset
    rw [Growing] at hgrow
    rcases updateNetworkStats_of_valid hne hvalid with
      ⟨hnone, heq⟩ | ⟨netIo, hnetIo, -, hinterfaces, hstats, htrk⟩
    · rw [hnone] at hgrow
      rw [heq] at hreset
      refine ⟨fun netIo hnetIo => by simp [hnone] at hnetIo, ?_⟩
      rw [heq]
      exact ih hne hkept hreset hgrow
    · rw [hnetIo] at hgrow
      obtain ⟨hnics, hnd, hsent, hrecv, hgrown, hgrow⟩ := hgrow
      rw [← hinterfaces] at hgrow
      refine ⟨?_, ih (hinterfaces ▸ hne) (fun ct => ?_) hreset hgrow⟩
      · intro netIo' hnetIo'
        obtain rfl : netIo = netIo' := Option.some.inj (hnetIo.symm.trans hnetIo')
        rw [ensureNetInterfacesInitialized_of_ne_nil hne]
        refine ⟨hnics, hnd, fun htime => ?_⟩
        have hown := hkept call.cacheTimeMs
        cases hlast : last call.cacheTimeMs with rw [hlast] at hown hgrown
        | none => exact absurd hown htime
        | some before =>
          obtain ⟨sample, _, _, hstored, htracker, hsums⟩ := hown
          rw [hstored, htracker]
          have hpairs := (forall₂_and_left _ _).mpr ⟨hsums.current, hgrown before rfl⟩
          refine ⟨steady_of_forall₂ (hpairs.imp ?_) hsums.sent hsent,
            steady_of_forall₂ (hpairs.imp ?_) hsums.recv hrecv⟩
          · rintro v w ⟨hcur, hname, hle, -⟩
            exact ⟨hname ▸ hcur.1, hle⟩
          · rintro v w ⟨hcur, hname, -, hle⟩
            exact ⟨hname ▸ hcur.2, hle⟩
      · by_cases hct : ct = call.cacheTimeMs
        · rw [hct, update_self, hinterfaces]
          refine ⟨agent.sample call netIo, _, _, ?_, ?_,
            tracked_sumAndTrackPerNicDeltas _ _ netIo hnd⟩
          · rw [hstats, update_self]
          · rw [htrk, update_self]
        · have hother := hkept ct
          unfold NetAgent.Keeps at hother ⊢
          simpa only [hstats, htrk, update_of_ne hct] using hother

/-- Two interfaces at the second `seconds`. -/
def twoNics (seconds : ℤ) (eth0 eth1 : UInt64) : NetCall :=
  { sampleCall 60000 seconds 0 with netIo := some [⟨"eth0", eth0, 1⟩, ⟨"eth1", eth1, 1⟩] }

def twoNicAgent : NetAgent := { sampleAgent with netInterfaces := ["eth0", "eth1"] }

theorem network_totals_match_growing :
    Always (updateNetworkStats fun _ _ => false) (SteadyCall fun _ _ => false) twoNicAgent
        [twoNics 1 100 1000, twoNics 2 105 1200] ∧
      Always (updateNetworkStats fun _ _ => false) (TotalsMatch fun _ _ => false) twoNicAgent
        [twoNics 1 100 1000, twoNics 2 105 1200] := by
  have hsteady : Always (updateNetworkStats fun _ _ => false) (SteadyCall fun _ _ => false)
      twoNicAgent [twoNics 1 100 1000, twoNics 2 105 1200] := by
    decide +kernel
  exact ⟨hsteady, network_totals_match _ _ _ hsteady⟩

/-- `eth0` starts again from zero while `eth1` sends more than `eth0` had sent. -/
theorem network_totals_differ :
    (outputs (updateNetworkStats fun _ _ => false) twoNicAgent
        [twoNics 1 100 1000, twoNics 2 10 1200]).map
          (fun report => (report.bandwidth.1, (report.networkInterfaces "eth0").map (·.up),
            (report.networkInterfaces "eth1").map (·.up))) =
        [(0, some 0, some 0), (110, some 10, some 200)] ∧
      ¬ Always (updateNetworkStats fun _ _ => false) (TotalsMatch fun _ _ => false) twoNicAgent
        [twoNics 1 100 1000, twoNics 2 10 1200] := by
  constructor <;> decide +kernel

end Bantay.Agent.Network
