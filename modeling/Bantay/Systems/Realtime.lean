import Mathlib.Data.List.AList
import Bantay.Lib.Pool
import Bantay.Lib.Transition

/-!
# Realtime Metrics

A step model of `internal/hub/systems/system_realtime.go`.  A topic that starts with `rt_metrics`
names a system in the query of its options.  While there are subscriptions to such topics, a worker
fetches the data of their systems every second and broadcasts it.

A request of a client, a tick of a worker and every step of a goroutine that fetches and broadcasts
is one step.  The broker belongs to the web framework: a subscribe request replaces the
authentication and the subscriptions of its client, and a message reaches every connected client.
-/

namespace Bantay.Systems

open Bantay.Lib

/-! ## Data -/

def isMetrics (k : String) : Bool := "rt_metrics".toList.isPrefixOf k.toList

structure SubscriptionInfo where
  subscription : String
  connectedClients : UInt8
deriving DecidableEq

abbrev ActiveSubscriptions := AList (fun _ : String => SubscriptionInfo)

structure RealtimeClient where
  auth : Option String
  subscriptions : List String
  connected : Bool

/-- Before the first fetch, or at its `select` with a stop channel. -/
inductive Worker where
  | unused
  | starting
  | waiting (stopChan : Option Nat)
  | done
deriving DecidableEq

/-- Where a goroutine of `fetchRealtimeDataAndNotify` is. -/
inductive Broadcast where
  | unused
  /-- at `fetchDataFromAgent` -/
  | fetching (systemId : String) (subscription : String)
  /-- `notify` at the list of the clients -/
  | notifying (systemId : String) (subscription : String)
  /-- `notify` with the clients that are still to be looked at -/
  | sending (systemId : String) (subscription : String) (clients : List Nat)
  | done

/-- A metrics message handed to a client. -/
structure Delivery where
  systemId : String
  auth : Option String
deriving DecidableEq

structure RealtimeState where
  clients : Nat → RealtimeClient
  nextClient : Nat
  activeSubscriptions : ActiveSubscriptions
  workerRunning : Bool
  tickerStopChan : Option Nat
  nextChan : Nat
  workers : Nat → Worker
  nextWorker : Nat
  broadcasts : Nat → Broadcast
  nextBroadcast : Nat
  sent : List Delivery

structure RealtimeConfig where
  /-- `options.Query["system"]`; the options are a part of the subscription -/
  querySystem : String → String
  monitored : String → Bool
  users : String → List String

namespace RealtimeState

variable (s : RealtimeState) (cfg : RealtimeConfig)

def setClient (c : Nat) (client : RealtimeClient) : RealtimeState :=
  { s with clients := Function.update s.clients c client }

def setWorker (w : Nat) (worker : Worker) : RealtimeState :=
  { s with workers := Function.update s.workers w worker }

def setBroadcast (b : Nat) (broadcast : Broadcast) : RealtimeState :=
  { s with broadcasts := Function.update s.broadcasts b broadcast }

def spawn (broadcast : Broadcast) : RealtimeState :=
  { s with
    broadcasts := Function.update s.broadcasts s.nextBroadcast broadcast
    nextBroadcast := s.nextBroadcast + 1 }

/-! ## Subscriptions -/

def onRealtimeSubscriptionAdded : RealtimeState :=
  if s.workerRunning then
    s
  else
    { s with
      workerRunning := true
      tickerStopChan := some s.nextChan
      nextChan := s.nextChan + 1
      workers := Function.update s.workers s.nextWorker .starting
      nextWorker := s.nextWorker + 1 }

/-- `receiver` is the worker that takes the stop signal, if one waits on the channel. -/
def checkSubscriptions (receiver : Option Nat) : RealtimeState :=
  if s.workerRunning = false ∨ s.activeSubscriptions.keys ≠ [] then
    s
  else
    let s' := { s with workerRunning := false }
    match receiver with
    | none => s'
    | some w => if s.workers w = .waiting s.tickerStopChan then s'.setWorker w .done else s'

def addRealtimeSubscription (s : RealtimeState) (k : String) : RealtimeState :=
  if isMetrics k then
    let systemId := cfg.querySystem k
    let info := (s.activeSubscriptions.lookup systemId).getD ⟨k, 0⟩
    onRealtimeSubscriptionAdded
      { s with
        activeSubscriptions := s.activeSubscriptions.insert systemId
          { info with connectedClients := info.connectedClients + 1 } }
  else
    s

def removeRealtimeSubscription (receiver : Option Nat)
    (s : RealtimeState) (k : String) : RealtimeState :=
  if isMetrics k then
    let systemId := cfg.querySystem k
    let active :=
      match s.activeSubscriptions.lookup systemId with
      | none => s.activeSubscriptions
      | some info =>
        let connectedClients := info.connectedClients - 1
        if connectedClients ≤ 0 then
          s.activeSubscriptions.erase systemId
        else
          s.activeSubscriptions.insert systemId
            { info with connectedClients := connectedClients }
    checkSubscriptions { s with activeSubscriptions := active } receiver
  else
    s

/-- New subscriptions first, then those that are gone. -/
def onRealtimeSubscribeRequest (s : RealtimeState) (c : Nat)
    (auth : Option String) (newSubs : List String) (receiver : Option Nat) : RealtimeState :=
  let oldSubs := (s.clients c).subscriptions
  let s := s.setClient c { s.clients c with auth := auth, subscriptions := newSubs }
  let added := newSubs.filter fun k => k ∉ oldSubs
  let removed := oldSubs.filter fun k => k ∉ newSubs
  removed.foldl (removeRealtimeSubscription cfg receiver)
    (added.foldl (addRealtimeSubscription cfg) s)

/-- `onRealtimeConnectRequest` once the client has disconnected. -/
def onRealtimeDisconnect (s : RealtimeState) (c : Nat) (receiver : Option Nat) : RealtimeState :=
  let s := s.setClient c { s.clients c with connected := false }
  (s.clients c).subscriptions.foldl (removeRealtimeSubscription cfg receiver) s

/-! ## Broadcasts -/

def startFetch (s : RealtimeState) (entry : (_ : String) × SubscriptionInfo) : RealtimeState :=
  if cfg.monitored entry.1 then s.spawn (.fetching entry.1 entry.2.subscription) else s

def fetchRealtimeDataAndNotify (s : RealtimeState) : RealtimeState :=
  s.activeSubscriptions.entries.foldl (startFetch cfg) s

def notifyClient (systemId subscription : String) (c : Nat) : RealtimeState :=
  let client := s.clients c
  if subscription ∈ client.subscriptions ∧ client.connected = true then
    { s with sent := ⟨systemId, client.auth⟩ :: s.sent }
  else
    s

def runBroadcast (b : Nat) (ok : Bool) : Option RealtimeState :=
  match s.broadcasts b with
  | .fetching systemId subscription =>
    some (s.setBroadcast b (if ok then .notifying systemId subscription else .done))
  | .notifying systemId subscription =>
    some (s.setBroadcast b (.sending systemId subscription
      ((List.range s.nextClient).filter fun c => (s.clients c).connected)))
  | .sending _ _ [] => some (s.setBroadcast b .done)
  | .sending systemId subscription (c :: clients) =>
    some ((s.notifyClient systemId subscription c).setBroadcast b
      (.sending systemId subscription clients))
  | .unused | .done => none

def runWorker (s : RealtimeState) (w : Nat) : Option RealtimeState :=
  match s.workers w with
  | .starting =>
    some ((s.fetchRealtimeDataAndNotify cfg).setWorker w (.waiting s.tickerStopChan))
  | .waiting _ =>
    if s.activeSubscriptions.keys = [] then
      some (s.setWorker w .done)
    else
      some ((s.fetchRealtimeDataAndNotify cfg).setWorker w (.waiting s.tickerStopChan))
  | .unused | .done => none

theorem runWorker_eq_some {cfg : RealtimeConfig} {s s' : RealtimeState} {w : Nat}
    (h : s.runWorker cfg w = some s') :
    s' = (s.fetchRealtimeDataAndNotify cfg).setWorker w (.waiting s.tickerStopChan) ∨
      s' = s.setWorker w .done := by
  unfold runWorker at h
  split at h
  · exact .inl (Option.some.inj h).symm
  · split at h
    · exact .inr (Option.some.inj h).symm
    · exact .inl (Option.some.inj h).symm
  · cases h
  · cases h

end RealtimeState

/-! ## Steps -/

inductive RealtimeAction where
  | connect (auth : Option String)
  | subscribe (c : Nat) (auth : Option String) (newSubs : List String) (receiver : Option Nat)
  | disconnect (c : Nat) (receiver : Option Nat)
  | work (w : Nat)
  | run (b : Nat) (ok : Bool)

def realtimeStep (cfg : RealtimeConfig) (s : RealtimeState) :
    RealtimeAction → Option RealtimeState
  | .connect auth =>
    some { s with
      clients := Function.update s.clients s.nextClient ⟨auth, [], true⟩
      nextClient := s.nextClient + 1 }
  | .subscribe c auth newSubs receiver =>
    if (s.clients c).connected then
      some (s.onRealtimeSubscribeRequest cfg c auth newSubs receiver)
    else
      none
  | .disconnect c receiver =>
    if (s.clients c).connected then some (s.onRealtimeDisconnect cfg c receiver) else none
  | .work w => s.runWorker cfg w
  | .run b ok => s.runBroadcast b ok

def RealtimeState.init : RealtimeState where
  clients _ := ⟨none, [], false⟩
  nextClient := 0
  activeSubscriptions := ∅
  workerRunning := false
  tickerStopChan := none
  nextChan := 0
  workers _ := .unused
  nextWorker := 0
  broadcasts _ := .unused
  nextBroadcast := 0
  sent := []

end Bantay.Systems
