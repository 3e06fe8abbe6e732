import Bantay.Systems.SystemManager

/-!
# Status Alerts

A step model of `internal/alerts/alerts_status.go` for one system.  A saved status reaches the
alerts through the hook of the system manager, which compares it with the status of its `System`
object; a system that goes down gets a pending entry for each alert, and a timer that marks the
alert as triggered.

Every operation on the map of pending alerts, on the alert cache and on the database is one step.
Goroutines are hooks of saved statuses and callbacks of timers.  The set of alerts does not change,
and the notifications are left out.
-/

namespace Bantay.Alerts

open Bantay.Lib Function
open Bantay.Systems (Status)

/-! ## Data -/

/-- The `System` object in the manager, as far as its hook uses it. -/
structure ManagedSystem where
  status : Status
  wsConn : Bool

/-- Where a goroutine is.  Lists hold the alerts still to be handled. -/
inductive Job where
  | unused
  | done
  /-- `AddWebSocketSystem` or `Initialize` has loaded the record of the system -/
  | connecting (loaded : Status) (wsConn : Bool)
  /-- `onRecordAfterUpdateSuccess` at its lookup in the manager -/
  | dispatching (status : Status)
  /-- `deactivateAlerts` at its query; `cancel` if pending alerts are cancelled afterwards -/
  | deactivating (cancel : Bool)
  /-- `deactivateAlerts` at the save of its next alert -/
  | clearing (ids : List Nat) (cancel : Bool)
  /-- `deactivateAlerts` at the cache update after a save -/
  | cleared (id : Nat) (ids : List Nat) (cancel : Bool)
  | cancelling (ids : List Nat)
  /-- `HandleStatusAlerts` at its read of the cache -/
  | handling (status : Status)
  /-- `schedulePendingStatusAlert` at `LoadOrStore` -/
  | scheduling (ids : List Nat)
  /-- `schedulePendingStatusAlert` before it starts the timer of its entry -/
  | arming (entry : Nat) (id : Nat) (ids : List Nat)
  /-- `handleSystemUp` at `cancelPendingAlert` -/
  | recovering (alerts : List (Nat × Bool))
  /-- `setAlertTriggered` of a recovery at `FindRecordById` -/
  | resolving (id : Nat) (alerts : List (Nat × Bool))
  /-- `setAlertTriggered` of a recovery at `Save` -/
  | resolveSaving (id : Nat) (alerts : List (Nat × Bool))
  | resolved (id : Nat) (alerts : List (Nat × Bool))
  /-- `processPendingAlert` at `LoadAndDelete` -/
  | taking (id : Nat)
  /-- `processPendingAlert` at its read of the cache -/
  | refreshing (id : Nat)
  /-- `setAlertTriggered` of a callback at `FindRecordById` -/
  | triggering (id : Nat)
  /-- `setAlertTriggered` of a callback at `Save` -/
  | triggerSaving (id : Nat)
  | triggered (id : Nat)

structure AlertState where
  stored : Status
  memory : Option ManagedSystem
  /-- `triggered` of each alert in the database -/
  triggered : Nat → Bool
  /-- `Triggered` of each alert in the cache -/
  cached : Nat → Bool
  /-- `pendingAlerts`: the number of the entry of each alert -/
  pending : Nat → Option Nat
  nextEntry : Nat
  timers : Nat → Option Nat
  jobs : Nat → Job
  nextJob : Nat

structure AlertConfig where
  ids : List Nat

namespace AlertState

variable (s : AlertState)

def setJob (t : Nat) (job : Job) : AlertState :=
  { s with jobs := Function.update s.jobs t job }

def spawn (job : Job) : AlertState :=
  { s with jobs := Function.update s.jobs s.nextJob job, nextJob := s.nextJob + 1 }

def saveTriggered (id : Nat) (value : Bool) : AlertState :=
  { s with triggered := Function.update s.triggered id value }

def updateCache (id : Nat) (value : Bool) : AlertState :=
  { s with cached := Function.update s.cached id value }

/-- `LoadAndDelete` -/
def deletePending (id : Nat) : AlertState :=
  { s with pending := Function.update s.pending id none }

def cancelPendingAlert (id entry : Nat) : AlertState :=
  { s.deletePending id with timers := Function.update s.timers entry none }

/-- `LoadOrStore` on an alert without an entry -/
def storePending (id : Nat) : AlertState :=
  { s with
    pending := Function.update s.pending id (some s.nextEntry)
    nextEntry := s.nextEntry + 1 }

end AlertState

/-! ## Steps -/

/-- The object in the manager afterwards, and what is left to do. -/
def dispatch (memory : Option ManagedSystem) : Status → Option ManagedSystem × Job
  | .paused =>
    (memory.map fun system => { system with status := .paused }, .deactivating true)
  | .pending =>
    match memory with
    | some ⟨_, true⟩ => (some ⟨.pending, true⟩, .done)
    | _ => (some ⟨.pending, false⟩, .deactivating false)
  | .up =>
    match memory with
    | none => (some ⟨.up, false⟩, .done)
    | some ⟨prevStatus, wsConn⟩ =>
      (some ⟨.up, wsConn⟩, if prevStatus = .down then .handling .up else .done)
  | .down =>
    match memory with
    | none => (some ⟨.down, false⟩, .done)
    | some ⟨prevStatus, wsConn⟩ =>
      (some ⟨.down, wsConn⟩, if prevStatus = .up then .handling .down else .done)

def afterDeactivate (cfg : AlertConfig) (cancel : Bool) : Job :=
  if cancel then .cancelling cfg.ids else .done

def runJob (cfg : AlertConfig) (s : AlertState) (t : Nat) (ok : Bool) : Option AlertState :=
  match s.jobs t with
  | .connecting loaded wsConn =>
    some ({ s with memory := some ⟨loaded, wsConn⟩ }.setJob t .done)
  | .dispatching status =>
    let (memory, job) := dispatch s.memory status
    some ({ s with memory := memory }.setJob t job)
  | .deactivating cancel =>
    some (s.setJob t (if ok then .clearing (cfg.ids.filter s.triggered) cancel
      else afterDeactivate cfg cancel))
  | .clearing [] cancel => some (s.setJob t (afterDeactivate cfg cancel))
  | .clearing (id :: ids) cancel =>
    if ok then
      some ((s.saveTriggered id false).setJob t (.cleared id ids cancel))
    else
      -- the first error ends the loop
      some (s.setJob t (afterDeactivate cfg cancel))
  | .cleared id ids cancel => some ((s.updateCache id false).setJob t (.clearing ids cancel))
  | .cancelling [] => some (s.setJob t .done)
  | .cancelling (id :: ids) =>
    match s.pending id with
    | none => some (s.setJob t (.cancelling ids))
    | some entry => some ((s.cancelPendingAlert id entry).setJob t (.cancelling ids))
  | .handling .up => some (s.setJob t (.recovering (cfg.ids.map fun id => (id, s.cached id))))
  | .handling .down => some (s.setJob t (.scheduling cfg.ids))
  | .handling _ => some (s.setJob t .done)
  | .scheduling [] => some (s.setJob t .done)
  | .scheduling (id :: ids) =>
    match s.pending id with
    | some _ => some (s.setJob t (.scheduling ids))
    | none => some ((s.storePending id).setJob t (.arming s.nextEntry id ids))
  | .arming entry id ids =>
    some ({ s with timers := Function.update s.timers entry (some id) }.setJob t
      (.scheduling ids))
  | .recovering [] => some (s.setJob t .done)
  | .recovering ((id, isTriggered) :: alerts) =>
    match s.pending id with
    | some entry => some ((s.cancelPendingAlert id entry).setJob t (.recovering alerts))
    | none =>
      some (s.setJob t (if isTriggered then .resolving id alerts else .recovering alerts))
  | .resolving id alerts =>
    some (s.setJob t (if ok then .resolveSaving id alerts else .recovering alerts))
  | .resolveSaving id alerts =>
    if ok then
      some ((s.saveTriggered id false).setJob t (.resolved id alerts))
    else
      some (s.setJob t (.recovering alerts))
  | .resolved id alerts => some ((s.updateCache id false).setJob t (.recovering alerts))
  | .taking id =>
    match s.pending id with
    | none => some (s.setJob t .done)
    | some _ => some ((s.deletePending id).setJob t (.refreshing id))
  | .refreshing id => some (s.setJob t (if s.cached id then .done else .triggering id))
  | .triggering id =>
    some (s.setJob t (if ok then .triggerSaving id else .done))
  | .triggerSaving id =>
    if ok then
      some ((s.saveTriggered id true).setJob t (.triggered id))
    else
      some (s.setJob t .done)
  | .triggered id => some ((s.updateCache id true).setJob t .done)
  | .unused | .done => none

inductive AlertAction where
  | save (status : Status)
  | run (t : Nat) (ok : Bool)
  | fire (entry : Nat)
  /-- the record of the system is loaded for a new `System` object -/
  | connect (wsConn : Bool)
  /-- `RemoveSystem` -/
  | remove

def alertStep (cfg : AlertConfig) (s : AlertState) : AlertAction → Option AlertState
  | .save status => some ({ s with stored := status }.spawn (.dispatching status))
  | .run t ok => runJob cfg s t ok
  | .fire entry =>
    match s.timers entry with
    | none => none
    | some id =>
      some ({ s with timers := Function.update s.timers entry none }.spawn (.taking id))
  | .connect wsConn => some (s.spawn (.connecting s.stored wsConn))
  | .remove => some { s with memory := none }

/-- No alert is triggered, and the alerts of a system that is down are scheduled. -/
def AlertState.init (cfg : AlertConfig) (stored : Status) : AlertState where
  stored := stored
  memory := none
  triggered _ := false
  cached _ := false
  pending _ := none
  nextEntry := 0
  timers _ := none
  jobs t := if t = 0 ∧ stored = .down then .scheduling cfg.ids else .unused
  nextJob := 1

/-! ## Reading the state after an operation -/

namespace AlertState

variable {s : AlertState} {id id' entry : Nat}

theorem jobs_setJob_self (t : Nat) (job : Job) : (s.setJob t job).jobs t = job :=
  update_self _ _ _

theorem jobs_setJob_of_ne {t t' : Nat} (job : Job) (h : t' ≠ t) :
    (s.setJob t job).jobs t' = s.jobs t' :=
  update_of_ne h _ _

theorem triggered_saveTriggered_self (value : Bool) :
    (s.saveTriggered id value).triggered id = value :=
  update_self _ _ _

theorem triggered_saveTriggered_of_ne (value : Bool) (h : id' ≠ id) :
    (s.saveTriggered id value).triggered id' = s.triggered id' :=
  update_of_ne h _ _

theorem cached_updateCache_self (value : Bool) : (s.updateCache id value).cached id = value :=
  update_self _ _ _

theorem cached_updateCache_of_ne (value : Bool) (h : id' ≠ id) :
    (s.updateCache id value).cached id' = s.cached id' :=
  update_of_ne h _ _

theorem pending_deletePending_self : (s.deletePending id).pending id = none :=
  update_self _ _ _

theorem pending_deletePending_of_ne (h : id' ≠ id) :
    (s.deletePending id).pending id' = s.pending id' :=
  update_of_ne h _ _

theorem pending_deletePending_eq_none (h : s.pending id' = none) :
    (s.deletePending id).pending id' = none := by
  by_cases hid : id' = id
  · rw [hid]
    exact pending_deletePending_self
  · rw [pending_deletePending_of_ne hid]
    exact h

theorem pending_storePending_of_ne (h : id' ≠ id) :
    (s.storePending id).pending id' = s.pending id' :=
  update_of_ne h _ _

end AlertState

end Bantay.Alerts
