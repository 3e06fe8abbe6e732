import Bantay.Alerts.SystemAlerts
import Bantay.Lib.Pool

/-!
# Alerts of Users and their Delivery

A step model of the way of an alert through `internal/alerts`: the requests that create and delete
the alerts of a user (`alerts_api.go`), the alerts cache that follows the database by hooks
(`alerts_cache.go`), threshold alerts (`alerts_system.go`) and status alerts (`alerts_status.go`),
and the notifications (`alerts.go`).

A transaction, a hook, a read of the cache, an operation on the map of pending alerts, a read or a
save of an alert and a notification are one step each.  A timer may fire at any time.  There is no
global list of recipients, and pausing a system, which sends nothing, is left out.
-/

namespace Bantay.Alerts

open Bantay.Lib

/-! ## Records and the cache -/

structure AlertRecord where
  id : ℕ
  system : String
  user : String
  name : String
  value : ℚ
  triggered : Bool
  min : UInt8
deriving DecidableEq

def AlertName.ofString : String → AlertName
  | "Status" => .status
  | "CPU" => .cpu
  | "Memory" => .memory
  | "Bandwidth" => .bandwidth
  | "Disk" => .disk
  | "Temperature" => .temperature
  | "LoadAvg1" => .loadAvg1
  | "LoadAvg5" => .loadAvg5
  | "LoadAvg15" => .loadAvg15
  | "GPU" => .gpu
  | "Battery" => .battery
  | _ => .other

def populateFromRecord (record : AlertRecord) : CachedAlertData where
  id := record.id
  systemID := record.system
  userID := record.user
  name := .ofString record.name
  value := record.value
  triggered := record.triggered
  min := record.min

/-- `AlertsCache`: the alerts of each system, by their ids. -/
abbrev AlertsCache := GoMap String (GoMap ℕ CachedAlertData)

namespace AlertsCache

def update (cache : AlertsCache) (record : AlertRecord) : AlertsCache :=
  if record.system = "" then
    cache
  else
    let systemStore := (cache.lookup record.system).getD ∅
    cache.insert record.system (systemStore.insert record.id (populateFromRecord record))

def delete (cache : AlertsCache) (record : AlertRecord) : AlertsCache :=
  if record.system = "" then
    cache
  else
    match cache.lookup record.system with
    | none => cache
    | some systemStore => cache.insert record.system (systemStore.erase record.id)

def loadStore (records : List AlertRecord) : GoMap ℕ CachedAlertData :=
  records.foldl (fun systemStore record =>
    systemStore.insert record.id (populateFromRecord record)) ∅

/-- `ok` is the outcome of the query that loads a system that is not in the cache. -/
def getSystemAlerts (cache : AlertsCache) (table : List AlertRecord) (systemID : String)
    (ok : Bool) : AlertsCache × List CachedAlertData :=
  match cache.lookup systemID with
  | some systemStore => (cache, systemStore.entries.map (·.2))
  | none =>
    if ok then
      let systemStore := loadStore (table.filter fun record => record.system = systemID)
      (cache.insert systemID systemStore, systemStore.entries.map (·.2))
    else
      (cache, [])

def getAlert (cache : AlertsCache) (systemID : String) (alertID : ℕ) : Option CachedAlertData :=
  (cache.lookup systemID).bind fun systemStore => systemStore.lookup alertID

end AlertsCache

/-! ## Requests -/

/-- A record whose hook runs once the transaction has committed. -/
inductive RecordEvent where
  | saved (record : AlertRecord)
  | deleted (record : AlertRecord)

def RecordEvent.record : RecordEvent → AlertRecord
  | .saved record | .deleted record => record

def RecordEvent.apply (cache : AlertsCache) : RecordEvent → AlertsCache
  | .saved record => cache.update record
  | .deleted record => cache.delete record

/-- What a transaction has changed so far. -/
structure AlertsTx where
  table : List AlertRecord
  nextId : ℕ
  events : List RecordEvent

/-- `FindFirstRecordByFilter` by system, name and user. -/
def findUserAlert (table : List AlertRecord) (system name user : String) : Option AlertRecord :=
  table.find? fun record => record.system = system ∧ record.name = name ∧ record.user = user

structure UpsertRequest where
  min : UInt8
  value : ℚ
  name : String
  systems : List String
  overwrite : Bool

def upsertUserAlert (userID : String) (reqData : UpsertRequest) (tx : AlertsTx)
    (systemId : String) : AlertsTx :=
  match findUserAlert tx.table systemId reqData.name userID with
  | some alertRecord =>
    -- without `overwrite` an alert that exists is skipped
    if reqData.overwrite then
      let record := { alertRecord with value := reqData.value, min := reqData.min }
      { tx with
        table := tx.table.map fun row => if row.id = record.id then record else row
        events := tx.events ++ [.saved record] }
    else
      tx
  | none =>
    -- a new alert, for any system id that the request names
    let record : AlertRecord :=
      { id := tx.nextId
        system := systemId
        user := userID
        name := reqData.name
        value := reqData.value
        triggered := false
        min := reqData.min }
    { table := tx.table ++ [record]
      nextId := tx.nextId + 1
      events := tx.events ++ [.saved record] }

structure DeleteRequest where
  alertName : String
  systems : List String

def deleteUserAlert (userID : String) (reqData : DeleteRequest) (tx : AlertsTx)
    (systemId : String) : AlertsTx :=
  match findUserAlert tx.table systemId reqData.alertName userID with
  | none => tx
  | some alertRecord =>
    { tx with
      table := tx.table.filter fun row => row.id ≠ alertRecord.id
      events := tx.events ++ [.deleted alertRecord] }

/-- Every field is written. -/
def saveTriggered (table : List AlertRecord) (loaded : AlertRecord) (triggered : Bool) :
    List AlertRecord :=
  table.map fun row =>
    if row.id = loaded.id then { loaded with triggered := triggered } else row

/-! ## State -/

/-- Where `sendSystemAlert` or `sendStatusAlert` is. -/
inductive DeliveryPoint where
  /-- `setAlertTriggered` at `FindRecordById` -/
  | find
  /-- `setAlertTriggered` at `Save`, with the record it has read -/
  | save (record : AlertRecord)
  | cache (record : AlertRecord)
  /-- at `SendAlert` -/
  | notify

inductive DeliveryTask where
  | unused
  /-- a request whose transaction has committed, with the hooks still to run -/
  | hooks (events : List RecordEvent)
  /-- `HandleSystemAlerts` at its query for the stats records -/
  | evaluating (systemID : String) (pass : FirstPass)
  /-- `handleSystemDown` with the alerts still to be scheduled -/
  | scheduling (alerts : List CachedAlertData)
  /-- `handleSystemUp` with the alerts still to be looked at -/
  | recovering (alerts : List CachedAlertData)
  /-- `processPendingAlert` at its read of the cache -/
  | refreshing (alertData : CachedAlertData)
  /-- an alert is sent; `rest` are the alerts of `handleSystemUp` that follow it -/
  | sending (systemID : String) (alertData : CachedAlertData) (triggered : Bool)
      (point : DeliveryPoint) (rest : List CachedAlertData)
  | done

structure Notification where
  systemID : String
  userID : String
  users : List String
deriving DecidableEq

structure DeliveryState where
  users : String → List String
  /-- the collection `alerts` -/
  table : List AlertRecord
  nextId : ℕ
  cache : AlertsCache
  pendingAlerts : GoMap ℕ CachedAlertData
  tasks : ℕ → DeliveryTask
  nextTask : ℕ
  sent : List Notification

namespace DeliveryState

variable (s : DeliveryState)

def setTask (t : ℕ) (task : DeliveryTask) : DeliveryState :=
  { s with tasks := Function.update s.tasks t task }

def spawn (task : DeliveryTask) : DeliveryState :=
  { s with
    tasks := Function.update s.tasks s.nextTask task
    nextTask := s.nextTask + 1 }

def commit (tx : AlertsTx) : DeliveryState :=
  { s with table := tx.table, nextId := tx.nextId }.spawn (.hooks tx.events)

/-- `ok` is the outcome of the transaction. -/
def upsertUserAlerts (userID : String) (reqData : UpsertRequest) (ok : Bool) : DeliveryState :=
  -- bad data
  if userID = "" ∨ reqData.name = "" ∨ reqData.systems = [] then
    s
  else if ok then
    s.commit (reqData.systems.foldl (upsertUserAlert userID reqData) ⟨s.table, s.nextId, []⟩)
  else
    s

def deleteUserAlerts (userID : String) (reqData : DeleteRequest) (ok : Bool) : DeliveryState :=
  if userID = "" ∨ reqData.alertName = "" ∨ reqData.systems = [] then
    s
  else if ok then
    s.commit (reqData.systems.foldl (deleteUserAlert userID reqData) ⟨s.table, s.nextId, []⟩)
  else
    s

/-! ## Polls -/

/-- `go am.sendSystemAlert(alert)` for each of the alerts. -/
def sendSystemAlerts (systemID : String) (alerts : List SystemAlertData) : DeliveryState :=
  alerts.foldl (fun s alert =>
    s.spawn (.sending systemID alert.alertData alert.triggered .find [])) s

def handleSystemAlerts (systemID : String) (now : ℤ) (data : CombinedData)
    (ok : Bool) : DeliveryState :=
  let (cache, alerts) := s.cache.getSystemAlerts s.table systemID ok
  let pass := (alerts.filter fun alert => alert.name ≠ .status).foldl (considerAlert now data)
    ⟨[], [], now⟩
  ({ s with cache := cache }.spawn (.evaluating systemID pass)).sendSystemAlerts systemID
    pass.sent

def query (t : ℕ) (rows : List StatsRow) : Option DeliveryState :=
  match s.tasks t with
  | .evaluating systemID pass =>
    some ((s.setTask t .done).sendSystemAlerts systemID (handleLongAlerts rows pass))
  | .unused | .hooks _ | .scheduling _ | .recovering _ | .refreshing _ | .sending _ _ _ _ _
  | .done => none

/-- `HandleStatusAlerts` for a system that goes up or down. -/
def handleStatusAlerts (systemID : String) (up : Bool) (ok : Bool) : DeliveryState :=
  let (cache, all) := s.cache.getSystemAlerts s.table systemID ok
  let alerts := all.filter fun alert => alert.name = .status
  { s with cache := cache }.spawn (if up then .recovering alerts else .scheduling alerts)

def processPendingAlert (alertID : ℕ) : DeliveryState :=
  match s.pendingAlerts.lookup alertID with
  | none => s
  | some alertData =>
    { s with pendingAlerts := s.pendingAlerts.erase alertID }.spawn (.refreshing alertData)

/-! ## Threads -/

def send (t : ℕ) (systemID : String) (alertData : CachedAlertData)
    (triggered : Bool) (rest : List CachedAlertData) (ok : Bool) :
    DeliveryPoint → DeliveryState
  | .find =>
    match s.table.find? fun record => record.id = alertData.id with
    | none => s.setTask t (.recovering rest)
    | some record =>
      s.setTask t (if ok then .sending systemID alertData triggered (.save record) rest
        else .recovering rest)
  | .save record =>
    if ok then
      { s with table := saveTriggered s.table record triggered }.setTask t
        (.sending systemID alertData triggered (.cache { record with triggered := triggered })
          rest)
    else
      s.setTask t (.recovering rest)
  | .cache record =>
    { s with cache := s.cache.update record }.setTask t
      (.sending systemID alertData triggered .notify rest)
  | .notify =>
    -- quiet hours, or no settings of the user
    if ok then
      { s with
        sent := ⟨systemID, alertData.userID, s.users systemID⟩ :: s.sent }.setTask t
        (.recovering rest)
    else
      s.setTask t (.recovering rest)

def run (t : ℕ) (ok : Bool) : Option DeliveryState :=
  match s.tasks t with
  | .hooks [] => some (s.setTask t .done)
  | .hooks (event :: events) =>
    some ({ s with cache := event.apply s.cache }.setTask t (.hooks events))
  | .scheduling [] => some (s.setTask t .done)
  | .scheduling (alertData :: alerts) =>
    match s.pendingAlerts.lookup alertData.id with
    | some _ => some (s.setTask t (.scheduling alerts))
    | none =>
      some ({ s with
        pendingAlerts := s.pendingAlerts.insert alertData.id alertData }.setTask t
        (.scheduling alerts))
  | .recovering [] => some (s.setTask t .done)
  | .recovering (alertData :: alerts) =>
    match s.pendingAlerts.lookup alertData.id with
    -- the down alert was not sent yet, so there is nothing to take back
    | some _ =>
      some ({ s with pendingAlerts := s.pendingAlerts.erase alertData.id }.setTask t
        (.recovering alerts))
    | none =>
      some (s.setTask t (if alertData.triggered then
        .sending alertData.systemID alertData false .find alerts else .recovering alerts))
  | .refreshing alertData =>
    match s.cache.getAlert alertData.systemID alertData.id with
    -- the alert was deleted while it was pending
    | none => some (s.setTask t .done)
    | some refreshed =>
      some (s.setTask t (if refreshed.triggered then .done
        else .sending refreshed.systemID refreshed true .find []))
  | .sending systemID alertData triggered point rest =>
    some (s.send t systemID alertData triggered rest ok point)
  -- an evaluation goes on with its query
  | .unused | .evaluating _ _ | .done => none

end DeliveryState

/-! ## Steps -/

inductive DeliveryAction where
  | upsert (userID : String) (reqData : UpsertRequest) (ok : Bool)
  | delete (userID : String) (reqData : DeleteRequest) (ok : Bool)
  | setUsers (systemID : String) (users : List String)
  | poll (systemID : String) (now : ℤ) (data : CombinedData) (ok : Bool)
  | status (systemID : String) (up : Bool) (ok : Bool)
  | query (t : ℕ) (rows : List StatsRow)
  | fire (alertID : ℕ)
  | run (t : ℕ) (ok : Bool)

def deliveryStep (s : DeliveryState) : DeliveryAction → Option DeliveryState
  | .upsert userID reqData ok => some (s.upsertUserAlerts userID reqData ok)
  | .delete userID reqData ok => some (s.deleteUserAlerts userID reqData ok)
  | .setUsers systemID users => some { s with users := Function.update s.users systemID users }
  | .poll systemID now data ok => some (s.handleSystemAlerts systemID now data ok)
  | .status systemID up ok => some (s.handleStatusAlerts systemID up ok)
  | .query t rows => s.query t rows
  | .fire alertID => some (s.processPendingAlert alertID)
  | .run t ok => s.run t ok

/-- A hub without alerts. -/
def DeliveryState.init (users : String → List String) : DeliveryState where
  users := users
  table := []
  nextId := 0
  cache := ∅
  pendingAlerts := ∅
  tasks _ := .unused
  nextTask := 0
  sent := []

end Bantay.Alerts
