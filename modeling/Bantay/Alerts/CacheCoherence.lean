import Bantay.Alerts.UserAlerts

/-!
# The Alerts Cache and the Database

The alerts cache of `internal/alerts/alerts_cache.go` follows the collection `alerts` by hooks
that run after a commit, and `GetSystemAlerts` loads a system that it does not find.  Between a
commit and its hook, and between the query of a load and the store it installs, other operations
take their steps.

A commit, a hook, a query and an operation of the store of systems are one step each.  A call of
`GetSystemAlerts` ends with a copy of a store, which changes nothing.
-/

namespace Bantay.Alerts

open Bantay.Lib Function List AlertsCache

/-! ## Data -/

def AlertsCache.populateFromDB (records : List AlertRecord) : AlertsCache :=
  records.foldl AlertsCache.update ∅

inductive CacheTask where
  | unused
  | done
  /-- an update or a deletion has loaded a record and not committed yet -/
  | editing (loaded : AlertRecord)
  | hook (event : RecordEvent)
  /-- `GetSystemAlerts` has not found the system; at its query -/
  | loading (systemID : String)
  /-- `GetSystemAlerts` has loaded records; at `Set` -/
  | installing (systemID : String) (records : List AlertRecord)
  /-- `GetSystemAlerts` at the copy of the store -/
  | reading (systemID : String)

structure CacheState where
  /-- the collection `alerts` -/
  table : List AlertRecord
  cache : AlertsCache
  tasks : ℕ → CacheTask
  nextTask : ℕ

inductive CacheAction where
  | create (record : AlertRecord)
  | load (record : AlertRecord)
  /-- the record that was loaded is committed with the fields of `record` -/
  | save (t : ℕ) (record : AlertRecord)
  | delete (t : ℕ)
  | hook (t : ℕ)
  /-- `GetSystemAlerts` looks into the store of systems -/
  | get (systemID : String)
  /-- the next step of `GetSystemAlerts`; `ok` is the outcome of its query -/
  | run (t : ℕ) (ok : Bool)

namespace CacheState

def setTask (s : CacheState) (t : ℕ) (task : CacheTask) : CacheState :=
  { s with tasks := Function.update s.tasks t task }

def spawn (s : CacheState) (task : CacheTask) : CacheState :=
  { s with tasks := Function.update s.tasks s.nextTask task, nextTask := s.nextTask + 1 }

def saveRow (table : List AlertRecord) (record : AlertRecord) : List AlertRecord :=
  table.map fun row => if row.id = record.id then record else row

def deleteRow (table : List AlertRecord) (id : ℕ) : List AlertRecord :=
  table.filter fun row => row.id ≠ id

def run (s : CacheState) (t : ℕ) (ok : Bool) : Option CacheState :=
  match s.tasks t with
  | .loading systemID =>
    if ok then
      some (s.setTask t (.installing systemID
        (s.table.filter fun record => record.system = systemID)))
    else
      some (s.setTask t .done)
  | .installing systemID records =>
    some ({ s with cache := s.cache.insert systemID (AlertsCache.loadStore records) }.setTask t
      (.reading systemID))
  | .reading _ => some (s.setTask t .done)
  | .unused | .done | .editing _ | .hook _ => none

end CacheState

def cacheStep (s : CacheState) : CacheAction → Option CacheState
  | .create record =>
    -- ids are unique
    if record.id ∈ s.table.map AlertRecord.id then
      none
    else
      some { s.spawn (.hook (.saved record)) with table := s.table ++ [record] }
  | .load record => if record ∈ s.table then some (s.spawn (.editing record)) else none
  | .save t record =>
    match s.tasks t with
    | .editing loaded =>
      -- an update of a row that is gone changes nothing, and its hook runs all the same
      let saved := { record with id := loaded.id }
      some { s.setTask t (.hook (.saved saved)) with table := CacheState.saveRow s.table saved }
    | _ => none
  | .delete t =>
    match s.tasks t with
    | .editing loaded =>
      some { s.setTask t (.hook (.deleted loaded)) with
        table := CacheState.deleteRow s.table loaded.id }
    | _ => none
  | .hook t =>
    match s.tasks t with
    | .hook event => some ({ s with cache := event.apply s.cache }.setTask t .done)
    | _ => none
  | .get systemID =>
    match s.cache.lookup systemID with
    | some _ => some (s.spawn (.reading systemID))
    | none => some (s.spawn (.loading systemID))
  | .run t ok => s.run t ok

/-- A cache that was populated from the database. -/
def CacheState.init (table : List AlertRecord) : CacheState where
  table := table
  cache := AlertsCache.populateFromDB table
  tasks _ := .unused
  nextTask := 0

/-! ## The property and the condition -/

def systemAlerts (table : List AlertRecord) (systemID : String) : List CachedAlertData :=
  (table.filter fun record => record.system = systemID).map populateFromRecord

/-- The operation has neither a hook to run nor a call to finish. -/
def CacheTask.idle : CacheTask → Bool
  | .unused | .done | .editing _ => true
  | .hook _ | .loading _ | .installing _ _ | .reading _ => false

/-- With no operation in flight, `GetSystemAlerts` returns the alerts of the database, in some
    order. -/
def CacheCoherent (s : CacheState) : Prop :=
  (∀ t < s.nextTask, (s.tasks t).idle = true) → ∀ systemID, systemID ≠ "" →
    (AlertsCache.getSystemAlerts s.cache s.table systemID true).2.Perm
      (systemAlerts s.table systemID)

def tableAlert (table : List AlertRecord) (systemID : String) (id : ℕ) : Option CachedAlertData :=
  (table.find? fun record => record.id = id ∧ record.system = systemID).map populateFromRecord

def CacheTask.loaded? : CacheTask → Option AlertRecord
  | .editing loaded => some loaded
  | .unused | .done | .hook _ | .loading _ | .installing _ _ | .reading _ => none

def CacheTask.event? : CacheTask → Option RecordEvent
  | .hook event => some event
  | .unused | .done | .editing _ | .loading _ | .installing _ _ | .reading _ => none

def CacheTask.installs (systemID : String) : CacheTask → Option (List AlertRecord)
  | .installing systemID' records => if systemID' = systemID then some records else none
  | .unused | .done | .editing _ | .hook _ | .loading _ | .reading _ => none

def NoHook (s : CacheState) (id : ℕ) : Prop :=
  ∀ t < s.nextTask, ∀ event ∈ (s.tasks t).event?, event.record.id ≠ id

/-- What is asked of a save: the alert is there with the system that the save gives it. -/
def MaySave (s : CacheState) (loaded record : AlertRecord) : Prop :=
  NoHook s loaded.id ∧ ∃ row ∈ s.table, row.id = loaded.id ∧ record.system = row.system

def MayDelete (s : CacheState) (loaded : AlertRecord) : Prop :=
  NoHook s loaded.id ∧ ∀ row ∈ s.table, row.id = loaded.id → row.system = loaded.system

/-- The loads of its system that are to be installed have read the alert as it is stored. -/
def MayRun (s : CacheState) (record : AlertRecord) : Prop :=
  ∀ t < s.nextTask, ∀ records ∈ (s.tasks t).installs record.system,
    (AlertsCache.loadStore records).lookup record.id = tableAlert s.table record.system record.id

/-- An alert is committed after the hooks of its earlier commits, a save does not move it to
    another system, and a hook does not overtake a load. -/
def CacheGuard (s : CacheState) : CacheAction → Prop
  | .create record => NoHook s record.id
  | .save t record => ∀ loaded ∈ (s.tasks t).loaded?, MaySave s loaded record
  | .delete t => ∀ loaded ∈ (s.tasks t).loaded?, MayDelete s loaded
  | .hook t => ∀ event ∈ (s.tasks t).event?, MayRun s event.record
  | .load _ | .get _ | .run _ _ => True

section Decidable

variable (s : CacheState)

instance (id : ℕ) : Decidable (NoHook s id) :=
  inferInstanceAs (Decidable (∀ t < s.nextTask, ∀ event ∈ (s.tasks t).event?, _))

instance (loaded record : AlertRecord) : Decidable (MaySave s loaded record) :=
  inferInstanceAs (Decidable (_ ∧ ∃ row ∈ s.table, _))

instance (loaded : AlertRecord) : Decidable (MayDelete s loaded) :=
  inferInstanceAs (Decidable (_ ∧ ∀ row ∈ s.table, _))

instance (record : AlertRecord) : Decidable (MayRun s record) :=
  inferInstanceAs (Decidable
    (∀ t < s.nextTask, ∀ records ∈ (s.tasks t).installs record.system, _))

instance (a : CacheAction) : Decidable (CacheGuard s a) := by
  unfold CacheGuard
  split <;> infer_instance

end Decidable

/-! ## Rows by their ids -/

section Table

variable {table table' : List AlertRecord} {systemID : String} {id : ℕ} {record row : AlertRecord}

def UniqueIds (table : List AlertRecord) : Prop := (table.map AlertRecord.id).Nodup

section

variable (h : UniqueIds table)
include h

theorem UniqueIds.eq_of_id (hrec : record ∈ table) (hrow : row ∈ table)
    (hid : record.id = row.id) : record = row :=
  inj_on_of_nodup_map h hrec hrow hid

theorem tableAlert_eq_some {alertData : CachedAlertData} :
    tableAlert table systemID id = some alertData ↔
      ∃ record ∈ table, record.id = id ∧ record.system = systemID ∧
        populateFromRecord record = alertData := by
  unfold tableAlert
  rw [Option.map_eq_some_iff]
  constructor
  · rintro ⟨record, hfind, hdata⟩
    have hfound := find?_some hfind
    simp only [decide_eq_true_eq] at hfound
    exact ⟨record, mem_of_find?_eq_some hfind, hfound.1, hfound.2, hdata⟩
  · rintro ⟨record, hmem, hid, hsystem, hdata⟩
    have hsome : (table.find? fun record => record.id = id ∧ record.system = systemID).isSome := by
      rw [find?_isSome]
      exact ⟨record, hmem, by simp [hid, hsystem]⟩
    obtain ⟨row, hrow⟩ := Option.isSome_iff_exists.mp hsome
    have hfound := find?_some hrow
    simp only [decide_eq_true_eq] at hfound
    -- there is only one row with this id
    obtain rfl : row = record :=
      h.eq_of_id (mem_of_find?_eq_some hrow) hmem (hfound.1.trans hid.symm)
    exact ⟨row, hrow, hdata⟩

theorem tableAlert_congr (h' : UniqueIds table')
    (hsame : ∀ record, record.id = id → record.system = systemID →
      (record ∈ table ↔ record ∈ table')) :
    tableAlert table systemID id = tableAlert table' systemID id := by
  apply Option.ext
  intro alertData
  rw [tableAlert_eq_some h, tableAlert_eq_some h']
  constructor
  · rintro ⟨record, hmem, hid, hsystem, hdata⟩
    exact ⟨record, (hsame record hid hsystem).mp hmem, hid, hsystem, hdata⟩
  · rintro ⟨record, hmem, hid, hsystem, hdata⟩
    exact ⟨record, (hsame record hid hsystem).mpr hmem, hid, hsystem, hdata⟩

theorem tableAlert_of_mem (hmem : record ∈ table) :
    tableAlert table record.system record.id = some (populateFromRecord record) :=
  (tableAlert_eq_some h).mpr ⟨record, hmem, rfl, rfl, rfl⟩

end

theorem tableAlert_eq_none (h : ∀ row ∈ table, row.id = id → row.system ≠ systemID) :
    tableAlert table systemID id = none := by
  unfold tableAlert
  rw [Option.map_eq_none_iff, find?_eq_none]
  intro row hrow
  simp only [decide_eq_true_eq, not_and]
  exact h row hrow

/-- The rows of other alerts stay, and the alert has been and is in the system of the record
    only. -/
structure ChangesOnly (record : AlertRecord) (table table' : List AlertRecord) : Prop where
  rest : ∀ row, row.id ≠ record.id → (row ∈ table ↔ row ∈ table')
  before : ∀ row ∈ table, row.id = record.id → row.system = record.system
  after : ∀ row ∈ table', row.id = record.id → row.system = record.system

theorem ChangesOnly.tableAlert_eq (h : ChangesOnly record table table') (hu : UniqueIds table)
    (hu' : UniqueIds table') (hother : ¬ (id = record.id ∧ systemID = record.system)) :
    tableAlert table systemID id = tableAlert table' systemID id := by
  apply tableAlert_congr hu hu'
  intro row hid hsystem
  by_cases hrow : row.id = record.id
  · -- neither table has the alert in another system
    constructor
    · intro hmem
      exact absurd ⟨hid.symm.trans hrow, hsystem.symm.trans (h.before row hmem hrow)⟩ hother
    · intro hmem
      exact absurd ⟨hid.symm.trans hrow, hsystem.symm.trans (h.after row hmem hrow)⟩ hother
  · exact h.rest row hrow

theorem changesOnly_append (hnew : record.id ∉ table.map AlertRecord.id) :
    ChangesOnly record table (table ++ [record]) := by
  have hne : ∀ row ∈ table, row.id ≠ record.id := by
    intro row hrow hid
    exact hnew (hid ▸ mem_map_of_mem hrow)
  constructor
  · intro other hother
    rw [mem_append, mem_singleton]
    refine ⟨.inl, ?_⟩
    rintro (hmem | rfl)
    · exact hmem
    · exact absurd rfl hother
  · intro row hrow hid
    exact absurd hid (hne row hrow)
  · intro row hrow hid
    rcases mem_append.mp hrow with hmem | hmem
    · exact absurd hid (hne row hmem)
    · rw [mem_singleton.mp hmem]

theorem uniqueIds_append (h : UniqueIds table) (hnew : record.id ∉ table.map AlertRecord.id) :
    UniqueIds (table ++ [record]) := by
  rw [UniqueIds, map_append, nodup_append]
  refine ⟨h, nodup_singleton _, ?_⟩
  intro id hid id' hid' heq
  rw [map_singleton, mem_singleton] at hid'
  exact hnew (hid' ▸ heq ▸ hid)

theorem uniqueIds_saveRow (h : UniqueIds table) (record : AlertRecord) :
    UniqueIds (CacheState.saveRow table record) := by
  have hids : (CacheState.saveRow table record).map AlertRecord.id =
      table.map AlertRecord.id := by
    rw [CacheState.saveRow, map_map]
    apply map_congr_left
    intro row _
    dsimp only [comp]
    split
    · next hid => exact hid.symm
    · rfl
  rw [UniqueIds, hids]
  exact h

theorem changesOnly_saveRow (h : UniqueIds table) (hrow : row ∈ table) (hid : row.id = record.id)
    (hsystem : record.system = row.system) (hmem : record ∈ CacheState.saveRow table record) :
    ChangesOnly record table (CacheState.saveRow table record) := by
  constructor
  · intro other hother
    rw [CacheState.saveRow, mem_map]
    constructor
    · intro hmem'
      exact ⟨other, hmem', if_neg hother⟩
    · rintro ⟨row', hrow', heq⟩
      split at heq
      · exact absurd (congrArg AlertRecord.id heq.symm) hother
      · exact heq ▸ hrow'
  · intro row' hrow' hid'
    rw [h.eq_of_id hrow' hrow (hid'.trans hid.symm)]
    exact hsystem.symm
  · intro row' hrow' hid'
    rw [(uniqueIds_saveRow h record).eq_of_id hrow' hmem hid']

theorem mem_deleteRow : row ∈ CacheState.deleteRow table id ↔ row ∈ table ∧ row.id ≠ id := by
  simp [CacheState.deleteRow]

theorem changesOnly_deleteRow
    (hsystem : ∀ row ∈ table, row.id = record.id → row.system = record.system) :
    ChangesOnly record table (CacheState.deleteRow table record.id) where
  rest row hid := by
    rw [mem_deleteRow]
    exact ⟨fun hrow => ⟨hrow, hid⟩, fun hrow => hrow.1⟩
  before := hsystem
  after row hrow hid := absurd hid (mem_deleteRow.mp hrow).2

end Table

/-! ## The cache, alert by alert -/

section Cache

variable {cache : AlertsCache} {records : List AlertRecord} {record : AlertRecord}
  {systemID : String} {id : ℕ}

theorem getAlert_update (hsystem : systemID ≠ "") :
    (cache.update record).getAlert systemID id =
      if record.system = systemID ∧ record.id = id then some (populateFromRecord record)
      else cache.getAlert systemID id := by
  unfold AlertsCache.update AlertsCache.getAlert
  by_cases hrec : record.system = systemID
  · subst hrec
    rw [if_neg hsystem, AList.lookup_insert, Option.bind_some]
    by_cases hid : id = record.id
    · subst hid
      rw [AList.lookup_insert, if_pos ⟨rfl, rfl⟩]
    · rw [AList.lookup_insert_ne hid, if_neg (fun h => hid h.2.symm)]
      cases cache.lookup record.system with
      | none => rfl
      | some systemStore => rfl
  · have hother : ¬ (record.system = systemID ∧ record.id = id) := fun h => hrec h.1
    split
    · rfl
    · rw [AList.lookup_insert_ne (Ne.symm hrec)]

theorem getAlert_delete (hsystem : systemID ≠ "") :
    (cache.delete record).getAlert systemID id =
      if record.system = systemID ∧ record.id = id then none
      else cache.getAlert systemID id := by
  unfold delete getAlert
  by_cases hrec : record.system = systemID
  · subst hrec
    rw [if_neg hsystem]
    cases hlookup : cache.lookup record.system with
    | none =>
      rw [hlookup]
      split <;> rfl
    | some systemStore =>
      rw [AList.lookup_insert, Option.bind_some, Option.bind_some]
      by_cases hid : id = record.id
      · subst hid
        rw [AList.lookup_erase, if_pos ⟨rfl, rfl⟩]
      · rw [AList.lookup_erase_ne hid, if_neg (fun h => hid h.2.symm)]
  · have hother : ¬ (record.system = systemID ∧ record.id = id) := fun h => hrec h.1
    split
    · rfl
    · split
      · rfl
      · rw [AList.lookup_insert_ne (Ne.symm hrec)]

/-- What a hook leaves of its alert. -/
def RecordEvent.alert? : RecordEvent → Option CachedAlertData
  | .saved record => some (populateFromRecord record)
  | .deleted _ => none

theorem getAlert_apply {event : RecordEvent} (hsystem : systemID ≠ "") :
    (event.apply cache).getAlert systemID id =
      if event.record.system = systemID ∧ event.record.id = id then event.alert?
      else cache.getAlert systemID id := by
  cases event with
  | saved record => exact getAlert_update hsystem
  | deleted record => exact getAlert_delete hsystem

theorem lookup_loadStore (h : UniqueIds records) :
    (AlertsCache.loadStore records).lookup id =
      (records.find? fun record => record.id = id).map populateFromRecord := by
  -- the loop over the records, from any store
  have hloop : ∀ (records : List AlertRecord) (store : GoMap ℕ CachedAlertData),
      UniqueIds records →
      (records.foldl (fun systemStore record =>
        systemStore.insert record.id (populateFromRecord record)) store).lookup id =
        ((records.find? fun record => record.id = id).map populateFromRecord).or
          (store.lookup id) := by
    intro records
    induction records with
    | nil =>
      intro store _
      rfl
    | cons record records ih =>
      intro store hunique
      obtain ⟨hnew, hrest⟩ := nodup_cons.mp hunique
      rw [foldl_cons, ih _ hrest]
      by_cases hid : record.id = id
      · subst hid
        have hnone : (records.find? fun row => row.id = record.id) = none := by
          rw [find?_eq_none]
          intro row hrow
          simp only [decide_eq_true_eq]
          intro hid
          exact hnew (hid ▸ mem_map_of_mem hrow)
        simp [hnone, AList.lookup_insert]
      · rw [AList.lookup_insert_ne (Ne.symm hid), find?_cons_of_neg (by simpa using hid)]
  rw [loadStore, hloop records ∅ h, AList.lookup_empty, Option.or_none]

variable {table : List AlertRecord}

theorem lookup_loadStore_filter (h : UniqueIds table) :
    (AlertsCache.loadStore (table.filter fun record => record.system = systemID)).lookup id =
      tableAlert table systemID id := by
  have hfilter : UniqueIds (table.filter fun record => record.system = systemID) :=
    h.sublist (filter_sublist.map _)
  rw [lookup_loadStore hfilter, tableAlert, find?_filter]
  congr 2
  funext record
  by_cases hsystem : record.system = systemID <;> by_cases hid : record.id = id <;>
    simp [hsystem, hid]

theorem getAlert_populateFromDB (h : UniqueIds table) (hsystem : systemID ≠ "") :
    (AlertsCache.populateFromDB table).getAlert systemID id = tableAlert table systemID id := by
  have hloop : ∀ (records : List AlertRecord) (cache : AlertsCache), UniqueIds records →
      (records.foldl update cache).getAlert systemID id =
        (tableAlert records systemID id).or (cache.getAlert systemID id) := by
    intro records
    induction records with
    | nil =>
      intro cache _
      rfl
    | cons record records ih =>
      intro cache hunique
      obtain ⟨hnew, hrest⟩ := nodup_cons.mp hunique
      rw [foldl_cons, ih _ hrest, getAlert_update hsystem]
      by_cases hrec : record.id = id ∧ record.system = systemID
      · have hnone : tableAlert records systemID id = none := by
          apply tableAlert_eq_none
          intro row hrow hid
          exact absurd (hrec.1.trans hid.symm ▸ mem_map_of_mem hrow) hnew
        rw [hnone, if_pos hrec.symm, Option.none_or, tableAlert,
          find?_cons_of_pos (by simpa using hrec)]
        rfl
      · rw [if_neg (fun h => hrec h.symm), tableAlert, tableAlert,
          find?_cons_of_neg (by simpa using hrec)]
  rw [populateFromDB, hloop table ∅ h]
  simp [getAlert]

end Cache

/-! ## The invariant -/

def RecordEvent.Current (table : List AlertRecord) : RecordEvent → Prop
  | .saved record => record ∈ table
  | .deleted record => ∀ row ∈ table, row.id ≠ record.id

variable {table : List AlertRecord} {event : RecordEvent} {task : CacheTask}

theorem RecordEvent.Current.tableAlert (hunique : UniqueIds table) (h : event.Current table) :
    Alerts.tableAlert table event.record.system event.record.id = event.alert? := by
  cases event with
  | saved record => exact tableAlert_of_mem hunique h
  | deleted record =>
    apply tableAlert_eq_none
    intro row hrow hid
    exact absurd hid (h row hrow)

theorem RecordEvent.Current.of_changesOnly {table' : List AlertRecord} {record : AlertRecord}
    (h : event.Current table) (hchg : ChangesOnly record table table')
    (hid : event.record.id ≠ record.id) : event.Current table' := by
  cases event with
  | saved saved => exact (hchg.rest saved hid).mp h
  | deleted deleted =>
    intro row hrow hrowid
    have hother : row.id ≠ record.id := by
      rw [hrowid]
      exact hid
    exact h row ((hchg.rest row hother).mpr hrow) hrowid

def HookPending (s : CacheState) (systemID : String) (id : ℕ) : Prop :=
  ∃ t event, s.tasks t = .hook event ∧ event.record.id = id ∧ event.record.system = systemID

/-- The cache has the alert as the database has it, and so do the loads of the system. -/
structure Agrees (s : CacheState) (systemID : String) (id : ℕ) : Prop where
  cached : s.cache.getAlert systemID id = tableAlert s.table systemID id
  loaded : ∀ t records, s.tasks t = .installing systemID records →
    (AlertsCache.loadStore records).lookup id = tableAlert s.table systemID id

/-- The cache has what the table has, but for the alerts whose hooks are still to run. -/
structure CoherenceInv (s : CacheState) : Prop where
  unique : UniqueIds s.table
  numbered : ∀ t, s.nextTask ≤ t → s.tasks t = .unused
  single : ∀ t t' event event', s.tasks t = .hook event → s.tasks t' = .hook event' →
    event.record.id = event'.record.id → t = t'
  current : ∀ t event, s.tasks t = .hook event → event.Current s.table
  agrees : ∀ systemID id, systemID ≠ "" → HookPending s systemID id ∨ Agrees s systemID id

theorem CacheTask.event?_eq_some :
    task.event? = some event ↔ task = .hook event := by
  cases task <;> simp [CacheTask.event?]

theorem CacheTask.loaded?_eq_some {loaded : AlertRecord} :
    task.loaded? = some loaded ↔ task = .editing loaded := by
  cases task <;> simp [CacheTask.loaded?]

theorem CacheTask.installs_eq_some {systemID : String} {records : List AlertRecord} :
    task.installs systemID = some records ↔ task = .installing systemID records := by
  cases task with
  | installing systemID' records' =>
    by_cases hsystem : systemID' = systemID <;> simp [CacheTask.installs, hsystem]
  | unused | done | editing _ | hook _ | loading _ | reading _ => simp [CacheTask.installs]

namespace CoherenceInv

variable {s s' : CacheState} {t : ℕ}

theorem init (h : UniqueIds table) : CoherenceInv (.init table) where
  unique := h
  numbered _ _ := rfl
  single := by
    intro t t' event event' hhook
    cases hhook
  current := by
    intro t event hhook
    cases hhook
  agrees := by
    intro systemID id hsystem
    refine .inr ⟨getAlert_populateFromDB h hsystem, ?_⟩
    intro t records hinst
    cases hinst

theorem lt_nextTask (h : CoherenceInv s) (htask : s.tasks t = task) (hused : task ≠ .unused) :
    t < s.nextTask :=
  lt_next_of_used h.numbered (htask ▸ hused)

theorem not_hook (h : CoherenceInv s) {id : ℕ} (hno : NoHook s id)
    (hhook : s.tasks t = .hook event) : event.record.id ≠ id :=
  hno t (h.lt_nextTask hhook nofun) event (CacheTask.event?_eq_some.mpr hhook)

variable {systemID : String} {nextTask : ℕ} {loaded record : AlertRecord}

/-- A store with the alerts of the table lists them, in some order. -/
theorem perm_of_lookup (h : UniqueIds table) {systemStore : GoMap ℕ CachedAlertData}
    (hlookup : ∀ id, systemStore.lookup id = tableAlert table systemID id) :
    (systemStore.entries.map (·.2)).Perm (systemAlerts table systemID) := by
  have hent : ∀ entry ∈ systemStore.entries, entry.2.id = entry.1 := by
    intro entry hent
    have hsome := AList.mem_lookup_iff.mpr hent
    rw [Option.mem_def, hlookup, tableAlert_eq_some h] at hsome
    obtain ⟨record, -, hid, -, hdata⟩ := hsome
    rw [← hdata]
    exact hid
  have hids : ((systemStore.entries.map (·.2)).map CachedAlertData.id).Nodup := by
    rw [map_map]
    have hkeys : systemStore.entries.map (CachedAlertData.id ∘ (·.2)) = systemStore.keys :=
      map_congr_left hent
    rw [hkeys]
    exact systemStore.keys_nodup
  have hrows : ((systemAlerts table systemID).map CachedAlertData.id).Nodup := by
    rw [systemAlerts, map_map]
    exact h.sublist (filter_sublist.map _)
  rw [perm_ext_iff_of_nodup hids.of_map hrows.of_map]
  intro alertData
  rw [mem_map, systemAlerts, mem_map]
  constructor
  · rintro ⟨entry, hmem, rfl⟩
    have hsome := AList.mem_lookup_iff.mpr hmem
    rw [Option.mem_def, hlookup, tableAlert_eq_some h] at hsome
    obtain ⟨record, hrec, -, hsystem, hdata⟩ := hsome
    exact ⟨record, mem_filter.mpr ⟨hrec, by simpa using hsystem⟩, hdata⟩
  · rintro ⟨record, hmem, rfl⟩
    obtain ⟨hrec, hsystem⟩ := mem_filter.mp hmem
    simp only [decide_eq_true_eq] at hsystem
    have hsome : systemStore.lookup record.id = some (populateFromRecord record) := by
      rw [hlookup, tableAlert_eq_some h]
      exact ⟨record, hrec, rfl, hsystem, rfl⟩
    exact ⟨⟨record.id, populateFromRecord record⟩, AList.mem_lookup_iff.mp hsome, rfl⟩

variable (h : CoherenceInv s)
include h

theorem coherent : CacheCoherent s := by
  intro hidle systemID hsystem
  -- with no hook to run, the cache agrees on every alert
  have hagrees : ∀ id, s.cache.getAlert systemID id = tableAlert s.table systemID id := by
    intro id
    rcases h.agrees systemID id hsystem with ⟨t, event, hhook, -⟩ | hagrees
    · have hflight := hidle t (h.lt_nextTask hhook nofun)
      rw [hhook] at hflight
      cases hflight
    · exact hagrees.cached
  unfold getSystemAlerts
  cases hlookup : s.cache.lookup systemID with
  | none => exact perm_of_lookup h.unique fun _ => lookup_loadStore_filter h.unique
  | some systemStore =>
    refine perm_of_lookup h.unique ?_
    intro id
    have hid := hagrees id
    rw [getAlert, hlookup, Option.bind_some] at hid
    exact hid

/-! ### The parts of a step -/

theorem move (hnum : ∀ t', nextTask ≤ t' → update s.tasks t task t' = .unused)
    (hold : (s.tasks t).event? = none) (hnew : task.event? = none)
    (hinstalls : ∀ systemID records, task = .installing systemID records →
      ∀ id, (AlertsCache.loadStore records).lookup id = tableAlert s.table systemID id) :
    CoherenceInv { s with tasks := update s.tasks t task, nextTask := nextTask } := by
  -- the hooks that are to run are the same
  have hhook : ∀ t' event, update s.tasks t task t' = .hook event ↔
      s.tasks t' = .hook event := by
    intro t' event
    rw [← CacheTask.event?_eq_some, ← CacheTask.event?_eq_some]
    refine forall_update (P := fun t' (task : CacheTask) => task.event? = some event ↔
      (s.tasks t').event? = some event) ?_ (fun _ _ => Iff.rfl) t'
    rw [hold, hnew]
  constructor
  · exact h.unique
  · exact hnum
  · intro t₁ t₂ event₁ event₂ h₁ h₂ hid
    exact h.single t₁ t₂ event₁ event₂ ((hhook t₁ event₁).mp h₁) ((hhook t₂ event₂).mp h₂) hid
  · intro t' event h'
    exact h.current t' event ((hhook t' event).mp h')
  · intro systemID id hsystem
    rcases h.agrees systemID id hsystem with ⟨t', event, hpend, hid, hsys⟩ | hagrees
    · exact .inl ⟨t', event, (hhook t' event).mpr hpend, hid, hsys⟩
    · refine .inr ⟨hagrees.cached, ?_⟩
      intro t' records
      refine forall_update (P := fun _ (task : CacheTask) =>
        task = .installing systemID records →
          (loadStore records).lookup id = tableAlert s.table systemID id) ?_ ?_ t'
      · intro htask
        exact hinstalls systemID records htask id
      · intro t'' _
        exact hagrees.loaded t'' records

theorem setTask {old : CacheTask} (htask : s.tasks t = old) (hused : old ≠ .unused)
    (hold : old.event? = none) (hnew : task.event? = none)
    (hinstalls : ∀ systemID records, task = .installing systemID records → ∀ id,
      (AlertsCache.loadStore records).lookup id = tableAlert s.table systemID id) :
    CoherenceInv (s.setTask t task) :=
  h.move (numbered_update h.numbered (htask ▸ hused)) (htask ▸ hold) hnew hinstalls

theorem spawn (hnew : task.event? = none)
    (hinstalls : ∀ systemID records, task ≠ .installing systemID records) :
    CoherenceInv (s.spawn task) := by
  refine h.move (numbered_spawn h.numbered) ?_ hnew ?_
  · rw [h.numbered s.nextTask (Nat.le_refl _)]
    rfl
  · intro systemID records htask
    exact absurd htask (hinstalls systemID records)

/-- A write to the table leaves its hook to bring the cache up to date. -/
theorem commit (hunique : UniqueIds table)
    (hnum : ∀ t', nextTask ≤ t' → update s.tasks t (.hook event) t' = .unused)
    (hold : (s.tasks t).event? = none) (hno : NoHook s event.record.id)
    (hcur : event.Current table) (hchg : ChangesOnly event.record s.table table) :
    CoherenceInv { s with
      table := table
      tasks := update s.tasks t (.hook event)
      nextTask := nextTask } := by
  have hne : ∀ {t' event'}, s.tasks t' = .hook event' → t' ≠ t := by
    rintro t' event' hhook rfl
    rw [hhook] at hold
    cases hold
  constructor
  · exact hunique
  · exact hnum
  · intro t₁ t₂ event₁ event₂ h₁ h₂ hid
    rcases update_cases h₁ with ⟨ht₁, hself₁⟩ | ⟨-, hother₁⟩ <;>
      rcases update_cases h₂ with ⟨ht₂, hself₂⟩ | ⟨-, hother₂⟩
    · exact ht₁.trans ht₂.symm
    · cases hself₁
      exact absurd hid.symm (h.not_hook hno hother₂)
    · cases hself₂
      exact absurd hid (h.not_hook hno hother₁)
    · exact h.single t₁ t₂ event₁ event₂ hother₁ hother₂ hid
  · intro t'
    refine forall_update (P := fun _ (task : CacheTask) => ∀ event', task = .hook event' →
      event'.Current table) ?_ ?_ t'
    · intro event' hevent
      obtain rfl := CacheTask.hook.inj hevent
      exact hcur
    · -- the other events are about other alerts
      intro t'' _ event' hhook
      exact (h.current t'' event' hhook).of_changesOnly hchg (h.not_hook hno hhook)
  · intro systemID id hsystem
    by_cases hself : id = event.record.id ∧ systemID = event.record.system
    · exact .inl ⟨t, event, update_self _ _ _, hself.1.symm, hself.2.symm⟩
    · have hsame : tableAlert s.table systemID id = tableAlert table systemID id :=
        hchg.tableAlert_eq h.unique hunique hself
      rcases h.agrees systemID id hsystem with ⟨t', event', hpend, hid, hsys⟩ | hagrees
      · refine .inl ⟨t', event', ?_, hid, hsys⟩
        exact (update_of_ne (hne hpend) _ _).trans hpend
      · refine .inr ⟨hagrees.cached.trans hsame, ?_⟩
        intro t' records hinst
        rcases update_cases hinst with ⟨-, hself⟩ | ⟨-, hother⟩
        · cases hself
        · exact (hagrees.loaded t' records hother).trans hsame

theorem commitEdit (hediting : s.tasks t = .editing loaded) (hunique : UniqueIds table)
    (hno : NoHook s event.record.id) (hcur : event.Current table)
    (hchg : ChangesOnly event.record s.table table) :
    CoherenceInv { s.setTask t (.hook event) with table := table } :=
  h.commit hunique (numbered_update h.numbered (hediting ▸ nofun)) (hediting ▸ rfl) hno hcur
    hchg

/-- The hook brings the cache up to date with its row. -/
theorem hook (hhook : s.tasks t = .hook event) (hmay : MayRun s event.record) :
    CoherenceInv ({ s with cache := event.apply s.cache }.setTask t .done) := by
  -- what is a hook or a load afterwards was one before
  have hother : ∀ {t' : ℕ} {task : CacheTask}, update s.tasks t .done t' = task →
      task ≠ .done → s.tasks t' = task := by
    intro t' task htask hdone
    rcases update_cases htask with ⟨-, hself⟩ | ⟨-, hother⟩
    · exact absurd hself.symm hdone
    · exact hother
  constructor
  · exact h.unique
  · exact numbered_update h.numbered (hhook ▸ nofun)
  · intro t₁ t₂ event₁ event₂ h₁ h₂ hid
    exact h.single t₁ t₂ event₁ event₂ (hother h₁ nofun) (hother h₂ nofun) hid
  · intro t' event' h'
    exact h.current t' event' (hother h' nofun)
  · intro systemID id hsystem
    by_cases hself : event.record.system = systemID ∧ event.record.id = id
    · obtain ⟨rfl, rfl⟩ := hself
      refine .inr ⟨?_, ?_⟩
      · refine ((getAlert_apply hsystem).trans (if_pos ⟨rfl, rfl⟩)).trans ?_
        exact ((h.current t event hhook).tableAlert h.unique).symm
      · intro t' records hinst
        have htask := hother hinst nofun
        exact hmay t' (h.lt_nextTask htask nofun) records (CacheTask.installs_eq_some.mpr htask)
    · rcases h.agrees systemID id hsystem with ⟨t', event', hpend, hid, hsys⟩ | hagrees
      · refine .inl ⟨t', event', ?_, hid, hsys⟩
        refine (update_of_ne ?_ _ _).trans hpend
        rintro rfl
        obtain rfl := CacheTask.hook.inj (hhook.symm.trans hpend)
        exact hself ⟨hsys, hid⟩
      · refine .inr ⟨?_, ?_⟩
        · exact ((getAlert_apply hsystem).trans (if_neg hself)).trans hagrees.cached
        · intro t' records hinst
          exact hagrees.loaded t' records (hother hinst nofun)

theorem install {records : List AlertRecord} (hinst : s.tasks t = .installing systemID records) :
    CoherenceInv ({ s with
      cache := s.cache.insert systemID (AlertsCache.loadStore records) }.setTask t
        (.reading systemID)) := by
  have hinstalled : CoherenceInv { s with
      cache := s.cache.insert systemID (AlertsCache.loadStore records) } := by
    refine ⟨h.unique, h.numbered, h.single, h.current, ?_⟩
    intro systemID' id hsystem
    rcases h.agrees systemID' id hsystem with hpend | hagrees
    · exact .inl hpend
    · refine .inr ⟨?_, hagrees.loaded⟩
      by_cases hsame : systemID' = systemID
      · subst hsame
        dsimp only [getAlert]
        rw [AList.lookup_insert, Option.bind_some]
        exact hagrees.loaded t records hinst
      · dsimp only [getAlert]
        rw [AList.lookup_insert_ne hsame]
        exact hagrees.cached
  exact hinstalled.setTask hinst nofun rfl rfl nofun

/-! ### One step -/

theorem create (hnew : record.id ∉ s.table.map AlertRecord.id) (hno : NoHook s record.id) :
    CoherenceInv { s.spawn (.hook (.saved record)) with table := s.table ++ [record] } := by
  refine h.commit (uniqueIds_append h.unique hnew) (numbered_spawn h.numbered) ?_ hno ?_
    (changesOnly_append hnew)
  · rw [h.numbered s.nextTask (Nat.le_refl _)]
    rfl
  · exact mem_append_right _ (mem_singleton_self record)

theorem save (hediting : s.tasks t = .editing loaded) (hmay : MaySave s loaded record) :
    CoherenceInv { s.setTask t (.hook (.saved { record with id := loaded.id })) with
      table := CacheState.saveRow s.table { record with id := loaded.id } } := by
  obtain ⟨hno, row, hrow, hid, hsystem⟩ := hmay
  -- the row of the alert becomes the record that the hook sees
  have hmem : ({ record with id := loaded.id } : AlertRecord) ∈
      CacheState.saveRow s.table { record with id := loaded.id } :=
    mem_map.mpr ⟨row, hrow, if_pos hid⟩
  exact h.commitEdit hediting (uniqueIds_saveRow h.unique _) hno hmem
    (changesOnly_saveRow h.unique hrow hid hsystem hmem)

theorem delete (hediting : s.tasks t = .editing loaded) (hmay : MayDelete s loaded) :
    CoherenceInv { s.setTask t (.hook (.deleted loaded)) with
      table := CacheState.deleteRow s.table loaded.id } :=
  h.commitEdit hediting (h.unique.sublist (filter_sublist.map _)) hmay.1
    (fun _ hrow => (mem_deleteRow.mp hrow).2) (changesOnly_deleteRow hmay.2)

theorem run {ok : Bool} (hrun : s.run t ok = some s') : CoherenceInv s' := by
  unfold CacheState.run at hrun
  cases htask : s.tasks t with rw [htask] at hrun
  | unused | done | editing _ | hook _ =>
    cases hrun
  | loading systemID =>
    cases ok with cases hrun
    | true =>
      refine h.setTask htask nofun rfl rfl ?_
      intro systemID' records htask' id
      obtain ⟨rfl, rfl⟩ := CacheTask.installing.inj htask'
      exact lookup_loadStore_filter h.unique
    | false =>
      exact h.setTask htask nofun rfl rfl nofun
  | installing systemID records =>
    cases hrun
    exact h.install htask
  | reading systemID =>
    cases hrun
    exact h.setTask htask nofun rfl rfl nofun

/-- **One step** under the condition keeps the cache and the table together. -/
theorem step {a : CacheAction} (hguard : CacheGuard s a)
    (hstep : cacheStep s a = some s') : CoherenceInv s' := by
  cases a with simp only [cacheStep] at hstep
  | create record =>
    split at hstep
    · cases hstep
    · next hnew =>
      cases hstep
      exact h.create hnew hguard
  | load record =>
    split at hstep
    · cases hstep
      exact h.spawn rfl nofun
    · cases hstep
  | save t record =>
    split at hstep
    · next loaded hediting =>
      cases hstep
      exact h.save hediting (hguard loaded (CacheTask.loaded?_eq_some.mpr hediting))
    · cases hstep
  | delete t =>
    split at hstep
    · next loaded hediting =>
      cases hstep
      exact h.delete hediting (hguard loaded (CacheTask.loaded?_eq_some.mpr hediting))
    · cases hstep
  | hook t =>
    split at hstep
    · next event hhook =>
      cases hstep
      exact h.hook hhook (hguard event (CacheTask.event?_eq_some.mpr hhook))
    · cases hstep
  | get systemID =>
    split at hstep
    · cases hstep
      exact h.spawn rfl nofun
    · cases hstep
      exact h.spawn rfl nofun
  | run t ok => exact h.run hstep

end CoherenceInv

/-! ## Main theorem -/

/-- **Coherence of the cache**: from a cache that was populated from the database, under the
    condition on the steps, `GetSystemAlerts` returns the alerts of the database in every state
    with no operation in flight. -/
theorem cache_agrees_with_database {table : List AlertRecord} (hunique : UniqueIds table)
    {as : List CacheAction} (hguard : EveryStep cacheStep CacheGuard (.init table) as) :
    EveryState cacheStep CacheCoherent (.init table) as :=
  everyState_of_invariant (fun _ _ _ h hg hs => h.step hg hs) (fun _ h => h.coherent)
    (CoherenceInv.init hunique) hguard

def webAlert : AlertRecord where
  id := 1
  system := "web"
  user := "alice"
  name := "CPU"
  value := 80
  triggered := false
  min := 10

def dbAlert : AlertRecord :=
  { webAlert with id := 2, system := "db", name := "Memory" }

/-- Alerts are created, triggered and deleted, and the alerts of two systems are read. -/
def sequentialChanges : List CacheAction :=
  [.create dbAlert, .hook 0, .get "db", .run 1 true, .load webAlert,
   .save 2 { webAlert with triggered := true }, .hook 2, .get "mail", .run 3 true, .run 3 true,
   .run 3 true, .load dbAlert, .delete 4, .hook 4]

theorem sequential_changes_are_followed :
    UniqueIds [webAlert] ∧ EveryStep cacheStep CacheGuard (.init [webAlert]) sequentialChanges ∧
      EveryState cacheStep CacheCoherent (.init [webAlert]) sequentialChanges :=
  have hunique : UniqueIds [webAlert] := nodup_singleton _
  have hguard : EveryStep cacheStep CacheGuard (.init [webAlert]) sequentialChanges := by
    decide +kernel
  ⟨hunique, hguard, cache_agrees_with_database hunique hguard⟩

/-- While the alerts of a system are loaded, its first alert is created. -/
def overtakenLoad : List CacheAction :=
  [.get "web", .run 0 true, .create webAlert, .hook 1, .run 0 true, .run 0 true]

/-- Nothing is in flight, the database has an alert, and the cache hides it. -/
theorem load_overwrites_new_alert :
    ∃ s, exec cacheStep (.init []) overtakenLoad = some s ∧
      (∀ t < s.nextTask, (s.tasks t).idle = true) ∧
      (AlertsCache.getSystemAlerts s.cache s.table "web" true).2 = [] ∧
      systemAlerts s.table "web" = [populateFromRecord webAlert] ∧ ¬ CacheCoherent s := by
  refine ⟨_, rfl, by decide +kernel, by decide +kernel, by decide +kernel, ?_⟩
  intro h
  have hperm := h (by decide +kernel) "web" (by decide)
  have hlen := hperm.length_eq
  revert hlen
  decide +kernel

end Bantay.Alerts
