import Bantay.Alerts.UserAlerts

/-!
# Recipients of Notifications

Who is told about a system.  A notification goes to the user of its alert, so it goes to a user
of the system as long as every copy of an alert, in the database, in the cache, among the
pending alerts and in the threads that work on it, belongs to a user of its system.
-/

namespace Bantay.Alerts

open Bantay.Lib Function List DeliveryState

/-! ## Owners -/

/-- The system and the user of an alert. -/
structure AlertOwner where
  systemID : String
  userID : String

def AlertRecord.owner (record : AlertRecord) : AlertOwner := ⟨record.system, record.user⟩

def CachedAlertData.owner (alertData : CachedAlertData) : AlertOwner :=
  ⟨alertData.systemID, alertData.userID⟩

def Member (users : String → List String) (owner : AlertOwner) : Prop :=
  owner.userID ∈ users owner.systemID

def DeliveryPoint.owners : DeliveryPoint → List AlertOwner
  | .save record | .cache record => [record.owner]
  | .find | .notify => []

def DeliveryTask.owners : DeliveryTask → List AlertOwner
  | .hooks events => events.map (·.record.owner)
  | .evaluating systemID pass =>
    pass.validAlerts.map fun alert => ⟨systemID, alert.alertData.userID⟩
  | .scheduling alerts | .recovering alerts => alerts.map (·.owner)
  | .refreshing alertData => [alertData.owner]
  | .sending systemID alertData _ point rest =>
    ⟨systemID, alertData.userID⟩ :: (point.owners ++ rest.map (·.owner))
  | .unused | .done => []

def DeliveryState.owners (s : DeliveryState) : List AlertOwner :=
  s.table.map (·.owner) ++
  (s.cache.entries.flatMap fun store => store.2.entries.map (·.2.owner)) ++
  s.pendingAlerts.entries.map (·.2.owner) ++
  (List.range s.nextTask).flatMap fun t => (s.tasks t).owners

/-- Alerts are created by users of the system, who leave it only without alerts. -/
def DeliveryGuard (s : DeliveryState) : DeliveryAction → Prop
  | .upsert userID reqData _ => ∀ systemID ∈ reqData.systems, userID ∈ s.users systemID
  | .setUsers systemID users =>
    ∀ owner ∈ s.owners, owner.systemID = systemID → owner.userID ∈ users
  | .delete _ _ _ | .poll _ _ _ _ | .status _ _ _ | .query _ _ | .fire _ | .run _ _ => True

instance (s : DeliveryState) (a : DeliveryAction) : Decidable (DeliveryGuard s a) := by
  unfold DeliveryGuard
  split <;> infer_instance

/-! ## The cache -/

section Cache

variable {users : String → List String} {cache : AlertsCache} {systemID : String}
  {systemStore : GoMap ℕ CachedAlertData} {record : AlertRecord}

def Listed (users : String → List String) (systemID : String) (alertData : CachedAlertData) :
    Prop :=
  alertData.systemID = systemID ∧ Member users alertData.owner

def StoreInv (users : String → List String) (systemID : String) :
    GoMap ℕ CachedAlertData → Prop :=
  GoMap.Forall fun _ alertData => Listed users systemID alertData

def CacheInv (users : String → List String) : AlertsCache → Prop :=
  GoMap.Forall fun systemID systemStore => StoreInv users systemID systemStore

theorem CacheInv.update (h : CacheInv users cache) (hrec : Member users record.owner) :
    CacheInv users (cache.update record) := by
  unfold AlertsCache.update
  split
  · exact h
  · -- the new entry joins those of its system, if there are any
    refine GoMap.Forall.insert h ?_
    apply GoMap.Forall.insert
    · cases hlookup : cache.lookup record.system with
      | none => exact GoMap.forall_empty
      | some systemStore => exact h _ _ hlookup
    · exact ⟨rfl, hrec⟩

theorem CacheInv.delete (h : CacheInv users cache) : CacheInv users (cache.delete record) := by
  unfold AlertsCache.delete
  split
  · exact h
  · split
    · exact h
    · next systemStore hlookup =>
      exact GoMap.Forall.insert h (GoMap.Forall.erase (h _ _ hlookup) record.id)

theorem CacheInv.apply {event : RecordEvent} (h : CacheInv users cache)
    (hevent : Member users event.record.owner) : CacheInv users (event.apply cache) := by
  cases event with
  | saved record => exact h.update hevent
  | deleted record => exact h.delete

/-- The records of a system are loaded: induction over the loop. -/
theorem storeInv_loadStore {records : List AlertRecord}
    (h : ∀ record ∈ records, record.system = systemID ∧ Member users record.owner) :
    StoreInv users systemID (AlertsCache.loadStore records) := by
  refine foldlRecOn _ _ GoMap.forall_empty ?_
  intro systemStore hstore record hrec
  exact GoMap.Forall.insert hstore (h record hrec)

theorem StoreInv.values (h : StoreInv users systemID systemStore) :
    ∀ alertData ∈ systemStore.entries.map (·.2), Listed users systemID alertData := by
  intro alertData halert
  obtain ⟨entry, hent, rfl⟩ := mem_map.mp halert
  exact GoMap.Forall.of_mem_entries h hent

theorem CacheInv.getSystemAlerts {table : List AlertRecord} (h : CacheInv users cache)
    (htable : ∀ record ∈ table, Member users record.owner) (systemID : String) (ok : Bool) :
    CacheInv users (cache.getSystemAlerts table systemID ok).1 ∧
      ∀ alertData ∈ (cache.getSystemAlerts table systemID ok).2,
        Listed users systemID alertData := by
  unfold AlertsCache.getSystemAlerts
  split
  · next systemStore hlookup => exact ⟨h, StoreInv.values (h _ _ hlookup)⟩
  · split
    · have hstore : StoreInv users systemID
          (AlertsCache.loadStore (table.filter fun record => record.system = systemID)) := by
        apply storeInv_loadStore
        intro record hrec
        obtain ⟨hmem, hsys⟩ := mem_filter.mp hrec
        exact ⟨of_decide_eq_true hsys, htable record hmem⟩
      exact ⟨GoMap.Forall.insert h hstore, hstore.values⟩
    · exact ⟨h, forall_mem_nil _⟩

theorem CacheInv.getAlert {alertID : ℕ} {alertData : CachedAlertData} (h : CacheInv users cache)
    (hget : cache.getAlert systemID alertID = some alertData) :
    Listed users systemID alertData := by
  obtain ⟨systemStore, hstore, halert⟩ := Option.bind_eq_some_iff.mp hget
  exact h _ _ hstore _ _ halert

end Cache

/-! ## Transactions -/

section Transactions

variable {users : String → List String} {userID : String}

/-- The records of a transaction belong to users of their systems. -/
structure TxInv (users : String → List String) (tx : AlertsTx) : Prop where
  table : ∀ record ∈ tx.table, Member users record.owner
  events : ∀ event ∈ tx.events, Member users event.record.owner

variable {tx : AlertsTx} {table : List AlertRecord}

theorem TxInv.addEvent (h : TxInv users tx) {event : RecordEvent}
    (hevent : Member users event.record.owner) :
    ∀ e ∈ tx.events ++ [event], Member users e.record.owner := by
  intro e he
  rcases mem_append.mp he with he | he
  · exact h.events e he
  · rw [mem_singleton.mp he]
    exact hevent

theorem mem_of_findUserAlert {system name user : String} {record : AlertRecord}
    (h : findUserAlert table system name user = some record) :
    record ∈ table :=
  mem_of_find?_eq_some h

theorem TxInv.upsert (h : TxInv users tx) {reqData : UpsertRequest} {systemId : String}
    (huser : userID ∈ users systemId) :
    TxInv users (upsertUserAlert userID reqData tx systemId) := by
  unfold upsertUserAlert
  split
  · next alertRecord hfind =>
    have hrec : Member users alertRecord.owner := h.table _ (mem_of_findUserAlert hfind)
    split
    · refine ⟨?_, h.addEvent hrec⟩
      intro record hmem
      obtain ⟨row, hrow, rfl⟩ := mem_map.mp hmem
      -- a new value does not change the owner
      split
      · exact hrec
      · exact h.table row hrow
    · exact h
  · refine ⟨?_, h.addEvent huser⟩
    intro record hmem
    rcases mem_append.mp hmem with hmem | hmem
    · exact h.table record hmem
    · rw [mem_singleton.mp hmem]
      exact huser

theorem TxInv.delete (h : TxInv users tx) (reqData : DeleteRequest) (systemId : String) :
    TxInv users (deleteUserAlert userID reqData tx systemId) := by
  unfold deleteUserAlert
  split
  · exact h
  · next alertRecord hfind =>
    refine ⟨?_, h.addEvent (h.table _ (mem_of_findUserAlert hfind))⟩
    exact fun record hmem => h.table record (mem_filter.mp hmem).1

end Transactions

/-! ## The invariant -/

/-- Every copy of an alert belongs to a user of its system. -/
structure RecipientInv (s : DeliveryState) : Prop where
  numbered : ∀ t, s.nextTask ≤ t → s.tasks t = .unused
  table : ∀ record ∈ s.table, Member s.users record.owner
  cache : CacheInv s.users s.cache
  pending : GoMap.Forall (fun _ alertData => Member s.users alertData.owner) s.pendingAlerts
  tasks : ∀ t, ∀ owner ∈ (s.tasks t).owners, Member s.users owner
  sent : ∀ notification ∈ s.sent, notification.userID ∈ notification.users

theorem RecipientInv.init (users : String → List String) : RecipientInv (.init users) where
  numbered _ _ := rfl
  table := forall_mem_nil _
  cache := GoMap.forall_empty
  pending := GoMap.forall_empty
  tasks _ := forall_mem_nil _
  sent := forall_mem_nil _

section Moves

variable {s s' : DeliveryState} {t : ℕ} {task : DeliveryTask}

section

variable (h : RecipientInv s)
include h

section

variable (htask : ∀ owner ∈ task.owners, Member s.users owner)
include htask

theorem RecipientInv.tasks_update :
    ∀ t', ∀ owner ∈ (update s.tasks t task t').owners, Member s.users owner :=
  forall_update (P := fun _ (task : DeliveryTask) => ∀ owner ∈ task.owners, Member s.users owner)
    htask fun t' _ => h.tasks t'

theorem RecipientInv.setTask (hused : s.tasks t ≠ .unused) : RecipientInv (s.setTask t task) :=
  { h with
    numbered := numbered_update h.numbered hused
    tasks := h.tasks_update htask }

theorem RecipientInv.spawn : RecipientInv (s.spawn task) :=
  { h with
    numbered := numbered_spawn h.numbered
    tasks := h.tasks_update htask }

end

theorem RecipientInv.setCache {cache : AlertsCache}
    (hcache : CacheInv s.users cache) : RecipientInv { s with cache := cache } :=
  { h with cache := hcache }

theorem RecipientInv.setPending {pending : GoMap ℕ CachedAlertData}
    (hpend : GoMap.Forall (fun _ alertData => Member s.users alertData.owner) pending) :
    RecipientInv { s with pendingAlerts := pending } :=
  { h with pending := hpend }

theorem RecipientInv.commit {tx : AlertsTx} (htx : TxInv s.users tx) :
    RecipientInv (s.commit tx) := by
  have htable : RecipientInv { s with table := tx.table, nextId := tx.nextId } :=
    { h with table := htx.table }
  refine htable.spawn ?_
  intro owner howner
  obtain ⟨event, hevent, rfl⟩ := mem_map.mp howner
  exact htx.events event hevent

/-- Goroutines for alerts of users of the system: induction over those still to be started. -/
theorem RecipientInv.sendSystemAlerts {systemID : String} {alerts : List SystemAlertData}
    (halerts : ∀ alert ∈ alerts, alert.alertData.userID ∈ s.users systemID) :
    RecipientInv (s.sendSystemAlerts systemID alerts) := by
  induction alerts generalizing s with
  | nil => exact h
  | cons alert alerts ih =>
    refine ih ?_ fun other hother => halerts other (mem_cons_of_mem _ hother)
    refine h.spawn ?_
    intro owner howner
    obtain rfl := mem_singleton.mp howner
    exact halerts alert mem_cons_self

end

variable {users : String → List String} {systemID : String}

theorem Listed.mem_users {alertData : CachedAlertData} (h : Listed users systemID alertData) :
    alertData.userID ∈ users systemID := by
  obtain ⟨rfl, hmember⟩ := h
  exact hmember

theorem forall_owners {alerts : List CachedAlertData}
    (h : ∀ alert ∈ alerts, Listed users systemID alert) :
    ∀ owner ∈ alerts.map (·.owner), Member users owner := by
  intro owner howner
  obtain ⟨alert, halert, rfl⟩ := mem_map.mp howner
  exact (h alert halert).2

end Moves

/-! ## Steps keep the invariant -/

section Steps

variable {s s' : DeliveryState} {t : ℕ} {ok : Bool} {systemID : String}
  {alertData : CachedAlertData} {alerts : List CachedAlertData} {userID : String}
  {list : List String}

theorem RecipientInv.upsert (h : RecipientInv s) {reqData : UpsertRequest}
    (hG : ∀ systemID ∈ reqData.systems, userID ∈ s.users systemID) :
    RecipientInv (s.upsertUserAlerts userID reqData ok) := by
  unfold upsertUserAlerts
  split
  · exact h
  · split
    · apply h.commit
      refine foldlRecOn _ _ ⟨h.table, forall_mem_nil _⟩ ?_
      exact fun tx htx systemId hmem => htx.upsert (hG systemId hmem)
    · exact h

theorem RecipientInv.delete (h : RecipientInv s) {reqData : DeleteRequest} :
    RecipientInv (s.deleteUserAlerts userID reqData ok) := by
  unfold deleteUserAlerts
  split
  · exact h
  · split
    · apply h.commit
      refine foldlRecOn _ _ ⟨h.table, forall_mem_nil _⟩ ?_
      exact fun tx htx systemId _ => htx.delete reqData systemId
    · exact h

theorem member_update {users : String → List String} {owner : AlertOwner} (h : Member users owner)
    (hlist : owner.systemID = systemID → owner.userID ∈ list) :
    Member (update users systemID list) owner := by
  rw [Member]
  by_cases hsys : owner.systemID = systemID
  · rw [hsys, update_self]
    exact hlist hsys
  · rw [update_of_ne hsys]
    exact h

variable (h : RecipientInv s)
include h

theorem RecipientInv.setUsers
    (hG : ∀ owner ∈ s.owners, owner.systemID = systemID → owner.userID ∈ list) :
    RecipientInv { s with users := update s.users systemID list } := by
  have hkeep : ∀ owner ∈ s.owners, Member s.users owner →
      Member (update s.users systemID list) owner :=
    fun owner howner hmember => member_update hmember (hG owner howner)
  simp only [owners, mem_append, or_imp, forall_and] at hkeep
  obtain ⟨⟨⟨htable, hcache⟩, hpend⟩, htasks⟩ := hkeep
  -- the four places where copies are, one after the other
  constructor
  · exact h.numbered
  · intro record hrec
    exact htable _ (mem_map_of_mem hrec) (h.table record hrec)
  · refine GoMap.forall_of_entries fun store hstore => GoMap.forall_of_entries ?_
    intro entry hent
    obtain ⟨hsys, hmember⟩ :=
      GoMap.Forall.of_mem_entries (GoMap.Forall.of_mem_entries h.cache hstore) hent
    refine ⟨hsys, hcache _ ?_ hmember⟩
    exact mem_flatMap.mpr ⟨store, hstore, mem_map_of_mem hent⟩
  · refine GoMap.forall_of_entries fun entry hent => ?_
    exact hpend _ (mem_map_of_mem hent) (GoMap.Forall.of_mem_entries h.pending hent)
  · intro t owner howner
    -- only threads with a number are among the owners
    have ht := lt_next_of h.numbered (P := (owner ∈ ·.owners)) not_mem_nil howner
    exact htasks owner (mem_flatMap.mpr ⟨t, mem_range.mpr ht, howner⟩)
      (h.tasks t owner howner)
  · exact h.sent

theorem RecipientInv.handleSystemAlerts {now : ℤ} {data : CombinedData} :
    RecipientInv (s.handleSystemAlerts systemID now data ok) := by
  obtain ⟨hcache, hlisted⟩ := h.cache.getSystemAlerts h.table systemID ok
  have hpass := passInv_foldl now data (s.cache.getSystemAlerts s.table systemID ok).2
  refine RecipientInv.sendSystemAlerts ((h.setCache hcache).spawn ?_) ?_
  · intro owner howner
    obtain ⟨alert, halert, rfl⟩ := mem_map.mp howner
    exact (hlisted _ (hpass.valid alert halert).1.mem).mem_users
  · exact fun alert halert => (hlisted _ (hpass.sent alert halert).mem).mem_users

theorem RecipientInv.handleStatusAlerts {up : Bool} :
    RecipientInv (s.handleStatusAlerts systemID up ok) := by
  obtain ⟨hcache, hlisted⟩ := h.cache.getSystemAlerts h.table systemID ok
  refine (h.setCache hcache).spawn ?_
  have howners : ∀ owner ∈ ((s.cache.getSystemAlerts s.table systemID ok).2.filter
      fun alert => alert.name = .status).map (·.owner), Member s.users owner :=
    forall_owners fun alert halert => hlisted alert (mem_of_mem_filter halert)
  cases up <;> exact howners

theorem RecipientInv.query {rows : List StatsRow}
    (hstep : s.query t rows = some s') : RecipientInv s' := by
  unfold DeliveryState.query at hstep
  cases htask : s.tasks t with simp only [htask] at hstep
  | unused | hooks _ | scheduling _ | recovering _ | refreshing _ | sending _ _ _ _ _ | done =>
    cases hstep
  | evaluating systemID pass =>
    cases hstep
    have hpass := h.tasks t
    rw [htask] at hpass
    refine (h.setTask (forall_mem_nil _) (by simp [htask])).sendSystemAlerts ?_
    intro alert halert
    -- what is sent was waiting for its average
    obtain ⟨waiting, hwait, hdata⟩ := mem_map.mp
      ((handleLongAlerts_sublist rows pass).subset (mem_map_of_mem halert))
    rw [← hdata]
    exact hpass ⟨systemID, waiting.alertData.userID⟩ (mem_map_of_mem hwait)

theorem RecipientInv.processPendingAlert {alertID : ℕ} :
    RecipientInv (s.processPendingAlert alertID) := by
  unfold DeliveryState.processPendingAlert
  split
  · exact h
  · next alertData hlookup =>
    refine (h.setPending (h.pending.erase alertID)).spawn ?_
    intro owner howner
    rw [mem_singleton.mp howner]
    exact h.pending _ _ hlookup

section Run

variable (hused : s.tasks t ≠ .unused)
include hused

/-- What is sent is for a user of the system. -/
theorem RecipientInv.send {triggered : Bool} {point : DeliveryPoint} {rest : List CachedAlertData}
    (htask : s.tasks t = .sending systemID alertData triggered point rest) (ok : Bool) :
    RecipientInv (s.send t systemID alertData triggered rest ok point) := by
  have howners := h.tasks t
  rw [htask] at howners
  simp only [DeliveryTask.owners, mem_cons, mem_append, or_imp, forall_and,
    forall_eq] at howners
  obtain ⟨hself, hpoint, hrest⟩ := howners
  -- the thread goes on with the alert, at a record whose owner is known
  have hgo : ∀ point' : DeliveryPoint, (∀ owner ∈ point'.owners, Member s.users owner) →
      ∀ owner ∈ (DeliveryTask.sending systemID alertData triggered point' rest).owners,
        Member s.users owner := by
    intro point' hpoint'
    simp only [DeliveryTask.owners, mem_cons, mem_append, or_imp, forall_and, forall_eq]
    exact ⟨hself, hpoint', hrest⟩
  have hnext : RecipientInv (s.setTask t (.recovering rest)) := h.setTask hrest hused
  cases point with simp only [DeliveryState.send]
  | find =>
    split
    · exact hnext
    · next record hfind =>
      cases ok with
      | false => exact hnext
      | true =>
        refine h.setTask (hgo (.save record) ?_) hused
        intro owner howner
        rw [mem_singleton.mp howner]
        exact h.table record (mem_of_find?_eq_some hfind)
  | save record =>
    split
    · have htable : RecipientInv { s with table := saveTriggered s.table record triggered } := by
        refine { h with table := fun record hmem => ?_ }
        obtain ⟨row, hrow, rfl⟩ := mem_map.mp hmem
        split
        · exact hpoint _ mem_cons_self
        · exact h.table row hrow
      exact htable.setTask (hgo (.cache { record with triggered := triggered }) hpoint) hused
    · exact hnext
  | cache record =>
    -- the hook caches the record that was read, not the copy that started the thread
    have hrec : Member s.users record.owner := hpoint _ mem_cons_self
    exact (h.setCache (h.cache.update hrec)).setTask (hgo .notify (forall_mem_nil _)) hused
  | notify =>
    split
    · have hsent : RecipientInv { s with
          sent := ⟨systemID, alertData.userID, s.users systemID⟩ :: s.sent } :=
        { h with sent := forall_mem_cons.mpr ⟨hself, h.sent⟩ }
      exact hsent.setTask hrest hused
    · exact hnext

variable (hstep : s.run t ok = some s')
include hstep

/-- The hooks after a commit cache what was saved. -/
theorem RecipientInv.runHooks {events : List RecordEvent}
    (htask : s.tasks t = .hooks events) : RecipientInv s' := by
  have howners := h.tasks t
  rw [htask] at howners
  simp only [run, htask] at hstep
  cases events with cases hstep
  | nil =>
    exact h.setTask howners hused
  | cons event events =>
    obtain ⟨hevent, hevents⟩ := forall_mem_cons.mp howners
    exact (h.setCache (h.cache.apply hevent)).setTask hevents hused

/-- A pending alert has the user of the cached one. -/
theorem RecipientInv.runScheduling (htask : s.tasks t = .scheduling alerts) : RecipientInv s' := by
  have howners := h.tasks t
  rw [htask] at howners
  simp only [run, htask] at hstep
  cases alerts with
  | nil =>
    cases hstep
    exact h.setTask howners hused
  | cons alertData alerts =>
    obtain ⟨halert, halerts⟩ := forall_mem_cons.mp howners
    dsimp only at hstep
    split at hstep <;> cases hstep
    · exact h.setTask halerts hused
    · exact (h.setPending (h.pending.insert halert)).setTask halerts hused

/-- A recovery cancels what is pending, or goes on to send for the same user. -/
theorem RecipientInv.runRecovering (htask : s.tasks t = .recovering alerts) : RecipientInv s' := by
  have howners := h.tasks t
  rw [htask] at howners
  simp only [run, htask] at hstep
  cases alerts with
  | nil =>
    cases hstep
    exact h.setTask howners hused
  | cons alertData alerts =>
    have halerts := (forall_mem_cons.mp howners).2
    dsimp only at hstep
    split at hstep <;> cases hstep
    · exact (h.setPending (h.pending.erase alertData.id)).setTask halerts hused
    · refine h.setTask ?_ hused
      split
      · exact howners
      · exact halerts

theorem RecipientInv.runRefreshing (htask : s.tasks t = .refreshing alertData) :
    RecipientInv s' := by
  simp only [run, htask] at hstep
  split at hstep <;> cases hstep
  · exact h.setTask (forall_mem_nil _) hused
  · next refreshed hget =>
    refine h.setTask ?_ hused
    split
    · exact forall_mem_nil _
    · -- the copy of the cache replaces the one that was pending
      intro owner howner
      rw [mem_singleton.mp howner]
      exact (h.cache.getAlert hget).2

end Run

theorem RecipientInv.run (hstep : s.run t ok = some s') : RecipientInv s' := by
  have hused : s.tasks t ≠ .unused := by
    intro hunused
    simp [DeliveryState.run, hunused] at hstep
  cases htask : s.tasks t with
  | unused | evaluating _ _ | done => simp [DeliveryState.run, htask] at hstep
  | hooks events => exact h.runHooks hused hstep htask
  | scheduling alerts => exact h.runScheduling hused hstep htask
  | recovering alerts => exact h.runRecovering hused hstep htask
  | refreshing alertData => exact h.runRefreshing hused hstep htask
  | sending systemID alertData triggered point rest =>
    simp only [DeliveryState.run, htask] at hstep
    cases hstep
    exact h.send hused htask ok

/-- **One step** keeps every copy of an alert with a user of its system. -/
theorem recipientInv_step {a : DeliveryAction} (hG : DeliveryGuard s a)
    (hstep : deliveryStep s a = some s') : RecipientInv s' := by
  cases a <;> try cases hstep
  case upsert => exact h.upsert hG
  case delete => exact h.delete
  case setUsers => exact h.setUsers hG
  case poll => exact h.handleSystemAlerts
  case status => exact h.handleStatusAlerts
  case query => exact h.query hstep
  case fire => exact h.processPendingAlert
  case run => exact h.run hstep

end Steps

/-! ## Runs -/

/-- **Notifications go to users of the system**, at the time of sending, if only users of a system
    create alerts for it and leave its users list only without alerts. -/
theorem notifications_sent_to_system_users (users : String → List String) (as : List DeliveryAction)
    (hG : EveryStep deliveryStep DeliveryGuard (.init users) as) :
    EveryState deliveryStep
      (fun s => ∀ notification ∈ s.sent, notification.userID ∈ notification.users)
      (.init users) as := by
  apply everyState_of_invariant (I := RecipientInv)
  · intro s a s' h hguard hstep
    exact recipientInv_step h hguard hstep
  · exact fun s h => h.sent
  · exact RecipientInv.init users
  · exact hG

def webUsers (systemID : String) : List String := if systemID = "web" then ["alice"] else []

def cpuOnWeb : UpsertRequest := ⟨1, 50, "CPU", ["web"], true⟩

/-- A user creates the alert, and a poll triggers it. -/
def alertOnWeb (userID : String) : List DeliveryAction :=
  [.upsert userID cpuOnWeb true, .run 0 true, .run 0 true,
    .poll "web" 0 { info := { cpu := 90 } } true, .query 1 [],
    .run 2 true, .run 2 true, .run 2 true, .run 2 true, .run 2 true]

/-- `alice` deletes the alert and leaves the users list. -/
def leaveWeb : List DeliveryAction :=
  [.delete "alice" ⟨"CPU", ["web"]⟩ true, .run 3 true, .run 3 true, .setUsers "web" []]

theorem alice_is_notified :
    ((exec deliveryStep (.init webUsers) (alertOnWeb "alice" ++ leaveWeb)).map fun s =>
      s.sent) = some [⟨"web", "alice", ["alice"]⟩] ∧
    EveryState deliveryStep
      (fun s => ∀ notification ∈ s.sent, notification.userID ∈ notification.users)
      (.init webUsers) (alertOnWeb "alice" ++ leaveWeb) := by
  constructor
  · decide +kernel
  · apply notifications_sent_to_system_users
    decide +kernel

/-- **A stranger is notified**: nothing asks whether `mallory` is a user of `web`. -/
theorem stranger_is_notified :
    ∃ s, exec deliveryStep (.init webUsers) (alertOnWeb "mallory") = some s ∧
      s.sent = [⟨"web", "mallory", ["alice"]⟩] ∧
      ¬ ∀ notification ∈ s.sent, notification.userID ∈ notification.users := by
  refine ⟨_, rfl, ?_, ?_⟩
  · decide +kernel
  · decide +kernel

end Bantay.Alerts
