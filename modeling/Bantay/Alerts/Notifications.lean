import Bantay.Alerts.SystemAlerts
import Bantay.Lib.Pool

/-!
# Notifications of Threshold Alerts

A step model of the calls of `HandleSystemAlerts` for one system and of the goroutines
`sendSystemAlert` that they start.  A call decides by the flags in the alerts cache; a goroutine
reads the alert from the database, saves it with the new flag, and sends the notification.  The
cache follows the database by a hook after the save.

All of these are one step each.  The alerts of the system and their settings do not change.
-/

namespace Bantay.Alerts

open Bantay.Lib Function List

/-! ## Data -/

structure SystemAlertTable where
  alerts : List CachedAlertData
  nodup : (alerts.map (·.id)).Nodup

structure ThresholdAlert where
  /-- `triggered` in the database -/
  stored : Bool
  /-- `triggered` in the alerts cache -/
  cached : Bool
  notified : List Bool

/-- Where a goroutine `sendSystemAlert` is. -/
inductive SendPoint where
  /-- `setAlertTriggered` at `FindRecordById` -/
  | find
  /-- `setAlertTriggered` at `Save` -/
  | save
  | cache
  /-- at `SendAlert` -/
  | notify

inductive AlertTask where
  | unused
  /-- `HandleSystemAlerts` at its query for the stats records -/
  | querying (pass : FirstPass)
  /-- `sendSystemAlert` of the alert `id` with the new flag -/
  | sending (id : ℕ) (triggered : Bool) (point : SendPoint)
  | done

structure NotifyState where
  alerts : ℕ → ThresholdAlert
  tasks : ℕ → AlertTask
  nextTask : ℕ

namespace NotifyState

variable (s : NotifyState) (table : SystemAlertTable)

def setTask (t : ℕ) (task : AlertTask) : NotifyState :=
  { s with tasks := Function.update s.tasks t task }

def setAlert (id : ℕ) (alert : ThresholdAlert) : NotifyState :=
  { s with alerts := Function.update s.alerts id alert }

def spawn (task : AlertTask) : NotifyState :=
  { s with
    tasks := Function.update s.tasks s.nextTask task
    nextTask := s.nextTask + 1 }

/-- `go am.sendSystemAlert(alert)` for each of the alerts. -/
def sendSystemAlerts (alerts : List SystemAlertData) : NotifyState :=
  alerts.foldl (fun s alert => s.spawn (.sending alert.alertData.id alert.triggered .find)) s

/-! ## Steps -/

def getSystemAlerts (s : NotifyState) : List CachedAlertData :=
  table.alerts.map fun alert => { alert with triggered := (s.alerts alert.id).cached }

def firstPass (s : NotifyState) (now : ℤ) (data : CombinedData) : FirstPass :=
  ((s.getSystemAlerts table).filter fun alert => alert.name ≠ .status).foldl
    (considerAlert now data) ⟨[], [], now⟩

/-- `HandleSystemAlerts` up to its query. -/
def call (s : NotifyState) (now : ℤ) (data : CombinedData) : NotifyState :=
  let pass := s.firstPass table now data
  (s.spawn (.querying pass)).sendSystemAlerts pass.sent

def query (t : ℕ) (rows : List StatsRow) : Option NotifyState :=
  match s.tasks t with
  | .querying pass => some ((s.setTask t .done).sendSystemAlerts (handleLongAlerts rows pass))
  | .unused | .sending _ _ _ | .done => none

/-- The next step of a goroutine `sendSystemAlert`; a notification may also fall in quiet hours. -/
def run (t : ℕ) (ok : Bool) : Option NotifyState :=
  match s.tasks t with
  | .sending id triggered point =>
    let alert := s.alerts id
    match point with
    | .find =>
      some (s.setTask t (if ok then .sending id triggered .save else .done))
    | .save =>
      -- the flag that was read is not compared with the new one
      if ok then
        some ((s.setAlert id { alert with stored := triggered }).setTask t
          (.sending id triggered .cache))
      else
        some (s.setTask t .done)
    | .cache =>
      some ((s.setAlert id { alert with cached := triggered }).setTask t
        (.sending id triggered .notify))
    | .notify =>
      if ok then
        some ((s.setAlert id { alert with
          notified := alert.notified ++ [triggered] }).setTask t .done)
      else
        some (s.setTask t .done)
  | .unused | .querying _ | .done => none

end NotifyState

inductive NotifyAction where
  /-- a call of `HandleSystemAlerts` reads the cache -/
  | call (now : ℤ) (data : CombinedData)
  | query (t : ℕ) (rows : List StatsRow)
  | run (t : ℕ) (ok : Bool)

def notifyStep (table : SystemAlertTable) (s : NotifyState) : NotifyAction → Option NotifyState
  | .call now data => some (s.call table now data)
  | .query t rows => s.query t rows
  | .run t ok => s.run t ok

/-- The alerts before any call; the cache has been loaded from the database. -/
def NotifyState.init (triggered : ℕ → Bool) : NotifyState where
  alerts id := ⟨triggered id, triggered id, []⟩
  tasks _ := .unused
  nextTask := 0

/-! ## The property and the condition -/

/-- Each notification is the opposite of the one before, beginning with the initial flag. -/
def Alternates (triggered : Bool) (notified : List Bool) : Prop :=
  (triggered :: notified).IsChain (· ≠ ·)
deriving Decidable

def AlertTask.running : AlertTask → Bool
  | .querying _ | .sending _ _ _ => true
  | .unused | .done => false

def AlertTask.notifying : AlertTask → Bool
  | .sending _ _ .notify => true
  | .sending _ _ .save | .sending _ _ .find | .sending _ _ .cache => false
  | .unused | .querying _ | .done => false

/-- A call begins when the earlier ones and their goroutines have ended, and notifications are
    sent. -/
def NotifyGuard (s : NotifyState) : NotifyAction → Prop
  | .call _ _ => ∀ t < s.nextTask, (s.tasks t).running = false
  | .query _ _ => True
  | .run t ok => (s.tasks t).notifying = true → ok = true

instance (s : NotifyState) (a : NotifyAction) : Decidable (NotifyGuard s a) := by
  unfold NotifyGuard
  split <;> infer_instance

/-! ## The invariant -/

/-- The alerts that a thread works on. -/
def AlertTask.ids : AlertTask → List ℕ
  | .querying pass => pass.validAlerts.map (·.alertData.id)
  | .sending id _ _ => [id]
  | .unused | .done => []

namespace ThresholdAlert

variable (triggered : Bool)

/-- What the last notification has said, or the initial flag. -/
def shown (alert : ThresholdAlert) : Bool := alert.notified.getLastD triggered

/-- Database and cache are what the last notification has said. -/
structure Settled (alert : ThresholdAlert) : Prop where
  stored : alert.stored = alert.shown triggered
  cached : alert.cached = alert.shown triggered

/-- The alert while a goroutine is on its way from the old flag to the new one. -/
def AtPoint (alert : ThresholdAlert) (new : Bool) : SendPoint → Prop
  | .find | .save => alert.Settled triggered
  | .cache => alert.stored = new
  | .notify => alert.stored = new ∧ alert.cached = new

end ThresholdAlert

def AlertTaskInv (triggered : ℕ → Bool) (alerts : ℕ → ThresholdAlert) : AlertTask → Prop
  | .querying pass =>
    (∃ now cached, PassInv now cached pass) ∧
      ∀ alert ∈ pass.validAlerts,
        (alerts alert.alertData.id).Settled (triggered alert.alertData.id) ∧
        alert.alertData.triggered =
          (alerts alert.alertData.id).shown (triggered alert.alertData.id)
  | .sending id new point =>
    (new = !(alerts id).shown (triggered id)) ∧ (alerts id).AtPoint (triggered id) new point
  | .unused | .done => True

/-- Notifications alternate, and what a thread is about to send comes next. -/
structure NotifyInv (triggered : ℕ → Bool) (s : NotifyState) : Prop where
  numbered : ∀ t, s.nextTask ≤ t → s.tasks t = .unused
  exclusive : Exclusive AlertTask.ids s.tasks
  tasks : ∀ t, AlertTaskInv triggered s.alerts (s.tasks t)
  settled : ∀ id, (∀ t, id ∉ (s.tasks t).ids) → (s.alerts id).Settled (triggered id)
  alternates : ∀ id, Alternates (triggered id) (s.alerts id).notified

theorem NotifyInv.init (triggered : ℕ → Bool) : NotifyInv triggered (.init triggered) where
  numbered _ _ := rfl
  exclusive := ⟨fun _ => nodup_nil, fun _ _ _ h => by cases h⟩
  tasks _ := trivial
  settled _ _ := ⟨rfl, rfl⟩
  alternates _ := isChain_singleton _

theorem Alternates.concat {triggered : Bool} {notified : List Bool}
    (h : Alternates triggered notified) :
    Alternates triggered (notified ++ [!notified.getLastD triggered]) := by
  refine List.IsChain.append h (isChain_singleton _) ?_
  intro last hlast new hnew
  rw [getLast?_cons, Option.mem_some_iff] at hlast
  rw [head?_cons, Option.mem_some_iff] at hnew
  rw [← hlast, ← hnew, getLastD_eq_getLast?]
  exact fun heq => Bool.not_ne_self _ heq.symm

theorem AlertTaskInv.congr {triggered : ℕ → Bool} {alerts alerts' : ℕ → ThresholdAlert}
    {task : AlertTask} (h : AlertTaskInv triggered alerts task)
    (heq : ∀ id ∈ task.ids, alerts' id = alerts id) : AlertTaskInv triggered alerts' task := by
  cases task with
  | unused | done => trivial
  | querying pass =>
    refine ⟨h.1, ?_⟩
    intro alert halert
    rw [heq alert.alertData.id (mem_map_of_mem halert)]
    exact h.2 alert halert
  | sending id new point =>
    have hid : alerts' id = alerts id := heq id mem_cons_self
    simp only [AlertTaskInv, hid]
    exact h

section Moves

variable {triggered : ℕ → Bool} {s : NotifyState} {t id : ℕ} {task : AlertTask}
  {new : Bool} {point : SendPoint} {alert : ThresholdAlert}

section

variable (h : NotifyInv triggered s)
include h

theorem NotifyInv.move {alerts : ℕ → ThresholdAlert}
    (hused : s.tasks t ≠ .unused)
    (hframe : ∀ id, id ∉ (s.tasks t).ids → alerts id = s.alerts id)
    (hids : task.ids.Sublist (s.tasks t).ids) (htask : AlertTaskInv triggered alerts task)
    (hfreed : ∀ id ∈ (s.tasks t).ids, id ∉ task.ids → (alerts id).Settled (triggered id))
    (halt : ∀ id ∈ (s.tasks t).ids, Alternates (triggered id) (alerts id).notified) :
    NotifyInv triggered ({ s with alerts := alerts }.setTask t task) where
  numbered := numbered_update h.numbered hused
  exclusive := h.exclusive.update (hids.nodup (h.exclusive.nodup t))
    fun _ hid => .inl (hids.subset hid)
  tasks := by
    refine forall_update (P := fun _ => AlertTaskInv triggered alerts) htask ?_
    intro t' ht'
    apply (h.tasks t').congr
    intro id hid
    -- what another thread works on is not this thread's
    exact hframe id fun hself => ht' (h.exclusive.unique t' t id hid hself)
  settled := by
    intro id hfree
    have hother : ∀ t', t' ≠ t → id ∉ (s.tasks t').ids := by
      intro t' ht'
      simpa [NotifyState.setTask, ht'] using hfree t'
    have hself : id ∉ task.ids := by simpa [NotifyState.setTask] using hfree t
    by_cases hid : id ∈ (s.tasks t).ids
    · exact hfreed id hid hself
    · show (alerts id).Settled (triggered id)
      rw [hframe id hid]
      apply h.settled
      intro t'
      by_cases ht' : t' = t
      · exact ht' ▸ hid
      · exact hother t' ht'
  alternates := by
    intro id
    by_cases hid : id ∈ (s.tasks t).ids
    · exact halt id hid
    · show Alternates (triggered id) (alerts id).notified
      rw [hframe id hid]
      exact h.alternates id

variable (hrun : s.tasks t = .sending id new point)
include hrun

/-- The thread that sends an alert changes this alert only. -/
theorem NotifyInv.setAlert (hids : task.ids.Sublist [id])
    (htask : AlertTaskInv triggered (update s.alerts id alert) task)
    (hfreed : id ∉ task.ids → alert.Settled (triggered id))
    (halt : Alternates (triggered id) alert.notified) :
    NotifyInv triggered ((s.setAlert id alert).setTask t task) := by
  have hid : (s.tasks t).ids = [id] := by rw [hrun]; rfl
  apply h.move (by simp [hrun]) ?_ (hid ▸ hids) htask
  · intro other hother hnot
    obtain rfl := mem_singleton.mp (hid ▸ hother)
    rw [update_self]
    exact hfreed hnot
  · intro other hother
    obtain rfl := mem_singleton.mp (hid ▸ hother)
    rw [update_self]
    exact halt
  · intro other hother
    rw [hid, mem_singleton] at hother
    exact update_of_ne hother _ _

theorem NotifyInv.advance {point' : SendPoint} (hnotified : alert.notified = (s.alerts id).notified)
    (hpoint : alert.AtPoint (triggered id) new point') :
    NotifyInv triggered ((s.setAlert id alert).setTask t (.sending id new point')) := by
  have hinv := h.tasks t
  rw [hrun] at hinv
  refine h.setAlert hrun (List.Sublist.refl _) ?_ (absurd mem_cons_self)
    (hnotified ▸ h.alternates id)
  simp only [AlertTaskInv, update_self, ThresholdAlert.shown, hnotified]
  exact ⟨hinv.1, hpoint⟩

theorem NotifyInv.finish (hsettled : alert.Settled (triggered id))
    (halt : Alternates (triggered id) alert.notified) :
    NotifyInv triggered ((s.setAlert id alert).setTask t .done) :=
  h.setAlert hrun (nil_sublist _) trivial (fun _ => hsettled) halt

end

theorem setAlert_self (s : NotifyState) (id : ℕ) : s.setAlert id (s.alerts id) = s := by
  rw [NotifyState.setAlert, update_eq_self]

theorem NotifyInv.spawn (h : NotifyInv triggered s) (hnd : task.ids.Nodup)
    (hfree : ∀ id ∈ task.ids, ∀ t, id ∉ (s.tasks t).ids)
    (htask : AlertTaskInv triggered s.alerts task) : NotifyInv triggered (s.spawn task) where
  numbered := numbered_spawn h.numbered
  exclusive := h.exclusive.update hnd fun id hid => .inr (hfree id hid)
  tasks := forall_update (P := fun _ => AlertTaskInv triggered s.alerts) htask
    fun t' _ => h.tasks t'
  settled := by
    intro id hnone
    apply h.settled
    intro t'
    by_cases ht' : t' = s.nextTask
    · rw [ht', h.numbered s.nextTask (Nat.le_refl _)]
      exact not_mem_nil
    · simpa [NotifyState.spawn, ht'] using hnone t'
  alternates := h.alternates

theorem ids_spawn {t' : ℕ} (hid : id ∈ ((s.spawn task).tasks t').ids) :
    id ∈ task.ids ∨ id ∈ (s.tasks t').ids :=
  (update_elim (P := fun task : AlertTask => id ∈ task.ids) hid).imp And.right And.right

/-- Goroutines for alerts that no thread works on: induction over those still to be started. -/
theorem NotifyInv.sendSystemAlerts {alerts : List SystemAlertData} (h : NotifyInv triggered s)
    (hnd : (alerts.map (·.alertData.id)).Nodup)
    (hfree : ∀ alert ∈ alerts, ∀ t, alert.alertData.id ∉ (s.tasks t).ids)
    (hnew : ∀ alert ∈ alerts, alert.triggered =
      !(s.alerts alert.alertData.id).shown (triggered alert.alertData.id)) :
    NotifyInv triggered (s.sendSystemAlerts alerts) := by
  induction alerts generalizing s with
  | nil => exact h
  | cons alert alerts ih =>
    rw [map_cons, nodup_cons] at hnd
    have hfirst := hfree alert mem_cons_self
    -- the first goroutine takes its alert, which none of the others needs
    apply ih _ hnd.2
    · intro other hother t hid
      rcases ids_spawn hid with hid | hid
      · have heq : other.alertData.id = alert.alertData.id := mem_singleton.mp hid
        exact hnd.1 (mem_map.mpr ⟨other, hother, heq⟩)
      · exact hfree other (mem_cons_of_mem _ hother) t hid
    · exact fun other hother => hnew other (mem_cons_of_mem _ hother)
    · refine h.spawn (nodup_singleton _) ?_
        ⟨hnew alert mem_cons_self, h.settled _ hfirst⟩
      intro id hid
      rw [mem_singleton.mp hid]
      exact hfirst

end Moves

/-! ## Steps keep the invariant -/

section Steps

variable {triggered : ℕ → Bool} {table : SystemAlertTable} {s s' : NotifyState}

theorem nodup_firstPass (table : SystemAlertTable) (s : NotifyState) (now : ℤ)
    (data : CombinedData) : (s.firstPass table now data).ids.Nodup := by
  apply nodup_foldl_considerAlert
  · refine (filter_sublist.map _).nodup ?_
    rw [NotifyState.getSystemAlerts, map_map]
    exact table.nodup
  · exact nodup_nil
  · exact fun _ _ => not_mem_nil

variable (h : NotifyInv triggered s)
include h

theorem NotifyInv.call (now : ℤ) (data : CombinedData)
    (hdone : ∀ t < s.nextTask, (s.tasks t).running = false) :
    NotifyInv triggered (s.call table now data) := by
  have hfree : ∀ id t, id ∉ (s.tasks t).ids := by
    intro id t
    rcases Nat.lt_or_ge t s.nextTask with hlt | hge
    · have hrunning := hdone t hlt
      cases htask : s.tasks t with
      | unused | done => exact not_mem_nil
      | querying _ | sending _ _ _ => simp [htask, AlertTask.running] at hrunning
    · rw [h.numbered t hge]
      exact not_mem_nil
  -- the cache is what was shown last
  have hshown : ∀ alertData ∈ s.getSystemAlerts table, alertData.triggered =
      (s.alerts alertData.id).shown (triggered alertData.id) := by
    intro alertData hmem
    obtain ⟨alert, -, rfl⟩ := mem_map.mp hmem
    exact (h.settled _ (hfree _)).cached
  have hinv : PassInv now (s.getSystemAlerts table) (s.firstPass table now data) :=
    passInv_foldl now data _
  have hnd := nodup_firstPass table s now data
  rw [FirstPass.ids, map_append, nodup_append] at hnd
  obtain ⟨hsent, hvalid, hdisj⟩ := hnd
  -- the call keeps the alerts over several minutes, its goroutines get the others
  refine NotifyInv.sendSystemAlerts ?_ hsent ?_ ?_
  · refine h.spawn hvalid (fun id _ t => hfree id t) ?_
    refine ⟨⟨now, _, hinv⟩, ?_⟩
    intro alert halert
    obtain ⟨hwait, -⟩ := hinv.valid alert halert
    exact ⟨h.settled _ (hfree _), hshown _ hwait.mem⟩
  · intro alert halert t hid
    rcases ids_spawn hid with hid | hid
    · exact hdisj _ (mem_map_of_mem halert) _ hid rfl
    · exact hfree _ t hid
  · intro alert halert
    have himm := hinv.sent alert halert
    rw [himm.triggered, hshown _ himm.mem]
    rfl

/-- A call reads its records, and goes on with the alerts over several minutes. -/
theorem NotifyInv.query {t : ℕ} {rows : List StatsRow}
    (hstep : s.query t rows = some s') : NotifyInv triggered s' := by
  unfold NotifyState.query at hstep
  split at hstep
  · next pass htask =>
    cases hstep
    have hpass := h.tasks t
    rw [htask] at hpass
    obtain ⟨⟨now, cached, hinv⟩, hvalid⟩ := hpass
    have hids : ∀ id ∈ (s.tasks t).ids, (s.alerts id).Settled (triggered id) := by
      intro id hid
      rw [htask] at hid
      obtain ⟨alert, halert, rfl⟩ := mem_map.mp hid
      exact (hvalid alert halert).1
    have hsub := handleLongAlerts_sublist rows pass
    have hsubIds := hsub.map (·.id)
    rw [map_map, map_map] at hsubIds
    -- every alert that is sent is one of those the call has worked on
    have hmem : ∀ alert ∈ handleLongAlerts rows pass,
        ∃ waiting ∈ pass.validAlerts, waiting.alertData = alert.alertData :=
      fun alert halert => mem_map.mp (hsub.subset (mem_map_of_mem halert))
    -- the call gives up all its alerts, then its goroutines take some of them
    apply NotifyInv.sendSystemAlerts
    · exact h.move (by simp [htask]) (fun _ _ => rfl) (nil_sublist _) trivial
        (fun id hid _ => hids id hid) fun id _ => h.alternates id
    · have hnd := h.exclusive.nodup t
      rw [htask] at hnd
      exact hsubIds.nodup hnd
    · intro alert halert t' hid
      obtain ⟨-, hid⟩ | ⟨ht', hid⟩ := update_elim (P := fun task : AlertTask => _ ∈ task.ids) hid
      · cases hid
      · refine ht' (h.exclusive.unique t' t _ hid ?_)
        rw [htask]
        obtain ⟨waiting, hwait, hdata⟩ := hmem alert halert
        rw [← hdata]
        exact mem_map_of_mem hwait
    · intro alert halert
      obtain ⟨waiting, hwait, hdata⟩ := hmem alert halert
      rw [(handleLongAlerts_averaged hinv halert).triggered, ← hdata,
        (hvalid waiting hwait).2]
      rfl
  all_goals cases hstep

/-- A goroutine saves, caches and notifies, or fails before it has changed anything. -/
theorem NotifyInv.run {t : ℕ} {ok : Bool} (hok : (s.tasks t).notifying = true → ok = true)
    (hstep : s.run t ok = some s') : NotifyInv triggered s' := by
  unfold NotifyState.run at hstep
  cases htask : s.tasks t with
  | unused | querying _ | done => simp [htask] at hstep
  | sending id new point =>
    have hinv := h.tasks t
    rw [htask] at hinv hok
    obtain ⟨hnew, hpoint⟩ := hinv
    -- a goroutine that fails before it has changed anything
    have hfail : (s.alerts id).Settled (triggered id) →
        NotifyInv triggered (s.setTask t .done) := by
      intro hsettled
      have hend := h.finish htask hsettled (h.alternates id)
      rwa [setAlert_self] at hend
    simp only [htask] at hstep
    cases point with
    | find =>
      cases hstep
      cases ok with
      | false => exact hfail hpoint
      | true =>
        have hread : NotifyInv triggered ((s.setAlert id (s.alerts id)).setTask t
            (.sending id new .save)) :=
          h.advance htask rfl hpoint
        rwa [setAlert_self] at hread
    | save =>
      cases ok with cases hstep
      | false =>
        exact hfail hpoint
      | true =>
        exact h.advance htask rfl rfl
    | cache =>
      cases hstep
      exact h.advance htask rfl ⟨hpoint, rfl⟩
    | notify =>
      obtain rfl : ok = true := hok rfl
      cases hstep
      obtain ⟨hstored, hcached⟩ := hpoint
      have hshown : ((s.alerts id).notified ++ [new]).getLastD (triggered id) = new :=
        getLastD_concat
      refine h.finish htask ⟨hstored.trans hshown.symm, hcached.trans hshown.symm⟩ ?_
      show Alternates _ ((s.alerts id).notified ++ [new])
      rw [hnew]
      exact (h.alternates id).concat

/-- **One step** under the condition keeps the notifications alternating. -/
theorem notifyInv_step {a : NotifyAction} (hG : NotifyGuard s a)
    (hstep : notifyStep table s a = some s') : NotifyInv triggered s' := by
  cases a with
  | call now data =>
    cases hstep
    exact h.call now data hG
  | query t rows => exact h.query hstep
  | run t ok => exact h.run hG hstep

end Steps

/-! ## Runs -/

/-- **Notifications alternate** between triggered and resolved, beginning with the opposite of the
    initial flag, if a call begins only when the earlier ones and their goroutines have ended, and
    notifications are sent. -/
theorem notifications_alternate (table : SystemAlertTable) (triggered : ℕ → Bool)
    (as : List NotifyAction) (hG : EveryStep (notifyStep table) NotifyGuard (.init triggered) as) :
    EveryState (notifyStep table)
      (fun s => ∀ id, Alternates (triggered id) (s.alerts id).notified) (.init triggered) as := by
  apply everyState_of_invariant (I := NotifyInv triggered)
  · intro s a s' h hguard hstep
    exact notifyInv_step h hguard hstep
  · exact fun s h => h.alternates
  · exact NotifyInv.init triggered
  · exact hG

def cpuTable : SystemAlertTable where
  alerts := [⟨0, "web", "alice", .cpu, 50, false, 1⟩]
  nodup := by decide

def cpuData (cpu : ℚ) : CombinedData := { info := { cpu := cpu } }

def sequentialCalls : List NotifyAction :=
  [.call 0 (cpuData 90), .query 0 [], .run 1 true, .run 1 true, .run 1 true, .run 1 true,
    .call 5000 (cpuData 10), .query 2 [], .run 3 true, .run 3 true, .run 3 true, .run 3 true]

theorem sequential_calls_alternate :
    ((exec (notifyStep cpuTable) (.init fun _ => false) sequentialCalls).map fun s =>
      (s.alerts 0).notified) = some [true, false] ∧
    EveryState (notifyStep cpuTable)
      (fun s => ∀ id, Alternates false (s.alerts id).notified) (.init fun _ => false)
      sequentialCalls := by
  constructor
  · decide +kernel
  · apply notifications_alternate
    decide +kernel

/-- **Overlapping calls notify twice**: the second call reads the cache before the first goroutine
    has saved. -/
theorem overlapping_calls_notify_twice :
    ∃ s, exec (notifyStep cpuTable) (.init fun _ => false)
        [.call 0 (cpuData 90), .query 0 [], .call 5000 (cpuData 90), .query 2 [],
          .run 1 true, .run 1 true, .run 1 true, .run 1 true,
          .run 3 true, .run 3 true, .run 3 true, .run 3 true] = some s ∧
      (s.alerts 0).notified = [true, true] ∧ ¬ Alternates false (s.alerts 0).notified := by
  refine ⟨_, rfl, ?_, ?_⟩
  · decide +kernel
  · decide +kernel

end Bantay.Alerts
