import Bantay.Systems.CombinedData
import Bantay.Systems.SystemManager

/-!
# The Data that Alerts are Given

The data of a poll is kept in the `System` object of its updater: a fetch writes it there, and
when the record of the system has been saved with the status `up`, the hook of the manager hands
`HandleSystemAlerts` the data of the object that is in the manager at that time.  This module
adds the data to the steps of the manager.

An object starts with empty data.  The fetches of realtime clients write the same data and save
nothing.  A fetch over SSH writes twice: `fetchDataViaSSH` empties the data once its session has a
shell, before it sends the request, and decodes the answer into what is there then.
-/

namespace Bantay.Systems

open Bantay.Lib Function

/-! ## Fetches -/

/-- The outcome of `fetchDataFromAgent`. -/
inductive Fetch (φ ν : Type) where
  /-- the typed field of a response is copied over the data -/
  | replaced (message : Payload φ ν)
  /-- the message is unmarshalled into the data: generic and legacy responses, and sessions over
      SSH -/
  | merged (message : Payload φ ν)
  | failed (left : Data φ ν)

namespace Fetch

variable {φ ν : Type}

def ok : Fetch φ ν → Bool
  | .replaced _ | .merged _ => true
  | .failed _ => false

/-- The payload that the agent has sent. -/
def message : Fetch φ ν → Payload φ ν
  | .replaced message | .merged message => message
  | .failed _ => .empty

/-- The data of the object afterwards. -/
def apply (old : Data φ ν) : Fetch φ ν → Data φ ν
  | .replaced message => .ofPayload message
  | .merged message => old.unmarshal message
  | .failed left => left

def Covers (old : Data φ ν) : Fetch φ ν → Prop
  | .merged message => message.Covers old
  | .replaced _ | .failed _ => True

/-- After a fetch the data is the payload alone. -/
theorem holds_apply {result : Fetch φ ν} {old : Data φ ν} (h : result.Covers old)
    (hok : result.ok = true) : (result.apply old).Holds result.message := by
  cases result with
  | replaced message => exact Data.holds_ofPayload
  | merged message => exact Data.holds_unmarshal_iff.mpr h
  | failed left => cases hok

end Fetch

/-- A call of `HandleSystemAlerts`. -/
structure AlertCall (φ ν : Type) where
  given : Data φ ν
  /-- the payload of the poll whose save has caused the call; `none` for the save of a user -/
  cause : Option (Payload φ ν)

structure PollState (φ ν : Type) where
  manager : ManagerState
  /-- the data of each `System` object -/
  data : Nat → Data φ ν
  fetched : Nat → Payload φ ν
  /-- history: the calls of `HandleSystemAlerts` -/
  calls : List (AlertCall φ ν)

inductive PollAction (φ ν : Type) where
  | manager (a : ManagerAction)
  | fetch (t : Nat) (result : Fetch φ ν)
  /-- the session of a fetch over SSH, of a poll or for realtime clients, empties the data -/
  | session (o : Nat)
  /-- the fetch for realtime clients returns, with the object it was started with -/
  | view (o : Nat) (result : Fetch φ ν)

def fetches (m : ManagerState) : ManagerAction → Bool
  | .run t _ =>
    match m.tasks t with
    | .fetching _ _ => true
    | _ => false
  | _ => false

namespace PollState

variable {φ ν : Type}

/-- The calls of `HandleSystemAlerts` in the hook that goroutine `t` runs. -/
def hookCalls (s : PollState φ ν) (t : Nat) : List (AlertCall φ ν) :=
  match s.manager.current with
  -- a system that is not in the manager is added, without alerts
  | none => []
  | some o =>
    -- the data is that of the object in the manager, whoever has saved the record
    match s.manager.tasks t with
    | .saved _ _ .up => [⟨s.data o, some (s.fetched t)⟩]
    | .edited .up => [⟨s.data o, none⟩]
    | _ => []

def alertCalls (s : PollState φ ν) : ManagerAction → List (AlertCall φ ν)
  | .run t _ => s.hookCalls t
  | _ => []

end PollState

def pollStep {φ ν : Type} (cfg : ManagerConfig) (s : PollState φ ν) :
    PollAction φ ν → Option (PollState φ ν)
  | .manager a =>
    if fetches s.manager a then
      none
    else
      match managerStep cfg s.manager a with
      | none => none
      | some m => some { s with manager := m, calls := s.alertCalls a ++ s.calls }
  | .fetch t result =>
    match s.manager.tasks t with
    | .fetching o _ =>
      match managerStep cfg s.manager (.run t result.ok) with
      | none => none
      | some m =>
        some { s with
          manager := m
          data := Function.update s.data o (result.apply (s.data o))
          fetched := Function.update s.fetched t result.message }
    | _ => none
  | .session o => some { s with data := Function.update s.data o .empty }
  | .view o result =>
    some { s with data := Function.update s.data o (result.apply (s.data o)) }

/-- The hub at its start. -/
def PollState.init {φ ν : Type} (stored : Status) : PollState φ ν where
  manager := .init stored
  data _ := .empty
  fetched _ := .empty
  calls := []

/-! ## The property and the condition -/

def AlertCall.FromPoll {φ ν : Type} (call : AlertCall φ ν) : Prop :=
  ∃ payload ∈ call.cause, call.given.Holds payload

/-- The object whose poll the goroutine is at, between its fetch and its hook. -/
def Task.polled : Task → Option Nat
  | .reading o _ | .writing o _ | .saved o _ .up => some o
  | _ => none

/-- No goroutine but `t` is between the fetch and the hook of a poll of the object. -/
def NoOtherPoll (m : ManagerState) (o : Nat) (t : Option Nat) : Prop :=
  ∀ t' < m.nextTask, some t' ≠ t → (m.tasks t').polled ≠ some o

instance (m : ManagerState) (o : Nat) (t : Option Nat) : Decidable (NoOtherPoll m o t) :=
  inferInstanceAs (Decidable (∀ t' < m.nextTask, _))

/-- The object of the poll that has saved the status `up`, or `none` for a user. -/
def Task.upHook : Task → Option (Option Nat)
  | .saved o _ .up => some (some o)
  | .edited .up => some none
  | _ => none

/-- The hook of a save with the status `up` finds the object of its poll in the manager, or
    no object. -/
def HookGuard (m : ManagerState) (t : Nat) : Prop :=
  ∀ cause ∈ (m.tasks t).upHook, ∀ o ∈ m.current, cause = some o
deriving Decidable

def Task.fetchObject : Task → Option Nat
  | .fetching o _ => some o
  | _ => none

section Guard

variable {φ ν : Type}

def FetchGuard (s : PollState φ ν) (o : Nat) (t : Option Nat) (result : Fetch φ ν) : Prop :=
  NoOtherPoll s.manager o t ∧ result.Covers (s.data o)

/-- Fetches and sessions do not meet a poll of the object, and hooks no other object or user's
    save. -/
def PollGuard (s : PollState φ ν) : PollAction φ ν → Prop
  | .manager (.run t _) => HookGuard s.manager t
  | .manager (.tick _) | .manager (.connDown _) | .manager (.stop _) | .manager (.edit _)
  | .manager .connect | .manager .rotate => True
  | .fetch t result =>
    ∀ o ∈ (s.manager.tasks t).fetchObject, FetchGuard s o (some t) result
  | .session o => NoOtherPoll s.manager o none
  | .view o result => FetchGuard s o none result

instance [Fintype φ] (old : Data φ ν) (result : Fetch φ ν) : Decidable (result.Covers old) := by
  unfold Fetch.Covers
  split <;> infer_instance

instance [Fintype φ] (s : PollState φ ν) (o : Nat) (t : Option Nat) (result : Fetch φ ν) :
    Decidable (FetchGuard s o t result) :=
  inferInstanceAs (Decidable (_ ∧ _))

instance [Fintype φ] (s : PollState φ ν) (a : PollAction φ ν) : Decidable (PollGuard s a) := by
  unfold PollGuard
  split <;> infer_instance

end Guard

/-! ## Steps of the manager that start no poll -/

/-- The entries from `nextTask` on are unused. -/
def Numbered (m : ManagerState) : Prop := ∀ t, m.nextTask ≤ t → m.tasks t = .unused

/-- A part of a poll that is entered by a fetch alone, by the objects of the goroutines in it. -/
structure AfterFetch (marker : Task → Option Nat) : Prop where
  polled : ∀ task, task.polled = none → marker task = none
  reading : ∀ o caller o', marker (.reading o caller) = some o' → o' = o
  writing : ∀ o caller o', marker (.writing o caller) = some o' →
    marker (.reading o caller) = some o'
  saved : ∀ o caller o', marker (.saved o caller .up) = some o' →
    marker (.writing o caller) = some o'

theorem afterFetch_polled : AfterFetch Task.polled where
  polled _ h := h
  reading _ _ _ h := (Option.some.inj h).symm
  writing _ _ _ h := h
  saved _ _ _ h := h

/-- Every goroutine that is in the part afterwards was in it before, with the same object. -/
structure NoNew (marker : Task → Option Nat) (m m' : ManagerState) : Prop where
  numbered : Numbered m → Numbered m'
  marked : ∀ t o, marker (m'.tasks t) = some o → marker (m.tasks t) = some o

namespace NoNew

variable {marker : Task → Option Nat} {cfg : ManagerConfig} {m m' m₁ m₂ m₃ u : ManagerState}
  {t : Nat} {task : Task}

theorem refl (m : ManagerState) : NoNew marker m m := ⟨id, fun _ _ h => h⟩

theorem trans (h₁ : NoNew marker m₁ m₂) (h₂ : NoNew marker m₂ m₃) : NoNew marker m₁ m₃ where
  numbered h := h₂.numbered (h₁.numbered h)
  marked t o h := h₁.marked t o (h₂.marked t o h)

theorem of_tasks (htasks : m'.tasks = m.tasks) (hnext : m'.nextTask = m.nextTask) :
    NoNew marker m m' where
  numbered h t ht := by
    rw [htasks]
    exact h t (hnext ▸ ht)
  marked t o h := by
    rw [htasks] at h
    exact h

theorem spawn (htask : marker task = none) : NoNew marker m (m.spawn task) where
  numbered h := numbered_spawn h
  marked := by
    intro t o
    refine forall_update (P := fun t (task : Task) => marker task = some o →
      marker (m.tasks t) = some o) ?_ (fun _ _ => id) t
    intro hmarked
    rw [htask] at hmarked
    cases hmarked

theorem after (hu : NoNew marker m u) (htasks : ∀ t < m.nextTask, u.tasks t = m.tasks t)
    (hused : m.tasks t ≠ .unused)
    (htask : ∀ o, marker task = some o → marker (m.tasks t) = some o) :
    NoNew marker m (u.setTask t task) where
  numbered h := by
    refine numbered_update (hu.numbered h) ?_
    rw [htasks t (lt_next_of_used h hused)]
    exact hused
  marked := by
    intro t' o
    refine forall_update (P := fun t (task : Task) => marker task = some o →
      marker (m.tasks t) = some o) (htask o) ?_ t'
    exact fun t'' _ => hu.marked t'' o

theorem setTask (hused : m.tasks t ≠ .unused)
    (htask : ∀ o, marker task = some o → marker (m.tasks t) = some o) :
    NoNew marker m (m.setTask t task) :=
  (refl m).after (fun _ _ => rfl) hused htask

theorem commit (htasks : u.tasks = m.tasks) (hnext : u.nextTask = m.nextTask)
    (hused : m.tasks t ≠ .unused)
    (htask : ∀ o, marker task = some o → marker (m.tasks t) = some o) :
    NoNew marker m (u.setTask t task) :=
  (of_tasks htasks hnext).after (fun t _ => congrFun htasks t) hused htask

theorem removeSystem : NoNew marker m m.removeSystem := by
  unfold ManagerState.removeSystem
  split
  · exact refl m
  · exact of_tasks rfl rfl

theorem addSystem (hmarker : AfterFetch marker) (status : Status) (wsConn : Bool) :
    NoNew marker m (m.addSystem cfg status wsConn) := by
  unfold ManagerState.addSystem
  split
  · exact refl m
  · split
    · exact refl m
    · have hobject : NoNew marker m { m.setObject m.nextObject ⟨status, wsConn, false⟩ with
          nextObject := m.nextObject + 1
          current := some m.nextObject } := of_tasks rfl rfl
      exact hobject.trans (spawn (hmarker.polled _ rfl))

theorem addRecord (hmarker : AfterFetch marker) (status : Status) (wsConn : Bool) :
    NoNew marker m (m.addRecord cfg status wsConn) :=
  removeSystem.trans (addSystem hmarker status wsConn)

theorem setStatus (status : Status) : NoNew marker m (m.setStatus status) := by
  unfold ManagerState.setStatus
  split
  · exact refl m
  · exact of_tasks rfl rfl

theorem onRecordAfterUpdateSuccess (hmarker : AfterFetch marker) (newStatus : Status) :
    NoNew marker m (m.onRecordAfterUpdateSuccess cfg newStatus) := by
  have hset : NoNew marker m (m.setStatus newStatus) := setStatus newStatus
  unfold ManagerState.onRecordAfterUpdateSuccess
  dsimp only
  split
  · exact hset
  · split
    · exact hset.trans (spawn (hmarker.polled _ rfl))
    · exact hset.trans (addRecord hmarker _ _)
  · split
    · exact hset
    · exact hset.trans (addRecord hmarker _ _)
  · split
    · exact hset
    · exact hset.trans (addRecord hmarker _ _)

theorem handlePaused (o : Nat) (ping : Bool) : NoNew marker m (handlePaused m o ping) := by
  unfold Systems.handlePaused
  split
  · exact refl m
  · exact removeSystem

end NoNew

theorem polled_finish (o : Nat) (caller : Caller) : (finish o caller).polled = none := by
  cases caller <;> rfl

theorem polled_updateFailed (o : Nat) (caller : Caller) :
    (updateFailed o caller).polled = none := by
  cases caller <;> rfl

section Manager

variable {marker : Task → Option Nat} {cfg : ManagerConfig} {m m' : ManagerState} {t : Nat}
  {ok : Bool} (hmarker : AfterFetch marker)
include hmarker

variable {u : ManagerState} {task task' : Task}

theorem TaskMove.noNew (hmove : TaskMove cfg m ok task u task') : NoNew marker m u := by
  cases hmove with
  | paused => exact .handlePaused _ _
  | noRecord | downNoRecord | remove => exact .removeSystem
  | write | downWrite | edit => exact .of_tasks rfl rfl
  | hooks | editHooks => exact .onRecordAfterUpdateSuccess hmarker _
  | connect => exact .addRecord hmarker _ _
  | restore => exact .addSystem hmarker _ _
  | _ => exact .refl m

theorem TaskMove.marked (hmove : TaskMove cfg m ok task u task')
    (hfetch : ∀ o caller, task ≠ .fetching o caller) (o : Nat) (hmarked : marker task' = some o) :
    marker task = some o := by
  -- most steps lead to a task that is at no poll
  have hnone : task'.polled = none → marker task = some o := by
    intro htask
    rw [hmarker.polled task' htask] at hmarked
    cases hmarked
  cases hmove with
  | fetched => exact absurd rfl (hfetch _ _)
  | read => exact hmarker.writing _ _ _ hmarked
  | write => exact hmarker.saved _ _ _ hmarked
  | paused | stay | downNoRecord | downWriteFailed | hooks => exact hnone (polled_finish _ _)
  | noRecord | writeFailed => exact hnone (polled_updateFailed _ _)
  | _ => exact hnone rfl

theorem runTask_noNew (hfetch : fetches m (.run t ok) = false)
    (hstep : runTask cfg m t ok = some m') : NoNew marker m m' := by
  obtain ⟨u, task', hmove, rfl⟩ := runTask_moves hstep
  refine (hmove.noNew hmarker).after hmove.tasks hmove.used (hmove.marked hmarker ?_)
  intro o caller htask
  simp only [fetches, htask] at hfetch
  cases hfetch

/-- A step that is no fetch brings no goroutine into the part of a poll. -/
theorem managerStep_noNew {a : ManagerAction} (hfetch : fetches m a = false)
    (hstep : managerStep cfg m a = some m') : NoNew marker m m' := by
  -- a goroutine at its `select` is at no poll, and does not go on with one
  have hsel : ∀ {task : Task} {t : Nat}, task.polled = none →
      ∀ o, marker task = some o → marker (m.tasks t) = some o := by
    intro task t htask o hmarked
    rw [hmarker.polled task htask] at hmarked
    cases hmarked
  cases a with simp only [managerStep] at hstep
  | run t ok => exact runTask_noNew hmarker hfetch hstep
  | edit change =>
    cases hstep
    exact .spawn (hmarker.polled _ rfl)
  | connect =>
    cases hstep
    exact .spawn (hmarker.polled _ rfl)
  | rotate =>
    split at hstep
    · cases hstep
      exact .spawn (hmarker.polled _ rfl)
    · cases hstep
      exact .refl m
  | tick t =>
    split at hstep
    · next o htask =>
      cases hstep
      exact .setTask (by rw [htask]; nofun) (hsel rfl)
    · cases hstep
  | connDown t =>
    split at hstep
    · next o htask =>
      split at hstep
      · cases hstep
        refine .commit ?_ ?_ (by rw [htask]; nofun) (hsel ?_)
        · rfl
        · rfl
        · rfl
      · cases hstep
    · cases hstep
  | stop t =>
    split at hstep
    · next o htask =>
      split at hstep
      · cases hstep
        exact .setTask (by rw [htask]; nofun) (hsel rfl)
      · cases hstep
    · cases hstep

end Manager

/-! ## Payloads in their objects -/

section Runs

variable {φ ν : Type} {cfg : ManagerConfig} {s s' : PollState φ ν} {marker : Task → Option Nat}
  {t o : Nat} {result : Fetch φ ν}

/-- No goroutine but `t` is in the part of a poll with the object. -/
def NoOther (marker : Task → Option Nat) (m : ManagerState) (o : Nat) (t : Option Nat) : Prop :=
  ∀ t' < m.nextTask, some t' ≠ t → marker (m.tasks t') ≠ some o

instance (marker : Task → Option Nat) (m : ManagerState) (o : Nat) (t : Option Nat) :
    Decidable (NoOther marker m o t) :=
  inferInstanceAs (Decidable (∀ t' < m.nextTask, _))

/-- The goroutines in the part of a poll have their payloads in their objects. -/
structure HoldsPayload (marker : Task → Option Nat) (s : PollState φ ν) : Prop where
  numbered : Numbered s.manager
  payload : ∀ t o, marker (s.manager.tasks t) = some o → (s.data o).Holds (s.fetched t)

namespace HoldsPayload

theorem init (stored : Status) : HoldsPayload marker (.init stored : PollState φ ν) where
  numbered := by
    intro t ht
    refine if_neg ?_
    rintro ⟨rfl, -⟩
    exact absurd ht (Nat.not_succ_le_zero 0)
  payload _ _ _ := Data.holds_empty

variable (h : HoldsPayload marker s)
include h

variable (hmarker : AfterFetch marker)
include hmarker

theorem marked_ne {t : Option Nat} (hG : NoOther marker s.manager o t) {t' : Nat}
    (hne : some t' ≠ t) : marker (s.manager.tasks t') ≠ some o := by
  intro hmarked
  refine hG t' (lt_next_of_used h.numbered ?_) hne hmarked
  intro hunused
  rw [hunused, hmarker.polled _ rfl] at hmarked
  cases hmarked

theorem manager (hstep : pollStep cfg s (.manager a) = some s') : HoldsPayload marker s' := by
  simp only [pollStep] at hstep
  split at hstep
  · cases hstep
  · next hfetch =>
    split at hstep
    · cases hstep
    · next m hman =>
      cases hstep
      have hframe := managerStep_noNew hmarker (Bool.not_eq_true _ ▸ hfetch) hman
      exact ⟨hframe.numbered h.numbered,
        fun t o hmarked => h.payload t o (hframe.marked t o hmarked)⟩

theorem fetch (hG : ∀ o ∈ (s.manager.tasks t).fetchObject, NoOther marker s.manager o (some t))
    (halone : ∀ o ∈ (s.manager.tasks t).fetchObject, result.Covers (s.data o))
    (hstep : pollStep cfg s (.fetch t result) = some s') : HoldsPayload marker s' := by
  simp only [pollStep] at hstep
  split at hstep
  · next o caller htask =>
    simp only [managerStep, runTask, htask] at hstep
    cases hstep
    have hfetches : o ∈ (s.manager.tasks t).fetchObject := by
      rw [htask]
      rfl
    refine ⟨numbered_update h.numbered (by rw [htask]; exact Task.noConfusion), ?_⟩
    intro t' o' hmarked
    by_cases ht : t' = t
    · subst ht
      -- only a fetch that has succeeded goes on with the poll, of its own object
      simp only [ManagerState.tasks_setTask_self] at hmarked
      cases hok : result.ok with
      | true =>
        rw [hok] at hmarked
        rw [hmarker.reading o caller o' hmarked]
        simp only [update_self]
        exact Fetch.holds_apply (halone o hfetches) hok
      | false =>
        rw [hok, if_neg Bool.false_ne_true,
          hmarker.polled _ (polled_updateFailed o caller)] at hmarked
        cases hmarked
    · simp only [ManagerState.tasks_setTask_of_ne _ ht] at hmarked
      have ho : o' ≠ o := by
        rintro rfl
        exact h.marked_ne hmarker (hG o' hfetches) (fun heq => ht (Option.some.inj heq)) hmarked
      simp only [update_of_ne ht, update_of_ne ho]
      exact h.payload t' o' hmarked
  · cases hstep

/-- A write into an object that no poll has its payload in. -/
theorem write (hG : NoOther marker s.manager o none) (data : Data φ ν) :
    HoldsPayload marker { s with data := update s.data o data } where
  numbered := h.numbered
  payload := by
    intro t o' hmarked
    have ho : o' ≠ o := by
      rintro rfl
      exact h.marked_ne hmarker hG (Option.some_ne_none t) hmarked
    simp only [update_of_ne ho]
    exact h.payload t o' hmarked

end HoldsPayload

/-! ## The invariant -/

/-- Polls have their payloads in their objects, and alerts were given their own. -/
structure PollInv (s : PollState φ ν) : Prop where
  numbered : Numbered s.manager
  payload : ∀ t o, (s.manager.tasks t).polled = some o → (s.data o).Holds (s.fetched t)
  calls : ∀ call ∈ s.calls, call.FromPoll

theorem PollInv.holds (h : PollInv s) : HoldsPayload Task.polled s := ⟨h.numbered, h.payload⟩

theorem HoldsPayload.pollInv (h : HoldsPayload Task.polled s)
    (hcalls : ∀ call ∈ s.calls, call.FromPoll) : PollInv s :=
  ⟨h.numbered, h.payload, hcalls⟩

theorem PollInv.init (stored : Status) : PollInv (.init stored : PollState φ ν) :=
  (HoldsPayload.init stored).pollInv (List.forall_mem_nil _)

theorem PollInv.hookCalls (h : PollInv s) (hG : HookGuard s.manager t) :
    ∀ call ∈ s.hookCalls t, call.FromPoll := by
  unfold PollState.hookCalls
  cases hcur : s.manager.current with
  | none => exact List.forall_mem_nil _
  | some o =>
    have hcause : ∀ cause ∈ (s.manager.tasks t).upHook, cause = some o :=
      fun cause hmem => hG cause hmem o hcur
    dsimp only
    split
    · next o' caller htask =>
      have ho : o' = o := by
        rw [htask] at hcause
        exact Option.some.inj (hcause (some o') rfl)
      -- no other fetch has written into the object since
      have hpay : (s.data o).Holds (s.fetched t) := by
        apply h.payload
        rw [htask, ← ho]
        rfl
      intro call hcall
      rw [List.mem_singleton.mp hcall]
      exact ⟨_, rfl, hpay⟩
    · next htask =>
      -- a user's save finds no object in the manager
      rw [htask] at hcause
      cases hcause none rfl
    · exact List.forall_mem_nil _

theorem PollInv.manager (h : PollInv s) (hG : PollGuard s (.manager a))
    (hstep : pollStep cfg s (.manager a) = some s') : PollInv s' := by
  refine (h.holds.manager afterFetch_polled hstep).pollInv ?_
  simp only [pollStep] at hstep
  split at hstep
  · cases hstep
  · split at hstep
    · cases hstep
    · cases hstep
      have hcalls : ∀ call ∈ s.alertCalls a, call.FromPoll := by
        cases a with
        | run t ok => exact h.hookCalls hG
        | tick _ | connDown _ | stop _ | edit _ | connect | rotate =>
          exact List.forall_mem_nil _
      exact List.forall_mem_append.mpr ⟨hcalls, h.calls⟩

theorem PollInv.fetch (h : PollInv s) (hG : PollGuard s (.fetch t result))
    (hstep : pollStep cfg s (.fetch t result) = some s') :
    PollInv s' := by
  refine (h.holds.fetch afterFetch_polled (fun o ho => (hG o ho).1)
    (fun o ho => (hG o ho).2) hstep).pollInv ?_
  -- a fetch calls no alerts
  simp only [pollStep] at hstep
  split at hstep
  · split at hstep
    · cases hstep
    · cases hstep
      exact h.calls
  · cases hstep

theorem PollInv.write (h : PollInv s) (hG : NoOtherPoll s.manager o none) (data : Data φ ν) :
    PollInv { s with data := update s.data o data } :=
  (h.holds.write afterFetch_polled hG data).pollInv h.calls

/-- **One step** under the condition gives alerts the payload of their own poll. -/
theorem pollInv_step {a : PollAction φ ν} (h : PollInv s) (hG : PollGuard s a)
    (hstep : pollStep cfg s a = some s') : PollInv s' := by
  cases a with
  | manager a => exact h.manager hG hstep
  | fetch t result => exact h.fetch hG hstep
  | session o =>
    cases hstep
    exact h.write hG .empty
  | view o result =>
    cases hstep
    exact h.write hG.1 (result.apply (s.data o))

/-- **Alerts are given the payload of the poll** whose save has caused the call, if fetches do not
    meet a poll of the same object, hooks find the object of their poll in the manager, and no
    user's save with the status `up` finds an object there. -/
theorem alerts_given_payload_of_poll (cfg : ManagerConfig) (stored : Status)
    (as : List (PollAction φ ν))
    (hG : EveryStep (pollStep cfg) PollGuard (.init stored) as) :
    EveryState (pollStep cfg) (fun s => ∀ call ∈ s.calls, call.FromPoll) (.init stored) as := by
  apply everyState_of_invariant (I := PollInv)
  · intro s a s' h hguard hstep
    exact pollInv_step h hguard hstep
  · exact fun s h => h.calls
  · exact PollInv.init stored
  · exact hG

end Runs

/-- A message with two fields, of which the second may be left out. -/
def twoFields (first : Nat) (second : Option Nat) : Payload Bool Nat where
  fields field := if field then second else some first
  lists _ := none

/-- The goroutine that has fetched reads, writes and runs its hook. -/
def finishPoll (t : Nat) : List (PollAction Bool Nat) :=
  [.manager (.run t true), .manager (.run t true), .manager (.run t true)]

def twoPolls : List (PollAction Bool Nat) :=
  [.manager (.run 0 true), .manager (.run 1 true), .manager (.run 1 true), .session 0,
    .fetch 1 (.merged (twoFields 90 (some 7)))] ++ finishPoll 1 ++
  [.manager (.tick 1), .manager (.run 1 true), .fetch 1 (.merged (twoFields 10 (some 8)))] ++
  finishPoll 1

theorem polls_give_their_payloads :
    ((exec (pollStep ⟨"web"⟩) (.init .up) twoPolls).map fun s =>
      s.calls.map (·.given.fields false)) =
      some [some 10, some 90] ∧
    EveryState (pollStep ⟨"web"⟩) (fun s => ∀ call ∈ s.calls, call.FromPoll) (.init .up)
      twoPolls := by
  constructor
  · decide +kernel
  · apply alerts_given_payload_of_poll
    decide +kernel

/-- **An edit gives empty data**: a user changes the name of a system that is `up` before the first
    poll. -/
theorem edit_gives_empty_data :
    ∃ s : PollState Bool Nat, exec (pollStep ⟨"web"⟩) (.init .up)
        [.manager (.run 0 true), .manager (.edit .other), .manager (.run 2 true),
          .manager (.run 2 true)] = some s ∧
      s.calls = [⟨.empty, none⟩] ∧ ¬ ∀ call ∈ s.calls, call.FromPoll := by
  refine ⟨_, rfl, rfl, ?_⟩
  intro h
  obtain ⟨payload, hcause, _⟩ := h _ List.mem_cons_self
  cases hcause

end Bantay.Systems
