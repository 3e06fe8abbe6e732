import Bantay.Lib.Pool
import Bantay.Lib.Transition

/-!
# The System Manager and its Updaters

A step model of `internal/hub/systems/system_manager.go` and of the parts of `system.go` that read
or write the status of a system: its row, the `System` objects that the manager creates for it one
after the other, and the goroutines that work on them.

Every fetch, database access, after-commit hook and look at the status in memory is one step.  A
save writes every field of the record, the status as it was loaded included.  A goroutine keeps the
`System` object it was started with.  What never touches the status is left out.
-/

namespace Bantay.Systems

open Bantay.Lib

/-! ## Data -/

inductive Status where
  | up
  | down
  | paused
  | pending
deriving DecidableEq

structure System where
  status : Status
  /-- `WsConn` is set, and with it the down channel of the updater -/
  wsConn : Bool
  /-- `cancel` has been called -/
  cancelled : Bool

/-- Who runs `update` or `setDown`. -/
inductive Caller where
  /-- `StartUpdater` -/
  | loop
  /-- `go system.update()` of a resumed system -/
  | resume
  /-- `onTokenRotated` -/
  | rotation
deriving DecidableEq

/-- What a user changes in the record of the system. -/
inductive Change where
  | pause
  | resume
  | other
deriving DecidableEq

def Change.status (loaded : Status) : Change → Status
  | .pause => .paused
  | .resume => .pending
  | .other => loaded

/-- Where a goroutine is; `o` is the number of its `System` object. -/
inductive Task where
  | unused
  | done
  /-- `StartUpdater` before its first look at the status -/
  | starting (o : Nat)
  /-- `StartUpdater` at its `select` -/
  | waiting (o : Nat)
  /-- at the beginning of `update` -/
  | updating (o : Nat) (caller : Caller)
  | fetching (o : Nat) (caller : Caller)
  /-- `createRecords` at `getRecord` -/
  | reading (o : Nat) (caller : Caller)
  /-- `createRecords` at its transaction -/
  | writing (o : Nat) (caller : Caller)
  /-- at the beginning of `setDown` -/
  | settingDown (o : Nat) (caller : Caller)
  /-- `setDown` at `getRecord` -/
  | downReading (o : Nat) (caller : Caller)
  /-- `setDown` at its save -/
  | downWriting (o : Nat) (caller : Caller)
  | saved (o : Nat) (caller : Caller) (status : Status)
  /-- `onTokenRotated` at `RemoveSystem` -/
  | removing
  | editing (change : Change) (loaded : Status)
  /-- a user's request has committed a status, its hook has not run -/
  | edited (status : Status)
  /-- `AddWebSocketSystem` has loaded the record -/
  | connecting (loaded : Status)
  /-- `Initialize` has loaded the record -/
  | restoring (loaded : Status)
deriving DecidableEq

structure ManagerState where
  stored : Status
  objects : Nat → System
  nextObject : Nat
  current : Option Nat
  tasks : Nat → Task
  nextTask : Nat
  /-- history: a user has saved `paused` and no user has saved `pending` since -/
  pauseSaved : Bool

structure ManagerConfig where
  host : String

namespace ManagerState

variable (s : ManagerState)

def setTask (t : Nat) (task : Task) : ManagerState :=
  { s with tasks := Function.update s.tasks t task }

def spawn (task : Task) : ManagerState :=
  { s with tasks := Function.update s.tasks s.nextTask task, nextTask := s.nextTask + 1 }

def setObject (o : Nat) (object : System) : ManagerState :=
  { s with objects := Function.update s.objects o object }

def removeSystem : ManagerState :=
  match s.current with
  | none => s
  | some o => { s.setObject o { s.objects o with cancelled := true } with current := none }

def addSystem (cfg : ManagerConfig) (s : ManagerState) (status : Status) (wsConn : Bool) :
    ManagerState :=
  if s.current.isSome then
    s
  else if cfg.host = "" then
    s
  else
    { s.setObject s.nextObject ⟨status, wsConn, false⟩ with
      nextObject := s.nextObject + 1
      current := some s.nextObject }.spawn (.starting s.nextObject)

def addRecord (cfg : ManagerConfig) (s : ManagerState) (status : Status) (wsConn : Bool) :
    ManagerState :=
  s.removeSystem.addSystem cfg status wsConn

def setStatus (status : Status) : ManagerState :=
  match s.current with
  | none => s
  | some o => s.setObject o { s.objects o with status := status }

def connected : Option Nat :=
  match s.current with
  | none => none
  | some o => if (s.objects o).wsConn then some o else none

/-- The status is that of the saved record. -/
def onRecordAfterUpdateSuccess (cfg : ManagerConfig) (s : ManagerState) (newStatus : Status) :
    ManagerState :=
  let s' := s.setStatus newStatus
  match newStatus with
  | .paused => s'
  | .pending =>
    match s'.connected with
    -- resume monitoring on the existing connection
    | some o => s'.spawn (.updating o .resume)
    | none => s'.addRecord cfg .pending false
  | .up | .down => if s.current.isSome then s' else s'.addRecord cfg newStatus false

end ManagerState

/-! ## Updaters -/

/-- The task after `update` or `setDown` has returned. -/
def finish (o : Nat) : Caller → Task
  | .loop => .waiting o
  | .resume => .done
  | .rotation => .removing

/-- The task after `update` has returned an error. -/
def updateFailed (o : Nat) : Caller → Task
  | .loop => .settingDown o .loop
  | caller => finish o caller

def handlePaused (s : ManagerState) (o : Nat) (ping : Bool) : ManagerState :=
  if (s.objects o).wsConn ∧ ping then s else s.removeSystem

def runTask (cfg : ManagerConfig) (s : ManagerState) (t : Nat) (ok : Bool) :
    Option ManagerState :=
  match s.tasks t with
  | .starting o =>
    if (s.objects o).status ≠ .paused ∧ (s.objects o).cancelled = false then
      some (s.setTask t (.updating o .loop))
    else
      some (s.setTask t (.waiting o))
  | .updating o caller =>
    if (s.objects o).status = .paused then
      some ((handlePaused s o ok).setTask t (finish o caller))
    else
      some (s.setTask t (.fetching o caller))
  | .fetching o caller =>
    some (s.setTask t (if ok then .reading o caller else updateFailed o caller))
  | .reading o caller =>
    if ok then
      some (s.setTask t (.writing o caller))
    else
      -- without a record the system is removed from the manager
      some (s.removeSystem.setTask t (updateFailed o caller))
  | .writing o caller =>
    if ok then
      some ({ s with stored := .up }.setTask t (.saved o caller .up))
    else
      some (s.setTask t (updateFailed o caller))
  | .settingDown o caller =>
    if (s.objects o).status = .down ∨ (s.objects o).status = .paused then
      some (s.setTask t (finish o caller))
    else
      some (s.setTask t (.downReading o caller))
  | .downReading o caller =>
    if ok then
      some (s.setTask t (.downWriting o caller))
    else
      some (s.removeSystem.setTask t (finish o caller))
  | .downWriting o caller =>
    if ok then
      some ({ s with stored := .down }.setTask t (.saved o caller .down))
    else
      some (s.setTask t (finish o caller))
  | .saved o caller status =>
    some ((s.onRecordAfterUpdateSuccess cfg status).setTask t (finish o caller))
  | .removing => some (s.removeSystem.setTask t .done)
  | .editing change loaded =>
    if ok then
      let pauseSaved :=
        match change with
        | .pause => true
        | .resume => false
        | .other => s.pauseSaved
      some ({ s with stored := change.status loaded, pauseSaved := pauseSaved }.setTask t
        (.edited (change.status loaded)))
    else
      some (s.setTask t .done)
  | .edited status => some ((s.onRecordAfterUpdateSuccess cfg status).setTask t .done)
  | .connecting loaded => some ((s.addRecord cfg loaded true).setTask t .done)
  | .restoring loaded => some ((s.addSystem cfg loaded false).setTask t .done)
  | .unused | .done | .waiting _ => none

inductive ManagerAction where
  | tick (t : Nat)
  | connDown (t : Nat)
  | stop (t : Nat)
  | run (t : Nat) (ok : Bool)
  | edit (change : Change)
  /-- an agent has been accepted, `AddWebSocketSystem` loads the record -/
  | connect
  | rotate

def managerStep (cfg : ManagerConfig) (s : ManagerState) : ManagerAction → Option ManagerState
  | .tick t =>
    match s.tasks t with
    | .waiting o => some (s.setTask t (.updating o .loop))
    | _ => none
  | .connDown t =>
    match s.tasks t with
    | .waiting o =>
      if (s.objects o).wsConn then
        some ((s.setObject o { s.objects o with wsConn := false }).setTask t
          (.settingDown o .loop))
      else
        none
    | _ => none
  | .stop t =>
    match s.tasks t with
    | .waiting o => if (s.objects o).cancelled then some (s.setTask t .done) else none
    | _ => none
  | .run t ok => runTask cfg s t ok
  | .edit change => some (s.spawn (.editing change s.stored))
  | .connect => some (s.spawn (.connecting s.stored))
  | .rotate =>
    match s.connected with
    | some o => some (s.spawn (.settingDown o .rotation))
    | none => some s

/-- The hub when `Initialize` has read the systems that are not paused. -/
def ManagerState.init (stored : Status) : ManagerState where
  stored := stored
  objects _ := ⟨.pending, false, true⟩
  nextObject := 0
  current := none
  tasks t := if t = 0 ∧ stored ≠ .paused then .restoring stored else .unused
  nextTask := 1
  pauseSaved := false

/-! ## What the manager leaves alone -/

/-- Goroutines may be added, and those that run are not touched. -/
structure Extends (s s' : ManagerState) : Prop where
  pauseSaved : s'.pauseSaved = s.pauseSaved
  nextTask : s.nextTask ≤ s'.nextTask
  tasks : ∀ t < s.nextTask, s'.tasks t = s.tasks t

theorem Extends.refl (s : ManagerState) : Extends s s :=
  ⟨rfl, Nat.le_refl _, fun _ _ => rfl⟩

theorem Extends.trans {s₁ s₂ s₃ : ManagerState} (h₁ : Extends s₁ s₂) (h₂ : Extends s₂ s₃) :
    Extends s₁ s₃ where
  pauseSaved := h₂.pauseSaved.trans h₁.pauseSaved
  nextTask := Nat.le_trans h₁.nextTask h₂.nextTask
  tasks t ht := (h₂.tasks t (Nat.lt_of_lt_of_le ht h₁.nextTask)).trans (h₁.tasks t ht)

namespace ManagerState

variable {cfg : ManagerConfig} {s : ManagerState}

theorem tasks_setTask_self (t : Nat) (task : Task) : (s.setTask t task).tasks t = task :=
  Function.update_self _ _ _

variable {t : Nat} {P : Task → Prop} {task : Task} (task : Task)

theorem tasks_setTask_of_ne {t' : Nat} (h : t' ≠ t) :
    (s.setTask t task).tasks t' = s.tasks t' :=
  Function.update_of_ne h _ _

theorem tasks_spawn_of_ne (h : t ≠ s.nextTask) :
    (s.spawn task).tasks t = s.tasks t :=
  Function.update_of_ne h _ _

theorem forall_tasks_setTask (hself : P task) (hother : ∀ t', t' ≠ t → P (s.tasks t')) (t' : Nat) :
    P ((s.setTask t task).tasks t') :=
  forall_update (P := fun _ => P) hself hother t'

theorem spawn_extends : Extends s (s.spawn task) where
  pauseSaved := rfl
  nextTask := Nat.le_succ _
  tasks _ ht := tasks_spawn_of_ne task (Nat.ne_of_lt ht)

theorem removeSystem_extends : Extends s s.removeSystem := by
  unfold removeSystem
  split
  · exact .refl s
  · exact ⟨rfl, Nat.le_refl _, fun _ _ => rfl⟩

variable (status : Status) (wsConn : Bool)

theorem addSystem_extends :
    Extends s (s.addSystem cfg status wsConn) := by
  unfold addSystem
  split
  · exact .refl s
  · split
    · exact .refl s
    · exact ⟨rfl, Nat.le_succ _, fun _ ht => tasks_spawn_of_ne _ (Nat.ne_of_lt ht)⟩

theorem addRecord_extends :
    Extends s (s.addRecord cfg status wsConn) :=
  removeSystem_extends.trans (addSystem_extends status wsConn)

theorem setStatus_extends : Extends s (s.setStatus status) := by
  unfold setStatus
  split
  · exact .refl s
  · exact ⟨rfl, Nat.le_refl _, fun _ _ => rfl⟩

theorem onRecordAfterUpdateSuccess_extends (newStatus : Status) :
    Extends s (s.onRecordAfterUpdateSuccess cfg newStatus) := by
  have hset : Extends s (s.setStatus newStatus) := setStatus_extends newStatus
  unfold onRecordAfterUpdateSuccess
  dsimp only
  split
  · exact hset
  · split
    · exact hset.trans (spawn_extends _)
    · exact hset.trans (addRecord_extends _ _)
  · split
    · exact hset
    · exact hset.trans (addRecord_extends _ _)
  · split
    · exact hset
    · exact hset.trans (addRecord_extends _ _)

theorem handlePaused_extends (o : Nat) (ping : Bool) : Extends s (handlePaused s o ping) := by
  unfold handlePaused
  split
  · exact .refl s
  · exact removeSystem_extends

end ManagerState

/-! ## What a goroutine does -/

/-- What the manager does in a step of a goroutine, and the task that the goroutine moves on to. -/
inductive TaskMove (cfg : ManagerConfig) (s : ManagerState) (ok : Bool) :
    Task → ManagerState → Task → Prop where
  | start {o} : TaskMove cfg s ok (.starting o) s (.updating o .loop)
  | wait {o} : TaskMove cfg s ok (.starting o) s (.waiting o)
  | paused {o caller} :
    TaskMove cfg s ok (.updating o caller) (handlePaused s o ok) (finish o caller)
  | fetch {o caller} (hactive : (s.objects o).status ≠ .paused) :
    TaskMove cfg s ok (.updating o caller) s (.fetching o caller)
  | fetched {o caller} :
    TaskMove cfg s ok (.fetching o caller) s
      (if ok then .reading o caller else updateFailed o caller)
  | read {o caller} :
    TaskMove cfg s ok (.reading o caller) s (.writing o caller)
  | noRecord {o caller} :
    TaskMove cfg s ok (.reading o caller) s.removeSystem (updateFailed o caller)
  | write {o caller} :
    TaskMove cfg s ok (.writing o caller) { s with stored := .up } (.saved o caller .up)
  | writeFailed {o caller} :
    TaskMove cfg s ok (.writing o caller) s (updateFailed o caller)
  | stay {o caller} :
    TaskMove cfg s ok (.settingDown o caller) s (finish o caller)
  | setDown {o caller} (hactive : (s.objects o).status ≠ .paused) :
    TaskMove cfg s ok (.settingDown o caller) s (.downReading o caller)
  | downRead {o caller} :
    TaskMove cfg s ok (.downReading o caller) s (.downWriting o caller)
  | downNoRecord {o caller} :
    TaskMove cfg s ok (.downReading o caller) s.removeSystem (finish o caller)
  | downWrite {o caller} :
    TaskMove cfg s ok (.downWriting o caller) { s with stored := .down } (.saved o caller .down)
  | downWriteFailed {o caller} :
    TaskMove cfg s ok (.downWriting o caller) s (finish o caller)
  | hooks {o caller status} :
    TaskMove cfg s ok (.saved o caller status) (s.onRecordAfterUpdateSuccess cfg status)
      (finish o caller)
  | remove : TaskMove cfg s ok .removing s.removeSystem .done
  | edit {change loaded pauseSaved} (hok : ok = true)
    (hpause : change = .pause → pauseSaved = true)
    (hresume : change = .resume → pauseSaved = false)
    (hother : change = .other → pauseSaved = s.pauseSaved) :
    TaskMove cfg s ok (.editing change loaded)
      { s with stored := change.status loaded, pauseSaved := pauseSaved }
      (.edited (change.status loaded))
  | editFailed {change loaded} :
    TaskMove cfg s ok (.editing change loaded) s .done
  | editHooks {status} :
    TaskMove cfg s ok (.edited status) (s.onRecordAfterUpdateSuccess cfg status) .done
  | connect {loaded} :
    TaskMove cfg s ok (.connecting loaded) (s.addRecord cfg loaded true) .done
  | restore {loaded} :
    TaskMove cfg s ok (.restoring loaded) (s.addSystem cfg loaded false) .done

section Moves

variable {cfg : ManagerConfig} {s s' u : ManagerState} {t : Nat} {ok : Bool} {task task' : Task}

/-- **The steps of the goroutines**, one for each branch of `runTask`. -/
theorem runTask_moves (h : runTask cfg s t ok = some s') :
    ∃ u task', TaskMove cfg s ok (s.tasks t) u task' ∧ s' = u.setTask t task' := by
  have hmoved : ∀ {u : ManagerState} {task' : Task}, TaskMove cfg s ok (s.tasks t) u task' →
      some (u.setTask t task') = some s' →
      ∃ u task', TaskMove cfg s ok (s.tasks t) u task' ∧ s' = u.setTask t task' :=
    fun hmove hsome => ⟨_, _, hmove, (Option.some.inj hsome).symm⟩
  cases htask : s.tasks t with simp only [runTask, htask] at h hmoved
  | unused | done | waiting _ => cases h
  | starting o =>
    split at h
    · exact hmoved .start h
    · exact hmoved .wait h
  | updating o caller =>
    split at h
    · exact hmoved .paused h
    case isFalse hactive => exact hmoved (.fetch hactive) h
  | fetching o caller =>
    exact hmoved .fetched h
  | reading o caller =>
    split at h
    · exact hmoved .read h
    · exact hmoved .noRecord h
  | writing o caller =>
    split at h
    · exact hmoved .write h
    · exact hmoved .writeFailed h
  | settingDown o caller =>
    split at h
    · exact hmoved .stay h
    case isFalse hactive => exact hmoved (.setDown fun hpaused => hactive (.inr hpaused)) h
  | downReading o caller =>
    split at h
    · exact hmoved .downRead h
    · exact hmoved .downNoRecord h
  | downWriting o caller =>
    split at h
    · exact hmoved .downWrite h
    · exact hmoved .downWriteFailed h
  | saved o caller status =>
    exact hmoved .hooks h
  | removing =>
    exact hmoved .remove h
  | editing change loaded =>
    split at h
    case isTrue hok =>
      refine hmoved (.edit hok ?_ ?_ ?_) h
      all_goals
        rintro rfl
        rfl
    · exact hmoved .editFailed h
  | edited status =>
    exact hmoved .editHooks h
  | connecting loaded =>
    exact hmoved .connect h
  | restoring loaded =>
    exact hmoved .restore h

theorem TaskMove.used (hmove : TaskMove cfg s ok task u task') : task ≠ .unused := by
  rintro rfl
  cases hmove

theorem TaskMove.tasks (hmove : TaskMove cfg s ok task u task') :
    ∀ t < s.nextTask, u.tasks t = s.tasks t := by
  cases hmove with
  | paused => exact (ManagerState.handlePaused_extends _ _).tasks
  | noRecord | downNoRecord | remove => exact ManagerState.removeSystem_extends.tasks
  | hooks | editHooks => exact (ManagerState.onRecordAfterUpdateSuccess_extends _).tasks
  | connect => exact (ManagerState.addRecord_extends _ _).tasks
  | restore => exact (ManagerState.addSystem_extends _ _).tasks
  | _ => exact fun _ _ => rfl

end Moves

end Bantay.Systems
