import Bantay.Systems.SystemManager

/-!
# A Pause that Stands

A user pauses a system by saving `paused`.  The updater learns of it through the hook, which
sets the status of the object in the manager, and looks at that status before it fetches.
What it writes after the fetch is not checked again.
-/

namespace Bantay.Systems

open Bantay.Lib Function ManagerState

/-! ## The property and the condition -/

/-- The status `paused` that a user saved is stored until a user resumes the system. -/
def PauseStands (s : ManagerState) : Prop := s.pauseSaved = true → s.stored = .paused

/-- The goroutine is not past its look at the status in memory, and carries no status but
    `paused`. -/
def Task.Settled : Task → Prop
  | .fetching _ _ | .reading _ _ | .writing _ _ | .downReading _ _ | .downWriting _ _
  | .saved _ _ _ | .restoring _ => False
  | .editing .other loaded => loaded = .paused
  | .edited status | .connecting status => status = .paused
  | _ => True

instance : DecidablePred Task.Settled := by
  intro task
  unfold Task.Settled
  split <;> infer_instance

/-- A pause is committed when all other goroutines are settled.  While it lasts, an updater looks
    at the status only after the hook of the pause and on the object in the manager. -/
def PauseGuard (s : ManagerState) : ManagerAction → Prop
  | .run t ok =>
    match s.tasks t with
    | .editing .pause _ => ok = true → ∀ t' < s.nextTask, t' ≠ t → (s.tasks t').Settled
    | .updating o _ | .settingDown o _ =>
      s.pauseSaved = true →
        s.current = some o ∧ ∀ t' < s.nextTask, s.tasks t' ≠ .edited .paused
    | _ => True
  | _ => True

instance (s : ManagerState) (a : ManagerAction) : Decidable (PauseGuard s a) := by
  unfold PauseGuard
  split
  · split <;> infer_instance
  · infer_instance

/-! ## The invariant -/

def HookPending (s : ManagerState) : Prop := ∃ t, s.tasks t = .edited .paused

def MemoryPaused (s : ManagerState) : Prop :=
  ∀ o, s.current = some o → (s.objects o).status = .paused

/-- Once a pause is saved no task can undo it, and the object is paused or its hook is to run. -/
structure PauseInv (s : ManagerState) : Prop where
  numbered : ∀ t, s.nextTask ≤ t → s.tasks t = .unused
  stands : PauseStands s
  settled : s.pauseSaved = true → ∀ t, (s.tasks t).Settled
  seen : s.pauseSaved = true → HookPending s ∨ MemoryPaused s

namespace PauseInv

variable {cfg : ManagerConfig} {s : ManagerState}

theorem init (stored : Status) : PauseInv (.init stored) where
  numbered := by
    intro t ht
    refine if_neg ?_
    rintro ⟨rfl, -⟩
    exact absurd ht (Nat.not_succ_le_zero 0)
  stands := by
    intro h
    cases h
  settled := by
    intro h
    cases h
  seen := by
    intro h
    cases h

variable {t : Nat} {task : Task} {u : ManagerState}

section

variable (h : PauseInv s)
include h

theorem lt_nextTask (ht : s.tasks t ≠ .unused) : t < s.nextTask :=
  lt_next_of_used h.numbered ht

theorem setTask (hused : s.tasks t ≠ .unused) (hsettled : s.pauseSaved = true → task.Settled)
    (hhook : s.pauseSaved = true → s.tasks t = .edited .paused → MemoryPaused s) :
    PauseInv (s.setTask t task) where
  numbered := numbered_update h.numbered hused
  stands := h.stands
  settled := by
    intro hsaved
    apply ManagerState.forall_tasks_setTask
    · exact hsettled hsaved
    · intro t' _
      exact h.settled hsaved t'
  seen := by
    intro hsaved
    rcases h.seen hsaved with ⟨t', ht'⟩ | hmemo
    · by_cases ht : t' = t
      · rw [ht] at ht'
        exact .inr (hhook hsaved ht')
      · exact .inl ⟨t', (ManagerState.tasks_setTask_of_ne task ht).trans ht'⟩
    · exact .inr hmemo

theorem spawn (hsettled : s.pauseSaved = true → task.Settled) : PauseInv (s.spawn task) where
  numbered := numbered_spawn h.numbered
  stands := h.stands
  settled := by
    intro hsaved
    apply forall_update (P := fun _ => Task.Settled)
    · exact hsettled hsaved
    · intro t _
      exact h.settled hsaved t
  seen := by
    intro hsaved
    rcases h.seen hsaved with ⟨t, ht⟩ | hmemo
    · have hlt := h.lt_nextTask (by rw [ht]; nofun)
      exact .inl ⟨t, (ManagerState.tasks_spawn_of_ne task (Nat.ne_of_lt hlt)).trans ht⟩
    · exact .inr hmemo

theorem of_objects (hstored : u.stored = s.stored)
    (hsaved : u.pauseSaved = s.pauseSaved) (htasks : u.tasks = s.tasks)
    (hnext : u.nextTask = s.nextTask)
    (hmemo : s.pauseSaved = true → MemoryPaused s → MemoryPaused u) : PauseInv u where
  numbered := by
    rw [hnext, htasks]
    exact h.numbered
  stands := by
    intro hu
    rw [hstored]
    exact h.stands (hsaved ▸ hu)
  settled := by
    rw [hsaved, htasks]
    exact h.settled
  seen := by
    intro hu
    rw [hsaved] at hu
    rcases h.seen hu with ⟨t, ht⟩ | hm
    · exact .inl ⟨t, by rw [htasks, ht]⟩
    · exact .inr (hmemo hu hm)

theorem removeSystem : PauseInv s.removeSystem := by
  unfold ManagerState.removeSystem
  split
  · exact h
  · refine h.of_objects rfl rfl rfl rfl ?_
    intro _ _ o ho
    cases ho

end

variable {status : Status}

theorem addSystem (h : PauseInv s) (wsConn : Bool)
    (hstat : s.pauseSaved = true → status = .paused) :
    PauseInv (s.addSystem cfg status wsConn) := by
  unfold ManagerState.addSystem
  split
  · exact h
  · split
    · exact h
    · refine PauseInv.spawn ?_ (fun _ => trivial)
      refine h.of_objects rfl rfl rfl rfl ?_
      intro hsaved _ o ho
      cases ho
      show (update s.objects s.nextObject _ s.nextObject).status = _
      rw [update_self]
      exact hstat hsaved

theorem addRecord (h : PauseInv s) (wsConn : Bool)
    (hstat : s.pauseSaved = true → status = .paused) :
    PauseInv (s.addRecord cfg status wsConn) := by
  refine h.removeSystem.addSystem wsConn ?_
  rw [removeSystem_extends.pauseSaved]
  exact hstat

theorem memoryPaused_setStatus : MemoryPaused (s.setStatus .paused) := by
  unfold setStatus
  split
  · rename_i hnone
    intro o ho
    rw [hnone] at ho
    cases ho
  · rename_i o hsome
    intro o' ho'
    obtain rfl : o = o' := Option.some.inj (hsome.symm.trans ho')
    show (update s.objects o _ o).status = _
    rw [update_self]

theorem setStatus (h : PauseInv s)
    (hstat : s.pauseSaved = true → status = .paused) : PauseInv (s.setStatus status) := by
  unfold ManagerState.setStatus
  split
  · exact h
  · rename_i o hsome
    refine h.of_objects rfl rfl rfl rfl ?_
    intro hsaved _ o' ho'
    obtain rfl : o = o' := Option.some.inj (hsome.symm.trans ho')
    show (update s.objects o _ o).status = _
    rw [update_self]
    exact hstat hsaved

theorem onRecordAfterUpdateSuccess (h : PauseInv s)
    (hstat : s.pauseSaved = true → status = .paused) :
    PauseInv (s.onRecordAfterUpdateSuccess cfg status) := by
  have hset : PauseInv (s.setStatus status) := h.setStatus hstat
  have hstat' : (s.setStatus status).pauseSaved = true → status = .paused := by
    rw [(setStatus_extends status).pauseSaved]
    exact hstat
  unfold ManagerState.onRecordAfterUpdateSuccess
  dsimp only
  split
  · exact hset
  · split
    · exact hset.spawn (fun _ => trivial)
    · exact hset.addRecord false hstat'
  · split
    · exact hset
    · exact hset.addRecord false hstat'
  · split
    · exact hset
    · exact hset.addRecord false hstat'

theorem handlePaused (h : PauseInv s) (o : Nat) (ping : Bool) :
    PauseInv (handlePaused s o ping) := by
  unfold Systems.handlePaused
  split
  · exact h
  · exact h.removeSystem

theorem after (h : PauseInv s) (hu : PauseInv u) (hext : Extends s u) {task' : Task}
    (htask : s.tasks t = task) (hsettled : s.pauseSaved = true → task'.Settled)
    (hhook : s.pauseSaved = true → task = .edited .paused → MemoryPaused u := by nofun)
    (hused : task ≠ .unused := by nofun) : PauseInv (u.setTask t task') := by
  have hlt : t < s.nextTask := h.lt_nextTask (htask ▸ hused)
  have hsame : u.tasks t = task := (hext.tasks t hlt).trans htask
  refine hu.setTask (hsame ▸ hused) ?_ ?_
  · rw [hext.pauseSaved]
    exact hsettled
  · rw [hext.pauseSaved, hsame]
    exact hhook

end PauseInv

/-! ## One step -/

section Step

variable {cfg : ManagerConfig} {s s' : ManagerState}

theorem finish_settled (o : Nat) (caller : Caller) : (finish o caller).Settled := by
  cases caller <;> trivial

variable (h : PauseInv s)
include h

variable {o t : Nat} {ok : Bool}

theorem PauseInv.status_eq_paused (hsaved : s.pauseSaved = true) (hcur : s.current = some o)
    (hhook : ∀ t < s.nextTask, s.tasks t ≠ .edited .paused) :
    (s.objects o).status = .paused := by
  rcases h.seen hsaved with ⟨t, ht⟩ | hmemo
  · have hlt := h.lt_nextTask (by rw [ht]; nofun)
    exact absurd ht (hhook t hlt)
  · exact hmemo o hcur

theorem editing_pauseInv {change : Change} {loaded : Status} {pauseSaved : Bool}
    (htask : s.tasks t = .editing change loaded) (hG : PauseGuard s (.run t true))
    (hpause : change = .pause → pauseSaved = true)
    (hresume : change = .resume → pauseSaved = false)
    (hother : change = .other → pauseSaved = s.pauseSaved) :
    PauseInv ({ s with stored := change.status loaded, pauseSaved := pauseSaved }.setTask t
      (.edited (change.status loaded))) := by
  have hused : s.tasks t ≠ .unused := by rw [htask]; nofun
  have hnum : ∀ t', s.nextTask ≤ t' →
      update s.tasks t (.edited (change.status loaded)) t' = .unused :=
    numbered_update h.numbered hused
  cases change with
  | pause =>
    obtain rfl := hpause rfl
    simp only [PauseGuard, htask] at hG
    refine ⟨hnum, ?_, ?_, ?_⟩
    · exact fun _ => rfl
    · intro _
      apply forall_tasks_setTask
      · rfl
      · intro t' ht
        show (s.tasks t').Settled
        by_cases hlt : t' < s.nextTask
        · exact hG trivial t' hlt ht
        · rw [h.numbered t' (Nat.le_of_not_lt hlt)]
          trivial
    · intro _
      exact .inl ⟨t, tasks_setTask_self t _⟩
  | resume =>
    -- from here on the status may change
    obtain rfl := hresume rfl
    refine ⟨hnum, ?_, ?_, ?_⟩ <;> exact fun hsaved => by cases hsaved
  | other =>
    obtain rfl := hother rfl
    -- a request that is settled writes the pause back
    have hload : s.pauseSaved = true → loaded = .paused := fun hsaved => by
      have hsettled := h.settled hsaved t
      rwa [htask] at hsettled
    have hu : PauseInv { s with stored := loaded } := ⟨h.numbered, hload, h.settled, h.seen⟩
    refine h.after hu ⟨rfl, Nat.le_refl _, fun _ _ => rfl⟩ htask hload ?_
    · intro _ hedited
      cases hedited

theorem PauseInv.looking_paused {caller : Caller}
    (hlook : s.tasks t = .updating o caller ∨ s.tasks t = .settingDown o caller)
    (hG : PauseGuard s (.run t ok)) (hsaved : s.pauseSaved = true) :
    (s.objects o).status = .paused := by
  have hguard : s.current = some o ∧ ∀ t' < s.nextTask, s.tasks t' ≠ .edited .paused := by
    rcases hlook with htask | htask
    · simp only [PauseGuard, htask] at hG
      exact hG hsaved
    · simp only [PauseGuard, htask] at hG
      exact hG hsaved
  exact h.status_eq_paused hsaved hguard.1 hguard.2

theorem PauseInv.store (hnot : ¬ s.pauseSaved = true) (status : Status) :
    PauseInv { s with stored := status } :=
  ⟨h.numbered, fun hsaved => absurd hsaved hnot, h.settled, h.seen⟩

/-- A goroutine that meets the condition takes no step that undoes a pause. -/
theorem runTask_pauseInv (hG : PauseGuard s (.run t ok)) (hstep : runTask cfg s t ok = some s') :
    PauseInv s' := by
  obtain ⟨u, task', hmove, rfl⟩ := runTask_moves hstep
  generalize htask : s.tasks t = task at hmove
  have settled : s.pauseSaved = true → task.Settled := fun hsaved => htask ▸ h.settled hsaved t
  -- a goroutine that is not settled runs when there is no pause, and may move on to any task
  have moves : ¬ task.Settled → (¬ s.pauseSaved = true → PauseInv u) → Extends s u →
      PauseInv (u.setTask t task') := by
    intro hunsettled hu hext
    have hnot : ¬ s.pauseSaved = true := fun hsaved => hunsettled (settled hsaved)
    exact h.after (hu hnot) hext htask (fun hsaved => absurd hsaved hnot)
      (fun hsaved => absurd hsaved hnot) hmove.used
  cases hmove with
  | start | wait | editFailed =>
    exact h.after h (.refl s) htask fun _ => trivial
  | paused =>
    exact h.after (h.handlePaused _ ok) (handlePaused_extends _ ok) htask
      fun _ => finish_settled _ _
  | fetch hactive =>
    exact h.after h (.refl s) htask
      fun hsaved => absurd (h.looking_paused (.inl htask) hG hsaved) hactive
  | stay =>
    exact h.after h (.refl s) htask fun _ => finish_settled _ _
  | setDown hactive =>
    exact h.after h (.refl s) htask
      fun hsaved => absurd (h.looking_paused (.inr htask) hG hsaved) hactive
  | edit hok hpause hresume hother =>
    subst hok
    exact editing_pauseInv h htask hG hpause hresume hother
  | remove =>
    exact h.after h.removeSystem removeSystem_extends htask fun _ => trivial
  | editHooks =>
    refine h.after (h.onRecordAfterUpdateSuccess settled)
      (onRecordAfterUpdateSuccess_extends _) htask (fun _ => trivial) ?_
    intro _ heq
    cases heq
    exact PauseInv.memoryPaused_setStatus
  | connect =>
    exact h.after (h.addRecord true settled) (addRecord_extends _ true) htask
      fun _ => trivial
  -- from here on the task carries a poll or a status read before, so there is no pause
  | restore =>
    exact moves id (fun hnot => h.addSystem false (fun hsaved => absurd hsaved hnot))
      (addSystem_extends _ false)
  | fetched | read | writeFailed | downRead | downWriteFailed =>
    exact moves id (fun _ => h) (.refl s)
  | noRecord | downNoRecord =>
    exact moves id (fun _ => h.removeSystem) removeSystem_extends
  | write | downWrite =>
    exact moves id (fun hnot => h.store hnot _) ⟨rfl, Nat.le_refl _, fun _ _ => rfl⟩
  | hooks =>
    exact moves id
      (fun hnot => h.onRecordAfterUpdateSuccess (fun hsaved => absurd hsaved hnot))
      (onRecordAfterUpdateSuccess_extends _)

theorem PauseInv.dropConn (o : Nat) :
    PauseInv (s.setObject o { s.objects o with wsConn := false }) := by
  refine h.of_objects rfl rfl rfl rfl ?_
  intro _ hmemo o' ho'
  have hstat : (update s.objects o { s.objects o with wsConn := false } o').status =
      (s.objects o').status := by
    by_cases ho : o' = o
    · subst ho
      rw [update_self]
    · rw [update_of_ne ho]
  exact hstat.trans (hmemo o' ho')

/-- **One step** keeps a pause that has been saved. -/
theorem pauseInv_step {a : ManagerAction} (hG : PauseGuard s a)
    (hstep : managerStep cfg s a = some s') : PauseInv s' := by
  cases a with simp only [managerStep] at hstep
  | tick t =>
    split at hstep
    · rename_i o htask
      cases hstep
      exact h.after h (.refl s) htask fun _ => trivial
    · cases hstep
  | connDown t =>
    split at hstep
    · rename_i o htask
      split at hstep
      · cases hstep
        exact h.after (h.dropConn o) ⟨rfl, Nat.le_refl _, fun _ _ => rfl⟩ htask
          fun _ => trivial
      · cases hstep
    · cases hstep
  | stop t =>
    split at hstep
    · rename_i o htask
      split at hstep
      · cases hstep
        exact h.after h (.refl s) htask fun _ => trivial
      · cases hstep
    · cases hstep
  | run t ok => exact runTask_pauseInv h hG hstep
  | edit change =>
    cases hstep
    -- a save of other fields carries the status it loads, which is the stored one
    refine h.spawn ?_
    intro hsaved
    cases change with
    | pause => trivial
    | resume => trivial
    | other => exact h.stands hsaved
  | connect =>
    cases hstep
    exact h.spawn h.stands
  | rotate =>
    split at hstep
    · cases hstep
      exact h.spawn (fun _ => trivial)
    · cases hstep
      exact h

end Step

/-! ## Runs -/

/-- **A pause stands** until a user resumes the system, in every run that meets the
    condition. -/
theorem pause_stands (cfg : ManagerConfig) (stored : Status) (as : List ManagerAction)
    (hG : EveryStep (managerStep cfg) PauseGuard (.init stored) as) :
    EveryState (managerStep cfg) PauseStands (.init stored) as := by
  apply everyState_of_invariant (I := PauseInv)
  · intro s a s' h hguard hstep
    exact pauseInv_step h hguard hstep
  · intro s h
    exact h.stands
  · exact PauseInv.init stored
  · exact hG

def sampleManager : ManagerConfig := ⟨"10.0.0.1"⟩

/-- The hub starts, the agent connects and is polled once. -/
def firstPollRun : List ManagerAction :=
  [.run 0 true, .connect, .run 2 true, .run 3 true, .run 3 true, .run 3 true, .run 3 true,
    .run 3 true, .run 3 true]

/-- The user pauses the system between two polls, and resumes it later. -/
def pauseRun : List ManagerAction :=
  firstPollRun ++ [.edit .pause, .run 4 true, .run 4 true, .tick 3, .run 3 true, .connDown 3,
    .run 3 true, .connect, .run 5 true, .run 6 true, .tick 6, .run 6 true, .edit .resume,
    .run 7 true, .run 7 true, .run 8 true, .run 8 true, .run 8 true, .run 8 true]

theorem pause_between_polls_stands :
    (exec (managerStep sampleManager) (.init .pending) pauseRun).isSome = true ∧
      EveryStep (managerStep sampleManager) PauseGuard (.init .pending) pauseRun ∧
      EveryState (managerStep sampleManager) PauseStands (.init .pending) pauseRun := by
  have hguard : EveryStep (managerStep sampleManager) PauseGuard (.init .pending) pauseRun := by
    decide +kernel
  exact ⟨by decide +kernel, hguard, pause_stands sampleManager .pending pauseRun hguard⟩

/-- The user pauses the system while the agent is being polled. -/
def pausedPollRun : List ManagerAction :=
  firstPollRun ++ [.tick 3, .run 3 true, .edit .pause, .run 4 true, .run 4 true, .run 3 true,
    .run 3 true, .run 3 true]

/-- **A poll takes the pause back**: the answer of the agent is saved after the pause. -/
theorem poll_overwrites_pause :
    ∃ t, exec (managerStep sampleManager) (.init .pending) pausedPollRun = some t ∧
      t.pauseSaved = true ∧ t.stored = .up :=
  ⟨_, rfl, rfl, rfl⟩

end Bantay.Systems
