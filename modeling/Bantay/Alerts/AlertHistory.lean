import Bantay.Lib.Pool
import Bantay.Lib.Transition

/-!
# The History of an Alert

A step model of `internal/alerts/alerts_history.go` for one alert.  When the field `triggered`
of the alert has been saved, a hook creates a history record or resolves the open one; when the
alert has been deleted, a hook resolves the open one.  The hooks do not look at the alert as it
is stored: they compare the copy that the writer has loaded with what it has saved.

A read of the alert, a save or deletion, and a hook are one step each.  A save writes every field
of the record, so it also writes back a flag that it has not changed.
-/

namespace Bantay.Alerts

open Bantay.Lib Function

/-! ## Data -/

/-- Where an operation on the alert is. -/
inductive HistoryTask where
  | unused
  /-- the record was read as `loaded`, and `triggered` is set to `value`; at `Save` -/
  | updating (loaded value : Bool)
  /-- saved; at `updateHistoryOnAlertUpdate` -/
  | updated (original new : Bool)
  /-- the record was read; at `Delete` -/
  | deleting (loaded : Bool)
  /-- deleted; at `resolveHistoryOnAlertDelete` -/
  | deleted (loaded : Bool)
  | done
deriving DecidableEq

structure HistoryState where
  /-- `triggered` of the alert; `none` once it is deleted -/
  alert : Option Bool
  /-- the history records, oldest first: whether they are resolved -/
  history : List Bool
  tasks : Nat → HistoryTask
  nextTask : Nat

def createAlertHistoryRecord (history : List Bool) : List Bool := history ++ [false]

def resolveAlertHistoryRecord : List Bool → List Bool
  | [] => []
  | true :: history => true :: resolveAlertHistoryRecord history
  | false :: history => true :: history

/-- `updateHistoryOnAlertUpdate`; `ok` is the outcome of its operations on the history. -/
def updateHistoryOnAlertUpdate (originalTriggered newTriggered ok : Bool) (history : List Bool) :
    List Bool :=
  if originalTriggered = newTriggered then
    history
  else if newTriggered then
    if ok then createAlertHistoryRecord history else history
  else
    if ok then resolveAlertHistoryRecord history else history

def resolveHistoryOnAlertDelete (triggered ok : Bool) (history : List Bool) : List Bool :=
  if !triggered then
    history
  else
    if ok then resolveAlertHistoryRecord history else history

namespace HistoryState

def setTask (s : HistoryState) (t : Nat) (task : HistoryTask) : HistoryState :=
  { s with tasks := Function.update s.tasks t task }

/-- An operation starts with its read of the alert; it ends there if the alert is gone. -/
def start (s : HistoryState) (task : Bool → HistoryTask) : Option HistoryState :=
  match s.alert with
  | none => none
  | some loaded =>
    some { s with
      tasks := Function.update s.tasks s.nextTask (task loaded)
      nextTask := s.nextTask + 1 }

def commit (s : HistoryState) (t : Nat) (ok : Bool) : Option HistoryState :=
  match s.tasks t with
  | .updating loaded value =>
    if ok then
      -- an update of a record that is gone changes nothing, and its hook runs all the same
      some ({ s with alert := s.alert.map fun _ => value }.setTask t (.updated loaded value))
    else
      some (s.setTask t .done)
  | .deleting loaded =>
    if ok then
      some ({ s with alert := none }.setTask t (.deleted loaded))
    else
      some (s.setTask t .done)
  | .unused | .updated _ _ | .deleted _ | .done => none

def hook (s : HistoryState) (t : Nat) (ok : Bool) : Option HistoryState :=
  match s.tasks t with
  | .updated original new =>
    some ({ s with history := updateHistoryOnAlertUpdate original new ok s.history }.setTask t
      .done)
  | .deleted loaded =>
    some ({ s with history := resolveHistoryOnAlertDelete loaded ok s.history }.setTask t .done)
  | .unused | .updating _ _ | .deleting _ | .done => none

end HistoryState

inductive HistoryAction where
  /-- a writer reads the alert to set `triggered` -/
  | update (value : Bool)
  | delete
  | commit (t : Nat) (ok : Bool)
  | hook (t : Nat) (ok : Bool)

def historyStep (s : HistoryState) : HistoryAction → Option HistoryState
  | .update value => s.start fun loaded => .updating loaded value
  | .delete => s.start .deleting
  | .commit t ok => s.commit t ok
  | .hook t ok => s.hook t ok

def HistoryState.init (alert : Option Bool) (history : List Bool) : HistoryState where
  alert := alert
  history := history
  tasks _ := .unused
  nextTask := 0

/-! ## The property and the condition -/

section

variable (s : HistoryState)

/-- The number of open history records. -/
def HistoryState.unresolved : Nat := s.history.count false

/-- At most one record is open, and one is open exactly if the alert exists and is triggered. -/
def HistoryMatches : Prop :=
  s.unresolved ≤ 1 ∧ (s.unresolved = 1 ↔ s.alert = some true)

/-- The operation has changed the alert, and its hook is still to come. -/
def HistoryTask.atHook : HistoryTask → Bool
  | .updated original new => original != new
  | .deleted _ => true
  | .unused | .updating _ _ | .deleting _ | .done => false

/-- No operation is in flight. -/
def AllDone : Prop :=
  ∀ t < s.nextTask, s.tasks t = .done

/-- The alert still is as the operation has loaded it, and no other one that has changed it is
    before its hook. -/
def MayCommit (loaded : Bool) : Prop :=
  s.alert = some loaded ∧ ∀ t < s.nextTask, (s.tasks t).atHook = false

/-- What changes the stored flag or makes its hook act has to be allowed to. -/
def CommitGuard : HistoryTask → Prop
  | .updating loaded value => loaded ≠ value ∨ s.alert = some !value → MayCommit s loaded
  | .deleting loaded => MayCommit s loaded
  | .unused | .updated _ _ | .deleted _ | .done => True

/-- Operations change the alert only if they may, and the hooks do not fail. -/
def HistoryGuard : HistoryAction → Prop
  | .commit t true => CommitGuard s (s.tasks t)
  | .hook _ ok => ok = true
  | .update _ | .delete | .commit _ false => True

instance (loaded : Bool) : Decidable (MayCommit s loaded) :=
  inferInstanceAs (Decidable (_ ∧ _))

instance (task : HistoryTask) : Decidable (CommitGuard s task) := by
  unfold CommitGuard
  split <;> infer_instance

instance (a : HistoryAction) : Decidable (HistoryGuard s a) := by
  unfold HistoryGuard
  split <;> infer_instance

end

/-! ## Open records -/

/-- The number of open records that an alert should have. -/
def openFor (alert : Option Bool) : Nat := if alert = some true then 1 else 0

variable {s : HistoryState} {history : List Bool} {loaded : Bool} {alert : Option Bool} {t : Nat}

theorem historyMatches_of_eq (h : s.unresolved = openFor s.alert) :
    HistoryMatches s := by
  rw [HistoryMatches, h, openFor]
  split <;> simp_all

theorem HistoryMatches.eq (h : HistoryMatches s) :
    s.unresolved = openFor s.alert := by
  obtain ⟨hle, hiff⟩ := h
  rw [openFor]
  split
  · next htrig => exact hiff.mpr htrig
  · next htrig =>
    have hne : s.unresolved ≠ 1 := fun hone => htrig (hiff.mp hone)
    omega

theorem count_createAlertHistoryRecord (history : List Bool) :
    (createAlertHistoryRecord history).count false = history.count false + 1 := by
  simp [createAlertHistoryRecord]

theorem count_resolveAlertHistoryRecord (history : List Bool) :
    (resolveAlertHistoryRecord history).count false = history.count false - 1 := by
  induction history with
  | nil => rfl
  | cons resolved history ih =>
    cases resolved with
    | true =>
      rw [resolveAlertHistoryRecord, List.count_cons_of_ne (by decide), ih,
        List.count_cons_of_ne (by decide)]
    | false =>
      rw [resolveAlertHistoryRecord, List.count_cons_of_ne (by decide), List.count_cons_self,
        Nat.add_sub_cancel]

theorem count_updateHistory {original new : Bool}
    (h : history.count false = openFor (some original)) :
    (updateHistoryOnAlertUpdate original new true history).count false = openFor (some new) := by
  cases original <;> cases new
  · exact h
  · -- triggered: one more record is open
    rw [updateHistoryOnAlertUpdate, if_neg (by decide), if_pos rfl, if_pos rfl,
      count_createAlertHistoryRecord, h]
    rfl
  · -- resolved: the open record is closed
    rw [updateHistoryOnAlertUpdate, if_neg (by decide), if_neg (by decide), if_pos rfl,
      count_resolveAlertHistoryRecord, h]
    rfl
  · exact h

theorem count_resolveOnDelete (h : history.count false = openFor (some loaded)) :
    (resolveHistoryOnAlertDelete loaded true history).count false = 0 := by
  cases loaded
  · exact h
  · rw [resolveHistoryOnAlertDelete, if_neg (by decide), if_pos rfl,
      count_resolveAlertHistoryRecord, h]
    rfl

/-! ## The invariant -/

/-- The alert as the operation has left it, and the history as it was before. -/
def HookInv (s : HistoryState) : HistoryTask → Prop
  | .updated original new =>
    original ≠ new → s.alert = some new ∧ s.unresolved = openFor (some original)
  | .deleted loaded => s.alert = none ∧ s.unresolved = openFor (some loaded)
  | .unused | .updating _ _ | .deleting _ | .done => True

/-- The open records fit the alert, once no hook is to run. -/
structure HistoryInv (s : HistoryState) : Prop where
  numbered : ∀ t, s.nextTask ≤ t → s.tasks t = .unused
  single : ∀ t t', (s.tasks t).atHook = true → (s.tasks t').atHook = true → t = t'
  hooks : ∀ t, HookInv s (s.tasks t)
  settled : (∀ t, (s.tasks t).atHook = false) → s.unresolved = openFor s.alert

theorem HistoryInv.init (h : HistoryMatches (.init alert history)) :
    HistoryInv (.init alert history) where
  numbered _ _ := rfl
  single _ _ ht := by cases ht
  hooks _ := trivial
  settled _ := h.eq

variable {task : HistoryTask}

theorem hookInv_of_not_atHook (h : task.atHook = false) : HookInv s task := by
  cases task with
  | updated original new => exact fun hne => absurd (bne_eq_false_iff_eq.mp h) hne
  | deleted _ => cases h
  | unused | updating _ _ | deleting _ | done => trivial

theorem atHook_update {tasks : Nat → HistoryTask} {t' : Nat} (htask : task.atHook = false)
    (h : (update tasks t task t').atHook = true) : (tasks t').atHook = true ∧ t' ≠ t := by
  by_cases ht : t' = t
  · subst ht
    rw [update_self, htask] at h
    cases h
  · rw [update_of_ne ht] at h
    exact ⟨h, ht⟩

theorem HistoryInv.move (h : HistoryInv s) {next : Nat} (hbef : (s.tasks t).atHook = false)
    (hafter : task.atHook = false)
    (hnum : ∀ t', next ≤ t' → update s.tasks t task t' = .unused) :
    HistoryInv { s with tasks := update s.tasks t task, nextTask := next } where
  numbered := hnum
  single := by
    intro t₁ t₂ h₁ h₂
    exact h.single t₁ t₂ (atHook_update hafter h₁).1 (atHook_update hafter h₂).1
  hooks := by
    apply forall_update (P := fun _ task => HookInv s task)
    · exact hookInv_of_not_atHook hafter
    · exact fun t' _ => h.hooks t'
  settled := by
    intro hnone
    apply h.settled
    intro t'
    by_cases ht : t' = t
    · rw [ht]
      exact hbef
    · have := hnone t'
      simp only [update_of_ne ht] at this
      exact this

theorem HistoryInv.commit (h : HistoryInv s) (hused : s.tasks t ≠ .unused)
    (hmay : MayCommit s loaded) (htask : task.atHook = true)
    (hinv : ∀ s' : HistoryState, s'.alert = alert → s'.unresolved = openFor (some loaded) →
      HookInv s' task) :
    HistoryInv ({ s with alert := alert }.setTask t task) := by
  have hnone : ∀ t', (s.tasks t').atHook = false := by
    intro t'
    rcases Nat.lt_or_ge t' s.nextTask with hlt | hge
    · exact hmay.2 t' hlt
    · rw [h.numbered t' hge]
      rfl
  have hothers : ∀ t', (update s.tasks t task t').atHook = true → t' = t := by
    intro t' ht'
    by_contra hne
    rw [update_of_ne hne, hnone t'] at ht'
    cases ht'
  -- the history is still that of the alert as it was loaded
  have hunres : s.unresolved = openFor (some loaded) := by
    rw [h.settled hnone, hmay.1]
  constructor
  · exact numbered_update h.numbered hused
  · intro t₁ t₂ h₁ h₂
    exact (hothers t₁ h₁).trans (hothers t₂ h₂).symm
  · refine forall_update (P := fun _ => HookInv ({ s with alert := alert }.setTask t task)) ?_ ?_
    · exact hinv _ rfl hunres
    · exact fun t' _ => hookInv_of_not_atHook (hnone t')
  · intro hall
    have hself := hall t
    simp only [HistoryState.setTask, update_self, htask] at hself
    cases hself

theorem HistoryInv.hook (h : HistoryInv s) (hat : (s.tasks t).atHook = true)
    (hcount : history.count false = openFor s.alert) :
    HistoryInv ({ s with history := history }.setTask t .done) := by
  have hnone : ∀ t', (update s.tasks t .done t').atHook = false := by
    intro t'
    by_contra htrue
    obtain ⟨hother, hne⟩ := atHook_update rfl (Bool.not_eq_false _ ▸ htrue)
    exact hne (h.single t' t hother hat)
  have hused : s.tasks t ≠ .unused := by
    intro hunused
    rw [hunused] at hat
    cases hat
  constructor
  · exact numbered_update h.numbered hused
  · intro t₁ t₂ h₁ _
    exact absurd ((hnone t₁).symm.trans h₁) (by decide)
  · exact fun t' => hookInv_of_not_atHook (hnone t')
  · exact fun _ => hcount

variable {s' : HistoryState}

theorem HistoryInv.start (h : HistoryInv s) {task : Bool → HistoryTask}
    (htask : ∀ loaded, (task loaded).atHook = false) (hstart : s.start task = some s') :
    HistoryInv s' := by
  unfold HistoryState.start at hstart
  split at hstart
  · cases hstart
  · next loaded _ =>
    cases hstart
    apply h.move
    · rw [h.numbered s.nextTask (Nat.le_refl _)]
      rfl
    · exact htask loaded
    · exact numbered_spawn h.numbered

theorem HistoryInv.setTask (h : HistoryInv s) {old : HistoryTask} (htask : s.tasks t = old)
    (hafter : task.atHook = false) (hbef : old.atHook = false := by rfl)
    (hused : old ≠ .unused := by nofun) : HistoryInv (s.setTask t task) :=
  h.move (htask ▸ hbef) hafter (numbered_update h.numbered (htask ▸ hused))

/-- A commit leaves its hook with the records of the alert before it. -/
theorem historyInv_commit {ok : Bool} (h : HistoryInv s) (hG : HistoryGuard s (.commit t ok))
    (hstep : historyStep s (.commit t ok) = some s') : HistoryInv s' := by
  simp only [historyStep, HistoryState.commit] at hstep
  cases htask : s.tasks t with rw [htask] at hstep
  | unused | updated _ _ | deleted _ | done => cases hstep
  | updating loaded value =>
    cases ok with cases hstep
    | false =>
      exact h.setTask htask rfl
    | true =>
      simp only [HistoryGuard, htask, CommitGuard] at hG
      by_cases hsame : loaded = value
      · -- the hook does nothing, so the save must not change the flag that is stored
        subst hsame
        have hkept : (s.alert.map fun _ => loaded) = s.alert := by
          cases halert : s.alert with
          | none => rfl
          | some stored =>
            rw [halert] at hG
            by_cases heq : stored = loaded
            · rw [heq]
              rfl
            · have hmay := hG (.inr (congrArg some (Bool.eq_not_of_ne heq)))
              exact hmay.1.symm.trans halert
        rw [hkept]
        exact h.setTask htask (bne_self_eq_false loaded)
      · have hmay := hG (.inl hsame)
        refine h.commit (by rw [htask]; nofun) hmay ?_ ?_
        · exact bne_iff_ne.mpr hsame
        intro s' halert hunres _
        exact ⟨by rw [halert, hmay.1, Option.map_some], hunres⟩
  | deleting loaded =>
    cases ok with cases hstep
    | false =>
      exact h.setTask htask rfl
    | true =>
      simp only [HistoryGuard, htask, CommitGuard] at hG
      apply h.commit (by rw [htask]; nofun) hG rfl
      exact fun s' halert hunres => ⟨halert, hunres⟩

theorem historyInv_hook (h : HistoryInv s)
    (hstep : historyStep s (.hook t true) = some s') : HistoryInv s' := by
  simp only [historyStep, HistoryState.hook] at hstep
  have hinv := h.hooks t
  cases htask : s.tasks t with rw [htask] at hstep hinv
  | unused | updating _ _ | deleting _ | done => cases hstep
  | updated original new =>
    cases hstep
    by_cases hsame : original = new
    · rw [updateHistoryOnAlertUpdate, if_pos hsame]
      exact h.setTask htask rfl (by rw [hsame]; exact bne_self_eq_false new)
    · obtain ⟨halert, hunres⟩ := hinv hsame
      apply h.hook (by rw [htask]; exact bne_iff_ne.mpr hsame)
      rw [halert]
      exact count_updateHistory hunres
  | deleted loaded =>
    cases hstep
    apply h.hook (by rw [htask]; rfl)
    rw [hinv.1]
    exact count_resolveOnDelete hinv.2

/-- **One step** keeps the history in line with the alert. -/
theorem historyInv_step {a : HistoryAction} (h : HistoryInv s)
    (hG : HistoryGuard s a) (hstep : historyStep s a = some s') : HistoryInv s' := by
  cases a with
  | update value => exact h.start (fun _ => rfl) hstep
  | delete => exact h.start (fun _ => rfl) hstep
  | commit t ok => exact historyInv_commit h hG hstep
  | hook t ok =>
    obtain rfl : ok = true := hG
    exact historyInv_hook h hstep

/-! ## Runs -/

/-- **The history matches the alert** whenever no operation is in flight, if an operation changes
    the alert only as it has loaded it and after the hooks of all earlier changes. -/
theorem history_matches_alert (alert : Option Bool) (history : List Bool)
    (as : List HistoryAction) (hstart : HistoryMatches (.init alert history))
    (hG : EveryStep historyStep HistoryGuard (.init alert history) as) :
    EveryState historyStep (fun s => AllDone s → HistoryMatches s) (.init alert history) as := by
  apply everyState_of_invariant (I := HistoryInv)
  · intro s a s' h hguard hstep
    exact historyInv_step h hguard hstep
  · intro s h hdone
    apply historyMatches_of_eq
    apply h.settled
    intro t
    rcases Nat.lt_or_ge t s.nextTask with hlt | hge
    · rw [hdone t hlt]
      rfl
    · rw [h.numbered t hge]
      rfl
  · exact HistoryInv.init hstart
  · exact hG

/-- The alert is triggered, resolved, triggered again and deleted. -/
def alertLife : List HistoryAction :=
  [.update true, .commit 0 true, .hook 0 true, .update false, .commit 1 true, .hook 1 true,
    .update true, .commit 2 true, .hook 2 true, .delete, .commit 3 true, .hook 3 true]

theorem sequential_operations_match :
    ((exec historyStep (.init (some false) []) alertLife).map fun s => s.history) =
      some [true, true] ∧
    EveryState historyStep (fun s => AllDone s → HistoryMatches s) (.init (some false) [])
      alertLife := by
  constructor
  · decide +kernel
  · apply history_matches_alert
    · rw [HistoryMatches]
      decide
    · decide +kernel

/-- **Two writers open two records**: both have loaded the alert before it was triggered. -/
theorem two_writers_open_two_records :
    ∃ t, exec historyStep (.init (some false) [])
        [.update true, .update true, .commit 0 true, .commit 1 true, .hook 0 true,
          .hook 1 true] = some t ∧
      AllDone t ∧ ¬ HistoryMatches t := by
  refine ⟨_, rfl, ?_, ?_⟩
  · rw [AllDone]
    decide +kernel
  · rw [HistoryMatches]
    decide +kernel

end Bantay.Alerts
