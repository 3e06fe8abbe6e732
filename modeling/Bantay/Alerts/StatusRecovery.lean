import Bantay.Alerts.StatusAlerts

/-!
# No Status Alert of a System that is Up

A Status alert is triggered by the callback of a timer and resolved by the hook of the save
that brings the system up again.  Both work step by step: the callback removes its pending
entry first and marks the alert later, and the hook looks for the entry first and at a copy of
the mark later.
-/

namespace Bantay.Alerts

open Bantay.Lib Function List AlertState
open Bantay.Systems (Status)

/-! ## The property and the condition -/

/-- A hook of a saved status, from the commit to its end. -/
def Job.isHook : Job → Bool
  | .dispatching _ | .deactivating _ | .clearing _ _ | .cleared _ _ _ | .cancelling _
  | .handling _ | .scheduling _ | .arming _ _ _ | .recovering _ | .resolving _ _
  | .resolveSaving _ _ | .resolved _ _ => true
  | _ => false

/-- A callback that has taken its entry. -/
def Job.hasTaken : Job → Bool
  | .refreshing _ | .triggering _ | .triggerSaving _ | .triggered _ => true
  | _ => false

/-- A hook or a callback, also one that is about to look for its entry. -/
def Job.inFlight (job : Job) : Bool :=
  job.isHook || job.hasTaken || match job with
    | .taking _ => true
    | _ => false

def Clear (s : AlertState) (id : Nat) : Prop := s.triggered id = false ∧ s.pending id = none
deriving Decidable

/-- Between hooks and callbacks, no Status alert of a system that is up is triggered. -/
def ResolvedWhenUp (cfg : AlertConfig) (s : AlertState) : Prop :=
  (∀ t, (s.jobs t).inFlight = false) → s.stored = .up →
    ∀ id ∈ cfg.ids, s.triggered id = false

/-- A status is saved when no hook runs and no callback has taken its entry, and a callback takes
    its entry when no hook runs.  A hook that does not find `down` when the system comes up has
    nothing to resolve, and one that schedules alerts finds none triggered.  Recoveries are loaded
    and saved. -/
def RecoveryGuard (cfg : AlertConfig) (s : AlertState) : AlertAction → Prop
  | .save _ => ∀ t < s.nextJob, (s.jobs t).isHook = false ∧ (s.jobs t).hasTaken = false
  | .run t ok =>
    match s.jobs t with
    | .taking id => s.pending id ≠ none → ∀ t' < s.nextJob, (s.jobs t').isHook = false
    | .dispatching .up =>
      s.memory.map ManagedSystem.status = some .down ∨ ∀ id ∈ cfg.ids, Clear s id
    | .dispatching .down =>
      s.memory.map ManagedSystem.status = some .up → ∀ id ∈ cfg.ids, s.triggered id = false
    | .resolving _ _ | .resolveSaving _ _ => ok = true
    | _ => True
  | _ => True

instance (cfg : AlertConfig) (s : AlertState) (a : AlertAction) :
    Decidable (RecoveryGuard cfg s a) := by
  unfold RecoveryGuard
  split
  · infer_instance
  · split <;> infer_instance
  · infer_instance

/-! ## The invariant -/

/-- Only listed alerts may be triggered, and those not listed as not triggered. -/
def Recovering (cfg : AlertConfig) (s : AlertState) (alerts : List (Nat × Bool)) : Prop :=
  (∀ id ∈ cfg.ids, id ∈ alerts.map Prod.fst ∨ Clear s id) ∧
    ∀ alert ∈ alerts, alert.2 = false → s.triggered alert.1 = false

/-- What a goroutine may rely on. -/
def JobInv (cfg : AlertConfig) (s : AlertState) : Job → Prop
  | .dispatching status => s.stored = status
  | .handling status =>
    s.stored = status ∧ (status = .down → ∀ id ∈ cfg.ids, s.triggered id = false)
  | .deactivating _ | .clearing _ _ | .cancelling _ => s.stored ≠ .up
  | .cleared id _ _ => s.stored ≠ .up ∧ s.triggered id = false
  | .scheduling ids | .arming _ _ ids =>
    s.stored ≠ .up ∧ ∀ id ∈ ids, id ∈ cfg.ids ∧ s.triggered id = false
  | .recovering alerts => Recovering cfg s alerts
  | .resolving id alerts | .resolveSaving id alerts =>
    s.pending id = none ∧ Recovering cfg s ((id, true) :: alerts)
  | .resolved id alerts => s.triggered id = false ∧ Recovering cfg s alerts
  | .refreshing id | .triggering id | .triggerSaving id | .triggered id =>
    s.stored ≠ .up ∧ s.pending id = none
  | _ => True

/-- With the system up and no hook running, its alerts are clear. -/
structure AlertInv (cfg : AlertConfig) (s : AlertState) : Prop where
  numbered : ∀ t, s.nextJob ≤ t → s.jobs t = .unused
  /-- a hook runs without other hooks and without callbacks that have taken their entry -/
  alone : ∀ t t', (s.jobs t).isHook = true →
    (s.jobs t').isHook = true ∨ (s.jobs t').hasTaken = true → t' = t
  jobs : ∀ t, JobInv cfg s (s.jobs t)
  exclusive : ∀ id, s.pending id ≠ none → id ∈ cfg.ids ∧ s.triggered id = false
  covered : ∀ id, s.triggered id = true → s.cached id = true ∨ ∃ t, s.jobs t = .triggered id
  quiet : (∀ t, (s.jobs t).isHook = false) → s.stored = .up → ∀ id ∈ cfg.ids, Clear s id

section Invariant

variable {cfg : AlertConfig} {s s' u : AlertState} {t id : Nat} {ok : Bool} {job : Job}

theorem jobInv_of_idle (hhook : job.isHook = false)
    (htaken : job.hasTaken = false) : JobInv cfg s job := by
  cases job <;> trivial

theorem alone_of_others_idle {jobs : Nat → Job}
    (hidle : ∀ t', t' ≠ t → (jobs t').isHook = false ∧ (jobs t').hasTaken = false)
    (t₁ t₂ : Nat) (h₁ : (jobs t₁).isHook = true)
    (h₂ : (jobs t₂).isHook = true ∨ (jobs t₂).hasTaken = true) : t₂ = t₁ := by
  have heq₁ : t₁ = t := by
    by_contra hne
    rw [(hidle t₁ hne).1] at h₁
    cases h₁
  have heq₂ : t₂ = t := by
    by_contra hne
    rw [(hidle t₂ hne).1, (hidle t₂ hne).2] at h₂
    rcases h₂ with h₂ | h₂ <;> cases h₂
  exact heq₂.trans heq₁.symm

theorem JobInv.congr (hstored : u.stored = s.stored) (htrig : u.triggered = s.triggered)
    (hpend : u.pending = s.pending) (h : JobInv cfg s job) : JobInv cfg u job := by
  -- the two states have these three fields in common
  cases u
  cases s
  subst hstored htrig hpend
  cases job <;> exact h

theorem JobInv.of_callback (hhook : job.isHook = false)
    (hstored : u.stored = s.stored) (hpend : ∀ id, s.pending id = none → u.pending id = none)
    (h : JobInv cfg s job) : JobInv cfg u job := by
  cases job with
  | refreshing id | triggering id | triggerSaving id | triggered id =>
    exact ⟨hstored ▸ h.1, hpend id h.2⟩
  | unused | done | connecting loaded wsConn | taking id => trivial
  | _ => cases hhook

theorem AlertInv.ofJob (h : AlertInv cfg s) (htask : s.jobs t = job) : JobInv cfg s job :=
  htask ▸ h.jobs t

namespace AlertInv

variable (h : AlertInv cfg s)
include h

theorem resolvedWhenUp : ResolvedWhenUp cfg s := by
  intro hidle hup id hid
  have hnone : ∀ t, (s.jobs t).isHook = false := by
    intro t
    have hjob := hidle t
    simp only [Job.inFlight, Bool.or_eq_false_iff] at hjob
    exact hjob.1.1
  exact (h.quiet hnone hup id hid).1

section

variable (ht : (s.jobs t).isHook = true)
include ht

theorem cached_of_hook (id : Nat) (htrig : s.triggered id = true) : s.cached id = true := by
  rcases h.covered id htrig with hcached | ⟨t', ht'⟩
  · exact hcached
  · have htaken : (s.jobs t').hasTaken = true := by rw [ht']; rfl
    obtain rfl := h.alone t t' ht (.inr htaken)
    rw [ht'] at ht
    cases ht

/-- **A hook moves on.**  It is alone, so only what it relies on itself has to be shown. -/
theorem hookMoves (u : AlertState) (hjobs : u.jobs = s.jobs) (hnext : u.nextJob = s.nextJob)
    (hjob : JobInv cfg u job)
    (hexcl : ∀ id, u.pending id ≠ none → id ∈ cfg.ids ∧ u.triggered id = false)
    (hcov : ∀ id, u.triggered id = true → u.cached id = true)
    (hquiet : job.isHook = false → u.stored = .up → ∀ id ∈ cfg.ids, Clear u id) :
    AlertInv cfg (u.setJob t job) := by
  have hused : s.jobs t ≠ .unused := by
    intro heq
    rw [heq] at ht
    cases ht
  -- the others neither are hooks nor have taken an entry
  have hidle : ∀ t', t' ≠ t → (s.jobs t').isHook = false ∧ (s.jobs t').hasTaken = false := by
    intro t' hne
    have hnot : ¬ ((s.jobs t').isHook = true ∨ (s.jobs t').hasTaken = true) :=
      fun hbusy => hne (h.alone t t' ht hbusy)
    simpa [not_or] using hnot
  have hother : ∀ t', t' ≠ t → (u.setJob t job).jobs t' = s.jobs t' := by
    intro t' hne
    rw [jobs_setJob_of_ne job hne, hjobs]
  refine ⟨?_, ?_, ?_, hexcl, ?_, ?_⟩
  · show ∀ t', u.nextJob ≤ t' → update u.jobs t job t' = .unused
    rw [hjobs, hnext]
    exact numbered_update h.numbered hused
  · apply alone_of_others_idle (t := t)
    intro t' hne
    rw [hother t' hne]
    exact hidle t' hne
  · intro t'
    by_cases hne : t' = t
    · rw [hne, jobs_setJob_self]
      exact JobInv.congr rfl rfl rfl hjob
    · rw [hother t' hne]
      exact jobInv_of_idle (hidle t' hne).1 (hidle t' hne).2
  · intro id htrig
    exact .inl (hcov id htrig)
  · intro hnone
    have hhook := hnone t
    rw [jobs_setJob_self] at hhook
    exact hquiet hhook

theorem hookTurns (hjob : JobInv cfg s job)
    (hquiet : job.isHook = false → s.stored = .up → ∀ id ∈ cfg.ids, Clear s id) :
    AlertInv cfg (s.setJob t job) :=
  h.hookMoves ht s rfl rfl hjob h.exclusive (h.cached_of_hook ht) hquiet

end

/-- **A callback moves on** while no hook runs. -/
theorem callbackMoves (hused : s.jobs t ≠ .unused)
    (hnone : ∀ t', (s.jobs t').isHook = false) (u : AlertState)
    (hjobs : u.jobs = s.jobs) (hnext : u.nextJob = s.nextJob) (hstored : u.stored = s.stored)
    (hhook : job.isHook = false) (hjob : JobInv cfg u job)
    (hpend : ∀ id, s.pending id = none → u.pending id = none)
    (hexcl : ∀ id, u.pending id ≠ none → id ∈ cfg.ids ∧ u.triggered id = false)
    (hcov : ∀ id, u.triggered id = true → u.cached id = true ∨ job = .triggered id ∨
      (s.triggered id = true ∧ u.cached id = s.cached id ∧ s.jobs t ≠ .triggered id))
    (hquiet : s.stored = .up → ∀ id ∈ cfg.ids, Clear u id) :
    AlertInv cfg (u.setJob t job) := by
  have hother : ∀ t', t' ≠ t → (u.setJob t job).jobs t' = s.jobs t' := by
    intro t' hne
    rw [jobs_setJob_of_ne job hne, hjobs]
  have hnone' : ∀ t', ((u.setJob t job).jobs t').isHook = false := by
    intro t'
    by_cases hne : t' = t
    · rw [hne, jobs_setJob_self]
      exact hhook
    · rw [hother t' hne]
      exact hnone t'
  refine ⟨?_, ?_, ?_, hexcl, ?_, ?_⟩
  · show ∀ t', u.nextJob ≤ t' → update u.jobs t job t' = .unused
    rw [hjobs, hnext]
    exact numbered_update h.numbered hused
  · intro t₁ t₂ h₁
    rw [hnone' t₁] at h₁
    cases h₁
  · intro t'
    by_cases hne : t' = t
    · rw [hne, jobs_setJob_self]
      exact JobInv.congr rfl rfl rfl hjob
    · rw [hother t' hne]
      exact JobInv.of_callback (hnone t') hstored hpend (h.jobs t')
  · intro id htrig
    rcases hcov id htrig with hcached | hjobId | ⟨hold, hcached, hne⟩
    · exact .inl hcached
    · exact .inr ⟨t, (jobs_setJob_self t job).trans hjobId⟩
    · rcases h.covered id hold with hcached' | ⟨t', ht'⟩
      · exact .inl (hcached.trans hcached')
      · -- another callback of the same alert still has its cache update to do
        refine .inr ⟨t', ?_⟩
        rw [hother t' ?_, ht']
        intro heq
        rw [heq] at ht'
        exact hne ht'
  · intro _ hup
    exact hquiet (hstored ▸ hup)

/-- A goroutine that hooks and callbacks do not rely on starts or moves on. -/
theorem replaceIdle (hhook : (s.jobs t).isHook = false)
    (htaken : (s.jobs t).hasTaken = false) (hhook' : job.isHook = false)
    (htaken' : job.hasTaken = false) (hjobs : u.jobs = update s.jobs t job)
    (hnum : ∀ t', u.nextJob ≤ t' → update s.jobs t job t' = .unused)
    (hstored : u.stored = s.stored) (htrig : u.triggered = s.triggered)
    (hcached : u.cached = s.cached) (hpend : u.pending = s.pending) : AlertInv cfg u := by
  have hself : u.jobs t = job := by rw [hjobs, update_self]
  have hother : ∀ t', t' ≠ t → u.jobs t' = s.jobs t' := by
    intro t' hne
    rw [hjobs, update_of_ne hne]
  have hsameHook : ∀ t', (u.jobs t').isHook = (s.jobs t').isHook := by
    intro t'
    by_cases hne : t' = t
    · rw [hne, hself, hhook, hhook']
    · rw [hother t' hne]
  have hsameTaken : ∀ t', (u.jobs t').hasTaken = (s.jobs t').hasTaken := by
    intro t'
    by_cases hne : t' = t
    · rw [hne, hself, htaken, htaken']
    · rw [hother t' hne]
  refine ⟨?_, ?_, ?_, ?_, ?_, ?_⟩
  · rw [hjobs]
    exact hnum
  · intro t₁ t₂ h₁ h₂
    rw [hsameHook] at h₁
    rw [hsameHook, hsameTaken] at h₂
    exact h.alone t₁ t₂ h₁ h₂
  · intro t'
    by_cases hne : t' = t
    · rw [hne, hself]
      exact jobInv_of_idle hhook' htaken'
    · rw [hother t' hne]
      exact (h.jobs t').congr hstored htrig hpend
  · rw [hpend, htrig]
    exact h.exclusive
  · intro id hid
    have hold : s.triggered id = true := htrig ▸ hid
    rcases h.covered id hold with hshown | ⟨t', ht'⟩
    · exact .inl (hcached ▸ hshown)
    · refine .inr ⟨t', ?_⟩
      rw [hother t' ?_, ht']
      intro heq
      rw [heq] at ht'
      rw [ht'] at htaken
      cases htaken
  · intro hnone hup id hid
    have hclear : Clear s id := by
      refine h.quiet ?_ (hstored ▸ hup) id hid
      intro t'
      rw [← hsameHook]
      exact hnone t'
    exact ⟨htrig ▸ hclear.1, hpend ▸ hclear.2⟩

theorem spawnIdle (hhook : job.isHook = false)
    (htaken : job.hasTaken = false) (hjobs : u.jobs = (s.spawn job).jobs)
    (hnext : u.nextJob = s.nextJob + 1) (hstored : u.stored = s.stored)
    (htrig : u.triggered = s.triggered) (hcached : u.cached = s.cached)
    (hpend : u.pending = s.pending) : AlertInv cfg u := by
  have hunused : s.jobs s.nextJob = .unused := h.numbered _ (Nat.le_refl _)
  refine h.replaceIdle (t := s.nextJob) ?_ ?_ hhook htaken hjobs ?_ hstored htrig hcached
    hpend
  · rw [hunused]
    rfl
  · rw [hunused]
    rfl
  · rw [hnext]
    exact numbered_spawn h.numbered

end AlertInv

/-! ## Hooks -/

theorem Recovering.of_nil (h : Recovering cfg s []) : ∀ id ∈ cfg.ids, Clear s id := by
  intro id hid
  rcases h.1 id hid with hmem | hclear
  · cases hmem
  · exact hclear

theorem Recovering.tail {isTriggered : Bool} {alerts : List (Nat × Bool)}
    (h : Recovering cfg s ((id, isTriggered) :: alerts)) (hclear : Clear s id) :
    Recovering cfg s alerts := by
  refine ⟨?_, ?_⟩
  · intro id' hid'
    rcases h.1 id' hid' with hmem | hclear'
    · rcases mem_cons.mp hmem with rfl | hmem'
      · exact .inr hclear
      · exact .inl hmem'
    · exact .inr hclear'
  · intro alert hmem
    exact h.2 alert (mem_cons_of_mem _ hmem)

theorem Recovering.mono {alerts : List (Nat × Bool)} (h : Recovering cfg s alerts)
    (htrig : ∀ id, s.triggered id = false → u.triggered id = false)
    (hpend : ∀ id, s.pending id = none → u.pending id = none) : Recovering cfg u alerts := by
  refine ⟨?_, ?_⟩
  · intro id hid
    rcases h.1 id hid with hmem | hclear
    · exact .inl hmem
    · exact .inr ⟨htrig id hclear.1, hpend id hclear.2⟩
  · intro alert hmem hfalse
    exact htrig alert.1 (h.2 alert hmem hfalse)

/-- A save of `false` leaves no alert both pending and triggered, and none hidden from the
    cache. -/
theorem saveTriggered_false_flags
    (hexcl : ∀ id, s.pending id ≠ none → id ∈ cfg.ids ∧ s.triggered id = false)
    (hcov : ∀ id, s.triggered id = true → s.cached id = true) :
    (∀ id', s.pending id' ≠ none →
      id' ∈ cfg.ids ∧ (s.saveTriggered id false).triggered id' = false) ∧
      ∀ id', (s.saveTriggered id false).triggered id' = true → s.cached id' = true := by
  constructor
  · intro id' hpend
    by_cases hid : id' = id
    · rw [hid] at hpend ⊢
      exact ⟨(hexcl id hpend).1, triggered_saveTriggered_self false⟩
    · rw [triggered_saveTriggered_of_ne _ hid]
      exact hexcl id' hpend
  · intro id' htrig
    by_cases hid : id' = id
    · rw [hid, triggered_saveTriggered_self] at htrig
      cases htrig
    · rw [triggered_saveTriggered_of_ne _ hid] at htrig
      exact hcov id' htrig

theorem covered_updateCache (hfalse : s.triggered id = false)
    (hcov : ∀ id, s.triggered id = true → s.cached id = true) (id' : Nat)
    (htrig : s.triggered id' = true) : (s.updateCache id false).cached id' = true := by
  have hid : id' ≠ id := by
    intro heq
    rw [heq, hfalse] at htrig
    cases htrig
  rw [cached_updateCache_of_ne _ hid]
  exact hcov id' htrig

theorem exclusive_deletePending
    (hexcl : ∀ id, s.pending id ≠ none → id ∈ cfg.ids ∧ s.triggered id = false)
    (id' : Nat) (hpend : (s.deletePending id).pending id' ≠ none) :
    id' ∈ cfg.ids ∧ s.triggered id' = false := by
  refine hexcl id' ?_
  intro hnone
  exact hpend (pending_deletePending_eq_none hnone)

section Hook

variable {cancel : Bool} {ids : List Nat} {alerts : List (Nat × Bool)}

theorem AlertInv.hookTurnsDown (h : AlertInv cfg s) (ht : (s.jobs t).isHook = true)
    (hdown : s.stored ≠ .up) (hjob : JobInv cfg s job) : AlertInv cfg (s.setJob t job) :=
  h.hookTurns ht hjob fun _ hup => absurd hup hdown

theorem jobInv_afterDeactivate (hdown : s.stored ≠ .up) :
    JobInv cfg s (afterDeactivate cfg cancel) := by
  cases cancel with
  | true => exact hdown
  | false => trivial

variable (h : AlertInv cfg s) (ht : (s.jobs t).isHook = true)
  (hstep : runJob cfg s t ok = some s')
include h ht hstep

theorem dispatching_alertInv {status : Status} (htask : s.jobs t = .dispatching status)
    (hG : RecoveryGuard cfg s (.run t ok)) : AlertInv cfg s' := by
  have hstored : s.stored = status := h.ofJob htask
  -- the hook goes on to `job`, or ends with nothing left to resolve
  have moves : ∀ memory job, JobInv cfg s job →
      (job.isHook = false → s.stored = .up → ∀ id ∈ cfg.ids, Clear s id) →
      AlertInv cfg ({ s with memory := memory }.setJob t job) := by
    intro memory job hjob hquiet
    exact h.hookMoves ht { s with memory := memory } rfl rfl (hjob.congr rfl rfl rfl)
      h.exclusive (h.cached_of_hook ht) hquiet
  simp only [runJob, htask] at hstep
  cases hstep
  refine moves _ _ ?_ ?_
  · cases status with simp only [dispatch]
    | paused => exact fun hup => by rw [hstored] at hup; cases hup
    | pending =>
      split
      · trivial
      · exact fun hup => by rw [hstored] at hup; cases hup
    | up =>
      split
      · trivial
      · split
        · exact ⟨hstored, nofun⟩
        · trivial
    | down =>
      split
      · trivial
      · rename_i prevStatus wsConn hmemo
        split
        · rename_i hprev
          simp only [RecoveryGuard, htask] at hG
          refine ⟨hstored, fun _ => hG ?_⟩
          rw [hmemo, hprev]
          rfl
        · trivial
  · intro hend hup
    -- only the hook of `up` can end here with the system up
    obtain rfl : status = .up := hstored.symm.trans hup
    simp only [RecoveryGuard, htask] at hG
    rcases hG with hdown | hclear
    · simp only [dispatch] at hend
      split at hend
      · rename_i hmemo
        rw [hmemo] at hdown
        cases hdown
      · rename_i prevStatus wsConn hmemo
        rw [hmemo] at hdown
        have hprev : prevStatus = .down := Option.some.inj hdown
        rw [if_pos hprev] at hend
        cases hend
    · exact hclear

theorem clearing_alertInv (htask : s.jobs t = .clearing ids cancel) : AlertInv cfg s' := by
  have hdown := h.ofJob htask
  cases ids with simp only [runJob, htask] at hstep
  | nil =>
    cases hstep
    exact h.hookTurnsDown ht hdown (jobInv_afterDeactivate hdown)
  | cons id ids =>
    split at hstep <;> cases hstep
    · obtain ⟨hexcl, hcov⟩ := saveTriggered_false_flags h.exclusive (h.cached_of_hook ht)
      exact h.hookMoves ht (s.saveTriggered id false) rfl rfl
        ⟨hdown, triggered_saveTriggered_self false⟩ hexcl hcov
        fun _ hup => absurd hup hdown
    · exact h.hookTurnsDown ht hdown (jobInv_afterDeactivate hdown)

theorem cancelling_alertInv (htask : s.jobs t = .cancelling ids) : AlertInv cfg s' := by
  have hdown := h.ofJob htask
  cases ids with simp only [runJob, htask] at hstep
  | nil =>
    cases hstep
    exact h.hookTurnsDown ht hdown trivial
  | cons id ids =>
    split at hstep <;> cases hstep
    · exact h.hookTurnsDown ht hdown hdown
    · rename_i entry _
      exact h.hookMoves ht (s.cancelPendingAlert id entry) rfl rfl hdown
        (exclusive_deletePending h.exclusive) (h.cached_of_hook ht) fun _ hup => absurd hup hdown

theorem scheduling_alertInv (htask : s.jobs t = .scheduling ids) : AlertInv cfg s' := by
  obtain ⟨hdown, hids⟩ := h.ofJob htask
  cases ids with
  | nil =>
    simp only [runJob, htask] at hstep
    cases hstep
    exact h.hookTurnsDown ht hdown trivial
  | cons id ids =>
    have hrest : ∀ id' ∈ ids, id' ∈ cfg.ids ∧ s.triggered id' = false :=
      fun id' hmem => hids id' (mem_cons_of_mem id hmem)
    simp only [runJob, htask] at hstep
    split at hstep <;> cases hstep
    · exact h.hookTurnsDown ht hdown ⟨hdown, hrest⟩
    · refine h.hookMoves ht (s.storePending id) rfl rfl ⟨hdown, hrest⟩ ?_ (h.cached_of_hook ht)
        fun _ hup => absurd hup hdown
      intro id' hpend
      by_cases hid : id' = id
      · rw [hid]
        exact hids id mem_cons_self
      · rw [pending_storePending_of_ne hid] at hpend
        exact h.exclusive id' hpend

theorem recovering_alertInv (htask : s.jobs t = .recovering alerts) : AlertInv cfg s' := by
  have hinv : Recovering cfg s alerts := h.ofJob htask
  cases alerts with
  | nil =>
    simp only [runJob, htask] at hstep
    cases hstep
    exact h.hookTurns ht trivial fun _ _ => hinv.of_nil
  | cons alert alerts =>
    obtain ⟨id, isTriggered⟩ := alert
    simp only [runJob, htask] at hstep
    split at hstep <;> cases hstep
    · -- the entry is cancelled; an alert with an entry is not triggered
      rename_i entry hent
      have hclear : Clear (s.cancelPendingAlert id entry) id := by
        refine ⟨(h.exclusive id ?_).2, pending_deletePending_self⟩
        rw [hent]
        exact Option.some_ne_none entry
      have hmono : Recovering cfg (s.cancelPendingAlert id entry)
          ((id, isTriggered) :: alerts) :=
        hinv.mono (fun _ hfalse => hfalse)
          (fun _ hnone => pending_deletePending_eq_none hnone)
      exact h.hookMoves ht (s.cancelPendingAlert id entry) rfl rfl (hmono.tail hclear)
        (exclusive_deletePending h.exclusive) (h.cached_of_hook ht) nofun
    · rename_i hnone
      cases isTriggered with
      | true => exact h.hookTurns ht ⟨hnone, hinv⟩ nofun
      | false =>
        have hfalse : s.triggered id = false := hinv.2 (id, false) mem_cons_self rfl
        exact h.hookTurns ht (hinv.tail ⟨hfalse, hnone⟩) nofun

theorem handling_alertInv {status : Status} (htask : s.jobs t = .handling status) :
    AlertInv cfg s' := by
  obtain ⟨hstored, hnone⟩ := h.ofJob htask
  have hdown : status ≠ .up → s.stored ≠ .up := fun hne hup => hne (hstored.symm.trans hup)
  cases status with simp only [runJob, htask] at hstep
  | up =>
    cases hstep
    have hsnap : Recovering cfg s (cfg.ids.map fun id => (id, s.cached id)) := by
      constructor
      · intro id hid
        exact .inl (mem_map.mpr ⟨_, mem_map.mpr ⟨id, hid, rfl⟩, rfl⟩)
      · intro alert hmem hfalse
        obtain ⟨id, -, rfl⟩ := mem_map.mp hmem
        by_contra htrig
        have hcached := h.cached_of_hook ht id (by simpa using htrig)
        rw [show s.cached id = false from hfalse] at hcached
        cases hcached
    exact h.hookTurns ht hsnap nofun
  | down =>
    cases hstep
    exact h.hookTurns ht ⟨hdown nofun, fun id hid => ⟨hid, hnone rfl id hid⟩⟩ nofun
  | paused | pending =>
    -- `HandleStatusAlerts` ignores these two
    cases hstep
    exact h.hookTurnsDown ht (hdown nofun) trivial

theorem resolveSaving_alertInv (htask : s.jobs t = .resolveSaving id alerts) (hok : ok = true) :
    AlertInv cfg s' := by
  subst hok
  obtain ⟨hpend, hrecov⟩ := h.ofJob htask
  simp only [runJob, htask] at hstep
  cases hstep
  have hsaved : (s.saveTriggered id false).triggered id = false :=
    triggered_saveTriggered_self false
  obtain ⟨hexcl, hcov⟩ := saveTriggered_false_flags h.exclusive (h.cached_of_hook ht)
  have hmono : Recovering cfg (s.saveTriggered id false) ((id, true) :: alerts) := by
    refine hrecov.mono ?_ (fun _ hnone => hnone)
    intro id' hfalse
    by_cases hid : id' = id
    · rw [hid]
      exact hsaved
    · rw [triggered_saveTriggered_of_ne _ hid]
      exact hfalse
  exact h.hookMoves ht (s.saveTriggered id false) rfl rfl
    ⟨hsaved, hmono.tail ⟨hsaved, hpend⟩⟩ hexcl hcov nofun

end Hook

section

variable (h : AlertInv cfg s)
include h

/-- **A step of a hook** keeps the invariant. -/
theorem hook_alertInv (ht : (s.jobs t).isHook = true)
    (hG : RecoveryGuard cfg s (.run t ok)) (hstep : runJob cfg s t ok = some s') :
    AlertInv cfg s' := by
  have hinv := h.jobs t
  cases htask : s.jobs t with rw [htask] at hinv
  | dispatching status => exact dispatching_alertInv h ht hstep htask hG
  | handling status => exact handling_alertInv h ht hstep htask
  | recovering alerts => exact recovering_alertInv h ht hstep htask
  | clearing ids cancel => exact clearing_alertInv h ht hstep htask
  | cancelling ids => exact cancelling_alertInv h ht hstep htask
  | scheduling ids => exact scheduling_alertInv h ht hstep htask
  | resolveSaving id alerts =>
    simp only [RecoveryGuard, htask] at hG
    exact resolveSaving_alertInv h ht hstep htask hG
  | resolving id alerts =>
    simp only [RecoveryGuard, htask] at hG
    subst hG
    simp only [runJob, htask] at hstep
    cases hstep
    exact h.hookTurns ht hinv nofun
  | resolved id alerts =>
    obtain ⟨hfalse, hrecov⟩ := hinv
    simp only [runJob, htask] at hstep
    cases hstep
    exact h.hookMoves ht (s.updateCache id false) rfl rfl
      (hrecov.mono (fun _ hsame => hsame) (fun _ hsame => hsame)) h.exclusive
      (covered_updateCache hfalse (h.cached_of_hook ht)) nofun
  | deactivating cancel =>
    simp only [runJob, htask] at hstep
    cases hstep
    refine h.hookTurnsDown ht hinv ?_
    split
    · exact hinv
    · exact jobInv_afterDeactivate hinv
  | cleared id ids cancel =>
    obtain ⟨hdown, hfalse⟩ := hinv
    simp only [runJob, htask] at hstep
    cases hstep
    exact h.hookMoves ht (s.updateCache id false) rfl rfl hdown h.exclusive
      (covered_updateCache hfalse (h.cached_of_hook ht)) fun _ hup => absurd hup hdown
  | arming entry id ids =>
    simp only [runJob, htask] at hstep
    cases hstep
    exact h.hookMoves ht { s with timers := update s.timers entry (some id) } rfl rfl
      hinv h.exclusive (h.cached_of_hook ht) fun _ hup => absurd hup hinv.1
  | _ =>
    rw [htask] at ht
    cases ht

/-! ## Callbacks -/

theorem AlertInv.of_taken (ht : (s.jobs t).hasTaken = true) :
    s.stored ≠ .up ∧ ∀ t', (s.jobs t').isHook = false := by
  constructor
  · have hinv := h.jobs t
    cases htask : s.jobs t with
    | refreshing id | triggering id | triggerSaving id | triggered id =>
      rw [htask] at hinv
      exact hinv.1
    | _ =>
      rw [htask] at ht
      cases ht
  · intro t'
    by_contra hhook
    have hhook' : (s.jobs t').isHook = true := by simpa using hhook
    obtain rfl := h.alone t' t hhook' (.inr ht)
    -- no job is both
    cases htask : s.jobs t <;> rw [htask] at ht hhook' <;> contradiction

/-- A callback that has taken its entry triggers the alert of a system that is not up. -/
theorem callback_alertInv (ht : (s.jobs t).hasTaken = true)
    (hstep : runJob cfg s t ok = some s') : AlertInv cfg s' := by
  obtain ⟨hstored, hnone⟩ := h.of_taken ht
  have hquiet : ∀ u : AlertState, s.stored = .up → ∀ id ∈ cfg.ids, Clear u id :=
    fun _ hup => absurd hup hstored
  have hused : s.jobs t ≠ .unused := fun hunused => by simp [hunused, Job.hasTaken] at ht
  have hinv := h.jobs t
  -- a move that changes nothing but the job
  have moves : ∀ job, (∀ id, s.jobs t ≠ .triggered id) → job.isHook = false →
      JobInv cfg s job → AlertInv cfg (s.setJob t job) := by
    intro job hbef hhook hjob
    refine h.callbackMoves hused hnone s rfl rfl rfl hhook hjob (fun _ hsame => hsame)
      h.exclusive ?_ (hquiet s)
    intro id htrig
    exact .inr (.inr ⟨htrig, rfl, hbef id⟩)
  unfold runJob at hstep
  cases htask : s.jobs t with rw [htask] at hinv moves hstep ht
  | refreshing id =>
    cases hstep
    split
    · exact moves _ nofun rfl trivial
    · exact moves _ nofun rfl hinv
  | triggering id =>
    cases hstep
    split
    · exact moves _ nofun rfl hinv
    · exact moves _ nofun rfl trivial
  | triggerSaving id =>
    dsimp only at hstep
    split at hstep <;> cases hstep
    · -- the entry was taken from the pending alerts, so the alert is not pending as well;
      -- until the hook of the save has run, the cache does not show it
      refine h.callbackMoves hused hnone (s.saveTriggered id true) rfl rfl rfl rfl hinv
        (fun _ hnone => hnone) ?_ ?_ (hquiet _)
      · intro id' hpend
        have hid : id' ≠ id := by
          intro heq
          rw [heq] at hpend
          exact hpend hinv.2
        rw [triggered_saveTriggered_of_ne _ hid]
        exact h.exclusive id' hpend
      · intro id' htrig
        by_cases hid : id' = id
        · rw [hid]
          exact .inr (.inl rfl)
        · rw [triggered_saveTriggered_of_ne _ hid] at htrig
          exact .inr (.inr ⟨htrig, rfl, by rw [htask]; nofun⟩)
    · exact moves _ nofun rfl trivial
  | triggered id =>
    cases hstep
    refine h.callbackMoves hused hnone (s.updateCache id true) rfl rfl rfl rfl trivial
      (fun _ hnone => hnone) h.exclusive ?_ (hquiet _)
    intro id' htrig
    by_cases hid : id' = id
    · rw [hid]
      exact .inl (cached_updateCache_self true)
    · refine .inr (.inr ⟨htrig, cached_updateCache_of_ne _ hid, ?_⟩)
      rw [htask]
      intro heq
      exact hid (Job.triggered.inj heq).symm
  | _ => cases ht

theorem taking_alertInv (htask : s.jobs t = .taking id) (hG : RecoveryGuard cfg s (.run t ok))
    (hstep : runJob cfg s t ok = some s') : AlertInv cfg s' := by
  have hused : s.jobs t ≠ .unused := by rw [htask]; nofun
  simp only [runJob, htask] at hstep
  split at hstep <;> cases hstep
  · exact h.replaceIdle (by rw [htask]; rfl) (by rw [htask]; rfl) rfl rfl rfl
      (numbered_update h.numbered hused) rfl rfl rfl rfl
  · rename_i entry hent
    have hpres : s.pending id ≠ none := by
      rw [hent]
      exact Option.some_ne_none entry
    simp only [RecoveryGuard, htask] at hG
    have hnone : ∀ t', (s.jobs t').isHook = false := by
      intro t'
      by_cases hlt : t' < s.nextJob
      · exact hG hpres t' hlt
      · rw [h.numbered t' (Nat.le_of_not_lt hlt)]
        rfl
    -- an alert of a system that is up is not pending
    have hstored : s.stored ≠ .up := by
      intro hup
      exact hpres (h.quiet hnone hup id (h.exclusive id hpres).1).2
    refine h.callbackMoves hused hnone (s.deletePending id) rfl rfl rfl rfl
      ⟨hstored, pending_deletePending_self⟩
      (fun _ => pending_deletePending_eq_none) (exclusive_deletePending h.exclusive)
      ?_ (fun hup => absurd hup hstored)
    intro id' htrig
    exact .inr (.inr ⟨htrig, rfl, by rw [htask]; nofun⟩)

/-! ## One step -/

theorem AlertInv.save (status : Status)
    (hidle : ∀ t, (s.jobs t).isHook = false ∧ (s.jobs t).hasTaken = false) :
    AlertInv cfg ({ s with stored := status }.spawn (.dispatching status)) := by
  have hself : ({ s with stored := status }.spawn (.dispatching status)).jobs s.nextJob =
      .dispatching status := update_self _ _ _
  have hother : ∀ t, t ≠ s.nextJob →
      ({ s with stored := status }.spawn (.dispatching status)).jobs t = s.jobs t :=
    fun t hne => update_of_ne hne _ _
  refine ⟨numbered_spawn h.numbered, ?_, ?_, h.exclusive, ?_, ?_⟩
  · apply alone_of_others_idle (t := s.nextJob)
    intro t hne
    rw [hother t hne]
    exact hidle t
  · intro t
    by_cases hne : t = s.nextJob
    · rw [hne, hself]
      rfl
    · rw [hother t hne]
      exact jobInv_of_idle (hidle t).1 (hidle t).2
  · intro id htrig
    rcases h.covered id htrig with hcached | ⟨t, ht⟩
    · exact .inl hcached
    · have htaken := (hidle t).2
      rw [ht] at htaken
      cases htaken
  · intro hnone
    have hhook := hnone s.nextJob
    rw [hself] at hhook
    cases hhook

theorem runJob_alertInv (hG : RecoveryGuard cfg s (.run t ok))
    (hstep : runJob cfg s t ok = some s') : AlertInv cfg s' := by
  by_cases hhook : (s.jobs t).isHook = true
  · exact hook_alertInv h hhook hG hstep
  · by_cases htaken : (s.jobs t).hasTaken = true
    · exact callback_alertInv h htaken hstep
    · cases htask : s.jobs t with
      | unused => simp [runJob, htask] at hstep
      | done => simp [runJob, htask] at hstep
      | taking id => exact taking_alertInv h htask hG hstep
      | connecting loaded wsConn =>
        simp only [runJob, htask] at hstep
        cases hstep
        have hused : s.jobs t ≠ .unused := by rw [htask]; nofun
        exact h.replaceIdle (by rw [htask]; rfl) (by rw [htask]; rfl) rfl rfl rfl
          (numbered_update h.numbered hused) rfl rfl rfl rfl
      | _ =>
        rw [htask] at hhook htaken
        first
          | exact absurd rfl hhook
          | exact absurd rfl htaken

/-- **One step** of the alert manager keeps the invariant. -/
theorem alertInv_step {a : AlertAction} (hG : RecoveryGuard cfg s a)
    (hstep : alertStep cfg s a = some s') : AlertInv cfg s' := by
  cases a with
  | save status =>
    cases hstep
    refine h.save status ?_
    intro t
    by_cases hlt : t < s.nextJob
    · exact hG t hlt
    · rw [h.numbered t (Nat.le_of_not_lt hlt)]
      exact ⟨rfl, rfl⟩
  | run t ok => exact runJob_alertInv h hG hstep
  | fire entry =>
    simp only [alertStep] at hstep
    split at hstep
    · cases hstep
    · rename_i id _
      cases hstep
      have hhook : (Job.taking id).isHook = false := rfl
      exact h.spawnIdle hhook rfl rfl rfl rfl rfl rfl rfl
  | connect wsConn =>
    cases hstep
    exact h.spawnIdle rfl rfl rfl rfl rfl rfl rfl rfl
  | remove =>
    cases hstep
    exact ⟨h.numbered, h.alone, fun t => (h.jobs t).congr rfl rfl rfl, h.exclusive, h.covered,
      h.quiet⟩

end

theorem AlertInv.init (cfg : AlertConfig) (stored : Status) : AlertInv cfg (.init cfg stored) := by
  have hother : ∀ t, t ≠ 0 → (AlertState.init cfg stored).jobs t = .unused := by
    intro t hne
    exact if_neg (fun hzero => hne hzero.1)
  refine ⟨?_, ?_, ?_, ?_, ?_, ?_⟩
  · intro t ht
    exact hother t (Nat.ne_of_gt ht)
  · apply alone_of_others_idle (t := 0)
    intro t hne
    rw [hother t hne]
    exact ⟨rfl, rfl⟩
  · intro t
    show JobInv cfg _ (if t = 0 ∧ stored = .down then .scheduling cfg.ids else .unused)
    split
    · rename_i hdown
      refine ⟨?_, fun id hid => ⟨hid, rfl⟩⟩
      show stored ≠ .up
      rw [hdown.2]
      nofun
    · trivial
  · intro id hpend
    exact absurd rfl hpend
  · intro id htrig
    cases htrig
  · intro _ _ id _
    exact ⟨rfl, rfl⟩

end Invariant

/-! ## Runs -/

/-- **Recovery resolves alerts**: under the condition, no Status alert of a system that is up is
    triggered between hooks and callbacks. -/
theorem alerts_resolved_when_up (cfg : AlertConfig) (stored : Status) (as : List AlertAction)
    (hG : EveryStep (alertStep cfg) (RecoveryGuard cfg) (.init cfg stored) as) :
    EveryState (alertStep cfg) (ResolvedWhenUp cfg) (.init cfg stored) as := by
  apply everyState_of_invariant (I := AlertInv cfg)
  · intro s a s' h hguard hstep
    exact alertInv_step h hguard hstep
  · intro s h
    exact h.resolvedWhenUp
  · exact AlertInv.init cfg stored
  · exact hG

def sampleAlerts : AlertConfig := ⟨[7]⟩

/-- The system is added, comes up and goes down, and its alert gets a pending entry. -/
def outageRun : List AlertAction :=
  [.connect true, .run 1 true, .save .up, .run 2 true, .save .down, .run 3 true, .run 3 true,
    .run 3 true, .run 3 true, .run 3 true]

/-- The timer fires and the alert is triggered; then the system comes up again. -/
def recoveredRun : List AlertAction :=
  outageRun ++ [.fire 0, .run 4 true, .run 4 true, .run 4 true, .run 4 true, .run 4 true,
    .save .up, .run 5 true, .run 5 true, .run 5 true, .run 5 true, .run 5 true, .run 5 true,
    .run 5 true]

theorem recovered_system_resolved :
    (∃ t, exec (alertStep sampleAlerts) (.init sampleAlerts .pending) recoveredRun = some t ∧
      t.stored = .up ∧ t.triggered 7 = false) ∧
    EveryStep (alertStep sampleAlerts) (RecoveryGuard sampleAlerts)
      (.init sampleAlerts .pending) recoveredRun ∧
    EveryState (alertStep sampleAlerts) (ResolvedWhenUp sampleAlerts)
      (.init sampleAlerts .pending) recoveredRun := by
  have hguard : EveryStep (alertStep sampleAlerts) (RecoveryGuard sampleAlerts)
      (.init sampleAlerts .pending) recoveredRun := by decide +kernel
  exact ⟨⟨_, rfl, rfl, rfl⟩, hguard,
    alerts_resolved_when_up sampleAlerts .pending recoveredRun hguard⟩

/-- The callback removes the entry, and the system comes up before the alert is marked. -/
def lostRecoveryRun : List AlertAction :=
  outageRun ++ [.fire 0, .run 4 true, .save .up, .run 5 true, .run 5 true, .run 5 true,
    .run 5 true, .run 4 true, .run 4 true, .run 4 true, .run 4 true]

/-- **A recovery is lost** between the steps of a callback: the system is up, and the alert
    triggered. -/
theorem callback_triggers_after_recovery :
    ∃ t, exec (alertStep sampleAlerts) (.init sampleAlerts .pending) lostRecoveryRun = some t ∧
      (∀ i, (t.jobs i).inFlight = false) ∧ t.stored = .up ∧ 7 ∈ sampleAlerts.ids ∧
      t.triggered 7 = true := by
  refine ⟨_, rfl, ?_, rfl, mem_cons_self, rfl⟩
  intro i
  rcases i with _ | _ | _ | _ | _ | _ | i <;> rfl

end Bantay.Alerts
