import Bantay.Systems.RealtimeAccess

/-!
# The Realtime Worker

A model of `internal/hub/systems/system_realtime.go` in finer steps than `Systems.Realtime`: mutex
regions, accesses to `activeSubscriptions` and channel operations are one step each.  It is about
when the worker starts and stops.

`workerRunning` is set when a worker is started, and cleared when a stop signal has been offered,
whether or not the worker was at its `select` to take it.  A worker also stops by itself when a
tick finds no subscriptions, and then the flag stays.
-/

namespace Bantay.Systems

open Bantay.Lib Function

/-! ## Data -/

/-- Where a worker is in `startRealtimeWorker`. -/
inductive WorkerStage where
  | unused
  | starting
  /-- before `select`, which reads `tickerStopChan` -/
  | looping
  /-- in `select` with this stop channel -/
  | waiting (stopChan : Option Nat)
  | ticked
  | fetching
  | done
deriving DecidableEq

/-- The goroutine has been started and has not returned. -/
def WorkerStage.Running (worker : WorkerStage) : Prop := worker ≠ .unused ∧ worker ≠ .done
deriving Decidable

inductive HandlerStage where
  | unused
  | next
  | inserting (systemId k : String)
  /-- at `connectedClients += 1` -/
  | counting (systemId : String)
  /-- at `onRealtimeSubscriptionAdded` -/
  | starting (systemId : String)
  /-- at `delete` -/
  | deleting (systemId : String)
  /-- `checkSubscriptions` at its test of `workerRunning` -/
  | checkingFlag
  /-- `checkSubscriptions` at its test of `activeSubscriptions` -/
  | checkingActive
  /-- `checkSubscriptions` at its mutex region -/
  | stopping
  | done
deriving DecidableEq

/-- The handler of a subscribe request or of a disconnection. -/
structure Handler where
  stage : HandlerStage
  added : List String
  removed : List String

def Handler.InFlight (handler : Handler) : Prop :=
  handler.stage ≠ .unused ∧ handler.stage ≠ .done
deriving Decidable

structure LifecycleState where
  activeSubscriptions : ActiveSubscriptions
  workerRunning : Bool
  tickerStopChan : Option Nat
  nextChan : Nat
  workers : Nat → WorkerStage
  nextWorker : Nat
  handlers : Nat → Handler
  nextHandler : Nat

namespace LifecycleState

variable (s : LifecycleState)

def setWorker (w : Nat) (worker : WorkerStage) : LifecycleState :=
  { s with workers := Function.update s.workers w worker }

def setHandler (h : Nat) (handler : Handler) : LifecycleState :=
  { s with handlers := Function.update s.handlers h handler }

def setStage (h : Nat) (stage : HandlerStage) : LifecycleState :=
  s.setHandler h { s.handlers h with stage := stage }

def setActive (active : ActiveSubscriptions) : LifecycleState :=
  { s with activeSubscriptions := active }

/-! ## Handlers -/

def onRealtimeSubscriptionAdded : LifecycleState :=
  if s.workerRunning then
    s
  else
    { s with
      workerRunning := true
      tickerStopChan := some s.nextChan
      nextChan := s.nextChan + 1
      workers := Function.update s.workers s.nextWorker .starting
      nextWorker := s.nextWorker + 1 }

/-- The worker is in `select` with the present stop channel. -/
def Hears (w : Nat) : Prop :=
  s.tickerStopChan ≠ none ∧ s.workers w = .waiting s.tickerStopChan
deriving Decidable

/-- The stop signal goes to a worker that waits for it, if there is one. -/
def stopWorker (receiver : Option Nat) : Option LifecycleState :=
  match receiver with
  | some w =>
    if s.Hears w then some { s.setWorker w .done with workerRunning := false } else none
  | none =>
    if ∃ w < s.nextWorker, s.Hears w then none else some { s with workerRunning := false }

/-- A new topic: is there an entry of its system? -/
def lookupAdded (cfg : RealtimeConfig) (s : LifecycleState) (k : String) : HandlerStage :=
  if isMetrics k then
    match s.activeSubscriptions.lookup (cfg.querySystem k) with
    | none => .inserting (cfg.querySystem k) k
    | some _ => .counting (cfg.querySystem k)
  else
    .next

/-- A topic that is gone: `removeRealtimeSubscription` up to the counter. -/
def decrement (cfg : RealtimeConfig) (s : LifecycleState) (k : String) :
    ActiveSubscriptions × HandlerStage :=
  if isMetrics k then
    let systemId := cfg.querySystem k
    match s.activeSubscriptions.lookup systemId with
    | none => (s.activeSubscriptions, .checkingFlag)
    | some info =>
      let connectedClients := info.connectedClients - 1
      (s.activeSubscriptions.insert systemId { info with connectedClients := connectedClients },
        if connectedClients ≤ 0 then .deleting systemId else .checkingFlag)
  else
    (s.activeSubscriptions, .next)

def runHandler (cfg : RealtimeConfig) (s : LifecycleState) (h : Nat) (receiver : Option Nat) :
    Option LifecycleState :=
  match (s.handlers h).stage with
  | .unused | .done => none
  | .next =>
    match (s.handlers h).added, (s.handlers h).removed with
    | k :: added, removed => some (s.setHandler h ⟨s.lookupAdded cfg k, added, removed⟩)
    | [], k :: removed =>
      some ((s.setActive (s.decrement cfg k).1).setHandler h
        ⟨(s.decrement cfg k).2, [], removed⟩)
    | [], [] => some (s.setStage h .done)
  | .inserting systemId k =>
    some ((s.setActive (s.activeSubscriptions.insert systemId ⟨k, 0⟩)).setStage h
      (.counting systemId))
  | .counting systemId =>
    match s.activeSubscriptions.lookup systemId with
    -- a nil pointer is dereferenced, and the handler ends
    | none => some (s.setStage h .done)
    | some info =>
      some ((s.setActive (s.activeSubscriptions.insert systemId
        { info with connectedClients := info.connectedClients + 1 })).setStage h
          (.starting systemId))
  | .starting _ => some (s.onRealtimeSubscriptionAdded.setStage h .next)
  | .deleting systemId =>
    some ((s.setActive (s.activeSubscriptions.erase systemId)).setStage h .checkingFlag)
  | .checkingFlag => some (s.setStage h (if s.workerRunning then .checkingActive else .next))
  | .checkingActive =>
    some (s.setStage h (if s.activeSubscriptions.keys = [] then .stopping else .next))
  | .stopping => (s.stopWorker receiver).map (·.setStage h .next)

/-! ## Workers -/

/-- The next step of worker `w` in `startRealtimeWorker`; in `select` it is a tick. -/
def startRealtimeWorker (w : Nat) : Option LifecycleState :=
  match s.workers w with
  | .unused | .done => none
  | .starting | .fetching => some (s.setWorker w .looping)
  | .looping => some (s.setWorker w (.waiting s.tickerStopChan))
  | .waiting _ => some (s.setWorker w .ticked)
  | .ticked =>
    some (s.setWorker w (if s.activeSubscriptions.keys = [] then .done else .fetching))

end LifecycleState

/-! ## Steps -/

inductive LifecycleAction where
  | request (added removed : List String)
  | handle (h : Nat) (receiver : Option Nat)
  | work (w : Nat)

def lifecycleStep (cfg : RealtimeConfig) (s : LifecycleState) :
    LifecycleAction → Option LifecycleState
  | .request added removed =>
    some { s with
      handlers := Function.update s.handlers s.nextHandler ⟨.next, added, removed⟩
      nextHandler := s.nextHandler + 1 }
  | .handle h receiver => s.runHandler cfg h receiver
  | .work w => s.startRealtimeWorker w

def LifecycleState.init : LifecycleState where
  activeSubscriptions := ∅
  workerRunning := false
  tickerStopChan := none
  nextChan := 0
  workers _ := .unused
  nextWorker := 0
  handlers _ := ⟨.unused, [], []⟩
  nextHandler := 0

/-! ## The property and the condition -/

/-- At most one worker runs, and one runs if there are subscriptions and no handler is in
    flight. -/
structure OneWorker (s : LifecycleState) : Prop where
  unique : ∀ w w', (s.workers w).Running → (s.workers w').Running → w = w'
  present : (∀ h < s.nextHandler, ¬ (s.handlers h).InFlight) → s.activeSubscriptions.keys ≠ [] →
    ∃ w < s.nextWorker, (s.workers w).Running

/-- The flag is right when a worker may be started, and nobody subscribes when it is stopped. -/
def HandlerGuard (s : LifecycleState) : HandlerStage → Prop
  | .starting _ => s.workerRunning = true ↔ ∃ w < s.nextWorker, (s.workers w).Running
  | .stopping => s.activeSubscriptions.keys = []
  | .unused | .next | .inserting _ _ | .counting _ | .deleting _ | .checkingFlag
  | .checkingActive | .done => True

instance (s : LifecycleState) (stage : HandlerStage) : Decidable (HandlerGuard s stage) := by
  unfold HandlerGuard
  split <;> infer_instance

def LifecycleGuard (s : LifecycleState) : LifecycleAction → Prop
  | .handle h _ => HandlerGuard s (s.handlers h).stage
  | .request _ _ | .work _ => True

instance (s : LifecycleState) (a : LifecycleAction) : Decidable (LifecycleGuard s a) := by
  unfold LifecycleGuard
  split <;> infer_instance

/-! ## The invariant -/

def HandlerStage.Starts (stage : HandlerStage) (systemId : String) : Prop :=
  stage = .counting systemId ∨ stage = .starting systemId

/-- Every entry has a worker or a handler that is about to start one. -/
structure WorkerInv (s : LifecycleState) : Prop where
  numbered : ∀ w, s.nextWorker ≤ w → s.workers w = .unused
  fresh : ∀ h, s.nextHandler ≤ h → (s.handlers h).stage = .unused
  unique : ∀ w w', (s.workers w).Running → (s.workers w').Running → w = w'
  served : ∀ systemId, s.activeSubscriptions.lookup systemId ≠ none →
    (∃ h, (s.handlers h).stage.Starts systemId) ∨ ∃ w, (s.workers w).Running

theorem lookup_of_keys_nil {active : ActiveSubscriptions} (hkeys : active.keys = [])
    (systemId : String) : active.lookup systemId = none := by
  rw [AList.lookup_eq_none]
  intro hmem
  rw [AList.mem_keys, hkeys] at hmem
  cases hmem

namespace WorkerInv

variable {cfg : RealtimeConfig} {s s' : LifecycleState} {h w : Nat}

theorem init : WorkerInv .init where
  numbered _ _ := rfl
  fresh _ _ := rfl
  unique _ _ hw := absurd rfl hw.1
  served _ hlookup := absurd rfl hlookup

section

variable (hinv : WorkerInv s)
include hinv

theorem oneWorker : OneWorker s where
  unique := hinv.unique
  present := by
    intro hidle hkeys
    obtain ⟨systemId, hmem⟩ := List.exists_mem_of_ne_nil _ hkeys
    have hlookup : s.activeSubscriptions.lookup systemId ≠ none := by
      rw [Ne, AList.lookup_eq_none]
      exact not_not_intro (AList.mem_keys.mpr hmem)
    rcases hinv.served systemId hlookup with ⟨h, hstarts⟩ | ⟨w, hrunning⟩
    · -- a handler that is about to start a worker is in flight
      have hflight : (s.handlers h).InFlight := by
        rcases hstarts with hstage | hstage <;> simp [Handler.InFlight, hstage]
      have hlt : h < s.nextHandler := by
        by_contra hge
        exact hflight.1 (hinv.fresh h (Nat.le_of_not_lt hge))
      exact absurd hflight (hidle h hlt)
    · exact ⟨w, lt_next_of_used hinv.numbered hrunning.1, hrunning⟩

section

variable (hused : (s.handlers h).stage ≠ .unused)
include hused

variable {handler : Handler} {active : ActiveSubscriptions}

theorem fresh_setHandler (h' : Nat) (hh' : s.nextHandler ≤ h') :
    (update s.handlers h handler h').stage = .unused := by
  have hne : h' ≠ h := by
    rintro rfl
    exact hused (hinv.fresh h' hh')
  rw [update_of_ne hne]
  exact hinv.fresh h' hh'

theorem moveHandler (hactive : ∀ systemId, active.lookup systemId ≠ none →
      s.activeSubscriptions.lookup systemId ≠ none ∨ handler.stage.Starts systemId)
    (hstarts : ∀ systemId, active.lookup systemId ≠ none →
      (s.handlers h).stage.Starts systemId → handler.stage.Starts systemId) :
    WorkerInv ((s.setActive active).setHandler h handler) where
  numbered := hinv.numbered
  fresh := hinv.fresh_setHandler hused
  unique := hinv.unique
  served := by
    intro systemId hlookup
    have hself : handler.stage.Starts systemId →
        ∃ h', (update s.handlers h handler h').stage.Starts systemId := by
      intro hstage
      refine ⟨h, ?_⟩
      rw [update_self]
      exact hstage
    rcases hactive systemId hlookup with hbef | hnew
    · rcases hinv.served systemId hbef with ⟨h', hstage⟩ | hrunning
      · by_cases hh : h' = h
        · rw [hh] at hstage
          exact .inl (hself (hstarts systemId hlookup hstage))
        · refine .inl ⟨h', ?_⟩
          show (update s.handlers h handler h').stage.Starts systemId
          rw [update_of_ne hh]
          exact hstage
      · exact .inr hrunning
    · exact .inl (hself hnew)

theorem setStage_quiet
    (hactive : ∀ systemId, active.lookup systemId ≠ none →
      s.activeSubscriptions.lookup systemId ≠ none)
    (hstage : ∀ systemId, ¬ (s.handlers h).stage.Starts systemId) :
    WorkerInv ((s.setActive active).setHandler h handler) :=
  hinv.moveHandler hused (fun systemId hlookup => .inl (hactive systemId hlookup))
    fun systemId _ hstarts => absurd hstarts (hstage systemId)

end

theorem setWorker {worker : WorkerStage} (hw : (s.workers w).Running)
    (hkeep : worker.Running ∨ s.activeSubscriptions.keys = []) :
    WorkerInv (s.setWorker w worker) where
  numbered := numbered_update hinv.numbered hw.1
  fresh := hinv.fresh
  unique := by
    have hbef : ∀ w', (update s.workers w worker w').Running →
        (s.workers w').Running := by
      refine forall_update (P := fun w' (worker : WorkerStage) =>
        worker.Running → (s.workers w').Running) ?_ ?_
      · intro _
        exact hw
      · intro w' _ hrunning
        exact hrunning
    intro w₁ w₂ h₁ h₂
    exact hinv.unique w₁ w₂ (hbef w₁ h₁) (hbef w₂ h₂)
  served := by
    intro systemId hlookup
    rcases hinv.served systemId hlookup with hstarts | ⟨w', hw'⟩
    · exact .inl hstarts
    · rcases hkeep with hrunning | hkeys
      · refine .inr ⟨w, ?_⟩
        show (update s.workers w worker w).Running
        rw [update_self]
        exact hrunning
      · exact absurd (lookup_of_keys_nil hkeys systemId) hlookup

variable {stage : HandlerStage}

theorem onRealtimeSubscriptionAdded (hused : (s.handlers h).stage ≠ .unused)
    (hflag : s.workerRunning = true ↔ ∃ w < s.nextWorker, (s.workers w).Running) :
    WorkerInv (s.onRealtimeSubscriptionAdded.setStage h stage) := by
  unfold LifecycleState.onRealtimeSubscriptionAdded
  split
  · next hrunning =>
    obtain ⟨w, _, hw⟩ := hflag.mp hrunning
    exact ⟨hinv.numbered, hinv.fresh_setHandler hused, hinv.unique, fun _ _ => .inr ⟨w, hw⟩⟩
  · next hstopped =>
    have hnone : ∀ w, ¬ (s.workers w).Running := by
      intro w hw
      exact hstopped (hflag.mpr ⟨w, lt_next_of_used hinv.numbered hw.1, hw⟩)
    -- the new worker is the only one
    have honly : ∀ w, (update s.workers s.nextWorker WorkerStage.starting w).Running →
        w = s.nextWorker := by
      refine forall_update (P := fun w (worker : WorkerStage) =>
        worker.Running → w = s.nextWorker) ?_ ?_
      · intro _
        rfl
      · intro w _ hw
        exact absurd hw (hnone w)
    refine ⟨numbered_spawn hinv.numbered, hinv.fresh_setHandler hused, ?_, ?_⟩
    · intro w w' hw hw'
      exact (honly w hw).trans (honly w' hw').symm
    · intro _ _
      refine .inr ⟨s.nextWorker, ?_⟩
      show (update s.workers s.nextWorker WorkerStage.starting s.nextWorker).Running
      rw [update_self]
      decide

theorem stopWorker {receiver : Option Nat} (hused : (s.handlers h).stage ≠ .unused)
    (hkeys : s.activeSubscriptions.keys = []) (hstop : s.stopWorker receiver = some s') :
    WorkerInv (s'.setStage h stage) := by
  have hserved : ∀ systemId, s.activeSubscriptions.lookup systemId ≠ none → False :=
    fun systemId hlookup => hlookup (lookup_of_keys_nil hkeys systemId)
  unfold LifecycleState.stopWorker at hstop
  split at hstop
  · next w =>
    split_ifs at hstop with hhears
    cases hstop
    have hw : (s.workers w).Running := by
      rw [hhears.2]
      exact ⟨by simp, by simp⟩
    have hstopped : WorkerInv (s.setWorker w .done) := hinv.setWorker hw (.inr hkeys)
    exact ⟨hstopped.numbered, hinv.fresh_setHandler hused, hstopped.unique, fun systemId hlookup =>
      absurd hlookup (hserved systemId)⟩
  · split_ifs at hstop
    cases hstop
    exact ⟨hinv.numbered, hinv.fresh_setHandler hused, hinv.unique, fun systemId hlookup =>
      absurd hlookup (hserved systemId)⟩

end

theorem decrement_lookup (s : LifecycleState) (k systemId : String)
    (hlookup : (s.decrement cfg k).1.lookup systemId ≠ none) :
    s.activeSubscriptions.lookup systemId ≠ none := by
  unfold LifecycleState.decrement at hlookup
  split at hlookup
  · dsimp only at hlookup
    split at hlookup
    · exact hlookup
    · next info hinfo =>
      rcases GoMap.of_lookup_insert_ne_none hlookup with heq | hbef
      · rw [heq, hinfo]
        exact Option.some_ne_none info
      · exact hbef
  · exact hlookup

variable {receiver : Option Nat}

variable (hinv : WorkerInv s)
include hinv

theorem counting {systemId : String} (hstage : (s.handlers h).stage = .counting systemId)
    (hstep : s.runHandler cfg h receiver = some s') : WorkerInv s' := by
  have hused : (s.handlers h).stage ≠ .unused := by simp [hstage]
  have hstarts : ∀ systemId', (s.handlers h).stage.Starts systemId' → systemId' = systemId := by
    intro systemId' hstarts
    simpa [HandlerStage.Starts, hstage, eq_comm] using hstarts
  simp only [LifecycleState.runHandler, hstage] at hstep
  split at hstep
  · next hlookup =>
    cases hstep
    refine hinv.moveHandler hused (fun _ hbef => .inl hbef) ?_
    intro systemId' hbef hstarts'
    rw [hstarts systemId' hstarts'] at hbef
    exact absurd hlookup hbef
  · cases hstep
    refine hinv.moveHandler hused ?_ ?_
    · intro systemId' hlookup
      rcases GoMap.of_lookup_insert_ne_none hlookup with heq | hbef
      · exact .inr (.inr (by rw [heq]))
      · exact .inl hbef
    · intro systemId' _ hstarts'
      exact .inr (by rw [hstarts systemId' hstarts'])

/-- A handler that meets the condition starts and stops the one worker. -/
theorem runHandler (hG : HandlerGuard s (s.handlers h).stage)
    (hstep : s.runHandler cfg h receiver = some s') : WorkerInv s' := by
  have hsame : ∀ systemId, s.activeSubscriptions.lookup systemId ≠ none →
      s.activeSubscriptions.lookup systemId ≠ none := fun _ hlookup => hlookup
  have hused : (s.handlers h).stage ≠ .unused := by
    intro hunused
    simp [LifecycleState.runHandler, hunused] at hstep
  have hrun := hstep
  unfold LifecycleState.runHandler at hrun
  cases hstage : (s.handlers h).stage with (rw [hstage] at hrun hG; dsimp only at hrun)
  | unused | done => cases hrun
  | next =>
    have hquiet : ∀ systemId, ¬ (s.handlers h).stage.Starts systemId := by
      intro systemId
      simp [HandlerStage.Starts, hstage]
    split at hrun
    · cases hrun
      exact hinv.setStage_quiet hused hsame hquiet
    · next k removed _ _ =>
      cases hrun
      exact hinv.setStage_quiet hused (decrement_lookup s k) hquiet
    · cases hrun
      exact hinv.setStage_quiet hused hsame hquiet
  | inserting systemId k =>
    cases hrun
    refine hinv.moveHandler hused ?_ ?_
    · intro systemId' hlookup
      rcases GoMap.of_lookup_insert_ne_none hlookup with heq | hbef
      · exact .inr (.inl (by rw [heq]))
      · exact .inl hbef
    · intro systemId' _ hstarts
      simp [HandlerStage.Starts, hstage] at hstarts
  | counting systemId => exact hinv.counting hstage hstep
  | starting systemId =>
    cases hrun
    exact hinv.onRealtimeSubscriptionAdded hused hG
  | deleting systemId =>
    cases hrun
    refine hinv.setStage_quiet hused (fun _ => GoMap.of_lookup_erase_ne_none) ?_
    intro systemId'
    simp [HandlerStage.Starts, hstage]
  | checkingFlag =>
    cases hrun
    exact hinv.setStage_quiet hused hsame fun systemId => by simp [HandlerStage.Starts, hstage]
  | checkingActive =>
    cases hrun
    exact hinv.setStage_quiet hused hsame fun systemId => by simp [HandlerStage.Starts, hstage]
  | stopping =>
    obtain ⟨t, hstop, rfl⟩ := Option.map_eq_some_iff.mp hrun
    exact hinv.stopWorker hused hG hstop

theorem startRealtimeWorker (hstep : s.startRealtimeWorker w = some s') : WorkerInv s' := by
  have hrunning : (s.workers w).Running := by
    constructor
    · intro hunused
      simp [LifecycleState.startRealtimeWorker, hunused] at hstep
    · intro hdone
      simp [LifecycleState.startRealtimeWorker, hdone] at hstep
  unfold LifecycleState.startRealtimeWorker at hstep
  split at hstep
  · cases hstep
  · cases hstep
  · cases hstep
    exact hinv.setWorker hrunning (.inl (by decide))
  · cases hstep
    exact hinv.setWorker hrunning (.inl (by decide))
  · cases hstep
    exact hinv.setWorker hrunning (.inl ⟨by simp, by simp⟩)
  · cases hstep
    exact hinv.setWorker hrunning (.inl (by decide))
  · cases hstep
    apply hinv.setWorker hrunning
    split_ifs with hkeys
    · exact .inr hkeys
    · exact .inl (by decide)

theorem request (added removed : List String) :
    WorkerInv { s with
      handlers := update s.handlers s.nextHandler ⟨.next, added, removed⟩
      nextHandler := s.nextHandler + 1 } where
  numbered := hinv.numbered
  fresh := by
    intro h hh
    show (update s.handlers s.nextHandler _ h).stage = .unused
    rw [update_of_ne (Nat.ne_of_gt hh)]
    exact hinv.fresh h (Nat.le_of_succ_le hh)
  unique := hinv.unique
  served := by
    intro systemId hlookup
    rcases hinv.served systemId hlookup with ⟨h, hstarts⟩ | hrunning
    · have hne : h ≠ s.nextHandler := by
        rintro rfl
        simp [HandlerStage.Starts, hinv.fresh s.nextHandler (Nat.le_refl _)] at hstarts
      refine .inl ⟨h, ?_⟩
      show (update s.handlers s.nextHandler _ h).stage.Starts systemId
      rw [update_of_ne hne]
      exact hstarts
    · exact .inr hrunning

end WorkerInv

/-- **One step** keeps the worker in line with the entries. -/
theorem workerInv_step {cfg : RealtimeConfig} {s s' : LifecycleState} {a : LifecycleAction}
    (hinv : WorkerInv s) (hG : LifecycleGuard s a) (hstep : lifecycleStep cfg s a = some s') :
    WorkerInv s' := by
  cases a with
  | request added removed =>
    cases hstep
    exact hinv.request added removed
  | handle h receiver => exact hinv.runHandler hG hstep
  | work w => exact hinv.startRealtimeWorker hstep

/-! ## Runs -/

/-- **One worker**: at most one worker runs, and exactly one if there are subscriptions and no
    handler is in flight, if `workerRunning` is right whenever a handler looks at it to start one,
    and there are no subscriptions whenever a handler stops the worker. -/
theorem one_worker (cfg : RealtimeConfig) (as : List LifecycleAction)
    (hG : EveryStep (lifecycleStep cfg) LifecycleGuard .init as) :
    EveryState (lifecycleStep cfg) OneWorker .init as := by
  apply everyState_of_invariant (I := WorkerInv)
  · intro s a s' hinv hguard hstep
    exact workerInv_step hinv hguard hstep
  · intro s hinv
    exact hinv.oneWorker
  · exact WorkerInv.init
  · exact hG

/-- The steps of a handler, without a worker that waits for a stop signal. -/
def handleSteps (h n : Nat) : List LifecycleAction := List.replicate n (.handle h none)

/-- A client subscribes and unsubscribes while the worker waits, twice. -/
def inTurnRun : List LifecycleAction :=
  [.request [webTopic "rt_metrics"] []] ++ handleSteps 0 5 ++ [.work 0, .work 0] ++
    [.request [] [webTopic "rt_metrics"]] ++ handleSteps 1 4 ++ [.handle 1 (some 0)] ++
    handleSteps 1 1 ++ [.request [webTopic "rt_metrics"] []] ++ handleSteps 2 5 ++ [.work 1]

theorem one_worker_in_turn :
    ((exec (lifecycleStep sampleRealtime) .init inTurnRun).map fun t =>
        (t.workers 0, t.workers 1, t.activeSubscriptions.keys)) =
      some (.done, .looping, ["web"]) ∧
    EveryState (lifecycleStep sampleRealtime) OneWorker .init inTurnRun := by
  have hguard : EveryStep (lifecycleStep sampleRealtime) LifecycleGuard .init inTurnRun := by
    decide +kernel
  exact ⟨by decide +kernel, one_worker sampleRealtime inTurnRun hguard⟩

/-- The client unsubscribes while the worker fetches, and subscribes again. -/
def unheardRun : List LifecycleAction :=
  [.request [webTopic "rt_metrics"] []] ++ handleSteps 0 5 ++
    [.request [] [webTopic "rt_metrics"]] ++ handleSteps 1 6 ++
    [.request [webTopic "rt_metrics"] []] ++ handleSteps 2 4

/-- A tick and the next subscription come between the removal of the last entry and the test of
    `checkSubscriptions`. -/
def emptyTickRun : List LifecycleAction :=
  [.request [webTopic "rt_metrics"] []] ++ handleSteps 0 5 ++ [.work 0, .work 0] ++
    [.request [] [webTopic "rt_metrics"]] ++ handleSteps 1 2 ++ [.work 0, .work 0] ++
    [.request [webTopic "rt_metrics"] []] ++ handleSteps 2 5 ++ handleSteps 1 3

/-- **Two workers, and none**: a worker that fetches misses the stop signal, and the next
    subscription starts a second one; one that returns at a tick leaves the flag, and the next
    subscription starts none. -/
theorem worker_doubled_or_lost :
    (∃ t, exec (lifecycleStep sampleRealtime) .init unheardRun = some t ∧
      (t.workers 0).Running ∧ (t.workers 1).Running ∧ ¬ OneWorker t) ∧
    ∃ t, exec (lifecycleStep sampleRealtime) .init emptyTickRun = some t ∧
      t.activeSubscriptions.keys = ["web"] ∧ ¬ OneWorker t := by
  constructor
  · refine ⟨_, rfl, by decide +kernel, by decide +kernel, fun h => ?_⟩
    exact absurd (h.unique 0 1 (by decide +kernel) (by decide +kernel)) (by decide)
  · refine ⟨_, rfl, by decide +kernel, fun h => ?_⟩
    exact absurd (h.present (by decide +kernel) (by decide +kernel)) (by decide +kernel)

end Bantay.Systems
