import Bantay.Systems.StoreSteps

/-!
# Replaced Objects and their Updaters

When an agent reconnects, or a system is resumed, the manager replaces the `System` object: it
cancels the old one, takes it out of the store and puts a new one in.  The old updater notices that
it has been cancelled only at its `select`; its polls, `setDown` and `handlePaused` act on the
system by its id.
-/

namespace Bantay.Systems

open Bantay.Lib

/-! ## The property and the condition -/

/-- A later object has been put into the manager. -/
def Replaced (s : Store) (o : Nat) : Prop := o + 1 < s.nextObject
deriving Decidable

def StoreAction.goroutine : StoreAction → Option Nat
  | .run t _ | .tick t | .connDown t | .stop t => some t
  | .onClose _ | .signal _ | .removeSystem | .addRecord _ | .connect | .edit _ | .rotate => none

/-- The updater of a replaced object leaves the stored status and the object in the manager
    alone. -/
def LeavesAlone (cfg : ManagerConfig) (s : StoreState) (a : StoreAction) : Prop :=
  ∀ t ∈ a.goroutine, ∀ o ∈ (s.goroutines t).updater, Replaced s.store o →
    ∀ s', storeStep cfg s a = some s' →
      s'.store.stored = s.store.stored ∧ ∀ n ∈ s.store.current, s'.store.current = some n

/-- The updater of the object is at its `select`, or has not begun, or has ended. -/
def AtRest (o : Nat) (stack : List Frame) : Prop :=
  stack = [] ∨ stack = [.starting o] ∨ stack = [.select o]
deriving Decidable

/-- `systems.Remove` finds an object that has been cancelled, or none. -/
def RemoveGuard (s : Store) : Prop := ∀ o ∈ s.current, (s.objects o).cancelled = true
deriving Decidable

/-- `systems.Set` finds no object, and the updaters of earlier objects are at rest, its own once it
    has returned. -/
def SetGuard (s : StoreState) (t : Nat) (rest : List Frame) : Prop :=
  s.store.current = none ∧
  ∀ t' < s.nextGoroutine, ∀ o ∈ (s.goroutines t').updater,
    AtRest o (if t' = t then rest else (s.goroutines t').stack)

/-- The calls below an `AddSystem` that is at `systems.Set`. -/
def belowSet : List Frame → Option (List Frame)
  | .set _ _ :: rest => some rest
  | _ => none

/-- Objects are taken out and put in as these guards say, and cancelled updaters leave their
    `select` by its `Done` case. -/
def ReplaceGuard (s : StoreState) : StoreAction → Prop
  | .run t _ =>
    ((s.goroutines t).stack.head? = some .remove → RemoveGuard s.store) ∧
    ∀ rest ∈ belowSet (s.goroutines t).stack, SetGuard s t rest
  | .tick t | .connDown t =>
    ∀ o ∈ (s.goroutines t).updater, (s.store.objects o).cancelled = false
  | .stop _ | .onClose _ | .signal _ | .removeSystem | .addRecord _ | .connect | .edit _
  | .rotate => True

instance (s : StoreState) (t : Nat) (rest : List Frame) : Decidable (SetGuard s t rest) :=
  inferInstanceAs (Decidable (_ ∧ ∀ t' < s.nextGoroutine, ∀ o ∈ (s.goroutines t').updater, _))

instance (s : StoreState) (a : StoreAction) : Decidable (ReplaceGuard s a) := by
  unfold ReplaceGuard
  split <;> infer_instance

/-! ## Updaters at rest -/

theorem runFrame_atRest {cfg : ManagerConfig} {s : Store} {frame : Frame} {ok : Bool}
    {outcome : Outcome} {o : Nat} {rest : List Frame} (hrest : AtRest o (frame :: rest))
    (hcanc : (s.objects o).cancelled = true)
    (hrun : runFrame cfg s frame ok = some outcome) :
    outcome = ⟨s, [.select o], none⟩ ∧ rest = [] := by
  rcases hrest with hnil | hstarting | hsel
  · cases hnil
  · cases hstarting
    -- `sys.ctx.Err() == nil` fails
    have hskip : ¬ ((s.objects o).status ≠ .paused ∧ (s.objects o).cancelled = false) := by
      rintro ⟨-, hlive⟩
      rw [hcanc] at hlive
      cases hlive
    simp only [runFrame, if_neg hskip] at hrun
    exact ⟨(Option.some.inj hrun).symm, rfl⟩
  · cases hsel
    cases hrun

/-! ## The invariant -/

/-- Objects that have left the manager are cancelled, and the object in the manager is the
    latest. -/
structure Kept (s : Store) : Prop where
  removed : ∀ o < s.nextObject, s.current ≠ some o → (s.objects o).cancelled = true
  latest : ∀ o ∈ s.current, o + 1 = s.nextObject

namespace Kept

variable {s s' : Store}

theorem keeps (h : Kept s) (hkeeps : Keeps s s') : Kept s' where
  removed o ho hcur := by
    rw [hkeeps.nextObject] at ho
    rw [hkeeps.current] at hcur
    exact hkeeps.cancelled o (h.removed o ho hcur)
  latest o ho := by
    rw [hkeeps.current] at ho
    rw [hkeeps.nextObject]
    exact h.latest o ho

theorem remove (h : Kept s) (hG : RemoveGuard s) : Kept { s with current := none } where
  removed o ho _ := by
    by_cases hcur : s.current = some o
    · exact hG o hcur
    · exact h.removed o ho hcur
  latest o ho := by cases ho

theorem set (h : Kept s) (hnone : s.current = none) (object : SystemObject) :
    Kept { s.setObject s.nextObject object with
      nextObject := s.nextObject + 1
      current := some s.nextObject } where
  removed o ho hcur := by
    have hne : o ≠ s.nextObject := fun heq => hcur (congrArg some heq.symm)
    have hlt : o < s.nextObject := Nat.lt_of_le_of_ne (Nat.le_of_lt_succ ho) hne
    show (Function.update s.objects s.nextObject object o).cancelled = true
    rw [Function.update_of_ne hne]
    -- an object that is older than the new one has left the manager before
    refine h.removed o hlt ?_
    rw [hnone]
    exact (Option.some_ne_none o).symm
  latest o ho := congrArg (· + 1) (Option.some.inj ho).symm

theorem cancelled_of_replaced (h : Kept s) {o : Nat} (hrepl : Replaced s o) :
    (s.objects o).cancelled = true := by
  refine h.removed o (Nat.lt_of_succ_lt hrepl) ?_
  intro hcur
  exact Nat.ne_of_lt hrepl (h.latest o hcur)

end Kept

def Rests (s : Store) (goroutine : Goroutine) : Prop :=
  ∀ o ∈ goroutine.updater, o < s.nextObject ∧ (Replaced s o → AtRest o goroutine.stack)

theorem Rests.congr {s s' : Store} {goroutine : Goroutine} (h : Rests s goroutine)
    (hnext : s'.nextObject = s.nextObject) : Rests s' goroutine := by
  unfold Rests Replaced
  rw [hnext]
  exact h

theorem rests_of_none {s : Store} {goroutine : Goroutine} (h : goroutine.updater = none) :
    Rests s goroutine := by
  intro o ho
  rw [h] at ho
  cases ho

theorem StoreState.used {s : StoreState} {t : Nat} {frame : Frame} {rest : List Frame}
    (hstack : (s.goroutines t).stack = frame :: rest) : s.goroutines t ≠ ⟨none, []⟩ := by
  intro hunused
  rw [hunused] at hstack
  cases hstack

/-- What the updaters of replaced objects can still do. -/
structure StoreInv (s : StoreState) : Prop where
  numbered : ∀ t, s.nextGoroutine ≤ t → s.goroutines t = ⟨none, []⟩
  kept : Kept s.store
  rests : ∀ t, Rests s.store (s.goroutines t)

namespace StoreInv

variable {cfg : ManagerConfig} {s s' : StoreState} {t : Nat} {frame : Frame}
  {rest stack : List Frame} {outcome : Outcome} {ok : Bool}

theorem init (stored : Status) : StoreInv (.init stored) where
  numbered t ht := by
    have hne : t ≠ 0 := Nat.pos_iff_ne_zero.mp ht
    exact congrArg (Goroutine.mk none) (if_neg fun h => hne h.1)
  kept := ⟨fun _ _ _ => rfl, fun _ h => by cases h⟩
  rests _ := rests_of_none rfl

variable (h : StoreInv s)
include h

theorem cancelled {o : Nat} (hrepl : Replaced s.store o) :
    (s.store.objects o).cancelled = true := h.kept.cancelled_of_replaced hrepl

theorem spawn {goroutine : Goroutine} (hupdater : goroutine.updater = none) :
    StoreInv (s.spawn goroutine) where
  numbered := numbered_spawn h.numbered
  kept := h.kept
  rests := forall_update (P := fun _ => Rests s.store) (rests_of_none hupdater)
    (fun t _ => h.rests t)

theorem setConnection (o : Nat) (wsConn : Connection) :
    StoreInv (s.setConnection o wsConn) where
  numbered := h.numbered
  kept := h.kept.keeps (.setObject fun hcanc => hcanc)
  rests t := (h.rests t).congr rfl

section

variable (hused : s.goroutines t ≠ ⟨none, []⟩)
include hused

theorem setStack (hrests : Rests s.store { s.goroutines t with stack := stack }) :
    StoreInv (s.setStack t stack) where
  numbered := numbered_update h.numbered hused
  kept := h.kept
  rests := forall_update (P := fun _ => Rests s.store) hrests (fun t _ => h.rests t)

theorem leaveSelect (hG : ∀ o ∈ (s.goroutines t).updater, (s.store.objects o).cancelled = false) :
    StoreInv (s.setStack t stack) := by
  refine h.setStack hused ?_
  intro o ho
  refine ⟨(h.rests t o ho).1, ?_⟩
  intro hrepl
  -- a replaced object has been cancelled
  have hlive := hG o ho
  rw [h.cancelled hrepl] at hlive
  cases hlive

theorem finish (hkept : Kept outcome.store)
    (hself : Rests outcome.store { s.goroutines t with stack := outcome.frames ++ rest })
    (hspawned : ∀ goroutine ∈ outcome.spawned, Rests outcome.store goroutine)
    (hother : ∀ t', t' ≠ t → Rests outcome.store (s.goroutines t')) :
    StoreInv (s.finish t rest outcome) := by
  have hnum : ∀ t', s.nextGoroutine ≤ t' →
      (s.setStack t (outcome.frames ++ rest)).goroutines t' = ⟨none, []⟩ :=
    numbered_update h.numbered hused
  have hrests := forall_update (P := fun _ => Rests outcome.store) hself hother
  unfold StoreState.finish
  cases hspawn : outcome.spawned with
  | none => exact ⟨hnum, hkept, hrests⟩
  | some goroutine =>
    refine ⟨numbered_spawn hnum, hkept, ?_⟩
    exact forall_update (P := fun _ => Rests outcome.store) (hspawned goroutine hspawn)
      (fun t' _ => hrests t')

end

theorem rests_self (hstack : (s.goroutines t).stack = frame :: rest)
    (hrun : runFrame cfg s.store frame ok = some outcome)
    (hnext : outcome.store.nextObject = s.store.nextObject) :
    Rests outcome.store { s.goroutines t with stack := outcome.frames ++ rest } := by
  refine Rests.congr ?_ hnext
  intro o ho
  obtain ⟨hlt, hrest⟩ := h.rests t o ho
  refine ⟨hlt, ?_⟩
  intro hrepl
  rw [hstack] at hrest
  -- it was replaced before, so it can only go to its `select`
  obtain ⟨rfl, rfl⟩ := runFrame_atRest (hrest hrepl) (h.cancelled hrepl) hrun
  exact .inr (.inr rfl)

theorem rests_set (hrest : ∀ o ∈ (s.goroutines t).updater, AtRest o stack) {store : Store}
    (hnext : store.nextObject = s.store.nextObject + 1) :
    Rests store { s.goroutines t with stack := stack } := by
  intro o ho
  refine ⟨?_, fun _ => hrest o ho⟩
  rw [hnext]
  exact Nat.lt_succ_of_lt (h.rests t o ho).1

theorem atRest_other (hG : SetGuard s t rest) {t' : Nat} (hne : t' ≠ t) :
    ∀ o ∈ (s.goroutines t').updater, AtRest o (s.goroutines t').stack := by
  intro o ho
  have hused : s.goroutines t' ≠ ⟨none, []⟩ := by
    intro hunused
    rw [hunused] at ho
    cases ho
  have hrest := hG.2 t' (lt_next_of_used h.numbered hused) o ho
  rw [if_neg hne] at hrest
  exact hrest

theorem atRest_self (hstack : (s.goroutines t).stack = frame :: rest) (hG : SetGuard s t rest) :
    ∀ o ∈ (s.goroutines t).updater, AtRest o rest := by
  intro o ho
  have hrest := hG.2 t (lt_next_of_used h.numbered (StoreState.used hstack)) o ho
  rw [if_pos rfl] at hrest
  exact hrest

/-- A goroutine that meets the condition keeps replaced updaters at rest. -/
theorem run (hG : ReplaceGuard s (.run t ok))
    (hstep : storeStep cfg s (.run t ok) = some s') : StoreInv s' := by
  simp only [storeStep] at hstep
  split at hstep
  · cases hstep
  · next frame rest hstack =>
    obtain ⟨outcome, hrun, rfl⟩ := Option.map_eq_some_iff.mp hstep
    have hused := StoreState.used hstack
    by_cases hrem : frame = .remove
    · -- `systems.Remove` takes out an object that has been cancelled
      subst hrem
      have hguard : RemoveGuard s.store := hG.1 (by rw [hstack]; rfl)
      have hself := h.rests_self hstack hrun (by cases hrun; rfl)
      cases hrun
      refine h.finish hused (h.kept.remove hguard) hself ?_ ?_
      · exact fun _ hnone => by cases hnone
      · exact fun t' _ => (h.rests t').congr rfl
    · by_cases hset : ∃ status wsConn, frame = .set status wsConn
      · -- `systems.Set` makes all earlier objects replaced ones
        obtain ⟨status, wsConn, rfl⟩ := hset
        have hguard : SetGuard s t rest := hG.2 rest (by rw [hstack]; rfl)
        cases hrun
        refine h.finish hused (h.kept.set hguard.1 _) ?_ ?_ ?_
        · exact h.rests_set (h.atRest_self hstack hguard) rfl
        · intro goroutine hspawned
          cases hspawned
          intro o ho
          cases ho
          -- the new object is the latest
          exact ⟨Nat.lt_succ_self _, fun hrepl => absurd hrepl (Nat.lt_irrefl _)⟩
        · exact fun t' hne => h.rests_set (h.atRest_other hguard hne) rfl
      · -- any other operation, also of a goroutine that is not at rest
        have hquiet : outcome.Quiet s.store := by
          refine runFrame_quiet hrem ?_ hrun
          exact fun status wsConn heq => hset ⟨status, wsConn, heq⟩
        refine h.finish hused (h.kept.keeps hquiet.keeps) ?_ ?_ ?_
        · exact h.rests_self hstack hrun hquiet.keeps.nextObject
        · exact fun goroutine hspawned => rests_of_none (hquiet.spawned goroutine hspawned)
        · exact fun t' _ => (h.rests t').congr hquiet.keeps.nextObject

end StoreInv

section Runs

variable {cfg : ManagerConfig} {s s' : StoreState}

/-- **One step** under the condition keeps the updaters of replaced objects at rest. -/
theorem storeInv_step {a : StoreAction} (h : StoreInv s) (hG : ReplaceGuard s a)
    (hstep : storeStep cfg s a = some s') : StoreInv s' := by
  cases a with simp only [storeStep] at hstep
  | run t ok => exact h.run hG hstep
  | tick t =>
    split at hstep
    · next o hstack =>
      cases hstep
      exact h.leaveSelect (StoreState.used hstack) hG
    · cases hstep
  | connDown t =>
    split at hstep
    · next o hstack =>
      split at hstep
      · cases hstep
        exact (h.leaveSelect (StoreState.used hstack) hG).setConnection o .absent
      · cases hstep
    · cases hstep
  | stop t =>
    split at hstep
    · next o hstack =>
      split at hstep
      · cases hstep
        refine h.setStack (StoreState.used hstack) ?_
        exact fun o ho => ⟨(h.rests t o ho).1, fun _ => .inl rfl⟩
      · cases hstep
    · cases hstep
  | onClose o | signal o =>
    split at hstep
    · cases hstep
      exact h.setConnection o _
    · cases hstep
  | removeSystem | addRecord status | connect | edit change =>
    cases hstep
    exact h.spawn rfl
  | rotate =>
    split at hstep <;> cases hstep
    · exact h.spawn rfl
    · exact h

/-- A replaced updater only goes to its `select` and from there to its end. -/
theorem StoreInv.leavesAlone (h : StoreInv s) {a : StoreAction} (hG : ReplaceGuard s a) :
    LeavesAlone cfg s a := by
  intro t ht o ho hrepl s' hstep
  have hcanc := h.cancelled hrepl
  have hrest := (h.rests t o ho).2 hrepl
  cases a with
  | run t' ok =>
    cases ht
    simp only [storeStep] at hstep
    split at hstep
    · cases hstep
    · next frame rest hstack =>
      obtain ⟨outcome, hrun, rfl⟩ := Option.map_eq_some_iff.mp hstep
      rw [hstack] at hrest
      obtain ⟨rfl, rfl⟩ := runFrame_atRest hrest hcanc hrun
      exact ⟨rfl, fun _ hn => hn⟩
  | tick t' | connDown t' =>
    -- a cancelled updater leaves its select by `Done`
    cases ht
    have hlive := hG o ho
    rw [hcanc] at hlive
    cases hlive
  | stop t' =>
    simp only [storeStep] at hstep
    split at hstep
    · split at hstep
      · cases hstep
        exact ⟨rfl, fun _ hn => hn⟩
      · cases hstep
    · cases hstep
  | onClose | signal | removeSystem | addRecord | connect | edit | rotate => cases ht

/-- **Replaced updaters leave the system alone**: no step of theirs changes the stored status or
    takes the object out of the manager, if `RemoveSystem` takes only cancelled objects out,
    objects are put into an empty store while earlier updaters are at rest, and cancelled updaters
    leave their `select` by its `Done` case. -/
theorem replaced_updaters_leave_alone (cfg : ManagerConfig) (stored : Status)
    (as : List StoreAction) (hG : EveryStep (storeStep cfg) ReplaceGuard (.init stored) as) :
    EveryStep (storeStep cfg) (LeavesAlone cfg) (.init stored) as := by
  apply everyStep_of_invariant (I := StoreInv)
  · intro s a s' h hguard hstep
    exact storeInv_step h hguard hstep
  · exact fun s a h hguard => h.leavesAlone hguard
  · exact StoreInv.init stored
  · exact hG

end Runs

/-- Goroutine `t` makes its next operations, all of which succeed. -/
def runs (t : Nat) (n : Nat) : List StoreAction := List.replicate n (.run t true)

/-- An agent connects; its updater (goroutine 2) is started. -/
def agentConnects : List StoreAction := .connect :: runs 1 3

/-- The agent reconnects; the updater of the new object is goroutine 4. -/
def agentReconnects : List StoreAction := .connect :: runs 3 6

/-- The agent reconnects between two polls, and the old updater stops. -/
def reconnectAtRest : List StoreAction :=
  agentConnects ++ runs 2 6 ++ agentReconnects ++ [.onClose 0, .signal 0, .stop 2] ++ runs 4 6

theorem reconnect_at_rest_is_safe :
    ((exec (storeStep ⟨"web"⟩) (.init .up) reconnectAtRest).map fun s => s.store.current) =
      some (some 1) ∧
    EveryStep (storeStep ⟨"web"⟩) ReplaceGuard (.init .up) reconnectAtRest ∧
    EveryStep (storeStep ⟨"web"⟩) (LeavesAlone ⟨"web"⟩) (.init .up) reconnectAtRest := by
  have hguard : EveryStep (storeStep ⟨"web"⟩) ReplaceGuard (.init .up) reconnectAtRest := by
    decide +kernel
  exact ⟨by decide +kernel, hguard, replaced_updaters_leave_alone _ _ _ hguard⟩

/-- **A slow poll sets the replacement down**: the fetch of the old updater fails after the agent
    has reconnected. -/
theorem slow_poll_sets_replacement_down :
    ∃ s : StoreState,
      exec (storeStep ⟨"web"⟩) (.init .up)
        (agentConnects ++ runs 2 2 ++ agentReconnects ++ .run 2 false :: runs 2 2) = some s ∧
      (s.goroutines 2).updater = some 0 ∧ Replaced s.store 0 ∧ s.store.current = some 1 ∧
      s.store.stored = .up ∧
      (storeStep ⟨"web"⟩ s (.run 2 true)).map (fun s' => s'.store.stored) = some .down ∧
      ¬ LeavesAlone ⟨"web"⟩ s (.run 2 true) := by
  refine ⟨_, rfl, rfl, by decide, rfl, rfl, rfl, ?_⟩
  intro h
  have hstored := (h 2 rfl 0 rfl (by decide) _ rfl).1
  cases hstored

end Bantay.Systems
