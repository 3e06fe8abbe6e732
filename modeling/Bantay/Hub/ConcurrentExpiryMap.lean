import Bantay.Hub.ExpiryMap
import Bantay.Lib.Pool
import Bantay.Lib.Transition

/-!
# The Expiring Map under Concurrent Calls

The operations of `internal/hub/expirymap/expirymap.go` as calls that overlap.  The underlying
store makes single operations atomic; `GetOk`, `UpdateExpiration` and `cleanup` read an entry
first and write later, and look at the clock in between.

Every operation of the store and every look at the clock is one step, and the clock may move on
between any two of them.
-/

namespace Bantay.Hub

open Bantay.Lib Function

/-! ## Data -/

inductive MapTask (K T : Type) where
  | unused
  | done
  /-- `Set` at the store -/
  | setting (key : K) (entry : Val T)
  /-- `GetOk` has read an entry; at the clock -/
  | checking (key : K) (entry : Val T)
  /-- `GetOk` has found its entry expired; at `Remove` -/
  | expiring (key : K)
  /-- `UpdateExpiration` has read an entry; at the clock -/
  | extending (key : K) (entry : Val T) (ttl : Nat)
  /-- `UpdateExpiration` at `Set` -/
  | updating (key : K) (read : Val T) (expires : Nat)
  /-- `cleanup` at `GetAll` -/
  | scanning (now : Nat)
  /-- `cleanup` at `Remove`, with the expired keys that are left -/
  | cleaning (keys : List K)

structure MapState (K T : Type) where
  map : ExpiryMap K T
  now : Nat
  tasks : Nat → MapTask K T
  nextTask : Nat
  /-- history: the last `Set` of a key that has not been removed or shortened since -/
  promised : K → Option (Val T)
  /-- history: the key has been removed and not been set since -/
  removed : K → Bool

inductive MapAction (K T : Type) where
  | set (key : K) (value : T) (ttl : Nat)
  | getOk (key : K)
  | remove (key : K)
  | updateExpiration (key : K) (ttl : Nat)
  | cleanup
  /-- `GetAll` of a `cleanup`, with the order in which it ranges over the keys -/
  | scan (t : Nat) (order : List K)
  | run (t : Nat)
  | tick (elapsed : Nat)

namespace MapState

variable {K T : Type} [DecidableEq K]

variable (s : MapState K T)

def setTask (t : Nat) (task : MapTask K T) : MapState K T :=
  { s with tasks := Function.update s.tasks t task }

def spawn (task : MapTask K T) : MapState K T :=
  { s with tasks := Function.update s.tasks s.nextTask task, nextTask := s.nextTask + 1 }

def storeSet (key : K) (entry : Val T) : MapState K T :=
  { s with
    map := ⟨s.map.store.insert key entry⟩
    promised := Function.update s.promised key (some entry)
    removed := Function.update s.removed key false }

def storeRemove (key : K) : MapState K T :=
  { s with
    map := s.map.remove key
    promised := Function.update s.promised key none
    removed := Function.update s.removed key true }

/-- `store.Remove` of `GetOk` and `cleanup` -/
def storeExpire (key : K) : MapState K T :=
  { s with map := s.map.remove key }

def shorten (promise : Option (Val T)) (expires : Nat) : Option (Val T) :=
  promise.filter fun entry => entry.expires ≤ expires

def storeUpdate (key : K) (read : Val T) (expires : Nat) : MapState K T :=
  { s with
    map := ⟨s.map.store.insert key { read with expires := expires }⟩
    promised := Function.update s.promised key (shorten (s.promised key) expires) }

def expiredKeys (m : ExpiryMap K T) (now : Nat) (order : List K) : List K :=
  order.filter fun key => (m.store.lookup key).any fun entry => entry.expires < now

def run (t : Nat) : Option (MapState K T) :=
  match s.tasks t with
  | .setting key entry => some ((s.storeSet key entry).setTask t .done)
  | .checking key entry =>
    some (s.setTask t (if entry.expires < s.now then .expiring key else .done))
  | .expiring key => some ((s.storeExpire key).setTask t .done)
  | .extending key entry ttl => some (s.setTask t (.updating key entry (s.now + ttl)))
  | .updating key read expires => some ((s.storeUpdate key read expires).setTask t .done)
  | .cleaning [] => some (s.setTask t .done)
  | .cleaning (key :: keys) => some ((s.storeExpire key).setTask t (.cleaning keys))
  | .unused | .done | .scanning _ => none

end MapState

section Step

variable {K T : Type} [DecidableEq K]

def mapStep (s : MapState K T) : MapAction K T → Option (MapState K T)
  | .set key value ttl => some (s.spawn (.setting key ⟨value, s.now + ttl⟩))
  | .getOk key =>
    match s.map.store.lookup key with
    | none => some s
    | some entry => some (s.spawn (.checking key entry))
  | .remove key => some (s.storeRemove key)
  | .updateExpiration key ttl =>
    match s.map.store.lookup key with
    | none => some s
    | some entry => some (s.spawn (.extending key entry ttl))
  | .cleanup => some (s.spawn (.scanning s.now))
  | .scan t order =>
    match s.tasks t with
    | .scanning now => some (s.setTask t (.cleaning (MapState.expiredKeys s.map now order)))
    | _ => none
  | .run t => s.run t
  | .tick elapsed => some { s with now := s.now + elapsed }

/-- A map with any entries, before any call. -/
def MapState.init (map : ExpiryMap K T) (now : Nat) : MapState K T where
  map := map
  now := now
  tasks _ := .unused
  nextTask := 0
  promised _ := none
  removed _ := false

/-! ## The property and the condition -/

/-- A key that was set is readable until its lifetime ends, and a removed key is not. -/
def KeepsKeys (s : MapState K T) : Prop :=
  (∀ key entry, s.promised key = some entry → s.now ≤ entry.expires →
    s.map.live s.now key = some entry.value) ∧
  ∀ key, s.removed key = true → s.map.live s.now key = none

/-- A call that removes an entry finds no live one, and one that updates an entry finds the value
    it has read. -/
def LateWriteGuard (s : MapState K T) : MapAction K T → Prop
  | .run t =>
    match s.tasks t with
    | .expiring key => s.map.live s.now key = none
    | .cleaning (key :: _) => s.map.live s.now key = none
    | .updating key read _ => (s.map.store.lookup key).map Val.value = some read.value
    | _ => True
  | _ => True

instance [DecidableEq T] (s : MapState K T) (a : MapAction K T) :
    Decidable (LateWriteGuard s a) := by
  unfold LateWriteGuard
  split
  · split <;> infer_instance
  · infer_instance

/-! ## The invariant -/

/-- The store has what was promised, perhaps for longer, and nothing of what was removed. -/
structure KeepsInv (s : MapState K T) : Prop where
  kept : ∀ key entry, s.promised key = some entry → s.now ≤ entry.expires →
    ∃ stored, s.map.store.lookup key = some stored ∧ stored.value = entry.value ∧
      entry.expires ≤ stored.expires
  gone : ∀ key, s.removed key = true → s.map.store.lookup key = none

variable {m : ExpiryMap K T} {now : Nat} {key : K}

theorem ExpiryMap.live_eq_none_of_lookup (h : m.store.lookup key = none) :
    m.live now key = none := by
  unfold live
  rw [h]

theorem ExpiryMap.live_eq_some_of_lookup {v : Val T} (h : m.store.lookup key = some v)
    (hnow : now ≤ v.expires) : m.live now key = some v.value := by
  unfold live
  rw [h]
  exact if_neg (Nat.not_lt.mpr hnow)

structure WritesKey (key : K) (s s' : MapState K T) : Prop where
  now : s'.now = s.now
  promised : ∀ other, other ≠ key → s'.promised other = s.promised other
  removed : ∀ other, other ≠ key → s'.removed other = s.removed other
  lookup : ∀ other, other ≠ key → s'.map.store.lookup other = s.map.store.lookup other

section Writes

variable (s : MapState K T) (key : K)

theorem writesKey_storeSet (entry : Val T) : WritesKey key s (s.storeSet key entry) where
  now := rfl
  promised _ hkey := update_of_ne hkey _ _
  removed _ hkey := update_of_ne hkey _ _
  lookup _ hkey := AList.lookup_insert_ne hkey

theorem writesKey_storeRemove : WritesKey key s (s.storeRemove key) where
  now := rfl
  promised _ hkey := update_of_ne hkey _ _
  removed _ hkey := update_of_ne hkey _ _
  lookup _ hkey := AList.lookup_erase_ne hkey

theorem writesKey_storeExpire : WritesKey key s (s.storeExpire key) where
  now := rfl
  promised _ _ := rfl
  removed _ _ := rfl
  lookup _ hkey := AList.lookup_erase_ne hkey

theorem writesKey_storeUpdate (read : Val T) (expires : Nat) :
    WritesKey key s (s.storeUpdate key read expires) where
  now := rfl
  promised _ hkey := update_of_ne hkey _ _
  removed _ _ := rfl
  lookup _ hkey := AList.lookup_insert_ne hkey

end Writes

namespace KeepsInv

variable {s : MapState K T}

theorem init (map : ExpiryMap K T) (now : Nat) : KeepsInv (.init map now) where
  kept := by
    intro key entry hprom
    cases hprom
  gone := by
    intro key hrem
    cases hrem

variable (h : KeepsInv s)
include h

theorem keepsKeys : KeepsKeys s := by
  constructor
  · intro key entry hprom hnow
    obtain ⟨stored, hstored, hval, hexpires⟩ := h.kept key entry hprom hnow
    rw [ExpiryMap.live_eq_some_of_lookup hstored (Nat.le_trans hnow hexpires), hval]
  · intro key hrem
    exact ExpiryMap.live_eq_none_of_lookup (h.gone key hrem)

theorem setTask (t : Nat) (task : MapTask K T) : KeepsInv (s.setTask t task) :=
  ⟨h.kept, h.gone⟩

theorem spawn (task : MapTask K T) : KeepsInv (s.spawn task) :=
  ⟨h.kept, h.gone⟩

theorem tick (elapsed : Nat) : KeepsInv { s with now := s.now + elapsed } where
  kept := by
    intro key entry hprom hnow
    exact h.kept key entry hprom (Nat.le_trans (Nat.le_add_right _ _) hnow)
  gone := h.gone

variable {s' : MapState K T}

theorem write (hwrite : WritesKey key s s')
    (hkept : ∀ entry, s'.promised key = some entry → s.now ≤ entry.expires →
      ∃ stored, s'.map.store.lookup key = some stored ∧ stored.value = entry.value ∧
        entry.expires ≤ stored.expires)
    (hgone : s'.removed key = true → s'.map.store.lookup key = none) : KeepsInv s' where
  kept := by
    intro other promise hprom hnow
    rw [hwrite.now] at hnow
    by_cases hkey : other = key
    · subst hkey
      exact hkept promise hprom hnow
    · rw [hwrite.promised other hkey] at hprom
      rw [hwrite.lookup other hkey]
      exact h.kept other promise hprom hnow
  gone := by
    intro other hrem
    by_cases hkey : other = key
    · subst hkey
      exact hgone hrem
    · rw [hwrite.removed other hkey] at hrem
      rw [hwrite.lookup other hkey]
      exact h.gone other hrem

theorem storeSet (key : K) (entry : Val T) : KeepsInv (s.storeSet key entry) := by
  refine h.write (writesKey_storeSet s key entry) ?_ ?_
  · intro promise hprom _
    dsimp only [MapState.storeSet] at hprom ⊢
    rw [update_self] at hprom
    cases hprom
    exact ⟨entry, AList.lookup_insert _, rfl, Nat.le_refl _⟩
  · intro hrem
    dsimp only [MapState.storeSet] at hrem
    rw [update_self] at hrem
    cases hrem

theorem storeRemove (key : K) : KeepsInv (s.storeRemove key) := by
  refine h.write (writesKey_storeRemove s key) ?_ ?_
  · -- nothing is promised of a removed key
    intro promise hprom _
    dsimp only [MapState.storeRemove] at hprom
    rw [update_self] at hprom
    cases hprom
  · exact fun _ => AList.lookup_erase _ _

theorem storeExpire (hlive : s.map.live s.now key = none) :
    KeepsInv (s.storeExpire key) := by
  refine h.write (writesKey_storeExpire s key) ?_ ?_
  · intro promise hprom hnow
    obtain ⟨stored, hstored, -, hexpires⟩ := h.kept key promise hprom hnow
    have hsome := ExpiryMap.live_eq_some_of_lookup hstored (Nat.le_trans hnow hexpires)
    -- a promise that has not ended makes the entry a live one
    rw [hlive] at hsome
    cases hsome
  · exact fun _ => AList.lookup_erase _ _

theorem storeUpdate {read : Val T} {expires : Nat}
    (hread : (s.map.store.lookup key).map Val.value = some read.value) :
    KeepsInv (s.storeUpdate key read expires) := by
  refine h.write (writesKey_storeUpdate s key read expires) ?_ ?_
  · intro promise hprom hnow
    -- what is promised afterwards was promised before, for no longer than the new lifetime
    dsimp only [MapState.storeUpdate] at hprom ⊢
    rw [update_self, MapState.shorten, Option.filter_eq_some_iff] at hprom
    obtain ⟨hprom, hle⟩ := hprom
    obtain ⟨stored, hstored, hval, -⟩ := h.kept key promise hprom hnow
    rw [hstored, Option.map_some] at hread
    refine ⟨_, AList.lookup_insert _, ?_, of_decide_eq_true hle⟩
    exact (Option.some.inj hread).symm.trans hval
  · -- a removed key has no entry to be found
    intro hrem
    rw [h.gone key hrem] at hread
    cases hread

theorem run {t : Nat} (hguard : LateWriteGuard s (.run t)) (hrun : s.run t = some s') :
    KeepsInv s' := by
  unfold MapState.run at hrun
  cases htask : s.tasks t with rw [htask] at hrun
  | unused | done | scanning _ =>
    cases hrun
  | setting key entry =>
    cases hrun
    exact (h.storeSet key entry).setTask t _
  | checking key entry =>
    cases hrun
    exact h.setTask t _
  | expiring key =>
    simp only [LateWriteGuard, htask] at hguard
    cases hrun
    exact (h.storeExpire hguard).setTask t _
  | extending key entry ttl =>
    cases hrun
    exact h.setTask t _
  | updating key read expires =>
    simp only [LateWriteGuard, htask] at hguard
    cases hrun
    exact (h.storeUpdate hguard).setTask t _
  | cleaning keys =>
    -- one key of a `cleanup` at a time
    cases keys with
    | nil =>
      cases hrun
      exact h.setTask t _
    | cons key keys =>
      simp only [LateWriteGuard, htask] at hguard
      cases hrun
      exact (h.storeExpire hguard).setTask t _

/-- **One step** under the condition keeps what was promised. -/
theorem step {a : MapAction K T} (hguard : LateWriteGuard s a) (hstep : mapStep s a = some s') :
    KeepsInv s' := by
  cases a with
  | set key value ttl =>
    cases hstep
    exact h.spawn _
  | getOk key =>
    simp only [mapStep] at hstep
    split at hstep
    · cases hstep
      exact h
    · cases hstep
      exact h.spawn _
  | remove key =>
    cases hstep
    exact h.storeRemove key
  | updateExpiration key ttl =>
    simp only [mapStep] at hstep
    split at hstep
    · cases hstep
      exact h
    · cases hstep
      exact h.spawn _
  | cleanup =>
    cases hstep
    exact h.spawn _
  | scan t order =>
    simp only [mapStep] at hstep
    split at hstep
    · cases hstep
      exact h.setTask t _
    · cases hstep
  | run t => exact h.run hguard hstep
  | tick elapsed =>
    cases hstep
    exact h.tick elapsed

end KeepsInv

/-! ## Main theorem -/

/-- **Lifetimes and removals**: in every run whose late writes find what their calls have read, the
    keys that were set are kept and those that were removed are gone. -/
theorem lifetimes_kept_and_removals_final (map : ExpiryMap K T) (now : Nat)
    {as : List (MapAction K T)} (hguard : EveryStep mapStep LateWriteGuard (.init map now) as) :
    EveryState mapStep KeepsKeys (.init map now) as :=
  everyState_of_invariant (fun _ _ _ h hg hs => h.step hg hs) (fun _ h => h.keepsKeys)
    (KeepsInv.init map now) hguard

end Step

/-- A token expires and is looked up while a cleanup finds it, too; set again, it is extended by
    one call while another one looks it up. -/
def tokenCalls : List (MapAction String Nat) :=
  [.set "token" 1 10, .run 0, .tick 20, .getOk "token", .cleanup, .run 1, .scan 2 ["token"],
   .run 1, .run 2, .set "token" 2 10, .run 2, .run 3, .updateExpiration "token" 30,
   .getOk "token", .run 4, .run 5, .run 4, .remove "token"]

theorem overlapping_calls_keep_keys :
    EveryStep mapStep LateWriteGuard (.init .new 0) tokenCalls ∧
      EveryState mapStep KeepsKeys (.init .new 0) tokenCalls :=
  have hguard : EveryStep mapStep LateWriteGuard (.init .new 0) tokenCalls := by decide +kernel
  ⟨hguard, lifetimes_kept_and_removals_final .new 0 hguard⟩

/-- A look-up reads an expired entry, the key is set again, and the look-up removes the new
    entry. -/
def lostSet : List (MapAction String Nat) :=
  [.set "token" 1 10, .run 0, .tick 20, .getOk "token", .run 1,
   .set "token" 2 10, .run 2, .run 1]

/-- An update reads an entry, the key is removed, and the update stores the entry again. -/
def revivedKey : List (MapAction String Nat) :=
  [.set "token" 1 10, .run 0, .updateExpiration "token" 10, .run 1, .remove "token", .run 1]

theorem late_writes_lose_and_revive :
    (∃ s, exec mapStep (.init .new 0) lostSet = some s ∧
      s.promised "token" = some ⟨2, 30⟩ ∧ s.now = 20 ∧ s.map.live s.now "token" = none ∧
      ¬ KeepsKeys s) ∧
    ∃ s, exec mapStep (.init .new 0) revivedKey = some s ∧
      s.removed "token" = true ∧ s.map.live s.now "token" = some 1 ∧ ¬ KeepsKeys s := by
  refine ⟨⟨_, rfl, rfl, rfl, rfl, ?_⟩, ⟨_, rfl, rfl, rfl, ?_⟩⟩
  · intro h
    have hlive := h.1 "token" ⟨2, 30⟩ rfl (by decide)
    cases hlive
  · intro h
    have hlive := h.2 "token" rfl
    cases hlive

end Bantay.Hub
