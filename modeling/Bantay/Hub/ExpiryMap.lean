import Mathlib.Data.List.AList

/-!
# The Expiring Map

A model of `internal/hub/expirymap/expirymap.go`.  The store is an association list without
duplicate keys.  Where the program ranges over the store, the order is up to the Go runtime:
the operation takes it as a list of keys.

Callers see a key through `live`: the value of an entry that has not expired.  Each
operation comes with the lemma that says what it does to `live`.
-/

namespace Bantay.Hub

structure Val (T : Type) where
  value : T
  expires : Nat
deriving DecidableEq

structure ExpiryMap (K T : Type) where
  store : AList (fun _ : K => Val T)

namespace ExpiryMap

variable {K T : Type} [DecidableEq K]

/-! ## Operations -/

def new : ExpiryMap K T := ⟨∅⟩

def set (m : ExpiryMap K T) (now : Nat) (key : K) (value : T) (ttl : Nat) : ExpiryMap K T :=
  ⟨m.store.insert key ⟨value, now + ttl⟩⟩

def remove (m : ExpiryMap K T) (key : K) : ExpiryMap K T :=
  ⟨m.store.erase key⟩

/-- `GetOk`, which removes an expired entry. -/
def getOk (m : ExpiryMap K T) (now : Nat) (key : K) : Option T × ExpiryMap K T :=
  match m.store.lookup key with
  | none => (none, m)
  | some v => if v.expires < now then (none, m.remove key) else (some v.value, m)

/-- The entry of `key` holds `value`. -/
def holds [DecidableEq T] (m : ExpiryMap K T) (value : T) (key : K) : Bool :=
  match m.store.lookup key with
  | none => false
  | some v => v.value = value

def getByValue [DecidableEq T] (m : ExpiryMap K T) (now : Nat) (order : List K)
    (value : T) : Option K × ExpiryMap K T :=
  match order.find? (m.holds value) with
  | none => (none, m)
  | some key =>
    match m.store.lookup key with
    | none => (none, m)
    | some v => if v.expires < now then (none, m.remove key) else (some key, m)

def removebyValue [DecidableEq T] (m : ExpiryMap K T) (order : List K) (value : T) :
    Option T × ExpiryMap K T :=
  match order.find? (m.holds value) with
  | none => (none, m)
  | some key => (some value, m.remove key)

def removeExpired (now : Nat) (m : ExpiryMap K T) (key : K) : ExpiryMap K T :=
  match m.store.lookup key with
  | none => m
  | some v => if v.expires < now then m.remove key else m

def cleanup (m : ExpiryMap K T) (now : Nat) (order : List K) : ExpiryMap K T :=
  order.foldl (removeExpired now) m

/-! ## The live value of a key -/

/-- The value of the entry of `key`, if there is one that has not expired. -/
def live (m : ExpiryMap K T) (now : Nat) (key : K) : Option T :=
  match m.store.lookup key with
  | none => none
  | some v => if v.expires < now then none else some v.value

theorem getOk_fst (m : ExpiryMap K T) (now : Nat) (key : K) :
    (m.getOk now key).1 = m.live now key := by
  unfold getOk live
  split
  · rfl
  · split <;> rfl

variable {m : ExpiryMap K T} {key : K} {value : T}

theorem live_of_later {now later : Nat}
    (hle : now ≤ later) (h : m.live later key = some value) : m.live now key = some value := by
  unfold live at h ⊢
  split at h
  · cases h
  · rename_i v hv
    split at h
    · cases h
    · rename_i hlive
      have hnow : ¬ v.expires < now := by omega
      rw [if_neg hnow]
      exact h

theorem live_set_self (m : ExpiryMap K T) (now : Nat) (key : K) (value : T) (ttl : Nat) :
    (m.set now key value ttl).live now key = some value := by
  unfold live set
  rw [AList.lookup_insert]
  have hfresh : ¬ now + ttl < now := by omega
  simp only [if_neg hfresh]

theorem live_set_of_ne (m : ExpiryMap K T) {now later : Nat} {key other : K} {ttl : Nat}
    (h : other ≠ key) : (m.set now key value ttl).live later other = m.live later other := by
  unfold live set
  rw [AList.lookup_insert_ne h]

theorem live_remove_self (m : ExpiryMap K T) (now : Nat) (key : K) :
    (m.remove key).live now key = none := by
  unfold live remove
  rw [AList.lookup_erase]

variable {now : Nat}

theorem live_remove_of_ne (m : ExpiryMap K T) {key other : K} (h : other ≠ key) :
    (m.remove key).live now other = m.live now other := by
  unfold live remove
  rw [AList.lookup_erase_ne h]

theorem live_remove_expired {v : Val T} (hv : m.store.lookup key = some v) (hexp : v.expires < now)
    (other : K) : (m.remove key).live now other = m.live now other := by
  by_cases h : other = key
  · subst h
    rw [live_remove_self]
    unfold live
    simp only [hv, if_pos hexp]
  · exact live_remove_of_ne m h

theorem getOk_live (m : ExpiryMap K T) (now : Nat) (key other : K) :
    (m.getOk now key).2.live now other = m.live now other := by
  unfold getOk
  split
  · rfl
  · rename_i v hv
    split
    · rename_i hexp
      exact live_remove_expired hv hexp other
    · rfl

theorem getByValue_live [DecidableEq T] (m : ExpiryMap K T) (now : Nat) (order : List K) (value : T)
    (other : K) : (m.getByValue now order value).2.live now other = m.live now other := by
  unfold getByValue
  split
  · rfl
  · split
    · rfl
    · rename_i v hv
      split
      · rename_i hexp
        exact live_remove_expired hv hexp other
      · rfl

theorem removeExpired_live (m : ExpiryMap K T) (now : Nat) (key other : K) :
    (removeExpired now m key).live now other = m.live now other := by
  unfold removeExpired
  split
  · rfl
  · rename_i v hv
    split
    · rename_i hexp
      exact live_remove_expired hv hexp other
    · rfl

theorem cleanup_live (m : ExpiryMap K T) (now : Nat) (order : List K) (other : K) :
    (m.cleanup now order).live now other = m.live now other := by
  unfold cleanup
  induction order generalizing m with
  | nil => rfl
  | cons key order ih =>
    rw [List.foldl_cons, ih, removeExpired_live]

/-! ## Removal by value -/

variable [DecidableEq T]

theorem holds_iff :
    m.holds value key = true ↔ ∃ v, m.store.lookup key = some v ∧ v.value = value := by
  unfold holds
  split
  · rename_i hnone
    simp [hnone]
  · rename_i v hv
    simp [hv]

theorem holds_of_live (h : m.live now key = some value) : m.holds value key = true := by
  unfold live at h
  split at h
  · cases h
  · rename_i v hv
    split at h
    · cases h
    · exact holds_iff.mpr ⟨v, hv, Option.some.inj h⟩

theorem removebyValue_live (m : ExpiryMap K T) (now : Nat) (order : List K) (value : T)
    (other : K) :
    (m.removebyValue order value).2.live now other =
      if order.find? (m.holds value) = some other then none else m.live now other := by
  unfold removebyValue
  split
  · rename_i hnone
    simp [hnone]
  · rename_i key hkey
    simp only [hkey, Option.some.injEq]
    by_cases h : key = other
    · subst h
      rw [if_pos rfl, live_remove_self]
    · rw [if_neg h, live_remove_of_ne m (Ne.symm h)]

theorem removebyValue_live_of_ne (m : ExpiryMap K T) {order : List K}
    {value other : T} (hne : other ≠ value) (h : m.live now key = some other) :
    (m.removebyValue order value).2.live now key = some other := by
  rw [removebyValue_live, if_neg, h]
  intro hfind
  have hholds := List.find?_some hfind
  obtain ⟨v, hv, hval⟩ := holds_iff.mp hholds
  obtain ⟨w, hw, hother⟩ := holds_iff.mp (holds_of_live h)
  rw [hv] at hw
  cases hw
  exact hne (hother.symm.trans hval)

/-! ## Lookup by value -/

theorem getByValue_fst (m : ExpiryMap K T) (now : Nat) (order : List K) (value : T) :
    (m.getByValue now order value).1 =
      (order.find? (m.holds value)).filter fun key => m.live now key = some value := by
  unfold getByValue
  split
  · rename_i hnone
    rw [hnone]
    rfl
  · rename_i key hkey
    obtain ⟨v, hv, hval⟩ := holds_iff.mp (List.find?_some hkey)
    rw [hkey, Option.filter_some]
    -- an expired entry ends the search, and its key is not reported
    by_cases hexp : v.expires < now <;> simp [live, hv, hval, hexp]

/-- A key is reported exactly when an unexpired entry holds the value, and is that of such an
    entry. -/
def ReportsLive (m : ExpiryMap K T) (now : Nat) (order : List K) (value : T) : Prop :=
  ((m.getByValue now order value).1.isSome = true ↔ ∃ key, m.live now key = some value) ∧
    ∀ key, (m.getByValue now order value).1 = some key → m.live now key = some value

def HeldExpired (m : ExpiryMap K T) (now : Nat) (value : T) : Prop :=
  ∃ key, m.holds value key = true ∧ m.live now key = none

theorem mem_keys_of_holds (h : m.holds value key = true) : key ∈ m.store.keys := by
  obtain ⟨v, hv, -⟩ := holds_iff.mp h
  exact AList.mem_keys.mp (AList.lookup_isSome.mp (Option.isSome_iff_exists.mpr ⟨v, hv⟩))

theorem live_or_expired (now : Nat)
    (h : m.holds value key = true) : m.live now key = some value ∨ m.live now key = none := by
  obtain ⟨v, hv, hval⟩ := holds_iff.mp h
  by_cases hexp : v.expires < now <;> simp [live, hv, hval, hexp]

/-- **`GetByValue` finds an unexpired entry in every iteration order exactly if the value is not in
    an unexpired and in an expired entry at once.** -/
theorem getByValue_reports_live_iff (m : ExpiryMap K T) (now : Nat) (value : T) :
    (∀ order : List K, order.Perm m.store.keys → m.ReportsLive now order value) ↔
      ¬ ((∃ key, m.live now key = some value) ∧ m.HeldExpired now value) := by
  constructor
  · rintro h ⟨hlive, key, hholds, hexp⟩
    -- the order that starts with the expired entry
    have hperm := List.perm_cons_erase (mem_keys_of_holds hholds)
    obtain ⟨hsome, -⟩ := h _ hperm.symm
    rw [getByValue_fst, List.find?_cons_of_pos hholds, Option.filter_some] at hsome
    simp [hexp, hlive] at hsome
  · intro h order hperm
    unfold ReportsLive
    rw [getByValue_fst]
    refine ⟨⟨fun hsome => ?_, fun hlive => ?_⟩, fun key hkey => ?_⟩
    · obtain ⟨key, hkey⟩ := Option.isSome_iff_exists.mp hsome
      exact ⟨key, by simpa using (Option.filter_eq_some_iff.mp hkey).2⟩
    · obtain ⟨key, hkey⟩ := hlive
      have hmem := hperm.mem_iff.mpr (mem_keys_of_holds (holds_of_live hkey))
      have hfound : (order.find? (m.holds value)).isSome = true :=
        List.find?_isSome.mpr ⟨key, hmem, holds_of_live hkey⟩
      obtain ⟨first, hfirst⟩ := Option.isSome_iff_exists.mp hfound
      have hholds := List.find?_some hfirst
      rcases live_or_expired now hholds with hlive | hexp
      · simp [hfirst, hlive]
      · exact absurd ⟨⟨key, hkey⟩, first, hholds, hexp⟩ h
    · simpa using (Option.filter_eq_some_iff.mp hkey).2

/-- Two tokens of one user, of which the one met first has expired. -/
def twoTokens : ExpiryMap String String :=
  ((new.set 0 "new" "user" 10).set 0 "old" "user" 1)

theorem getByValue_misses_live : ["old", "new"].Perm twoTokens.store.keys ∧
    twoTokens.live 5 "new" = some "user" ∧
    (twoTokens.getByValue 5 ["old", "new"] "user").1 = none ∧
    ¬ twoTokens.ReportsLive 5 ["old", "new"] "user" := by
  have hlive : twoTokens.live 5 "new" = some "user" := by decide
  have hnone : (twoTokens.getByValue 5 ["old", "new"] "user").1 = none := by decide
  refine ⟨by decide, hlive, hnone, fun h => ?_⟩
  have hsome := h.1.mpr ⟨_, hlive⟩
  cases hsome

end ExpiryMap

end Bantay.Hub
