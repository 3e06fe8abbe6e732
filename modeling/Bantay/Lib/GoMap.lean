import Mathlib.Data.List.AList
import Mathlib.Data.List.Induction

/-!
# Maps and Loops over Maps

A map from keys to values is an association list without duplicate keys.  A loop over the
entries of one map that updates the entry of the same key in another touches every key once,
so it is known by what it does at a single key.  A property of all entries is kept by an
insertion of an entry that has it, and by every removal.
-/

namespace Bantay.Lib

open List

/-- A map with keys in `κ`. -/
abbrev GoMap (κ β : Type*) := AList (fun _ : κ => β)

namespace GoMap

variable {κ β γ : Type*} [DecidableEq κ]

/-- `for key, value := range m { acc[key] = f(acc[key], value) }` -/
def accumulate (f : Option β → γ → β) (acc : GoMap κ β) (m : GoMap κ γ) : GoMap κ β :=
  m.entries.foldl (fun acc entry => acc.insert entry.1 (f (acc.lookup entry.1) entry.2)) acc

/-- `for key := range m { m[key] = f(m[key]) }` -/
def mapValues (f : β → γ) (m : GoMap κ β) : GoMap κ γ :=
  accumulate (fun _ value => f value) ∅ m

variable {key key' : κ} {m : GoMap κ β} {value : β} (f : Option β → γ → β)
  (entries : List ((_ : κ) × γ)) (acc : GoMap κ β)

theorem lookup_foldl_insert_of_notMem (hkey : key ∉ entries.keys) :
    (entries.foldl (fun acc entry =>
      acc.insert entry.1 (f (acc.lookup entry.1) entry.2)) acc).lookup key = acc.lookup key := by
  induction entries generalizing acc with
  | nil => rfl
  | cons entry entries ih =>
    rw [keys_cons, mem_cons, not_or] at hkey
    rw [foldl_cons, ih _ hkey.2]
    exact AList.lookup_insert_ne hkey.1

theorem lookup_foldl_insert (hnd : entries.NodupKeys) (acc : GoMap κ β) (key : κ) :
    (entries.foldl (fun acc entry =>
      acc.insert entry.1 (f (acc.lookup entry.1) entry.2)) acc).lookup key =
      (entries.dlookup key).elim (acc.lookup key) fun value => some (f (acc.lookup key) value) := by
  induction entries generalizing acc with
  | nil => rfl
  | cons entry entries ih =>
    obtain ⟨hnew, hrest⟩ := nodupKeys_cons.mp hnd
    rw [foldl_cons]
    by_cases hkey : key = entry.1
    · subst hkey
      -- the key does not come up again
      rw [lookup_foldl_insert_of_notMem f entries _ hnew, AList.lookup_insert]
      rw [show entry = ⟨entry.1, entry.2⟩ from rfl, dlookup_cons_eq, Option.elim_some]
    · rw [ih hrest, AList.lookup_insert_ne hkey]
      rw [show entry = ⟨entry.1, entry.2⟩ from rfl, dlookup_cons_ne _ _ hkey]

theorem lookup_accumulate (m : GoMap κ γ) (key : κ) :
    (accumulate f acc m).lookup key =
      (m.lookup key).elim (acc.lookup key) fun value => some (f (acc.lookup key) value) :=
  lookup_foldl_insert f m.entries m.nodupKeys acc key

theorem lookup_mapValues (f : β → γ) (m : GoMap κ β) (key : κ) :
    (mapValues f m).lookup key = (m.lookup key).map f := by
  rw [mapValues, lookup_accumulate]
  cases m.lookup key with
  | none => rfl
  | some value => rfl

theorem of_lookup_erase (h : (m.erase key).lookup key' = some value) :
    key' ≠ key ∧ m.lookup key' = some value := by
  by_cases hkey : key' = key
  · subst hkey
    rw [AList.lookup_erase] at h
    cases h
  · rw [AList.lookup_erase_ne hkey] at h
    exact ⟨hkey, h⟩

theorem of_lookup_insert_ne_none (h : (m.insert key value).lookup key' ≠ none) :
    key' = key ∨ m.lookup key' ≠ none := by
  by_cases hkey : key' = key
  · exact .inl hkey
  · rw [AList.lookup_insert_ne hkey] at h
    exact .inr h

theorem of_lookup_erase_ne_none (h : (m.erase key).lookup key' ≠ none) : m.lookup key' ≠ none := by
  obtain ⟨value, hval⟩ := Option.ne_none_iff_exists'.mp h
  rw [(of_lookup_erase hval).2]
  exact Option.some_ne_none value

section Forall

variable {P : κ → β → Prop}

def Forall (P : κ → β → Prop) (m : GoMap κ β) : Prop :=
  ∀ key value, m.lookup key = some value → P key value

theorem forall_empty : Forall P ∅ := by
  intro key value h
  cases h

theorem Forall.insert (h : Forall P m) (hnew : P key value) : Forall P (m.insert key value) := by
  intro key' value' hlookup
  by_cases hkey : key' = key
  · subst hkey
    rw [AList.lookup_insert] at hlookup
    exact Option.some.inj hlookup ▸ hnew
  · rw [AList.lookup_insert_ne hkey] at hlookup
    exact h key' value' hlookup

theorem Forall.erase (h : Forall P m) (key : κ) : Forall P (m.erase key) := by
  intro key' value' hlookup
  exact h key' value' (of_lookup_erase hlookup).2

theorem Forall.of_mem_entries (h : Forall P m) {entry : (_ : κ) × β} (hmem : entry ∈ m.entries) :
    P entry.1 entry.2 :=
  h entry.1 entry.2 (AList.mem_lookup_iff.mpr hmem)

theorem forall_of_entries (h : ∀ entry ∈ m.entries, P entry.1 entry.2) : Forall P m :=
  fun key value hlookup => h ⟨key, value⟩ (AList.mem_lookup_iff.mp hlookup)

end Forall

section Count

variable (p : (_ : κ) × β → Bool)

def count (m : GoMap κ β) : Nat := m.entries.countP p

theorem countP_kerase {entries : List ((_ : κ) × β)} (h : entries.dlookup key = some value) :
    entries.countP p = (entries.kerase key).countP p + if p ⟨key, value⟩ then 1 else 0 := by
  induction entries with
  | nil => cases h
  | cons entry entries ih =>
    by_cases hkey : key = entry.1
    · subst hkey
      rw [dlookup_cons_eq] at h
      obtain rfl : entry.2 = value := Option.some.inj h
      rw [kerase_cons_eq rfl, countP_cons]
    · rw [dlookup_cons_ne _ _ hkey] at h
      rw [kerase_cons_ne hkey, countP_cons, countP_cons, ih h]
      omega

theorem count_erase (h : m.lookup key = some value) :
    count p m = count p (m.erase key) + if p ⟨key, value⟩ then 1 else 0 :=
  countP_kerase p h

theorem count_insert :
    count p (m.insert key value) = count p (m.erase key) + if p ⟨key, value⟩ then 1 else 0 := by
  rw [count, AList.entries_insert, countP_cons]
  rfl

theorem erase_of_lookup_none (h : m.lookup key = none) : m.erase key = m := by
  apply AList.ext
  exact kerase_of_notMem_keys (dlookup_eq_none.mp h)

end Count

section Index

variable {α : Type*} (key : α → κ) (value : α → β)

/-- `for _, a := range l { m[key(a)] = value(a) }` -/
def index (l : List α) : GoMap κ β :=
  l.foldl (fun m a => m.insert (key a) (value a)) ∅

theorem index_append (l : List α) (a : α) :
    index key value (l ++ [a]) = (index key value l).insert (key a) (value a) := by
  rw [index, foldl_append]
  rfl

variable {key value} {l : List α} {a : α}

theorem exists_of_lookup_index {k : κ} {b : β} (h : (index key value l).lookup k = some b) :
    ∃ a ∈ l, key a = k ∧ value a = b := by
  induction l using List.reverseRecOn with
  | nil => cases h
  | append_singleton l a ih =>
    rw [index_append] at h
    by_cases hk : k = key a
    · subst hk
      rw [AList.lookup_insert] at h
      exact ⟨a, mem_append_right l mem_cons_self, rfl, Option.some.inj h⟩
    · rw [AList.lookup_insert_ne hk] at h
      obtain ⟨a', ha', hkey⟩ := ih h
      exact ⟨a', mem_append_left _ ha', hkey⟩

theorem lookup_index_ne_none (ha : a ∈ l) :
    (index key value l).lookup (key a) ≠ none := by
  induction l using List.reverseRecOn with
  | nil => cases ha
  | append_singleton l b ih =>
    rw [index_append]
    by_cases hk : key a = key b
    · rw [hk, AList.lookup_insert]
      exact Option.some_ne_none _
    · rw [AList.lookup_insert_ne hk]
      rcases mem_append.mp ha with hl | hb
      · exact ih hl
      · rw [mem_singleton.mp hb] at hk
        exact absurd rfl hk

theorem lookup_index_of_nodup (hnd : (l.map key).Nodup) (ha : a ∈ l) :
    (index key value l).lookup (key a) = some (value a) := by
  cases h : (index key value l).lookup (key a) with
  | none => exact absurd h (lookup_index_ne_none ha)
  | some b =>
    obtain ⟨a', ha', hkey, rfl⟩ := exists_of_lookup_index h
    rw [inj_on_of_nodup_map hnd ha' ha hkey]

end Index

end GoMap

end Bantay.Lib
