import Mathlib.Data.List.Nodup

/-!
# Pools of Numbered Threads

A pool gives every thread the next free number: the entries from `next` on are still unused.
A thread moves on by an update of its own entry, and a new thread takes entry `next`.  Threads
may own things that no other thread owns.
-/

namespace Bantay.Lib

open Function

section Pool

variable {τ : Type*} {pool : Nat → τ} {unused task : τ} {next t : Nat}

theorem forall_update {P : Nat → τ → Prop} (hself : P t task)
    (hother : ∀ t', t' ≠ t → P t' (pool t')) (t' : Nat) :
    P t' (update pool t task t') := by
  by_cases ht : t' = t
  · subst ht
    rw [update_self]
    exact hself
  · rw [update_of_ne ht]
    exact hother t' ht

theorem update_elim {P : τ → Prop} {t' : Nat} (h : P (update pool t task t')) :
    t' = t ∧ P task ∨ t' ≠ t ∧ P (pool t') := by
  by_cases ht : t' = t
  · rw [ht, update_self] at h
    exact .inl ⟨ht, h⟩
  · rw [update_of_ne ht] at h
    exact .inr ⟨ht, h⟩

theorem update_cases {t' : Nat} {task' : τ} (h : update pool t task t' = task') :
    t' = t ∧ task = task' ∨ t' ≠ t ∧ pool t' = task' :=
  update_elim (P := (· = task')) h

variable (hnum : ∀ t, next ≤ t → pool t = unused)
include hnum

theorem lt_next_of_used (hused : pool t ≠ unused) : t < next := by
  by_contra hge
  exact hused (hnum t (Nat.le_of_not_lt hge))

theorem lt_next_of {P : τ → Prop} (hunused : ¬ P unused) (h : P (pool t)) : t < next := by
  apply lt_next_of_used hnum
  rintro hpool
  exact hunused (hpool ▸ h)

theorem numbered_update (hused : pool t ≠ unused) (t' : Nat) (ht' : next ≤ t') :
    update pool t task t' = unused := by
  have hlt : t < next := lt_next_of_used hnum hused
  rw [update_of_ne (Nat.ne_of_gt (Nat.lt_of_lt_of_le hlt ht'))]
  exact hnum t' ht'

theorem numbered_spawn (t' : Nat)
    (ht' : next + 1 ≤ t') : update pool next task t' = unused := by
  rw [update_of_ne (Nat.ne_of_gt ht')]
  exact hnum t' (Nat.le_of_succ_le ht')

end Pool

section Ownership

variable {τ ι : Type*} {pool : Nat → τ} {task : τ} {t : Nat} {owned : τ → List ι}

/-- Nothing is owned by two threads, or twice by one. -/
structure Exclusive (owned : τ → List ι) (pool : Nat → τ) : Prop where
  nodup : ∀ t, (owned (pool t)).Nodup
  unique : ∀ t t' i, i ∈ owned (pool t) → i ∈ owned (pool t') → t = t'

theorem Exclusive.update (h : Exclusive owned pool) (hnd : (owned task).Nodup)
    (howned : ∀ i ∈ owned task, i ∈ owned (pool t) ∨ ∀ t', i ∉ owned (pool t')) :
    Exclusive owned (update pool t task) := by
  have hother : ∀ t' i, t' ≠ t → i ∈ owned task → i ∉ owned (pool t') := by
    intro t' i hne hi hi'
    rcases howned i hi with hself | hfree
    · exact hne (h.unique t' t i hi' hself)
    · exact hfree t' hi'
  constructor
  · exact forall_update (P := fun _ task => (owned task).Nodup) hnd fun t' _ => h.nodup t'
  · intro t₁ t₂ i h₁ h₂
    by_cases ht₁ : t₁ = t <;> by_cases ht₂ : t₂ = t
    · exact ht₁.trans ht₂.symm
    · rw [ht₁, update_self] at h₁
      rw [update_of_ne ht₂] at h₂
      exact absurd h₂ (hother t₂ i ht₂ h₁)
    · rw [ht₂, update_self] at h₂
      rw [update_of_ne ht₁] at h₁
      exact absurd h₁ (hother t₁ i ht₁ h₂)
    · rw [update_of_ne ht₁] at h₁
      rw [update_of_ne ht₂] at h₂
      exact h.unique t₁ t₂ i h₁ h₂

end Ownership

end Bantay.Lib
