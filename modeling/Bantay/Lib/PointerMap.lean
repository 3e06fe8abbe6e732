import Bantay.Lib.GoMap

/-!
# Maps of Pointers

A map of Go whose values are pointers to structs, the cells of a heap.  An entry is written in
place; an entry that is deleted leaves its struct to those who have the pointer; a key that comes
again gets a new struct.

Who has a pointer sees every write to its struct.  `Spares` is the frame: a struct that no write is
for is as it was, and no other key has got it.
-/

namespace Bantay.Lib

/-- Keys with the addresses of their structs.  Every address is one of the heap, and no two keys
    have the same struct. -/
structure PointerMap (κ α : Type*) [DecidableEq κ] where
  slots : GoMap κ ℕ
  cells : List α
  bound : ∀ k a, slots.lookup k = some a → a < cells.length
  inj : ∀ k k' a, slots.lookup k = some a → slots.lookup k' = some a → k = k'

namespace PointerMap

variable {κ α : Type*} [DecidableEq κ]

def empty : PointerMap κ α where
  slots := ∅
  cells := []
  bound := by simp
  inj := by simp

variable (m : PointerMap κ α)

/-- The struct at an address. -/
def deref (a : ℕ) : Option α := m.cells[a]?

/-- The struct of a key. -/
def read (k : κ) : Option α := (m.slots.lookup k).bind m.deref

/-- The struct at an address is assigned. -/
def write (a : ℕ) (v : α) : PointerMap κ α where
  slots := m.slots
  cells := m.cells.set a v
  bound := by simpa using m.bound
  inj := m.inj

/-- A key without an entry gets a new struct. -/
def alloc (k : κ) (v : α) : PointerMap κ α where
  slots := m.slots.insert k m.cells.length
  cells := m.cells ++ [v]
  bound := by
    intro k' a h
    rw [List.length_append, List.length_singleton]
    by_cases hk : k' = k
    · subst hk
      rw [AList.lookup_insert] at h
      exact (Option.some.inj h).symm ▸ Nat.lt_succ_self _
    · rw [AList.lookup_insert_ne hk] at h
      exact Nat.lt_succ_of_lt (m.bound k' a h)
  inj := by
    -- The new address is beyond all others.
    have hold : ∀ k' a, (m.slots.insert k m.cells.length).lookup k' = some a → k' ≠ k →
        a < m.cells.length := by
      intro k' a h hk
      rw [AList.lookup_insert_ne hk] at h
      exact m.bound k' a h
    intro k₁ k₂ a h₁ h₂
    by_cases hk₁ : k₁ = k
    · by_cases hk₂ : k₂ = k
      · exact hk₁.trans hk₂.symm
      · subst hk₁
        rw [AList.lookup_insert] at h₁
        exact absurd (hold k₂ a h₂ hk₂) (by rw [← Option.some.inj h₁]; exact lt_irrefl _)
    · by_cases hk₂ : k₂ = k
      · subst hk₂
        rw [AList.lookup_insert] at h₂
        exact absurd (hold k₁ a h₁ hk₁) (by rw [← Option.some.inj h₂]; exact lt_irrefl _)
      · rw [AList.lookup_insert_ne hk₁] at h₁
        rw [AList.lookup_insert_ne hk₂] at h₂
        exact m.inj k₁ k₂ a h₁ h₂

/-- The struct of a key is assigned, a new one if the key has none. -/
def store (k : κ) (v : α) : PointerMap κ α :=
  match m.slots.lookup k with
  | some a => m.write a v
  | none => m.alloc k v

def delete (k : κ) : PointerMap κ α where
  slots := m.slots.erase k
  cells := m.cells
  bound := fun k' a h => m.bound k' a (GoMap.of_lookup_erase h).2
  inj := fun k₁ k₂ a h₁ h₂ =>
    m.inj k₁ k₂ a (GoMap.of_lookup_erase h₁).2 (GoMap.of_lookup_erase h₂).2

/-- `for k := range m { if !keep(k) { delete(m, k) } }` -/
def retain (keep : κ → Bool) : PointerMap κ α :=
  (m.slots.keys.filter fun k => !keep k).foldl delete m

/-! ## The map as a map of values -/

section Values

variable {m : PointerMap κ α} {k k' : κ} {v : α}

theorem read_eq_none (h : m.slots.lookup k = none) : m.read k = none := by
  rw [read, h, Option.bind_none]

theorem read_store_self : (m.store k v).read k = some v := by
  unfold store
  cases hk : m.slots.lookup k with
  | some a => simp [read, write, deref, hk, m.bound k a hk]
  | none => simp [read, alloc, deref]

theorem read_store_of_ne (hne : k' ≠ k) : (m.store k v).read k' = m.read k' := by
  unfold store
  cases hk : m.slots.lookup k with
  | some a =>
    cases hk' : m.slots.lookup k' with
    | none => simp [read, write, hk']
    | some a' =>
      have haddr : a ≠ a' := by
        rintro rfl
        exact hne (m.inj k' k a hk' hk)
      simp [read, write, deref, hk', List.getElem?_set_ne haddr]
  | none =>
    simp only [read, alloc, AList.lookup_insert_ne hne]
    cases hk' : m.slots.lookup k' with
    | none => rfl
    | some a' => simp [deref, List.getElem?_append_left (m.bound k' a' hk')]

theorem read_delete (k k' : κ) : (m.delete k).read k' = if k' = k then none else m.read k' := by
  split
  case isTrue heq => exact read_eq_none (heq ▸ AList.lookup_erase k m.slots)
  case isFalse hne => simp only [read, delete, AList.lookup_erase_ne hne]; rfl

theorem read_foldl_delete (keys : List κ) (m : PointerMap κ α) (k : κ) :
    (keys.foldl delete m).read k = if k ∈ keys then none else m.read k := by
  induction keys generalizing m with
  | nil => simp
  | cons k' keys ih =>
    rw [List.foldl_cons, ih, read_delete]
    by_cases heq : k = k' <;> simp [heq]

theorem read_retain (keep : κ → Bool) (k : κ) :
    (m.retain keep).read k = if keep k then m.read k else none := by
  rw [retain, read_foldl_delete]
  by_cases hk : k ∈ m.slots.keys
  · cases hkeep : keep k <;> simp [hk, hkeep]
  · have hnone := read_eq_none (AList.lookup_eq_none.mpr (mt AList.mem_keys.mp hk))
    simp [hk, hnone]

theorem forall_read_store {P : α → Prop} (h : ∀ w ∈ m.read k', P w) (hv : k = k' → P v) :
    ∀ w ∈ (m.store k v).read k', P w := by
  by_cases hk : k = k'
  · subst hk
    simpa [read_store_self] using hv rfl
  · rw [read_store_of_ne (Ne.symm hk)]
    exact h

theorem slots_store {w : α} (h : m.read k = some w) : (m.store k v).slots = m.slots := by
  unfold store
  cases hk : m.slots.lookup k with
  | some a => rfl
  | none => simp [read_eq_none hk] at h

theorem read_isSome (h : k ∈ m.slots.keys) : (m.read k).isSome := by
  obtain ⟨a, ha⟩ := Option.isSome_iff_exists.mp (AList.lookup_isSome.mpr (AList.mem_keys.mp h))
  simp [read, deref, ha, m.bound k a ha]

end Values

/-! ## The frame -/

/-- The struct at the address is as it was, and only the key that had it may still have it. -/
structure Spares (a : ℕ) (m m' : PointerMap κ α) : Prop where
  deref : m'.deref a = m.deref a
  slots : ∀ k, m'.slots.lookup k = some a → m.slots.lookup k = some a
  size : m.cells.length ≤ m'.cells.length

section Frame

variable {m m' m'' : PointerMap κ α} {a : ℕ} {k : κ} {v : α}

theorem Spares.refl (a : ℕ) (m : PointerMap κ α) : Spares a m m := ⟨rfl, fun _ h => h, le_rfl⟩

theorem Spares.trans (h : Spares a m m') (h' : Spares a m' m'') : Spares a m m'' :=
  ⟨h'.deref.trans h.deref, fun k hk => h.slots k (h'.slots k hk), Nat.le_trans h.size h'.size⟩

theorem spares_store (ha : a < m.cells.length) (hk : m.slots.lookup k ≠ some a) :
    Spares a m (m.store k v) := by
  unfold store
  cases hslot : m.slots.lookup k with
  | some a' =>
    have hne : a' ≠ a := fun heq => hk (heq ▸ hslot)
    exact ⟨by simp [PointerMap.deref, write, List.getElem?_set_ne hne], fun _ h => h,
      by simp [write]⟩
  | none =>
    refine ⟨by simp [PointerMap.deref, alloc, List.getElem?_append_left ha], ?_, by simp [alloc]⟩
    intro k' hk'
    by_cases hkk : k' = k
    · subst hkk
      simp only [alloc, AList.lookup_insert, Option.some.injEq] at hk'
      exact absurd ha (hk' ▸ lt_irrefl _)
    · simpa only [alloc, AList.lookup_insert_ne hkk] using hk'

theorem spares_delete : Spares a m (m.delete k) :=
  ⟨rfl, fun _ h => (GoMap.of_lookup_erase h).2, le_rfl⟩

theorem spares_foldl {β γ : Type*} (map : γ → PointerMap κ α) {C : PointerMap κ α → Prop}
    {f : γ → β → γ} (hC : ∀ m m', C m → Spares a m m' → C m') {bs : List β}
    (hf : ∀ q, ∀ b ∈ bs, a < (map q).cells.length → C (map q) → Spares a (map q) (map (f q b)))
    (q : γ) (ha : a < (map q).cells.length) (hq : C (map q)) :
    Spares a (map q) (map (bs.foldl f q)) := by
  induction bs generalizing q with
  | nil => exact Spares.refl _ _
  | cons b bs ih =>
    have hfirst := hf q b List.mem_cons_self ha hq
    exact hfirst.trans (ih (fun q c hc => hf q c (List.mem_cons_of_mem b hc)) _
      (Nat.lt_of_lt_of_le ha hfirst.size) (hC _ _ hq hfirst))

theorem spares_foldl_delete (keys : List κ) : Spares a m (keys.foldl delete m) := by
  induction keys generalizing m with
  | nil => exact Spares.refl a m
  | cons k keys ih => exact spares_delete.trans ih

theorem spares_retain (keep : κ → Bool) : Spares a m (m.retain keep) := spares_foldl_delete _

end Frame

end PointerMap

end Bantay.Lib
