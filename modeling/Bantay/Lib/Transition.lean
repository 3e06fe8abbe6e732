import Mathlib.Data.List.Basic

/-!
# Guarded Runs of Partial Transition Functions

A component is given by a partial step function `step : σ → α → Option σ`: the label
carries every choice the environment or the scheduler makes, and `none` says that the
label is not enabled.  A run is a list of labels.

Two predicates speak about a whole run:
- `EveryState P s as` — `P` holds in every state the run visits, the first included
- `EveryStep G s as` — `G` holds of every label in the state in which it is taken

Safety is stated with either of them, and an assumption on the environment is an
`EveryStep`.  The rules below lift facts about one step to facts about runs.
-/

namespace Bantay.Lib

variable {σ α : Type*}

/-! ## Executing labels -/

/-- Execute the labels in order; `none` as soon as one of them is not enabled. -/
def exec (step : σ → α → Option σ) (s : σ) : List α → Option σ
  | [] => some s
  | a :: as =>
    match step s a with
    | none => none
    | some s' => exec step s' as

@[simp]
theorem exec_nil (step : σ → α → Option σ) (s : σ) : exec step s [] = some s := rfl

variable {as : List α} {step : σ → α → Option σ}

theorem exec_cons_eq_some {s t : σ} {a : α} :
    exec step s (a :: as) = some t ↔ ∃ s', step s a = some s' ∧ exec step s' as = some t := by
  cases h : step s a with
  | none => simp [exec, h]
  | some s' => simp [exec, h]

theorem exec_total {f : σ → α → σ} {s : σ} :
    exec (fun s a => some (f s a)) s as = some (as.foldl f s) := by
  induction as generalizing s with
  | nil => rfl
  | cons a as ih => exact ih

/-- `P` holds in every state that the run visits. -/
def EveryState (step : σ → α → Option σ) (P : σ → Prop) (s : σ) : List α → Prop
  | [] => P s
  | a :: as => P s ∧ ∀ s', step s a = some s' → EveryState step P s' as

/-- `G` holds of every label of the run, in the state in which the label is taken. -/
def EveryStep (step : σ → α → Option σ) (G : σ → α → Prop) (s : σ) : List α → Prop
  | [] => True
  | a :: as => G s a ∧ ∀ s', step s a = some s' → EveryStep step G s' as

/-- A guard that can be evaluated can be evaluated along a run. -/
instance decidableEveryStep (step : σ → α → Option σ) (G : σ → α → Prop)
    [∀ s a, Decidable (G s a)] (s : σ) (as : List α) : Decidable (EveryStep step G s as) :=
  match as with
  | [] => .isTrue trivial
  | a :: as =>
    match h : step s a with
    | none => decidable_of_iff (G s a) (by simp [EveryStep, h])
    | some s' =>
      have := decidableEveryStep step G s' as
      decidable_of_iff (G s a ∧ EveryStep step G s' as) (by simp [EveryStep, h])

variable {s : σ}

theorem EveryStep.mono {G G' : σ → α → Prop} (hGG' : ∀ s a, G s a → G' s a)
    (h : EveryStep step G s as) : EveryStep step G' s as := by
  induction as generalizing s with
  | nil => trivial
  | cons a as ih =>
    refine ⟨hGG' s a h.1, ?_⟩
    intro s' hs'
    exact ih (h.2 s' hs')

theorem EveryStep.and {G G' : σ → α → Prop} (h : EveryStep step G s as)
    (h' : EveryStep step G' s as) : EveryStep step (fun s a => G s a ∧ G' s a) s as := by
  induction as generalizing s with
  | nil => trivial
  | cons a as ih =>
    refine ⟨⟨h.1, h'.1⟩, ?_⟩
    intro s' hs'
    exact ih (h.2 s' hs') (h'.2 s' hs')

theorem EveryState.head {P : σ → Prop} (h : EveryState step P s as) : P s := by
  cases as with
  | nil => exact h
  | cons a as => exact h.1

/-! ## From one step to a run -/

section Rules

variable {I P : σ → Prop} {G Q : σ → α → Prop}

section

variable (hstep : ∀ s a s', I s → G s a → step s a = some s' → I s')
include hstep

/-- **Invariant rule**: what every guarded step preserves, every guarded run preserves. -/
theorem exec_invariant {s t : σ}
    (hI : I s) (hG : EveryStep step G s as) (hrun : exec step s as = some t) : I t := by
  induction as generalizing s with
  | nil =>
    simp only [exec_nil, Option.some.injEq] at hrun
    rw [← hrun]
    exact hI
  | cons a as ih =>
    obtain ⟨s', hs', hrest⟩ := exec_cons_eq_some.mp hrun
    exact ih (hstep s a s' hI hG.1 hs') (hG.2 s' hs') hrest

/-- An invariant of the guarded steps that implies `P` gives `P` in every visited state. -/
theorem everyState_of_invariant (hP : ∀ s, I s → P s) (hI : I s) (hG : EveryStep step G s as) :
    EveryState step P s as := by
  induction as generalizing s with
  | nil => exact hP s hI
  | cons a as ih =>
    refine ⟨hP s hI, ?_⟩
    intro s' hs'
    exact ih (hstep s a s' hI hG.1 hs') (hG.2 s' hs')

theorem everyStep_of_invariant (hQ : ∀ s a, I s → G s a → Q s a) (hI : I s)
    (hG : EveryStep step G s as) : EveryStep step Q s as := by
  induction as generalizing s with
  | nil => trivial
  | cons a as ih =>
    refine ⟨hQ s a hI hG.1, ?_⟩
    intro s' hs'
    exact ih (hstep s a s' hI hG.1 hs') (hG.2 s' hs')

end

/-- **Exactness rule**: if, from a state with `P`, a step keeps `P` exactly if it meets the guard,
    a run stays in `P` exactly if all its steps do. -/
theorem everyState_iff_everyStep
    (hstep : ∀ s a s', I s → step s a = some s' → I s')
    (hexact : ∀ s a s', I s → P s → step s a = some s' → (P s' ↔ G s a)) {s t : σ}
    (hI : I s) (hP : P s) (hrun : exec step s as = some t) :
    EveryState step P s as ↔ EveryStep step G s as := by
  induction as generalizing s with
  | nil => exact ⟨fun _ => trivial, fun _ => hP⟩
  | cons a as ih =>
    obtain ⟨s', hs', hrest⟩ := exec_cons_eq_some.mp hrun
    have hI' : I s' := hstep s a s' hI hs'
    have hiff : P s' ↔ G s a := hexact s a s' hI hP hs'
    constructor
    · intro h
      have htail : EveryState step P s' as := h.2 s' hs'
      refine ⟨hiff.mp htail.head, ?_⟩
      intro u hu
      obtain rfl : s' = u := Option.some.inj (hs'.symm.trans hu)
      exact (ih hI' htail.head hrest).mp htail
    · intro h
      refine ⟨hP, ?_⟩
      intro u hu
      obtain rfl : s' = u := Option.some.inj (hs'.symm.trans hu)
      exact (ih hI' (hiff.mpr h.1) hrest).mpr (h.2 s' hs')

theorem everyStep_of_forall_mem {p : α → Prop} (h : ∀ a ∈ as, p a) :
    EveryStep step (fun _ a => p a) s as := by
  induction as generalizing s with
  | nil => trivial
  | cons a as ih =>
    refine ⟨h a List.mem_cons_self, ?_⟩
    intro s' _
    exact ih (fun b hb => h b (List.mem_cons_of_mem a hb))

/-- An invariant of all steps that implies `P` gives `P` in every visited state. -/
theorem everyState_of_step (hstep : ∀ s a s', I s → step s a = some s' → I s')
    (hP : ∀ s, I s → P s) (hI : I s) : EveryState step P s as :=
  everyState_of_invariant (fun s a s' h _ => hstep s a s' h) hP hI
    (everyStep_of_forall_mem (p := fun _ => True) fun _ _ => trivial)

end Rules

end Bantay.Lib
