import Bantay.Lib.Transition

/-!
# Isolation of One Part of a System

A part of a system sees only some of the labels of a run, and only some of what they carry:
`project` says what.  The part is isolated if its state can be computed from its own labels
alone.  `own` is that computation, and `Sim` relates the states of the system to the states of
the part.

- `exec_project` — a guarded run leaves the part in the state its own labels give

Two guarded runs with the same own labels therefore agree on the part.
-/

namespace Bantay.Lib

variable {σ α β ν : Type*} {step : σ → α → Option σ} {G : σ → α → Prop}
  {project : α → Option β} {own : ν → β → ν} {Sim : σ → ν → Prop}

/-- **Projection rule**: if every guarded step with an own label acts as `own` on the part, and
    every other one not at all, a guarded run acts as its own labels do. -/
theorem exec_project
    (hown : ∀ s v a b s', Sim s v → G s a → step s a = some s' → project a = some b →
      Sim s' (own v b))
    (hother : ∀ s v a s', Sim s v → G s a → step s a = some s' → project a = none → Sim s' v)
    {as : List α} {s t : σ} {v : ν} (hsim : Sim s v) (hG : EveryStep step G s as)
    (hrun : exec step s as = some t) : Sim t ((as.filterMap project).foldl own v) := by
  induction as generalizing s v with
  | nil =>
    simp only [exec_nil, Option.some.injEq] at hrun
    rw [← hrun]
    exact hsim
  | cons a as ih =>
    obtain ⟨s', hs', hrest⟩ := exec_cons_eq_some.mp hrun
    cases hp : project a with
    | none =>
      rw [List.filterMap_cons_none hp]
      exact ih (hother s v a s' hsim hG.1 hs' hp) (hG.2 s' hs') hrest
    | some b =>
      rw [List.filterMap_cons_some hp, List.foldl_cons]
      exact ih (hown s v a b s' hsim hG.1 hs' hp) (hG.2 s' hs') hrest

end Bantay.Lib
