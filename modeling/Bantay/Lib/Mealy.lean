import Mathlib.Data.List.Basic

/-!
# Machines with Outputs

A machine answers every input with an output and goes on in another state.  It always answers, in
contrast to the steps of `Transition`, which may be impossible.

- `Always` — a condition on the state and the input at every step of a run
- `outputsAt_eq_outputs_filter` — two runs, one of them without the inputs of others
-/

namespace Bantay.Lib

variable {σ α β : Type*} {step : σ → α → σ × β}

/-- The answers to a list of inputs. -/
def outputs (step : σ → α → σ × β) : σ → List α → List β
  | _, [] => []
  | s, a :: as => (step s a).2 :: outputs step (step s a).1 as

/-- The answers to those inputs that are `own`. -/
def outputsAt (own : α → Bool) (step : σ → α → σ × β) : σ → List α → List β
  | _, [] => []
  | s, a :: as =>
    if own a then (step s a).2 :: outputsAt own step (step s a).1 as
    else outputsAt own step (step s a).1 as

/-- The condition holds whenever an input arrives. -/
def Always (step : σ → α → σ × β) (G : σ → α → Prop) : σ → List α → Prop
  | _, [] => True
  | s, a :: as => G s a ∧ Always step G (step s a).1 as

instance Always.decidable {G : σ → α → Prop} [∀ s a, Decidable (G s a)] :
    (s : σ) → (as : List α) → Decidable (Always step G s as)
  | _, [] => .isTrue trivial
  | s, a :: as =>
    have : Decidable (Always step G (step s a).1 as) := Always.decidable _ as
    inferInstanceAs (Decidable (_ ∧ _))

theorem Always.imp {G P : σ → α → Prop} (h : ∀ s a, G s a → P s a) {s : σ} {as : List α}
    (hG : Always step G s as) : Always step P s as := by
  induction as generalizing s with
  | nil => trivial
  | cons a as ih => exact ⟨h s a hG.1, ih hG.2⟩

/-- **Purge rule**: if own inputs are answered alike in related states, and the other ones do not
    lead out of the relation, then own inputs are answered as if there were no others. -/
theorem outputsAt_eq_outputs_filter {own : α → Bool} {G : σ → α → Prop} (Sim : σ → σ → Prop)
    (hown : ∀ s t a, Sim s t → G s a → own a = true →
      (step s a).2 = (step t a).2 ∧ Sim (step s a).1 (step t a).1)
    (hother : ∀ s t a, Sim s t → G s a → own a = false → Sim (step s a).1 t)
    {as : List α} {s t : σ} (hsim : Sim s t) (hG : Always step G s as) :
    outputsAt own step s as = outputs step t (as.filter own) := by
  induction as generalizing s t with
  | nil => rfl
  | cons a as ih =>
    cases hcase : own a with
    | true =>
      obtain ⟨hout, hnext⟩ := hown s t a hsim hG.1 hcase
      rw [outputsAt, if_pos hcase, List.filter_cons_of_pos hcase, outputs, hout, ih hnext hG.2]
    | false =>
      have hneg : ¬ own a = true := by simp [hcase]
      rw [outputsAt, if_neg hneg, List.filter_cons_of_neg hneg,
        ih (hother s t a hsim hG.1 hcase) hG.2]

end Bantay.Lib
