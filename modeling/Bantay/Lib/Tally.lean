import Mathlib.Data.List.Perm.Basic

/-!
# Quantities that a Loop Accumulates

A loop over records keeps a state, and a quantity of the records has a running total in it.  A
record that carries the quantity changes the total, any other record leaves it alone.  So the
total after the loop is known from the values of the quantity alone, whatever else the loop does.

- `Tally.total_foldl` — the total after the loop
- `collect_perm` — totals that do not depend on the order of the records
-/

namespace Bantay.Lib

/-! ## Totals of a list of values -/

section Collect

variable {α : Type*}

/-- Values are added one by one to a total that is missing at first. -/
def collect (add : Option α → α → α) (values : List α) : Option α :=
  values.foldl (fun total value => some (add total value)) none

variable (add : Option α → α → α)

theorem collect_nil : collect add [] = none := rfl

theorem foldl_add_some (values : List α) (total : α) :
    values.foldl (fun total value => some (add total value)) (some total) =
      some (values.foldl (fun total value => add (some total) value) total) := by
  induction values generalizing total with
  | nil => rfl
  | cons value values ih => exact ih _

theorem collect_getD [Zero α] (add : α → α → α) {values : List α} (hne : values ≠ []) :
    collect (fun total value => add (total.getD 0) value) values = some (values.foldl add 0) := by
  obtain ⟨value, values, rfl⟩ := List.exists_cons_of_ne_nil hne
  rw [collect, List.foldl_cons, foldl_add_some]
  rfl

/-- The order of two values does not matter for the total. -/
def Swaps (add : Option α → α → α) : Prop :=
  ∀ total v w, add (some (add total v)) w = add (some (add total w)) v

theorem collect_perm {add : Option α → α → α} (hswap : Swaps add) {values values' : List α}
    (hperm : values.Perm values') : collect add values = collect add values' := by
  apply hperm.foldl_eq'
  intro v _ w _ total
  rw [hswap]

end Collect

/-! ## Quantities -/

/-- A quantity of the records of a loop. -/
structure Tally {ρ σ : Type*} (step : σ → ρ → σ) (start : σ) (α : Type*) where
  view : ρ → Option α
  total : σ → Option α
  add : Option α → α → α
  total_step : ∀ s r, total (step s r) =
    (view r).elim (total s) fun value => some (add (total s) value)
  /-- the total is missing at first; or it starts with a zero, and every record carries the
      quantity -/
  total_start : total start = none ∨ (∀ value, add (total start) value = add none value) ∧
    ∀ r, (view r).isSome

namespace Tally

variable {ρ σ α : Type*} {step : σ → ρ → σ} {start : σ} (t : Tally step start α)

theorem total_foldl_from (records : List ρ) (s : σ) :
    t.total (records.foldl step s) =
      (records.filterMap t.view).foldl (fun total value => some (t.add total value))
        (t.total s) := by
  induction records generalizing s with
  | nil => rfl
  | cons r records ih =>
    rw [List.foldl_cons, ih, t.total_step]
    cases hview : t.view r with
    | none => rw [List.filterMap_cons_none hview, Option.elim_none]
    | some value => rw [List.filterMap_cons_some hview, Option.elim_some, List.foldl_cons]

/-- **The total after the loop** is that of the values of the records that carry the
    quantity. -/
theorem total_foldl {records : List ρ} (hne : records ≠ []) :
    t.total (records.foldl step start) = collect t.add (records.filterMap t.view) := by
  rw [t.total_foldl_from, collect]
  rcases t.total_start with hnone | ⟨hzero, hall⟩
  · rw [hnone]
  · -- the first record carries the quantity, and a zero makes no difference to it
    obtain ⟨first, rest, rfl⟩ := List.exists_cons_of_ne_nil hne
    obtain ⟨value, hview⟩ := Option.isSome_iff_exists.mp (hall first)
    rw [List.filterMap_cons_some hview, List.foldl_cons, List.foldl_cons, hzero]

end Tally

end Bantay.Lib
