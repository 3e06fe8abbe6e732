import Mathlib.Algebra.Order.Field.Basic
import Mathlib.Data.List.Perm.Basic

/-!
# The Largest Value of a Loop

A loop that starts with a value and replaces it by every larger one ends with the largest of all,
in whatever order it goes.
-/

namespace Bantay.Lib

/-- `for _, a := range l { if f(a) > max { max = f(a) } }` -/
def runningMax {α β : Type*} [LinearOrder β] (f : α → β) (start : β) (l : List α) : β :=
  l.foldl (fun max a => if max < f a then f a else max) start

variable {α β : Type*} [LinearOrder β] {f : α → β} (start : β) (l : List α)

theorem le_runningMax :
    start ≤ runningMax f start l ∧ ∀ a ∈ l, f a ≤ runningMax f start l := by
  induction l generalizing start with
  | nil => exact ⟨le_rfl, List.forall_mem_nil _⟩
  | cons a l ih =>
    obtain ⟨hstart, hl⟩ := ih (if start < f a then f a else start)
    have hfirst : start ≤ (if start < f a then f a else start) ∧
        f a ≤ if start < f a then f a else start := by
      split
      · next hlt => exact ⟨hlt.le, le_rfl⟩
      · next hle => exact ⟨le_rfl, not_lt.mp hle⟩
    exact ⟨hfirst.1.trans hstart, List.forall_mem_cons.mpr ⟨hfirst.2.trans hstart, hl⟩⟩

theorem runningMax_mem :
    runningMax f start l = start ∨ ∃ a ∈ l, f a = runningMax f start l := by
  induction l generalizing start with
  | nil => exact .inl rfl
  | cons a l ih =>
    rcases ih (if start < f a then f a else start) with hstart | ⟨b, hb, hmax⟩
    · by_cases hlt : start < f a
      · rw [if_pos hlt] at hstart
        refine .inr ⟨a, List.mem_cons_self, ?_⟩
        rw [runningMax, List.foldl_cons, if_pos hlt]
        exact hstart.symm
      · rw [if_neg hlt] at hstart
        refine .inl ?_
        rw [runningMax, List.foldl_cons, if_neg hlt]
        exact hstart
    · exact .inr ⟨b, List.mem_cons_of_mem a hb, hmax⟩

theorem isGreatest_runningMax :
    IsGreatest (insert start {b | ∃ a ∈ l, f a = b}) (runningMax f start l) := by
  obtain ⟨hstart, hl⟩ := le_runningMax (f := f) start l
  refine ⟨runningMax_mem start l, ?_⟩
  rintro b (rfl | ⟨a, ha, rfl⟩)
  · exact hstart
  · exact hl a ha

theorem runningMax_div {K : Type*} [Semifield K] [LinearOrder K] [IsStrictOrderedRing K]
    {f : α → K} {c : K} (hc : 0 < c) (l : List α) :
    runningMax (fun a => f a / c) 0 l = runningMax f 0 l / c := by
  apply le_antisymm
  · rcases runningMax_mem (f := fun a => f a / c) 0 l with hzero | ⟨a, ha, hmax⟩
    · rw [hzero]
      exact div_nonneg (le_runningMax 0 l).1 hc.le
    · rw [← hmax]
      exact (div_le_div_iff_of_pos_right hc).mpr ((le_runningMax 0 l).2 a ha)
  · rcases runningMax_mem (f := f) 0 l with hzero | ⟨a, ha, hmax⟩
    · rw [hzero, zero_div]
      exact (le_runningMax 0 l).1
    · rw [← hmax]
      exact (le_runningMax (f := fun a => f a / c) 0 l).2 a ha

end Bantay.Lib
