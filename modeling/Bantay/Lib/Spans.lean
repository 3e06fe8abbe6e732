import Mathlib.Data.List.Basic
import Mathlib.Tactic.Linarith

/-!
# Spans of Time

The time before a moment is cut into spans of equal length, counted backwards.  A number of
events in a window says how many of its spans hold an event only together with a bound on the
events of a single span; events that keep a distance have such a bound.
-/

namespace Bantay.Lib

open List

/-- `t` lies in the `i`-th span before `now`. -/
def InSpan (len now : ℤ) (i : ℕ) (t : ℤ) : Prop :=
  now - len * (i + 1) < t ∧ t ≤ now - len * i
deriving Decidable

/-- `t` lies in one of the last `n` spans before `now`. -/
def InWindow (len now : ℤ) (n : ℕ) (t : ℤ) : Prop := now - len * n < t ∧ t ≤ now
deriving Decidable

/-- The number of spans, of the last `n` before `now`, that hold an event. -/
def covered (len now : ℤ) (n : ℕ) (events : List ℤ) : ℕ :=
  (List.range n).countP fun i => ∃ t ∈ events, InSpan len now i t

variable {len gap lo hi : ℤ}

theorem countP_inWindow_succ (hlen : 0 ≤ len) (now : ℤ) (n : ℕ) (events : List ℤ) :
    events.countP (InWindow len now (n + 1)) =
      events.countP (InWindow len now n) + events.countP (InSpan len now n) := by
  have hnext : len * ((n : ℤ) + 1) = len * n + len := by rw [mul_add, mul_one]
  have hpos : 0 ≤ len * (n : ℤ) := mul_nonneg hlen (Int.natCast_nonneg n)
  -- an event of the longer window lies in exactly one of the two parts
  have hsplit : ∀ t, (if InWindow len now (n + 1) t then 1 else 0) =
      (if InWindow len now n t then 1 else 0) + (if InSpan len now n t then 1 else 0) := by
    intro t
    have hor : InWindow len now (n + 1) t ↔ InWindow len now n t ∨ InSpan len now n t := by
      simp only [InWindow, InSpan, Nat.cast_add, Nat.cast_one, hnext]
      omega
    have hdisj : InWindow len now n t → ¬ InSpan len now n t := by
      simp only [InWindow, InSpan]
      omega
    by_cases hwin : InWindow len now n t
    · rw [if_pos (hor.mpr (.inl hwin)), if_pos hwin, if_neg (hdisj hwin)]
    · simp only [hor, hwin, false_or, if_false, Nat.zero_add]
  induction events with
  | nil => rfl
  | cons t events ih =>
    simp only [countP_cons, decide_eq_true_eq]
    rw [ih, hsplit t]
    omega

variable {events : List ℤ}

/-- **Pigeonholes**: events that lie at most `c` in a span need so many spans. -/
theorem countP_inWindow_le (hlen : 0 ≤ len) {now : ℤ} {c : ℕ} {n : ℕ}
    (hspan : ∀ i < n, events.countP (InSpan len now i) ≤ c) :
    events.countP (InWindow len now n) ≤ c * covered len now n events := by
  induction n with
  | zero =>
    have hnone : events.countP (InWindow len now 0) = 0 := by
      apply countP_eq_zero.mpr
      intro t _ ht
      simp only [InWindow, decide_eq_true_eq, Nat.cast_zero, mul_zero] at ht
      omega
    omega
  | succ n ih =>
    rw [countP_inWindow_succ hlen, covered, range_succ, countP_append, countP_singleton, ← covered]
    simp only [decide_eq_true_eq]
    have hrest := ih fun i hi => hspan i (Nat.lt_succ_of_lt hi)
    split
    · have hlast := hspan n (Nat.lt_succ_self n)
      rw [Nat.mul_add, Nat.mul_one]
      omega
    · next hempty =>
      have hlast : events.countP (InSpan len now n) = 0 := by
        apply countP_eq_zero.mpr
        intro t ht hin
        exact hempty ⟨t, ht, of_decide_eq_true hin⟩
      rw [hlast, Nat.add_zero, Nat.add_zero]
      exact hrest

/-- Each event comes at least `gap` after the one before it. -/
def Spaced (gap : ℤ) (events : List ℤ) : Prop := events.Pairwise fun a b => a + gap ≤ b

theorem Spaced.concat {t : ℤ} (h : Spaced gap events) (ht : ∀ t' ∈ events, t' + gap ≤ t) :
    Spaced gap (events ++ [t]) := by
  apply pairwise_append.mpr
  refine ⟨h, pairwise_singleton _ _, ?_⟩
  intro t' ht' t'' ht''
  obtain rfl := mem_singleton.mp ht''
  exact ht t' ht'

/-- Spaced events need room: induction over the events, each moves the lower end up. -/
theorem Spaced.length_mul_le (h : Spaced gap events) (hlo : ∀ t ∈ events, lo < t)
    (hhi : ∀ t ∈ events, t ≤ hi) (hne : events ≠ []) : gap * events.length < hi - lo + gap := by
  induction events generalizing lo with
  | nil => exact absurd rfl hne
  | cons t events ih =>
    obtain ⟨hgap, hrest⟩ := pairwise_cons.mp h
    have ht_lo := hlo t mem_cons_self
    have ht_hi := hhi t mem_cons_self
    rw [length_cons, Nat.cast_succ, mul_add, mul_one]
    rcases eq_or_ne events [] with rfl | hne
    · simp only [length_nil, Nat.cast_zero, mul_zero]
      omega
    · have hlater : ∀ t' ∈ events, lo + gap < t' := by
        intro t' ht'
        have := hgap t' ht'
        omega
      have hroom := ih hrest hlater (fun t' ht' => hhi t' (mem_cons_of_mem t ht')) hne
      omega

theorem Spaced.countP_le (hgap : 0 < gap) (h : Spaced gap events) {m : ℕ} (hm : hi = lo + gap * m) :
    events.countP (fun t => lo < t ∧ t ≤ hi) ≤ m := by
  rw [countP_eq_length_filter]
  have hin : ∀ t ∈ events.filter (fun t => lo < t ∧ t ≤ hi), lo < t ∧ t ≤ hi := by
    intro t ht
    exact of_decide_eq_true (mem_filter.mp ht).2
  have hspaced : Spaced gap (events.filter fun t => lo < t ∧ t ≤ hi) :=
    h.sublist filter_sublist
  generalize events.filter (fun t => lo < t ∧ t ≤ hi) = inside at *
  rcases eq_or_ne inside [] with rfl | hne
  · exact Nat.zero_le m
  · have hroom := hspaced.length_mul_le (fun t ht => (hin t ht).1) (fun t ht => (hin t ht).2) hne
    have hmul : gap * inside.length < gap * (m + 1) := by
      rw [mul_add, mul_one]
      omega
    have hlt := lt_of_mul_lt_mul_left hmul hgap.le
    omega

end Bantay.Lib
