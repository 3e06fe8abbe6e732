import Mathlib.Data.Rat.Floor
import Mathlib.Tactic.Positivity

/-!
# Rounding to Decimal Places

Rounding to the nearest integer with halves away from zero, and from it rounding to a multiple
of a fixed fraction.  A rounding moves a number by half a unit at most, and numbers on the grid
are whole units apart; so averages of averages are within one unit of the average of everything
(`abs_roundTo_tiers_le`, and `div_tiers` for quotients of integers).
-/

namespace Bantay.Lib

/-- The nearest integer; halves are rounded away from zero. -/
def roundHalfAway (x : ℚ) : ℤ :=
  if 0 ≤ x then ⌊x + 1 / 2⌋ else ⌈x - 1 / 2⌉

/-- Rounding to a multiple of `1 / scale`. -/
def roundTo (scale : ℕ) (x : ℚ) : ℚ := roundHalfAway (x * scale) / scale

/-- A multiple of `1 / scale`. -/
def IsDecimal (scale : ℕ) (x : ℚ) : Prop := (x * scale).den = 1
deriving Decidable

variable {x : ℚ}

theorem roundHalfAway_nonneg (hx : 0 ≤ x) : 0 ≤ roundHalfAway x := by
  rw [roundHalfAway, if_pos hx]
  exact Int.floor_nonneg.mpr (by linarith)

theorem roundHalfAway_le {k : ℤ} (hx : 0 ≤ x) (hxk : x ≤ k) : roundHalfAway x ≤ k := by
  rw [roundHalfAway, if_pos hx]
  apply Int.lt_add_one_iff.mp
  apply Int.floor_lt.mpr
  push_cast
  linarith

theorem roundTo_nonneg {scale : ℕ} (hx : 0 ≤ x) : 0 ≤ roundTo scale x := by
  have hround : (0 : ℚ) ≤ roundHalfAway (x * scale) := by
    exact_mod_cast roundHalfAway_nonneg (by positivity)
  exact div_nonneg hround (Nat.cast_nonneg scale)

theorem roundTo_le {scale : ℕ} {x bound : ℚ} (hscale : 0 < scale) (hx : 0 ≤ x)
    (hbound : IsDecimal scale bound) (hle : x ≤ bound) : roundTo scale x ≤ bound := by
  have hpos : (0 : ℚ) < scale := by exact_mod_cast hscale
  have hint : ((bound * scale).num : ℚ) = bound * scale := Rat.coe_int_num_of_den_eq_one hbound
  have hround : roundHalfAway (x * scale) ≤ (bound * scale).num := by
    apply roundHalfAway_le (by positivity)
    rw [hint]
    exact mul_le_mul_of_nonneg_right hle hpos.le
  rw [roundTo, div_le_iff₀ hpos, ← hint]
  exact_mod_cast hround

/-! ## Errors -/

theorem isDecimal_iff {scale : ℕ} : IsDecimal scale x ↔ ∃ k : ℤ, x * scale = k := by
  constructor
  · exact fun h => ⟨_, (Rat.coe_int_num_of_den_eq_one h).symm⟩
  · rintro ⟨k, hk⟩
    rw [IsDecimal, hk]
    exact Rat.den_intCast k

theorem abs_roundHalfAway_sub_le (x : ℚ) : |(roundHalfAway x : ℚ) - x| ≤ 1 / 2 := by
  unfold roundHalfAway
  split
  · have hlow := Int.lt_floor_add_one (x + 1 / 2)
    have hhigh := Int.floor_le (x + 1 / 2)
    rw [abs_le]
    constructor <;> linarith
  · have hlow := Int.le_ceil (x - 1 / 2)
    have hhigh := Int.ceil_lt_add_one (x - 1 / 2)
    rw [abs_le]
    constructor <;> linarith

theorem roundHalfAway_intCast (k : ℤ) : roundHalfAway k = k := by
  have herror := abs_roundHalfAway_sub_le k
  rw [abs_le] at herror
  have hlow : (k : ℚ) - 1 < roundHalfAway k := by linarith
  have hhigh : (roundHalfAway k : ℚ) < k + 1 := by linarith
  have hlow' : k - 1 < roundHalfAway k := by exact_mod_cast hlow
  have hhigh' : roundHalfAway k < k + 1 := by exact_mod_cast hhigh
  omega

section Scale

variable {scale : ℕ} (hscale : 0 < scale)

include hscale

theorem roundTo_mul_scale (x : ℚ) : roundTo scale x * scale = roundHalfAway (x * scale) := by
  have hpos : (scale : ℚ) ≠ 0 := by exact_mod_cast hscale.ne'
  rw [roundTo, div_mul_cancel₀ _ hpos]

theorem isDecimal_roundTo (x : ℚ) : IsDecimal scale (roundTo scale x) :=
  isDecimal_iff.mpr ⟨_, roundTo_mul_scale hscale x⟩

theorem roundTo_of_isDecimal (h : IsDecimal scale x) : roundTo scale x = x := by
  have hpos : (scale : ℚ) ≠ 0 := by exact_mod_cast hscale.ne'
  obtain ⟨k, hk⟩ := isDecimal_iff.mp h
  rw [roundTo, hk, roundHalfAway_intCast, ← hk, mul_div_cancel_right₀ _ hpos]

theorem abs_roundTo_sub_le (x : ℚ) : |roundTo scale x - x| ≤ 1 / 2 / scale := by
  have hpos : (0 : ℚ) < scale := by exact_mod_cast hscale
  have herror := abs_roundHalfAway_sub_le (x * scale)
  rw [← roundTo_mul_scale hscale, ← sub_mul, abs_mul, abs_of_pos hpos] at herror
  exact (le_div_iff₀ hpos).mpr herror

theorem abs_sub_le_of_isDecimal {a b : ℚ} (ha : IsDecimal scale a) (hb : IsDecimal scale b)
    (h : |a - b| < 2 / scale) : |a - b| ≤ 1 / scale := by
  have hpos : (0 : ℚ) < scale := by exact_mod_cast hscale
  obtain ⟨k, hk⟩ := isDecimal_iff.mp ha
  obtain ⟨l, hl⟩ := isDecimal_iff.mp hb
  have hdiff : |a - b| * scale = (|k - l| : ℤ) := by
    rw [Int.cast_abs, Int.cast_sub, ← hk, ← hl, ← sub_mul, abs_mul, abs_of_pos hpos]
  have hlt : (|k - l| : ℤ) < 2 := by
    have : ((|k - l| : ℤ) : ℚ) < 2 := hdiff ▸ (lt_div_iff₀ hpos).mp h
    exact_mod_cast this
  rw [le_div_iff₀ hpos, hdiff]
  exact_mod_cast (by omega : |k - l| ≤ 1)

theorem abs_sum_roundTo_sub_le (groups : List (List ℚ)) (n : ℕ) :
    |(groups.map fun g => roundTo scale (g.sum / n)).sum - groups.flatten.sum / n| ≤
      groups.length * (1 / 2 / scale) := by
  induction groups with
  | nil => simp
  | cons g groups ih =>
    have hfirst := abs_roundTo_sub_le hscale (g.sum / n)
    rw [List.map_cons, List.sum_cons, List.flatten_cons, List.sum_append, List.length_cons]
    rw [abs_le] at hfirst ih ⊢
    push_cast
    rw [add_div]
    constructor <;> linarith

/-- **Rounding twice costs one unit**: averages of averages of groups of `n`. -/
theorem abs_roundTo_tiers_le (groups : List (List ℚ)) (hne : groups ≠ []) (n : ℕ) :
    |roundTo scale ((groups.map fun g => roundTo scale (g.sum / n)).sum / groups.length) -
      roundTo scale (groups.flatten.sum / (groups.length * n : ℕ))| ≤ 1 / scale := by
  have hk : (0 : ℚ) < groups.length := by exact_mod_cast List.length_pos_iff.mpr hne
  apply abs_sub_le_of_isDecimal hscale (isDecimal_roundTo hscale _) (isDecimal_roundTo hscale _)
  generalize hinner : (groups.map fun g => roundTo scale (g.sum / n)).sum = inner
  have hgrps := abs_sum_roundTo_sub_le hscale groups n
  rw [hinner] at hgrps
  -- the errors of the groups, averaged, are half a unit again
  have hmean : |inner / groups.length - groups.flatten.sum / (groups.length * n : ℕ)| ≤
      1 / 2 / scale := by
    have hsplit : inner / groups.length - groups.flatten.sum / (groups.length * n : ℕ) =
        (inner - groups.flatten.sum / n) / groups.length := by
      push_cast
      rw [sub_div, div_div, mul_comm (n : ℚ)]
    rw [hsplit, abs_div, abs_of_pos hk, div_le_iff₀ hk, mul_comm]
    exact hgrps
  have htwice := abs_roundTo_sub_le hscale (inner / groups.length)
  have honce := abs_roundTo_sub_le hscale (groups.flatten.sum / (groups.length * n : ℕ))
  -- three halves are less than two units
  have hunits : 2 / (scale : ℚ) = 4 * (1 / 2 / scale) := by ring
  have hhalf : 0 < 1 / 2 / (scale : ℚ) := by positivity
  rw [hunits, abs_lt]
  rw [abs_le] at hmean htwice honce
  constructor <;> linarith

end Scale

/-! ## Integer division -/

theorem div_tiers (groups : List (List ℕ)) {n : ℕ} (hn : 0 < n) :
    (groups.map fun g => g.sum / n).sum / groups.length ≤
        groups.flatten.sum / (groups.length * n) ∧
      groups.flatten.sum / (groups.length * n) ≤
        (groups.map fun g => g.sum / n).sum / groups.length + 1 := by
  have hsums : (groups.map fun g => g.sum / n).sum ≤ groups.flatten.sum / n ∧
      groups.flatten.sum / n ≤ (groups.map fun g => g.sum / n).sum + groups.length := by
    induction groups with
    | nil => simp
    | cons g groups ih =>
      rw [List.map_cons, List.sum_cons, List.flatten_cons, List.sum_append, List.length_cons]
      have hsum : (g.sum + groups.flatten.sum) / n =
          g.sum / n + groups.flatten.sum / n +
            if n ≤ g.sum % n + groups.flatten.sum % n then 1 else 0 := Nat.add_div hn
      -- two remainders give one more at most
      split at hsum <;>
      omega
  rw [Nat.mul_comm, ← Nat.div_div_eq_div_mul]
  rcases Nat.eq_zero_or_pos groups.length with hzero | hpos
  · simp [hzero]
  · refine ⟨Nat.div_le_div_right hsums.1, ?_⟩
    rw [← Nat.add_div_right _ hpos]
    exact Nat.div_le_div_right hsums.2

end Bantay.Lib
