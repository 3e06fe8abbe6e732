import Bantay.Alerts.AlertCoverage
import Bantay.Alerts.RecordSums

/-!
# Averages lie between what they average

`HandleSystemAlerts` counts the records of an alert in a `uint8`.  Polls come every five seconds,
and an alert may last up to 255 minutes, so from 22 minutes on more than 255 records can be
counted: the count starts again at zero, the sums do not.
-/

namespace Bantay.Alerts

open Bantay.Lib List
open Bantay.Records (Stats minute interval)

/-! ## Means -/

section Means

variable {α : Type} {l : List α} {f : α → ℚ}

theorem sum_map_mean (hne : l ≠ []) :
    (l.map fun _ => (l.map f).sum / l.length).sum = (l.map f).sum := by
  have hpos : (l.length : ℚ) ≠ 0 := by exact_mod_cast (length_pos_iff.mpr hne).ne'
  rw [map_const', sum_replicate, nsmul_eq_mul, mul_div_cancel₀ _ hpos]

theorem exists_le_mean (hne : l ≠ []) : ∃ a ∈ l, f a ≤ (l.map f).sum / l.length :=
  exists_le_of_sum_le hne _ _ (sum_map_mean hne).ge

theorem exists_mean_le (hne : l ≠ []) : ∃ a ∈ l, (l.map f).sum / l.length ≤ f a :=
  exists_le_of_sum_le hne _ _ (sum_map_mean hne).le

end Means

/-! ## The property -/

/-- The average lies between the smallest and the largest contribution of the counted records; that
    of a map is of one of its entries, and zero without any. -/
def BetweenContributions (alert : SystemAlertData) (records : List (ℤ × SystemAlertStats))
    (average : ℚ) : Prop :=
  if alert.alertData.name.isMap then
    (∃ key, Seen alert records key ∧
      (∃ stats ∈ countedStats alert records,
        (share alert.alertData.name stats key).getD 0 ≤ average) ∧
      ∃ stats ∈ countedStats alert records,
        average ≤ (share alert.alertData.name stats key).getD 0) ∨
    ((∀ key, ¬ Seen alert records key) ∧ average = 0)
  else
    (∃ stats ∈ countedStats alert records, amount alert.alertData.name stats ≤ average) ∧
      ∃ stats ∈ countedStats alert records, average ≤ amount alert.alertData.name stats

/-- Not all values that are summed for a map are negative. -/
def SomeNonneg (alert : SystemAlertData) (records : List (ℤ × SystemAlertStats)) : Prop :=
  (∃ key, Seen alert records key) → ∃ key, Seen alert records key ∧
    ∃ stats ∈ countedStats alert records, 0 ≤ (share alert.alertData.name stats key).getD 0

section Bounds

variable {alert : SystemAlertData} {records : List (ℤ × SystemAlertStats)}

theorem countedStats_ne_nil (hpos : 0 < numCounted alert records) :
    countedStats alert records ≠ [] := length_pos_iff.mp hpos

theorem between_of_scalar (h : NoSums alert) (hmap : alert.alertData.name.isMap = false)
    (hpos : 0 < numCounted alert records)
    (hfits : numCounted alert records % 2 ^ 8 = numCounted alert records) :
    BetweenContributions alert records (averageValue (sumOver records alert)) := by
  rw [BetweenContributions, if_neg (by rw [hmap]; exact Bool.false_ne_true),
    averageValue_sumOver h records hmap, hfits]
  exact ⟨exists_le_mean (countedStats_ne_nil hpos), exists_mean_le (countedStats_ne_nil hpos)⟩

theorem between_of_map_iff (h : NoSums alert) (hmap : alert.alertData.name.isMap)
    (hpos : 0 < numCounted alert records)
    (hfits : numCounted alert records % 2 ^ 8 = numCounted alert records) :
    BetweenContributions alert records (averageValue (sumOver records alert)) ↔
      SomeNonneg alert records := by
  have hne := countedStats_ne_nil hpos
  obtain ⟨hzero, hle, hone⟩ := mapAverage_spec h records hmap (by rw [hfits]; exact hpos)
  rw [hfits] at hle hone
  rw [BetweenContributions, if_pos hmap]
  constructor
  · rintro (⟨key, hseen, -, stats, hstats, hupper⟩ | ⟨hnone, -⟩)
    · exact fun _ => ⟨key, hseen, stats, hstats, hzero.trans hupper⟩
    · rintro ⟨key, hseen⟩
      exact absurd hseen (hnone key)
  · intro hnonneg
    rcases hone with havg | ⟨key, hseen, havg⟩
    · by_cases hseen : ∃ key, Seen alert records key
      · -- no sum is positive, so a value of at least zero has one of at most zero beside it
        obtain ⟨key, hkey, stats, hstats, hval⟩ := hnonneg hseen
        obtain ⟨stats', hstats', hmean⟩ := exists_le_mean
          (f := fun stats => (share alert.alertData.name stats key).getD 0) hne
        refine .inl ⟨key, hkey, ⟨stats', hstats', ?_⟩, stats, hstats, ?_⟩
        · exact hmean.trans (hle key hkey)
        · rw [havg]
          exact hval
      · exact .inr ⟨fun key hkey => hseen ⟨key, hkey⟩, havg⟩
    · refine .inl ⟨key, hseen, ?_⟩
      rw [havg]
      exact ⟨exists_le_mean hne, exists_mean_le hne⟩

end Bounds

/-- **The average lies between the smallest and the largest contribution, and the count is that of
    the counted records**, exactly if at most 255 are counted; the average of a map also needs a
    value that is not negative. -/
theorem average_between_iff (now : ℤ) (alertData : CachedAlertData)
    (records : List (ℤ × SystemAlertStats)) :
    (sumOver records (startAlert now alertData)).count.toNat =
        numCounted (startAlert now alertData) records ∧
      (0 < numCounted (startAlert now alertData) records →
        BetweenContributions (startAlert now alertData) records
          (averageValue (sumOver records (startAlert now alertData)))) ↔
    numCounted (startAlert now alertData) records ≤ 255 ∧
      (alertData.name.isMap → 0 < numCounted (startAlert now alertData) records →
        SomeNonneg (startAlert now alertData) records) := by
  have h := noSums_startAlert now alertData
  rw [sumOver_count h records]
  have hfits : numCounted (startAlert now alertData) records % 2 ^ 8 =
      numCounted (startAlert now alertData) records ↔
      numCounted (startAlert now alertData) records ≤ 255 := by omega
  rw [hfits]
  refine and_congr_right fun hle => ?_
  have hmod := hfits.mpr hle
  cases hmap : alertData.name.isMap with
  | true =>
    simp only [true_imp_iff]
    exact forall_congr' fun hpos => between_of_map_iff h hmap hpos hmod
  | false =>
    simp only [Bool.false_eq_true, false_imp_iff, iff_true]
    exact fun hpos => between_of_scalar h hmap hpos hmod

/-! ## Records at the interval of the hub -/

/-- Records every five seconds for 24 minutes, with 10 percent, and with 60 percent in the last
    one. -/
def quietRows : List StatsRow :=
  (List.range 290).map fun (i : ℕ) =>
    ⟨interval * i, some { cpu := if i = 289 then 60 else 10 }⟩

/-- **An average above every record triggers an alert over 24 minutes**: 287 records are counted as
    31. -/
theorem count_wraps :
    Spaced interval (times quietRows) ∧
    (handleSystemAlerts (interval * 289) { info := { cpu := 60 } } [cpuAlert 24] quietRows).map
      (fun sent => (sent.count.toNat, sent.val, sent.triggered)) = [(31, 2920 / 31, true)] ∧
    (quietRows.countP fun row =>
      interval * 289 - minute * 24 ≤ row.created - timeBuffer) = 287 ∧
    (∀ row ∈ quietRows, ∀ stats ∈ row.stats, stats.cpu ≤ 60) := by
  refine ⟨?_, by decide +kernel, by decide +kernel, ?_⟩
  · rw [Spaced, times, quietRows, map_map, pairwise_map]
    refine pairwise_lt_range.imp fun hlt => ?_
    simp only [Function.comp_apply, interval]
    omega
  · intro row hrow stats hstats
    obtain ⟨i, -, rfl⟩ := mem_map.mp hrow
    cases hstats
    split <;> norm_num

end Bantay.Alerts
