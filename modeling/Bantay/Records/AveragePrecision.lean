import Bantay.Records.AveragedFields
import Mathlib.Algebra.BigOperators.Ring.Finset
import Mathlib.Data.Nat.Cast.Order.Field

/-!
# Precision of Averages

Averages are rounded to two decimals, or divided as integers, and longer records are averages of
averages.  If all records have the same sensors, filesystems, interfaces, GPUs and cores, two
tiers differ from one by one unit at most.  A record that is averaged with copies of itself stays
as it is, but for the package power of its GPUs, which `AverageSystemStatsSlice` does not
accumulate.
-/

namespace Bantay.Records

open Bantay.Lib List

/-! ## Fields that all records carry -/

section Carried

variable {records : List Stats}

theorem AveragedField.view_average_of_none {α : Type} (f : AveragedField α) (hne : records ≠ [])
    (hnone : ∀ stats ∈ records, f.view stats = none) :
    f.view (averageSystemStatsSlice records) = none := by
  rw [f.view_average hne, filterMap_eq_nil_iff.mpr hnone, collect_nil, Option.map_none]

theorem filterMap_ne_nil {α β : Type} {view : α → Option β} {l : List α} (hne : l ≠ [])
    (hall : ∀ a ∈ l, (view a).isSome) : l.filterMap view ≠ [] := by
  obtain ⟨first, rest, rfl⟩ := exists_cons_of_ne_nil hne
  obtain ⟨value, hview⟩ := Option.isSome_iff_exists.mp (hall first mem_cons_self)
  rw [filterMap_cons_some hview]
  exact cons_ne_nil _ _

variable (f : FloatField)

/-- If all records have the sensor, its divisor is their number. -/
theorem FloatField.divisor_of_all (hall : ∀ stats ∈ records, (f.view stats).isSome) :
    f.divisor records.length (tempCount records) = records.length := by
  cases f with
  | temperature key =>
    apply countP_eq_length.mpr
    intro stats hstats
    have hkey := hall stats hstats
    simp only [FloatField.view, Stats.temperature] at hkey
    cases htemps : stats.temperatures with
    | none => simp [htemps] at hkey
    | some _ => rfl
  | _ => rfl

theorem FloatField.view_average_of_all (hne : records ≠ [])
    (hall : ∀ stats ∈ records, (f.view stats).isSome) :
    f.view (averageSystemStatsSlice records) =
      some (twoDecimals ((records.filterMap f.view).sum / records.length)) := by
  have havg := f.averaged.view_average hne
  simp only [FloatField.averaged] at havg
  rw [havg, collect_getD (· + ·) (filterMap_ne_nil hne hall), foldl_add_eq_sum,
    Option.map_some, f.divisor_of_all hall]

/-- No sum of the field overflows. -/
def IntField.Fits (f : IntField) (records : List Stats) : Prop :=
  (records.filterMap f.view).sum < 2 ^ 64

theorem IntField.foldl_add (f : IntField) {values : List ℕ} (hfits : values.sum < 2 ^ 64) :
    values.foldl f.add 0 = values.sum := by
  cases f with
  | batteryPercent => exact sum_eq_foldl.symm
  | _ => exact (foldl_addUint64 values 0 (by omega)).trans (Nat.zero_add _)

theorem IntField.view_average_of_all (f : IntField) (hne : records ≠ [])
    (hall : ∀ stats ∈ records, (f.view stats).isSome) (hfits : f.Fits records) :
    f.view (averageSystemStatsSlice records) =
      some (f.scale records.length (records.filterMap f.view).sum) := by
  have havg := f.averaged.view_average hne
  simp only [IntField.averaged] at havg
  rw [havg, collect_getD f.add (filterMap_ne_nil hne hall), f.foldl_add hfits,
    Option.map_some]

end Carried

/-! ## The ranges of the integers -/

/-- The percentages that are `uint8` are in its range. -/
structure Uint8s (s : Stats) : Prop where
  battery : s.battery.1 < 2 ^ 8
  cores : ∀ core ∈ s.cpuCoresUsage, core < 2 ^ 8

/-- The fields that are `uint8`. -/
def IntField.isUint8 : IntField → Bool
  | batteryPercent | cpuCoresUsage _ => true
  | _ => false

variable {s s' : Stats} {n : ℕ} {α β : Type}

theorem Uint8s.view_lt (h : Uint8s s) {f : IntField} (hf : f.isUint8) {value : ℕ}
    (hview : f.view s = some value) : value < 2 ^ 8 := by
  cases f with
  | batteryPercent => exact Option.some.inj hview ▸ h.battery
  | cpuCoresUsage i => exact h.cores value (mem_of_getElem? hview)
  | _ => cases hf

theorem cast_roundUint8 {x : ℚ} (hx : 0 ≤ x) (hle : x ≤ 255) :
    (roundUint8 x : ℚ) = roundTo 1 x := by
  have hnonneg := roundHalfAway_nonneg hx
  have hbound : roundHalfAway x ≤ 255 := roundHalfAway_le hx (by exact_mod_cast hle)
  have hcast : (roundUint8 x : ℤ) = roundHalfAway x := by
    rw [roundUint8, Nat.mod_eq_of_lt (by omega)]
    exact Int.toNat_of_nonneg hnonneg
  rw [roundTo, Nat.cast_one, mul_one, div_one]
  exact_mod_cast hcast

theorem mean_le {values : List ℕ} {bound : ℕ} (hlen : values.length = n)
    (hle : ∀ value ∈ values, value ≤ bound) : (values.sum : ℚ) / n ≤ bound := by
  rcases Nat.eq_zero_or_pos n with rfl | hpos
  · simp
  · have hsum : values.sum ≤ n * bound := by
      simpa [hlen] using sum_le_card_nsmul values bound hle
    rw [div_le_iff₀ (by exact_mod_cast hpos), mul_comm]
    exact_mod_cast hsum

/-! ## Two tiers -/

/-- Two records have the same map keys and list lengths. -/
structure SameShape (s s' : Stats) : Prop where
  temperatures : ∀ key, (s.temperature key).isSome = (s'.temperature key).isSome
  extraFs : ∀ key, (s.fs key).isSome = (s'.fs key).isSome
  networkInterfaces : ∀ key, (s.network key).isSome = (s'.network key).isSome
  gpuData : ∀ id, (s.gpu id).isSome = (s'.gpu id).isSome
  engines : ∀ id key, ((s.gpu id).bind (·.engine key)).isSome =
    ((s'.gpu id).bind (·.engine key)).isSome
  cpuBreakdown : s.cpuBreakdown.length = s'.cpuBreakdown.length
  cpuCoresUsage : s.cpuCoresUsage.length = s'.cpuCoresUsage.length

theorem isSome_getElem?_of_length {l l' : List α} (h : l.length = l'.length) (i : ℕ) :
    l[i]?.isSome = l'[i]?.isSome := by
  rcases Nat.lt_or_ge i l.length with hi | hi
  · rw [List.getElem?_eq_getElem hi, List.getElem?_eq_getElem (h ▸ hi)]
    rfl
  · rw [List.getElem?_eq_none hi, List.getElem?_eq_none (h ▸ hi)]

theorem SameShape.floatField (h : SameShape s s') (f : FloatField) :
    (f.view s).isSome = (f.view s').isSome := by
  cases f with
  | cpuBreakdown i => exact isSome_getElem?_of_length h.cpuBreakdown i
  | temperature key => exact h.temperatures key
  | fsDiskTotal key | fsDiskUsed key | fsDiskReadPs key | fsDiskWritePs key
  | fsDiskIoStats key i => simpa [FloatField.view] using h.extraFs key
  | gpuTemperature id | gpuMemoryUsed id | gpuMemoryTotal id | gpuUsage id | gpuPower id
  | gpuCount id => simpa [FloatField.view] using h.gpuData id
  | gpuEngine id key => exact h.engines id key
  | _ => rfl

theorem SameShape.intField (h : SameShape s s') (f : IntField) :
    (f.view s).isSome = (f.view s').isSome := by
  cases f with
  | bandwidth i | diskIo i | batteryPercent => rfl
  | cpuCoresUsage i => exact isSome_getElem?_of_length h.cpuCoresUsage i
  | networkSent key | networkRecv key => simpa [IntField.view] using h.networkInterfaces key
  | fsDiskReadBytes key | fsDiskWriteBytes key => simpa [IntField.view] using h.extraFs key

theorem carried_or_missing {view : Stats → Option α} {records : List Stats}
    (hshape : ∀ s ∈ records, ∀ s' ∈ records, (view s).isSome = (view s').isSome) :
    (∀ s ∈ records, (view s).isSome) ∨ ∀ s ∈ records, view s = none := by
  cases records with
  | nil => exact .inr (forall_mem_nil _)
  | cons first rest =>
    cases hfirst : view first with
    | none =>
      refine .inr fun s hs => ?_
      have hsame := hshape s hs first mem_cons_self
      rw [hfirst] at hsame
      exact Option.isNone_iff_eq_none.mp (by simpa using hsame)
    | some value =>
      refine .inl fun s hs => ?_
      rw [hshape s hs first mem_cons_self, hfirst]
      rfl

theorem filterMap_map_some {γ : Type} {view : β → Option γ} {f : α → β} {value : α → γ}
    {l : List α} (h : ∀ a ∈ l, view (f a) = some (value a)) :
    (l.map f).filterMap view = l.map value := by
  rw [filterMap_map, ← filterMap_eq_map]
  exact filterMap_congr h

theorem length_filterMap_of_all {view : α → Option β} {l : List α}
    (hall : ∀ a ∈ l, (view a).isSome) : (l.filterMap view).length = l.length := by
  induction l with
  | nil => rfl
  | cons a l ih =>
    obtain ⟨value, hview⟩ := Option.isSome_iff_exists.mp (hall a mem_cons_self)
    rw [filterMap_cons_some hview, length_cons, length_cons,
      ih fun b hb => hall b (mem_cons_of_mem a hb)]

theorem length_flatten_groups {groups : List (List α)} (hlen : ∀ group ∈ groups, group.length = n) :
    groups.flatten.length = groups.length * n := by
  rw [length_flatten, map_eq_replicate_iff.mpr hlen, sum_replicate_nat]

theorem forall_mem_flatten {groups : List (List α)} {P : α → Prop}
    (h : ∀ group ∈ groups, ∀ a ∈ group, P a) : ∀ a ∈ groups.flatten, P a := by
  intro a ha
  obtain ⟨group, hgrp, hmem⟩ := mem_flatten.mp ha
  exact h group hgrp a hmem

/-! ### Integers in two tiers -/

section Values

variable {groups : List (List ℕ)}

theorem sum_div_le {values : List ℕ} {bound : ℕ} (hlen : values.length = n)
    (hle : ∀ value ∈ values, value ≤ bound) : values.sum / n ≤ bound := by
  have hmean : ((values.sum / n : ℕ) : ℚ) ≤ bound := Nat.cast_div_le.trans (mean_le hlen hle)
  exact_mod_cast hmean

theorem round_tiers (hne : groups ≠ []) (hlen : ∀ group ∈ groups, group.length = n)
    (hrange : ∀ group ∈ groups, ∀ value ∈ group, value ≤ 255) :
    let twice := roundUint8 (((groups.map fun group =>
      roundUint8 ((group.sum : ℚ) / n)).sum : ℕ) / groups.length)
    let once := roundUint8 ((groups.flatten.sum : ℚ) / (groups.length * n : ℕ))
    twice ≤ once + 1 ∧ once ≤ twice + 1 := by
  intro twice once
  have honce : (once : ℚ) = roundTo 1 ((groups.flatten.sum : ℚ) / (groups.length * n : ℕ)) :=
    cast_roundUint8 (by positivity) (by
      exact_mod_cast mean_le (length_flatten_groups hlen) (forall_mem_flatten hrange))
  have hinner : ((groups.map fun group => roundUint8 ((group.sum : ℚ) / n)).sum : ℚ) =
      (groups.map fun group => roundTo 1 ((group.sum : ℚ) / n)).sum := by
    rw [Nat.cast_list_sum, map_map]
    congr 1
    apply map_congr_left
    intro group hgrp
    exact cast_roundUint8 (by positivity)
      (by exact_mod_cast mean_le (hlen group hgrp) (hrange group hgrp))
  have htwice : (twice : ℚ) = roundTo 1 ((groups.map fun group =>
      roundTo 1 ((group.sum : ℚ) / n)).sum / groups.length) := by
    rw [← hinner]
    have hbytes : ∀ value ∈ groups.map fun group => roundUint8 ((group.sum : ℚ) / n),
        value ≤ 255 := by
      intro value hval
      obtain ⟨group, -, rfl⟩ := mem_map.mp hval
      exact Nat.le_of_lt_succ (Nat.mod_lt _ (by norm_num))
    exact cast_roundUint8 (by positivity)
      (by exact_mod_cast mean_le (length_map _) hbytes)
  -- the same lists as lists of rationals
  have herror := abs_roundTo_tiers_le (show 0 < 1 by norm_num)
    (groups.map (List.map (Nat.cast : ℕ → ℚ))) (mt map_eq_nil_iff.mp hne) n
  have hsums : ((groups.map (List.map (Nat.cast : ℕ → ℚ))).map fun group =>
      roundTo 1 (group.sum / n)) = groups.map fun group => roundTo 1 ((group.sum : ℚ) / n) := by
    rw [map_map]
    apply map_congr_left
    intro group _
    rw [Function.comp_apply, Nat.cast_list_sum]
  rw [hsums, length_map, ← map_flatten, ← Nat.cast_list_sum, ← htwice, ← honce,
    Nat.cast_one, div_one, abs_le] at herror
  constructor
  · have : (twice : ℚ) ≤ (once + 1 : ℕ) := by push_cast; linarith [herror.2]
    exact_mod_cast this
  · have : (once : ℚ) ≤ (twice + 1 : ℕ) := by push_cast; linarith [herror.1]
    exact_mod_cast this

theorem IntField.scale_le (f : IntField) {sum : ℕ} (hn : 0 < n) : f.scale n sum ≤ sum := by
  cases f with
  | batteryPercent => exact (Nat.mod_le _ _).trans (Nat.div_le_self _ _)
  | cpuCoresUsage i =>
    have hround : roundHalfAway ((sum : ℚ) / n) ≤ sum := by
      apply roundHalfAway_le (by positivity)
      have hone : (1 : ℚ) ≤ n := by exact_mod_cast hn
      exact_mod_cast div_le_self (Nat.cast_nonneg sum) hone
    exact (Nat.mod_le _ _).trans (Int.toNat_le.mpr hround)
  | _ => exact Nat.div_le_self _ _

/-- **Integers in two tiers** differ by one at most. -/
theorem IntField.scale_tiers (f : IntField) (hne : groups ≠ []) (hn : 0 < n)
    (hlen : ∀ group ∈ groups, group.length = n)
    (hrange : f.isUint8 → ∀ group ∈ groups, ∀ value ∈ group, value ≤ 255) :
    let twice := f.scale groups.length (groups.map fun group => f.scale n group.sum).sum
    let once := f.scale (groups.length * n) groups.flatten.sum
    twice ≤ once + 1 ∧ once ≤ twice + 1 := by
  have hdiv := div_tiers groups hn
  cases f with
  | cpuCoresUsage i => exact round_tiers hne hlen (hrange rfl)
  | batteryPercent =>
    -- no mean leaves the range of uint8
    have hgrps : (groups.map fun group => group.sum / n % 2 ^ 8) =
        groups.map fun group => group.sum / n := by
      apply map_congr_left
      intro group hgrp
      have := sum_div_le (hlen group hgrp) (hrange rfl group hgrp)
      exact Nat.mod_eq_of_lt (by omega)
    have honce : groups.flatten.sum / (groups.length * n) ≤ 255 :=
      sum_div_le (length_flatten_groups hlen) (forall_mem_flatten (hrange rfl))
    simp only [IntField.scale, hgrps]
    rw [Nat.mod_eq_of_lt (by omega), Nat.mod_eq_of_lt (by omega)]
    omega
  | _ =>
    simp only [IntField.scale]
    omega

end Values

section Tiers

variable {groups : List (List Stats)} (hne : groups ≠ []) (hn : 0 < n)
  (hlen : ∀ group ∈ groups, group.length = n)

def averageTiers (groups : List (List Stats)) : Stats :=
  averageSystemStatsSlice (groups.map averageSystemStatsSlice)

include hn hlen

theorem group_ne_nil {group : List Stats} (hgrp : group ∈ groups) : group ≠ [] := by
  rw [← length_pos_iff, hlen group hgrp]
  exact hn

include hne

theorem flatten_groups_ne_nil : groups.flatten ≠ [] := by
  rw [← length_pos_iff, length_flatten_groups hlen]
  exact Nat.mul_pos (length_pos_iff.mpr hne) hn

theorem AveragedField.tiers_of_none {α : Type} (f : AveragedField α)
    (hnone : ∀ s ∈ groups.flatten, f.view s = none) (R : α → α → Prop) :
    Option.Rel R (f.view (averageTiers groups))
      (f.view (averageSystemStatsSlice groups.flatten)) := by
  have htwice : f.view (averageTiers groups) = none := by
    apply f.view_average_of_none (mt map_eq_nil_iff.mp hne)
    intro stats hstats
    obtain ⟨group, hgrp, rfl⟩ := mem_map.mp hstats
    apply f.view_average_of_none (group_ne_nil hn hlen hgrp)
    exact fun s hs => hnone s (mem_flatten_of_mem hgrp hs)
  rw [htwice, f.view_average_of_none (flatten_groups_ne_nil hne hn hlen) hnone]
  exact .none

theorem FloatField.tiers_of_all (f : FloatField)
    (hall : ∀ s ∈ groups.flatten, (f.view s).isSome) :
    Option.Rel (fun twice once => |twice - once| ≤ 1 / 100) (f.view (averageTiers groups))
      (f.view (averageSystemStatsSlice groups.flatten)) := by
  have hgrps : ∀ group ∈ groups, f.view (averageSystemStatsSlice group) =
      some (twoDecimals ((group.filterMap f.view).sum / n)) := by
    intro group hgrp
    rw [f.view_average_of_all (group_ne_nil hn hlen hgrp) fun s hs =>
      hall s (mem_flatten_of_mem hgrp hs), hlen group hgrp]
  have htwice := f.view_average_of_all (mt map_eq_nil_iff.mp hne) (by
    intro stats hstats
    obtain ⟨group, hgrp, rfl⟩ := mem_map.mp hstats
    rw [hgrps group hgrp]
    rfl)
  rw [averageTiers, htwice, f.view_average_of_all (flatten_groups_ne_nil hne hn hlen) hall]
  refine .some ?_
  -- both are averages of the lists of values
  have herror := abs_roundTo_tiers_le (show 0 < 100 by norm_num)
    (groups.map (·.filterMap f.view)) (mt map_eq_nil_iff.mp hne) n
  rw [filterMap_map_some hgrps, length_map, length_flatten_groups hlen,
    filterMap_flatten]
  rw [map_map, length_map] at herror
  exact herror

theorem IntField.tiers_of_all (f : IntField)
    (hall : ∀ s ∈ groups.flatten, (f.view s).isSome) (hfits : f.Fits groups.flatten)
    (huint8 : ∀ s ∈ groups.flatten, Uint8s s) :
    Option.Rel (fun twice once => twice ≤ once + 1 ∧ once ≤ twice + 1)
      (f.view (averageTiers groups)) (f.view (averageSystemStatsSlice groups.flatten)) := by
  have hsum : (groups.map fun group => (group.filterMap f.view).sum).sum < 2 ^ 64 := by
    rw [IntField.Fits, filterMap_flatten, sum_flatten, map_map] at hfits
    exact hfits
  have hgrps : ∀ group ∈ groups, f.view (averageSystemStatsSlice group) =
      some (f.scale n (group.filterMap f.view).sum) := by
    intro group hgrp
    rw [f.view_average_of_all (group_ne_nil hn hlen hgrp) (fun s hs =>
      hall s (mem_flatten_of_mem hgrp hs)) ?_, hlen group hgrp]
    exact (single_le_sum (fun _ _ => Nat.zero_le _) _ (mem_map_of_mem hgrp)).trans_lt
      hsum
  have hvals := filterMap_map_some hgrps
  have htwice := f.view_average_of_all (mt map_eq_nil_iff.mp hne) (by
    intro stats hstats
    obtain ⟨group, hgrp, rfl⟩ := mem_map.mp hstats
    rw [hgrps group hgrp]
    rfl) (by
    -- the means of the groups add up to less than the records do
    rw [IntField.Fits, hvals]
    exact (sum_le_sum fun group _ => f.scale_le hn).trans_lt hsum)
  have honce := f.view_average_of_all (flatten_groups_ne_nil hne hn hlen) hall hfits
  rw [averageTiers, htwice, honce]
  refine .some ?_
  have hne' : groups.map (·.filterMap f.view) ≠ [] := mt map_eq_nil_iff.mp hne
  have htiers := f.scale_tiers (n := n) hne' hn ?_ ?_
  · rw [hvals, length_map, length_flatten_groups hlen, filterMap_flatten]
    rw [map_map, length_map] at htiers
    exact htiers
  · intro values hmem
    obtain ⟨group, hgrp, rfl⟩ := mem_map.mp hmem
    rw [length_filterMap_of_all fun s hs => hall s (mem_flatten_of_mem hgrp hs),
      hlen group hgrp]
  · intro hbyte values hmem value hval
    obtain ⟨group, hgrp, rfl⟩ := mem_map.mp hmem
    obtain ⟨s, hs, hview⟩ := mem_filterMap.mp hval
    exact Nat.le_of_lt_succ
      ((huint8 s (mem_flatten_of_mem hgrp hs)).view_lt hbyte hview)

/-- **Averages of averages**: `k` groups of `n` records of one shape, averaged twice, differ from
    the average of all records by a hundredth at most in the fields rounded to two decimals, and by
    one in the integers. -/
theorem averages_of_averages
    (hshape : ∀ s ∈ groups.flatten, ∀ s' ∈ groups.flatten, SameShape s s')
    (huint8 : ∀ s ∈ groups.flatten, Uint8s s)
    (hfits : ∀ f : IntField, f.Fits groups.flatten) :
    (∀ f : FloatField, Option.Rel (fun twice once => |twice - once| ≤ 1 / 100)
      (f.view (averageTiers groups)) (f.view (averageSystemStatsSlice groups.flatten))) ∧
    ∀ f : IntField, Option.Rel (fun twice once => twice ≤ once + 1 ∧ once ≤ twice + 1)
      (f.view (averageTiers groups)) (f.view (averageSystemStatsSlice groups.flatten)) := by
  constructor
  · intro f
    rcases carried_or_missing fun s hs s' hs' => (hshape s hs s' hs').floatField f with
      hall | hnone
    · exact f.tiers_of_all hne hn hlen hall
    · exact f.averaged.tiers_of_none hne hn hlen hnone _
  · intro f
    rcases carried_or_missing fun s hs s' hs' => (hshape s hs s' hs').intField f with
      hall | hnone
    · exact f.tiers_of_all hne hn hlen hall (hfits f) huint8
    · exact f.averaged.tiers_of_none hne hn hlen hnone _

end Tiers

def gpuStats (powerPkg : ℚ) : Stats where
  cpu := 25 / 2
  battery := (80, 2)
  gpuData := some (AList.singleton "0"
    { name := "Arc", usage := 12, power := 7 / 2, powerPkg := powerPkg })

theorem gpuStats_uint8s (powerPkg : ℚ) : Uint8s (gpuStats powerPkg) :=
  ⟨(by decide : 80 < 2 ^ 8), forall_mem_nil _⟩

def loadedGroups : List (List Stats) :=
  [[1 / 3, 2 / 3], [5, 1 / 7]].map (List.map fun cpu => { gpuStats 0 with cpu := cpu })

theorem averages_of_loaded_groups :
    (∀ f : FloatField, Option.Rel (fun twice once => |twice - once| ≤ 1 / 100)
      (f.view (averageTiers loadedGroups))
      (f.view (averageSystemStatsSlice loadedGroups.flatten))) ∧
    ∀ f : IntField, Option.Rel (fun twice once => twice ≤ once + 1 ∧ once ≤ twice + 1)
      (f.view (averageTiers loadedGroups))
      (f.view (averageSystemStatsSlice loadedGroups.flatten)) := by
  have hrecs : ∀ s ∈ loadedGroups.flatten, ∃ cpu, s = { gpuStats 0 with cpu := cpu } := by
    intro s hs
    obtain ⟨group, hgrp, hs⟩ := mem_flatten.mp hs
    obtain ⟨cpus, -, rfl⟩ := mem_map.mp hgrp
    obtain ⟨cpu, -, rfl⟩ := mem_map.mp hs
    exact ⟨cpu, rfl⟩
  have hlen : ∀ group ∈ loadedGroups, group.length = 2 := by
    intro group hgrp
    obtain ⟨cpus, hcpus, rfl⟩ := mem_map.mp hgrp
    rcases mem_pair.mp hcpus with rfl | rfl <;> rfl
  apply averages_of_averages (cons_ne_nil _ _) (by decide) hlen
  · intro s hs s' hs'
    obtain ⟨cpu, rfl⟩ := hrecs s hs
    obtain ⟨cpu', rfl⟩ := hrecs s' hs'
    exact ⟨fun _ => rfl, fun _ => rfl, fun _ => rfl, fun _ => rfl, fun _ _ => rfl, rfl, rfl⟩
  · intro s hs
    obtain ⟨cpu, rfl⟩ := hrecs s hs
    exact ⟨(gpuStats_uint8s 0).battery, (gpuStats_uint8s 0).cores⟩
  · intro f
    cases f with
    | bandwidth i | diskIo i => exact (by norm_num : 0 + (0 + (0 + (0 + 0))) < 2 ^ 64)
    | batteryPercent => exact (by norm_num : 80 + (80 + (80 + (80 + 0))) < 2 ^ 64)
    | cpuCoresUsage i | networkSent key | networkRecv key | fsDiskReadBytes key
    | fsDiskWriteBytes key => exact (by norm_num : 0 < 2 ^ 64)

/-! ## Copies of a record -/

def gpuNameField (id : String) : AveragedField String where
  view s := (s.gpu id).map (·.name)
  total totals := (totals.sum.gpu id).map (·.name)
  add total name := total.getD name
  total_step totals stats := by
    simp only [gpu_accumulateTotals]
    refine map_elim_some (fun total name => total.getD name) ?_ _ _
    intro sum value
    cases sum <;> rfl
  total_start := .inl rfl
  scale _ _ total := total
  view_averages count totals := by
    simp only [gpu_computeAverages, Option.map_map]
    rfl

/-- The charge state of the battery is that of the last record. -/
def chargeStateField : AveragedField ℕ where
  view s := some s.battery.2
  total totals := some totals.sum.battery.2
  add _ state := state
  total_step _ _ := rfl
  total_start := .inr ⟨fun _ => rfl, fun _ => rfl⟩
  scale _ _ total := total
  view_averages _ _ := rfl

theorem collect_replicate {α : Type} {add : Option α → α → α} {value total : α}
    (hfirst : add none value = total) (hnext : add (some total) value = total) {n : ℕ}
    (hn : 0 < n) : collect add (replicate n value) = some total := by
  obtain ⟨m, rfl⟩ := Nat.exists_eq_succ_of_ne_zero hn.ne'
  rw [collect, replicate_succ, foldl_cons, hfirst, foldl_add_some]
  -- every further copy leaves the total alone
  have hcopies : (replicate m value).foldl (fun total value => add (some total) value)
      total = total := by
    induction m with
    | zero => rfl
    | succ m ih => rw [replicate_succ, foldl_cons, hnext, ih (Nat.succ_pos m)]
  rw [hcopies]

theorem IntField.scale_mul (f : IntField) {n value : ℕ} (hn : 0 < n)
    (hrange : f.isUint8 → value < 2 ^ 8) : f.scale n (n * value) = value := by
  have hdiv : n * value / n = value := Nat.mul_div_cancel_left value hn
  cases f with
  | batteryPercent =>
    rw [IntField.scale, hdiv]
    exact Nat.mod_eq_of_lt (hrange rfl)
  | cpuCoresUsage i =>
    have hpos : (n : ℚ) ≠ 0 := by exact_mod_cast hn.ne'
    have hround : roundHalfAway (value : ℚ) = value := by exact_mod_cast roundHalfAway_intCast value
    rw [IntField.scale, Nat.cast_mul, mul_div_cancel_left₀ _ hpos, roundUint8, hround,
      Int.toNat_natCast]
    exact Nat.mod_eq_of_lt (hrange rfl)
  | _ => exact hdiv

section Copies

variable (hn : 0 < n)

include hn

theorem copies_ne_nil : replicate n s ≠ [] := by
  rw [← length_pos_iff, length_replicate]
  exact hn

variable (f : AveragedField α)

theorem AveragedField.view_copies_of_none (hview : f.view s = none) :
    f.view (averageSystemStatsSlice (replicate n s)) = none := by
  apply f.view_average_of_none (copies_ne_nil hn)
  intro stats hstats
  rw [eq_of_mem_replicate hstats, hview]

theorem AveragedField.view_copies (total : α → α)
    (hfirst : ∀ value, f.add none value = total value)
    (hnext : ∀ value, f.add (some (total value)) value = total value)
    (hscale : ∀ count tempCount value, f.scale count tempCount value = value) :
    f.view (averageSystemStatsSlice (replicate n s)) = (f.view s).map total := by
  cases hview : f.view s with
  | none => exact f.view_copies_of_none hn hview
  | some value =>
    rw [f.view_average (copies_ne_nil hn), filterMap_replicate_of_some hview,
      collect_replicate (hfirst value) (hnext value) hn, Option.map_some, hscale]
    rfl

theorem FloatField.view_copies (f : FloatField) (hdecimal : ∀ x ∈ f.view s, IsDecimal 100 x) :
    f.view (averageSystemStatsSlice (replicate n s)) = f.view s := by
  cases hview : f.view s with
  | none => exact f.averaged.view_copies_of_none hn hview
  | some x =>
    have hpos : (n : ℚ) ≠ 0 := by exact_mod_cast hn.ne'
    have hall : ∀ stats ∈ replicate n s, (f.view stats).isSome := by
      intro stats hstats
      rw [eq_of_mem_replicate hstats, hview]
      rfl
    rw [f.view_average_of_all (copies_ne_nil hn) hall, filterMap_replicate_of_some hview,
      sum_replicate, length_replicate, nsmul_eq_mul, mul_div_cancel_left₀ x hpos,
      twoDecimals, roundTo_of_isDecimal (by norm_num) (hdecimal x hview)]

theorem IntField.view_copies (f : IntField) (huint8 : Uint8s s)
    (hfits : f.Fits (replicate n s)) :
    f.view (averageSystemStatsSlice (replicate n s)) = f.view s := by
  cases hview : f.view s with
  | none => exact f.averaged.view_copies_of_none hn hview
  | some value =>
    have hall : ∀ stats ∈ replicate n s, (f.view stats).isSome := by
      intro stats hstats
      rw [eq_of_mem_replicate hstats, hview]
      rfl
    rw [f.view_average_of_all (copies_ne_nil hn) hall hfits,
      filterMap_replicate_of_some hview, sum_replicate_nat, length_replicate,
      f.scale_mul hn fun hbyte => huint8.view_lt hbyte hview]

end Copies

/-- The fields that the JSON of a record holds. -/
def FloatField.serialized : FloatField → Bool
  | gpuTemperature _ | gpuCount _ => false
  | _ => true

/-- Two records have the same JSON, which leaves out empty maps, the peak fields apart. -/
structure SameSerialized (a b : Stats) : Prop where
  floats : ∀ f : FloatField, f.serialized → f.view a = f.view b
  integers : ∀ f : IntField, f.view a = f.view b
  chargeState : a.battery.2 = b.battery.2
  networkTotals : ∀ key, a.networkTotals key = b.networkTotals key
  gpuName : ∀ id, (a.gpu id).map (·.name) = (b.gpu id).map (·.name)
  powerPkg : ∀ id, (a.gpu id).map (·.powerPkg) = (b.gpu id).map (·.powerPkg)

/-- **The average of copies of a record** is the record, in its JSON and the peaks apart, exactly
    if no GPU has a package power. -/
theorem average_of_copies (s : Stats) (n : ℕ) (hn : 0 < n)
    (hdecimals : ∀ f : FloatField, f.serialized → ∀ x ∈ f.view s, IsDecimal 100 x)
    (huint8 : Uint8s s) (hfits : ∀ f : IntField, f.Fits (replicate n s)) :
    SameSerialized (averageSystemStatsSlice (replicate n s)) s ↔
      ∀ id, ∀ gpu ∈ s.gpu id, gpu.powerPkg = 0 := by
  have hpowerPkg := fun id => (powerPkgField id).view_copies (s := s) hn (fun _ => 0)
    (fun _ => rfl) (fun _ => rfl) fun _ _ _ => rfl
  simp only [powerPkgField, Option.map_map] at hpowerPkg
  constructor
  · intro hsame id gpu hgpu
    have hpkg := hsame.powerPkg id
    rw [hpowerPkg, hgpu] at hpkg
    exact (Option.some.inj hpkg).symm
  · intro hzero
    constructor
    case floats => exact fun f hf => f.view_copies hn (hdecimals f hf)
    case integers => exact fun f => f.view_copies hn huint8 (hfits f)
    case chargeState =>
      exact Option.some.inj (chargeStateField.view_copies (s := s) hn id (fun _ => rfl)
        (fun _ => rfl) fun _ _ _ => rfl)
    case networkTotals =>
      intro key
      refine ((networkTotalsField key).view_copies (s := s) hn id (fun value => ?_)
        (fun value => sup_idem value) fun _ _ _ => rfl).trans (Option.map_id' ..)
      exact sup_eq_right.mpr ⟨Nat.zero_le _, Nat.zero_le _⟩
    case gpuName =>
      intro key
      exact ((gpuNameField key).view_copies (s := s) hn id (fun _ => rfl)
        (fun _ => rfl) fun _ _ _ => rfl).trans (Option.map_id' ..)
    case powerPkg =>
      intro id
      rw [hpowerPkg]
      apply Option.map_congr
      intro gpu hgpu
      exact (hzero id gpu hgpu).symm

variable (powerPkg : ℚ)

theorem gpuStats_gpu {id : String} (hid : id ≠ "0") :
    (gpuStats powerPkg).gpu id = none := by
  show (AList.insert "0" _ ∅).lookup id = none
  exact AList.lookup_insert_ne hid

theorem gpuStats_decimals (f : FloatField) (x : ℚ) (hx : x ∈ f.view (gpuStats powerPkg)) :
    IsDecimal 100 x := by
  have hzero : IsDecimal 100 0 := by decide +kernel
  have husage : IsDecimal 100 12 := by decide +kernel
  have hpower : IsDecimal 100 (7 / 2) := by decide +kernel
  cases f with
  | cpu =>
    cases hx
    exact (by decide +kernel : IsDecimal 100 (25 / 2))
  | gpuTemperature id | gpuMemoryUsed id | gpuMemoryTotal id | gpuUsage id | gpuPower id
  | gpuCount id | gpuEngine id _ =>
    -- there is one GPU
    obtain rfl : id = "0" := by
      by_contra hid
      simp [FloatField.view, gpuStats_gpu powerPkg hid] at hx
    cases hx <;> first | exact hzero | exact husage | exact hpower
  | _ => cases hx <;> exact hzero

theorem gpuStats_fits (f : IntField) :
    f.Fits (replicate 2 (gpuStats powerPkg)) := by
  cases f with
  | bandwidth i | diskIo i => exact (by norm_num : 0 + (0 + 0) < 2 ^ 64)
  | batteryPercent => exact (by norm_num : 80 + (80 + 0) < 2 ^ 64)
  | cpuCoresUsage i | networkSent key | networkRecv key | fsDiskReadBytes key
  | fsDiskWriteBytes key => exact (by norm_num : 0 < 2 ^ 64)

theorem average_of_gpu_copies :
    SameSerialized (averageSystemStatsSlice (replicate 2 (gpuStats 0))) (gpuStats 0) := by
  apply (average_of_copies (gpuStats 0) 2 (by decide) (fun f _ => gpuStats_decimals 0 f)
    (gpuStats_uint8s 0) (gpuStats_fits 0)).mpr
  intro id gpu hgpu
  rcases eq_or_ne id "0" with rfl | hid
  · cases hgpu
    rfl
  · rw [gpuStats_gpu 0 hid] at hgpu
    cases hgpu

/-- **The package power of a GPU is lost**: the average of two copies has zero. -/
theorem package_power_lost :
    (∀ f : FloatField, ∀ x ∈ f.view (gpuStats (33 / 4)), IsDecimal 100 x) ∧
      IsDecimal 100 (33 / 4) ∧ Uint8s (gpuStats (33 / 4)) ∧
      (∀ f : IntField, f.Fits (replicate 2 (gpuStats (33 / 4)))) ∧
      ((averageSystemStatsSlice (replicate 2 (gpuStats (33 / 4)))).gpu "0").map
        (·.powerPkg) = some 0 ∧
      ¬ SameSerialized (averageSystemStatsSlice (replicate 2 (gpuStats (33 / 4))))
        (gpuStats (33 / 4)) := by
  have hlost : ((averageSystemStatsSlice (replicate 2 (gpuStats (33 / 4)))).gpu "0").map
      (·.powerPkg) = some 0 := by decide +kernel
  refine ⟨gpuStats_decimals _, by decide +kernel, gpuStats_uint8s _, gpuStats_fits _, hlost, ?_⟩
  intro hsame
  have hpkg := hsame.powerPkg "0"
  exact absurd hpkg (by decide +kernel)

end Bantay.Records
