import Mathlib.Data.Option.Basic
import Mathlib.Tactic.Common

/-!
# Memory Statistics

The part "memory" of `getSystemStats`, in bytes.  Everything is computed from unsigned counters
that are read one after the other.  The function is written over its subtraction: with
`wrappingSub` it is the program, with `checkedSub` it has no result once a difference is negative.
-/

namespace Bantay.Agent.Memory

structure VirtualMemoryStat where
  total : UInt64
  free : UInt64
  used : UInt64
  buffers : UInt64
  cached : UInt64
  shared : UInt64
  swapTotal : UInt64
  swapFree : UInt64
  swapCached : UInt64

structure MemoryValues where
  swapUsed : UInt64
  cacheBuff : UInt64
  used : UInt64
deriving DecidableEq

def wrappingSub (a b : UInt64) : Option UInt64 := some (a - b)

def checkedSub (a b : UInt64) : Option UInt64 := if b ≤ a then some (a - b) else none

section Model

variable (sub : UInt64 → UInt64 → Option UInt64) (v : VirtualMemoryStat)

def swapUsed : Option UInt64 := do sub (← sub v.swapTotal v.swapFree) v.swapCached

/-- The value of `cacheBuff`.  The comparison and the maximum are meant for negative values. -/
def cacheBuff : Option UInt64 := do
  let cacheBuff ← sub (v.cached + v.buffers) v.shared
  if cacheBuff ≤ 0 then return max (← sub (← sub v.total v.free) v.used) 0
  return cacheBuff

/-- The used memory without the ARC; `arcSize` is what `zfs.ARCSize` answers if there is ZFS. -/
def subtractArc (arcSize : Option UInt64) (used : UInt64) : Option UInt64 :=
  match arcSize with
  | none => some used
  | some arcSize => if 0 < arcSize ∧ arcSize < used then sub used arcSize else some used

def usedMemory (memCalc : String) (arcSize : Option UInt64) (cacheBuff : UInt64) :
    Option UInt64 :=
  (if memCalc = "htop" then sub v.total (v.free + cacheBuff) else some v.used).bind
    (subtractArc sub arcSize)

def memoryValues (memCalc : String) (arcSize : Option UInt64) : Option MemoryValues := do
  let swapUsed ← swapUsed sub v
  let cacheBuff ← cacheBuff sub v
  let used ← usedMemory sub v memCalc arcSize cacheBuff
  return ⟨swapUsed, cacheBuff, used⟩

end Model

/-! ## Values and totals -/

variable {v : VirtualMemoryStat} {memCalc : String} {arcSize : Option UInt64}

/-- Each counter is at most its total. -/
structure WithinTotals (v : VirtualMemoryStat) : Prop where
  free : v.free ≤ v.total
  used : v.used ≤ v.total
  buffers : v.buffers ≤ v.total
  cached : v.cached ≤ v.total
  shared : v.shared ≤ v.total
  swapFree : v.swapFree ≤ v.swapTotal
  swapCached : v.swapCached ≤ v.swapTotal

/-- The values are at most the totals, and no subtraction wraps. -/
def Sound (v : VirtualMemoryStat) (memCalc : String) (arcSize : Option UInt64) : Prop :=
  ∃ values, memoryValues wrappingSub v memCalc arcSize = some values ∧
    memoryValues checkedSub v memCalc arcSize = some values ∧
    values.cacheBuff ≤ v.total ∧ values.used ≤ v.total ∧ values.swapUsed ≤ v.swapTotal

/-- The counters agree with each other; the sums are those of unsigned numbers. -/
def Consistent (v : VirtualMemoryStat) (memCalc : String) : Prop :=
  v.swapFree.toNat + v.swapCached.toNat ≤ v.swapTotal.toNat ∧
    (v.cached + v.buffers = v.shared ∧ v.free.toNat + v.used.toNat ≤ v.total.toNat ∨
      v.shared < v.cached + v.buffers ∧ v.cached + v.buffers - v.shared ≤ v.total ∧
        (memCalc = "htop" → v.free + (v.cached + v.buffers - v.shared) ≤ v.total))

variable {a b c swap buff used : UInt64}

theorem checkedSub_eq_some : checkedSub a b = some c ↔ b ≤ a ∧ a - b = c := by
  unfold checkedSub
  split <;> simp_all

theorem checkedSub_twice {d : UInt64} :
    (checkedSub a b).bind (checkedSub · c) = some d ↔
      b.toNat + c.toNat ≤ a.toNat ∧ a - b - c = d := by
  simp only [Option.bind_eq_some_iff, checkedSub_eq_some]
  constructor
  · rintro ⟨_, ⟨hb, rfl⟩, hc, rfl⟩
    refine ⟨?_, rfl⟩
    rw [UInt64.le_iff_toNat_le, UInt64.toNat_sub_of_le _ _ hb] at hc
    rw [UInt64.le_iff_toNat_le] at hb
    omega
  · rintro ⟨h, rfl⟩
    have hb : b ≤ a := by rw [UInt64.le_iff_toNat_le]; omega
    refine ⟨_, ⟨hb, rfl⟩, ?_, rfl⟩
    rw [UInt64.le_iff_toNat_le, UInt64.toNat_sub_of_le _ _ hb]
    omega

theorem swapUsed_checked :
    swapUsed checkedSub v = some swap ↔
      v.swapFree.toNat + v.swapCached.toNat ≤ v.swapTotal.toNat ∧
        swapUsed wrappingSub v = some swap := by
  rw [swapUsed, swapUsed, Option.bind_eq_bind, checkedSub_twice]
  simp [wrappingSub]

theorem max_zero (a : UInt64) : max a 0 = a := by
  change (if a ≤ 0 then 0 else a) = a
  split
  · rename_i h
    exact (UInt64.le_zero_iff.mp h).symm
  · rfl

theorem sub_le_zero_iff : a - b ≤ 0 ↔ a = b := by
  rw [UInt64.le_zero_iff]
  constructor
  · intro h
    exact (UInt64.sub_left_inj b).mp (h.trans (UInt64.sub_self b).symm)
  · rintro rfl
    exact UInt64.sub_self a

theorem cacheBuff_wrapping : cacheBuff wrappingSub v =
    some (if v.cached + v.buffers = v.shared then v.total - v.free - v.used
      else v.cached + v.buffers - v.shared) := by
  simp only [cacheBuff, wrappingSub, Option.bind_eq_bind, Option.bind_some, sub_le_zero_iff,
    max_zero]
  split <;> rfl

theorem cacheBuff_checked :
    cacheBuff checkedSub v = some buff ↔
      (v.cached + v.buffers = v.shared ∧ v.free.toNat + v.used.toNat ≤ v.total.toNat ∨
        v.shared < v.cached + v.buffers) ∧ cacheBuff wrappingSub v = some buff := by
  rw [cacheBuff_wrapping]
  by_cases heq : v.cached + v.buffers = v.shared
  · have hzero : checkedSub v.shared v.shared = some 0 := by simp [checkedSub]
    have htwice := checkedSub_twice (a := v.total) (b := v.free) (c := v.used) (d := buff)
    simp [cacheBuff, heq, hzero, max_zero, htwice]
  · rw [if_neg heq]
    by_cases hle : v.shared ≤ v.cached + v.buffers
    · have hlt : v.shared < v.cached + v.buffers :=
        UInt64.lt_iff_le_and_ne.mpr ⟨hle, Ne.symm heq⟩
      have hpos : ¬ v.cached + v.buffers - v.shared ≤ 0 := fun h => heq (sub_le_zero_iff.mp h)
      simp only [cacheBuff, checkedSub, if_pos hle, Option.bind_eq_bind, Option.bind_some,
        if_neg hpos]
      simp [hlt]
    · have hlt : ¬ v.shared < v.cached + v.buffers := fun h => hle (UInt64.le_of_lt h)
      simp [cacheBuff, checkedSub, hle, heq, hlt]

theorem subtractArc_checked : subtractArc checkedSub arcSize = subtractArc wrappingSub arcSize := by
  funext used
  cases arcSize with
  | none => rfl
  | some arc =>
    -- the size of the cache is subtracted from what is larger
    by_cases h : 0 < arc ∧ arc < used
    · simp [subtractArc, checkedSub, wrappingSub, h, UInt64.le_of_lt h.2]
    · simp [subtractArc, h]

theorem subtractArc_le {rest : UInt64} (h : subtractArc wrappingSub arcSize used = some rest) :
    rest ≤ used := by
  unfold subtractArc at h
  split at h
  · exact Option.some.inj h ▸ UInt64.le_refl used
  · split at h
    · rename_i hless
      exact Option.some.inj h ▸ UInt64.sub_le (UInt64.le_of_lt hless.2)
    · exact Option.some.inj h ▸ UInt64.le_refl used

theorem usedMemory_checked :
    usedMemory checkedSub v memCalc arcSize buff = some used ↔
      (memCalc = "htop" → v.free + buff ≤ v.total) ∧
        usedMemory wrappingSub v memCalc arcSize buff = some used := by
  rw [usedMemory, usedMemory, subtractArc_checked]
  by_cases hhtop : memCalc = "htop"
  · by_cases hle : v.free + buff ≤ v.total <;> simp [hhtop, checkedSub, wrappingSub, hle]
  · simp [hhtop]

theorem usedMemory_le (hused : v.used ≤ v.total)
    (hhtop : memCalc = "htop" → v.free + buff ≤ v.total)
    (h : usedMemory wrappingSub v memCalc arcSize buff = some used) : used ≤ v.total := by
  obtain ⟨before, hbef, hrest⟩ := Option.bind_eq_some_iff.mp h
  refine UInt64.le_trans (subtractArc_le hrest) ?_
  split at hbef
  · rename_i hcalc
    exact Option.some.inj hbef ▸ UInt64.sub_le (hhtop hcalc)
  · exact Option.some.inj hbef ▸ hused

theorem swapUsed_le (hswap : v.swapFree.toNat + v.swapCached.toNat ≤ v.swapTotal.toNat)
    (h : swapUsed wrappingSub v = some swap) : swap ≤ v.swapTotal := by
  obtain rfl : v.swapTotal - v.swapFree - v.swapCached = swap := Option.some.inj h
  have hfree : v.swapFree ≤ v.swapTotal := by rw [UInt64.le_iff_toNat_le]; omega
  have hcached : v.swapCached ≤ v.swapTotal - v.swapFree := by
    rw [UInt64.le_iff_toNat_le, UInt64.toNat_sub_of_le _ _ hfree]
    omega
  exact UInt64.le_trans (UInt64.sub_le hcached) (UInt64.sub_le hfree)

theorem memoryValues_eq_some {sub : UInt64 → UInt64 → Option UInt64} {values : MemoryValues} :
    memoryValues sub v memCalc arcSize = some values ↔
      swapUsed sub v = some values.swapUsed ∧ cacheBuff sub v = some values.cacheBuff ∧
        usedMemory sub v memCalc arcSize values.cacheBuff = some values.used := by
  simp only [memoryValues, Option.bind_eq_bind, Option.bind_eq_some_iff, Option.pure_def,
    Option.some.injEq]
  constructor
  · rintro ⟨_, hswap, _, hbuff, _, hused, rfl⟩
    exact ⟨hswap, hbuff, hused⟩
  · rintro ⟨hswap, hbuff, hused⟩
    exact ⟨_, hswap, _, hbuff, _, hused, rfl⟩

theorem exists_usedMemory (buff : UInt64) :
    ∃ used, usedMemory wrappingSub v memCalc arcSize buff = some used := by
  have harc : ∀ used, ∃ rest, subtractArc wrappingSub arcSize used = some rest := by
    intro used
    unfold subtractArc
    split
    · exact ⟨_, rfl⟩
    · split <;> exact ⟨_, rfl⟩
  unfold usedMemory
  split <;> exact harc _

/-- Without shared memory to account for, the cache is what is neither free nor used. -/
theorem rest_fits (h : v.free.toNat + v.used.toNat ≤ v.total.toNat) :
    v.total - v.free - v.used ≤ v.total ∧ v.free + (v.total - v.free - v.used) ≤ v.total := by
  have hfree : v.free ≤ v.total := by rw [UInt64.le_iff_toNat_le]; omega
  have hused : v.used ≤ v.total - v.free := by
    rw [UInt64.le_iff_toNat_le, UInt64.toNat_sub_of_le _ _ hfree]
    omega
  simp only [UInt64.le_iff_toNat_le, UInt64.toNat_add, UInt64.toNat_sub_of_le _ _ hused,
    UInt64.toNat_sub_of_le _ _ hfree]
  omega

/-- **The memory values of a reading are at most the totals, without a subtraction that wraps,
exactly if its counters agree with each other.** -/
theorem memory_values_sound_iff (v : VirtualMemoryStat) (memCalc : String) (arcSize : Option UInt64)
    (hv : WithinTotals v) : Sound v memCalc arcSize ↔ Consistent v memCalc := by
  constructor
  · rintro ⟨values, -, hchk, hbuffLe, -, -⟩
    obtain ⟨hswap, hbuff, hused⟩ := memoryValues_eq_some.mp hchk
    obtain ⟨hcase, hval⟩ := cacheBuff_checked.mp hbuff
    refine ⟨(swapUsed_checked.mp hswap).1, hcase.imp_right fun hlt => ⟨hlt, ?_⟩⟩
    -- the cache is the difference, so it has to fit
    rw [cacheBuff_wrapping, if_neg (UInt64.ne_of_lt hlt).symm, Option.some.injEq] at hval
    rw [hval]
    exact ⟨hbuffLe, (usedMemory_checked.mp hused).1⟩
  · rintro ⟨hswap, hcase⟩
    obtain ⟨buff, hbuff⟩ : ∃ buff, cacheBuff wrappingSub v = some buff := ⟨_, cacheBuff_wrapping⟩
    obtain ⟨used, hused⟩ : ∃ used, usedMemory wrappingSub v memCalc arcSize buff = some used :=
      exists_usedMemory buff
    have hfits : buff ≤ v.total ∧ (memCalc = "htop" → v.free + buff ≤ v.total) := by
      rw [cacheBuff_wrapping, Option.some.injEq] at hbuff
      subst hbuff
      rcases hcase with ⟨heq, hsum⟩ | ⟨hlt, hle, hhtop⟩
      · rw [if_pos heq]
        exact ⟨(rest_fits hsum).1, fun _ => (rest_fits hsum).2⟩
      · rw [if_neg (UInt64.ne_of_lt hlt).symm]
        exact ⟨hle, hhtop⟩
    refine ⟨⟨_, buff, used⟩, memoryValues_eq_some.mpr ⟨rfl, hbuff, hused⟩,
      memoryValues_eq_some.mpr ⟨swapUsed_checked.mpr ⟨hswap, rfl⟩,
        cacheBuff_checked.mpr ⟨hcase.imp_right And.left, hbuff⟩,
        usedMemory_checked.mpr ⟨hfits.2, hused⟩⟩, hfits.1, ?_, ?_⟩
    · exact usedMemory_le hv.used hfits.2 hused
    · exact swapUsed_le hswap rfl

/-- A machine with 8 GiB; the shared memory is not part of the cache. -/
def smallMachine : VirtualMemoryStat where
  total := 8589934592
  free := 4294967296
  used := 3221225472
  buffers := 134217728
  cached := 939524096
  shared := 268435456
  swapTotal := 2147483648
  swapFree := 2147483648
  swapCached := 0

theorem memory_values_of_smallMachine : Sound smallMachine "htop" (some 1073741824) :=
  (memory_values_sound_iff smallMachine "htop" (some 1073741824)
    ⟨by decide, by decide, by decide, by decide, by decide, by decide, by decide⟩).mpr
    ⟨by decide, .inr ⟨by decide, by decide, fun _ => by decide⟩⟩

/-- More shared memory than buffers and cache: the difference wraps. -/
def sharedMachine : VirtualMemoryStat := { smallMachine with shared := 2147483648 }

theorem memory_values_wrap : WithinTotals sharedMachine ∧
    (memoryValues wrappingSub sharedMachine "" none).map (·.cacheBuff) =
      some 18446744072635809792 ∧ ¬ Sound sharedMachine "" none := by
  refine ⟨⟨by decide, by decide, by decide, by decide, by decide, by decide, by decide⟩,
    by decide, ?_⟩
  rintro ⟨values, -, hchk, -⟩
  cases hchk

end Bantay.Agent.Memory
