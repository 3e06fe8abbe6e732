import Bantay.Agent.DockerStats

/-!
# Network Samples of a Container

The rates of a container are computed from two records that are kept apart.  The totals of the
networks are in trackers, one for each cache time, which are cycled at the end of a call; the time
of the last totals is in a map, which is deleted for a container that has just started.  A failed
update leaves both of them, a call without the container cycles the tracker only.

The history of a container are its `NetworkSample`s, one for each update that succeeded.  `Paired`
says that what the trackers and the times hold is of the latest sample, or nothing.
-/

namespace Bantay.Agent.Docker

open Bantay.Lib Function

/-! ## Samples -/

/-- The totals of an update that succeeded, and the times when its rates are computed and that is
    stored. -/
structure NetworkSample where
  sent : UInt64
  recv : UInt64
  now : ℤ
  later : ℤ

/-- The whole milliseconds from a sample `s'` to the next one `s`. -/
def NetworkSample.millisecondsSince (s s' : NetworkSample) : ℕ :=
  ((s.now - s'.later) / 1000000).toNat

/-- The totals are below `2 ^ 53`, and the sample before is less than `2 ^ 30` milliseconds away. -/
def NetworkSample.InRange (s : NetworkSample) (before : List NetworkSample) : Prop :=
  s.sent.toNat < 2 ^ 53 ∧ s.recv.toNat < 2 ^ 53 ∧
    ∀ s' ∈ before.head?, 0 ≤ s.now - s'.later ∧ s.now - s'.later < 2 ^ 30 * 1000000
deriving Decidable

/-- Zero, or `1000 d / t` for the growth `d` of the total in `t` milliseconds. -/
def IsRate (total : NetworkSample → UInt64) (samples : List NetworkSample) (rate : UInt64) : Prop :=
  rate = 0 ∨ ∃ s s' rest, samples = s :: s' :: rest ∧ total s' ≤ total s ∧
    0 < s.millisecondsSince s' ∧
    rate.toNat = 1000 * ((total s).toNat - (total s').toNat) / s.millisecondsSince s'

/-! ## The rate of two totals -/

variable {total total' ms : UInt64} {t : Tracker} {totals : List UInt64}

/-- A total that has grown, by so little that nothing overflows. -/
theorem toNat_rate_of_le (hle : total'.toNat ≤ total.toNat)
    (hfits : 1000 * (total.toNat - total'.toNat) < 2 ^ 64) :
    ((total - total') * 1000 / ms).toNat = 1000 * (total.toNat - total'.toNat) / ms.toNat := by
  have hsub : (total - total').toNat = total.toNat - total'.toNat :=
    UInt64.toNat_sub_of_le _ _ (UInt64.le_iff_toNat_le.mpr hle)
  have hmul : ((total - total') * 1000).toNat = 1000 * (total.toNat - total'.toNat) := by
    rw [UInt64.toNat_mul, hsub, Nat.mul_comm]
    exact Nat.mod_eq_of_lt hfits
  rw [UInt64.toNat_div, hmul]

theorem maxNetworkSpeedBps_lt_of_lt (hlt : total.toNat < total'.toNat)
    (htot' : total'.toNat < 2 ^ 53) (hpos : 0 < ms.toNat) (hms : ms.toNat < 2 ^ 30) :
    maxNetworkSpeedBps < (total - total') * 1000 / ms := by
  have hsub : (total - total').toNat = 2 ^ 64 - (total'.toNat - total.toNat) := by
    rw [UInt64.toNat_sub, Nat.mod_eq_of_lt] <;> omega
  -- The product is `1000` times the difference below `2 ^ 64`.
  have hmul : ((total - total') * 1000).toNat = 2 ^ 64 - 1000 * (total'.toNat - total.toNat) := by
    rw [UInt64.toNat_mul, hsub]
    change (2 ^ 64 - (total'.toNat - total.toNat)) * 1000 % 2 ^ 64 = _
    omega
  have hle : 2 ^ 33 ≤ ((total - total') * 1000).toNat / ms.toNat := by
    rw [Nat.le_div_iff_mul_le hpos, hmul]
    calc 2 ^ 33 * ms.toNat ≤ 2 ^ 33 * 2 ^ 30 := Nat.mul_le_mul_left _ hms.le
      _ ≤ 2 ^ 64 - 1000 * (total'.toNat - total.toNat) := by omega
  rw [UInt64.lt_iff_toNat_lt, UInt64.toNat_div]
  have hmax : maxNetworkSpeedBps.toNat = 5000000000 := rfl
  omega

/-- **The rate of two totals**: zero, or that of a total that has grown. -/
theorem networkRate_spec (htot : total.toNat < 2 ^ 53) (htot' : total'.toNat < 2 ^ 53)
    (hpos : 0 < ms.toNat) (hms : ms.toNat < 2 ^ 30) :
    networkRate (total - total') ms = 0 ∨ total' ≤ total ∧
      (networkRate (total - total') ms).toNat =
        1000 * (total.toNat - total'.toNat) / ms.toNat := by
  by_cases hrate : 0 < total - total' ∧ (total - total') * 1000 / ms ≤ maxNetworkSpeedBps
  · right
    have heq : networkRate (total - total') ms = (total - total') * 1000 / ms := if_pos hrate
    have hle : total'.toNat ≤ total.toNat := by
      by_contra hlt
      have hmax := maxNetworkSpeedBps_lt_of_lt (Nat.lt_of_not_le hlt) htot' hpos hms
      exact absurd hrate.2 (UInt64.not_le.mpr hmax)
    exact ⟨UInt64.le_iff_toNat_le.mpr hle, by rw [heq, toNat_rate_of_le hle (by omega)]⟩
  · left
    exact if_neg hrate

theorem toNat_millisecondsElapsed {now before : ℤ} (hpos : 0 ≤ now - before)
    (hlt : now - before < 2 ^ 63) :
    (UInt64.ofInt ((nanosecondsSince now before).tdiv 1000000)).toNat =
      ((now - before) / 1000000).toNat := by
  have hns : nanosecondsSince now before = now - before := by
    unfold nanosecondsSince
    omega
  have hdiv : (now - before).tdiv 1000000 = (now - before) / 1000000 :=
    Int.tdiv_eq_ediv_of_nonneg hpos
  rw [hns, hdiv, UInt64.ofInt, UInt64.toNat_ofNat']
  omega

/-! ## Trackers and times against the history -/

/-- The latest total is the current value in the call that took it, and the previous one after
    that. -/
def Tracker.Holds (t : Tracker) (totals : List UInt64) : Prop :=
  match t.current with
  | none => ∀ v ∈ t.previous, totals.head? = some v
  | some current => totals.head? = some current ∧ ∀ v ∈ t.previous, totals.tail.head? = some v

theorem Tracker.Holds.cycle (h : t.Holds totals) :
    t.cycle.Holds totals := by
  intro v hv
  have hcur : t.current = some v := hv
  unfold Tracker.Holds at h
  rw [hcur] at h
  exact h.1

theorem Tracker.Holds.record (h : t.Holds totals) (hopen : t.current = none) (total : UInt64) :
    (t.record total).Holds (total :: totals) := by
  unfold Tracker.Holds at h
  rw [hopen] at h
  exact ⟨rfl, h⟩

/-- What the manager holds of a container is what its history says. -/
structure Paired {φ : Type} (own : Tracked φ) (samples : UInt16 → List NetworkSample) : Prop where
  sent : ∀ ct, (own.networkSent ct).Holds ((samples ct).map (·.sent))
  recv : ∀ ct, (own.networkRecv ct).Holds ((samples ct).map (·.recv))
  time : ∀ ct t, own.lastNetworkReadTime ct = some t →
    ∃ s, (samples ct).head? = some s ∧ s.later = t
  small : ∀ ct, ∀ s ∈ samples ct, s.sent.toNat < 2 ^ 53 ∧ s.recv.toNat < 2 ^ 53

/-- The call has not recorded totals of the container for the cache time. -/
def Tracked.Unrecorded {φ : Type} (own : Tracked φ) (ct : UInt16) : Prop :=
  (own.networkSent ct).current = none ∧ (own.networkRecv ct).current = none

theorem isRate_record {total : NetworkSample → UInt64} {s s' : NetworkSample}
    {rest : List NetworkSample} (hholds : t.Holds ((s' :: rest).map total))
    (hopen : t.current = none) (htot : (total s).toNat < 2 ^ 53)
    (htot' : (total s').toNat < 2 ^ 53) (hms : ms.toNat = s.millisecondsSince s') (hpos : 0 < ms)
    (hlt : s.millisecondsSince s' < 2 ^ 30) :
    IsRate total (s :: s' :: rest) (networkRate (t.record (total s)).delta ms) := by
  unfold Tracker.Holds at hholds
  rw [hopen] at hholds
  have hpos' : 0 < ms.toNat := UInt64.lt_iff_toNat_lt.mp hpos
  cases hprev : t.previous with
  | none =>
    -- Without a previous value the difference is zero.
    have hdelta : (t.record (total s)).delta = 0 := by
      simp [Tracker.record, Tracker.delta, hprev]
    rw [hdelta]
    left
    simp [networkRate]
  | some v =>
    have hv : v = total s' := by simpa using (hholds v hprev).symm
    have hdelta : (t.record (total s)).delta = total s - total s' := by
      simp [Tracker.record, Tracker.delta, hprev, hv]
    rw [hdelta]
    rcases networkRate_spec htot htot' hpos' (hms ▸ hlt) with hzero | ⟨hle, hrate⟩
    · exact .inl hzero
    · exact .inr ⟨s, s', rest, rfl, hle, hms ▸ hpos', hms ▸ hrate⟩

section Pairing

variable {φ : Type} {own own' : Tracked φ} {samples : UInt16 → List NetworkSample} {ct : UInt16}
  {s : NetworkSample}

def Tracked.recordSample (own : Tracked φ) (ct : UInt16) (s : NetworkSample) : Tracked φ :=
  { own with
    networkSent := Function.update own.networkSent ct ((own.networkSent ct).record s.sent)
    networkRecv := Function.update own.networkRecv ct ((own.networkRecv ct).record s.recv) }

def addSample (samples : UInt16 → List NetworkSample) (ct : UInt16) (s : NetworkSample) :
    UInt16 → List NetworkSample :=
  Function.update samples ct (s :: samples ct)

/-- Both rates are of the latest two samples, or zero. -/
def BandwidthOf (samples : List NetworkSample) (bandwidth : UInt64 × UInt64) : Prop :=
  IsRate (·.sent) samples bandwidth.1 ∧ IsRate (·.recv) samples bandwidth.2

theorem bandwidthOf_zero (samples : List NetworkSample) : BandwidthOf samples (0, 0) :=
  ⟨.inl rfl, .inl rfl⟩

/-- **The rates of a new sample** are those of it and the sample before it. -/
theorem Paired.isRate (h : Paired own samples) (hopen : own.Unrecorded ct)
    (hrange : s.InRange (samples ct)) :
    BandwidthOf (s :: samples ct) ((own.recordSample ct s).calculateNetworkStats ct s.now) := by
  unfold Tracked.calculateNetworkStats
  cases htime : own.lastNetworkReadTime ct with
  | none =>
    simp only [Tracked.recordSample, htime]
    exact bandwidthOf_zero _
  | some t =>
    obtain ⟨s', hhead, rfl⟩ := h.time ct t htime
    obtain ⟨rest, hsamps⟩ := List.head?_eq_some_iff.mp hhead
    obtain ⟨hsent, hrecv, hsince⟩ := hrange
    obtain ⟨hnonneg, hbound⟩ := hsince s' hhead
    have hms := toNat_millisecondsElapsed hnonneg (by omega)
    have hlt : s.millisecondsSince s' < 2 ^ 30 := by
      unfold NetworkSample.millisecondsSince
      omega
    obtain ⟨hsent', hrecv'⟩ := h.small ct s' (hsamps ▸ List.mem_cons_self)
    have hholds := h.sent ct
    have hholds' := h.recv ct
    rw [hsamps] at hholds hholds' ⊢
    simp only [Tracked.recordSample, htime, update_self]
    split
    case isTrue hpos =>
      exact ⟨isRate_record hholds hopen.1 hsent hsent' hms hpos hlt,
        isRate_record hholds' hopen.2 hrecv hrecv' hms hpos hlt⟩
    case isFalse => exact bandwidthOf_zero _

/-- A step that leaves the trackers, and the times or some of them. -/
structure KeepsNetwork (own own' : Tracked φ) : Prop where
  sent : own'.networkSent = own.networkSent
  recv : own'.networkRecv = own.networkRecv
  time : ∀ ct t, own'.lastNetworkReadTime ct = some t → own.lastNetworkReadTime ct = some t

theorem KeepsNetwork.refl (own : Tracked φ) : KeepsNetwork own own := ⟨rfl, rfl, fun _ _ h => h⟩

theorem KeepsNetwork.unrecorded (hkeep : KeepsNetwork own own') (h : own.Unrecorded ct) :
    own'.Unrecorded ct := by
  unfold Tracked.Unrecorded
  rw [hkeep.sent, hkeep.recv]
  exact h

theorem Paired.keep (h : Paired own samples) (hkeep : KeepsNetwork own own') :
    Paired own' samples where
  sent := by rw [hkeep.sent]; exact h.sent
  recv := by rw [hkeep.recv]; exact h.recv
  time := fun ct t ht => h.time ct t (hkeep.time ct t ht)
  small := h.small

theorem Paired.finish (h : Paired own samples) (ct : UInt16) : Paired (own.finish ct) samples where
  sent := by
    intro ct'
    by_cases hct : ct' = ct
    · subst hct
      simpa [Tracked.finish] using (h.sent ct').cycle
    · simpa [Tracked.finish, hct] using h.sent ct'
  recv := by
    intro ct'
    by_cases hct : ct' = ct
    · subst hct
      simpa [Tracked.finish] using (h.recv ct').cycle
    · simpa [Tracked.finish, hct] using h.recv ct'
  time := h.time
  small := h.small

structure Records (ct : UInt16) (s : NetworkSample) (own own' : Tracked φ) : Prop where
  sent : own'.networkSent = (own.recordSample ct s).networkSent
  recv : own'.networkRecv = (own.recordSample ct s).networkRecv
  time : own'.lastNetworkReadTime = Function.update own.lastNetworkReadTime ct (some s.later)

theorem Paired.record (h : Paired own samples) (hopen : own.Unrecorded ct)
    (hrange : s.InRange (samples ct)) (hrec : Records ct s own own') :
    Paired own' (addSample samples ct s) where
  sent := by
    intro ct'
    rw [hrec.sent]
    by_cases hct : ct' = ct
    · subst hct
      simpa [Tracked.recordSample, addSample] using (h.sent ct').record hopen.1 s.sent
    · simpa [Tracked.recordSample, addSample, hct] using h.sent ct'
  recv := by
    intro ct'
    rw [hrec.recv]
    by_cases hct : ct' = ct
    · subst hct
      simpa [Tracked.recordSample, addSample] using (h.recv ct').record hopen.2 s.recv
    · simpa [Tracked.recordSample, addSample, hct] using h.recv ct'
  time := by
    intro ct' t ht
    rw [hrec.time] at ht
    by_cases hct : ct' = ct
    · subst hct
      rw [update_self] at ht
      exact ⟨s, by simp [addSample], Option.some.inj ht⟩
    · rw [update_of_ne hct] at ht
      simpa [addSample, hct] using h.time ct' t ht
  small := by
    intro ct' s' hs'
    by_cases hct : ct' = ct
    · subst hct
      rw [addSample, update_self, List.mem_cons] at hs'
      rcases hs' with rfl | hs'
      · exact ⟨hrange.1, hrange.2.1⟩
      · exact h.small ct' s' hs'
    · rw [addSample, update_of_ne hct] at hs'
      exact h.small ct' s' hs'

end Pairing

/-! ## Updates -/

section Updates

variable {φ : Type} {lib : Library φ} {call : Call} {own : Tracked φ} {s : NetworkSample}
  {ctr : ApiInfo} {shared : Shared} {answers : Answers}

theorem measure_cases (stats : Stats φ) (res : ApiStats) (answers : Answers)
    (hs : s = ⟨res.totals.1, res.totals.2, answers.now, answers.later⟩) :
    ((measure lib call own stats res answers).2 = false ∧
      KeepsNetwork own (measure lib call own stats res answers).1 ∧
      (measure lib call own stats res answers).1.stats = own.stats) ∨
    ((measure lib call own stats res answers).2 = true ∧
      Records call.cacheTimeMs s own (measure lib call own stats res answers).1 ∧
      ∃ st, (measure lib call own stats res answers).1.stats = some st ∧ st.bandwidth =
        (own.recordSample call.cacheTimeMs s).calculateNetworkStats call.cacheTimeMs s.now) := by
  subst hs
  unfold measure
  dsimp only
  -- How the CPU is measured does not matter.
  generalize (if call.isWindows then
      calculateCpuPercentWindows lib res (own.lastCpuContainer call.cacheTimeMs)
        (own.lastCpuReadTime call.cacheTimeMs)
    else calculateCpuPercentLinux lib res (own.lastCpuContainer call.cacheTimeMs)
      (own.lastCpuSystem call.cacheTimeMs)) = cpuPct
  cases calculateMemoryUsage res call.isWindows with
  | none => exact .inl ⟨rfl, KeepsNetwork.refl _, rfl⟩
  | some usedMemory =>
    cases lib.exceeds100 cpuPct with
    | true => exact .inl ⟨rfl, ⟨rfl, rfl, fun _ _ h => h⟩, rfl⟩
    | false => exact .inr ⟨rfl, ⟨rfl, rfl, rfl⟩, _, rfl, rfl⟩

/-- An update that failed leaves the trackers and the times, and no new bandwidth. -/
theorem updateContainerStats_of_error
    (herr : (updateContainerStats lib call ctr own shared answers).ok = false) :
    KeepsNetwork own (updateContainerStats lib call ctr own shared answers).own ∧
      ((updateContainerStats lib call ctr own shared answers).own.stats = own.stats ∨
        ∃ st, (updateContainerStats lib call ctr own shared answers).own.stats = some st ∧
          st.bandwidth = (0, 0)) := by
  unfold updateContainerStats at herr ⊢
  split
  case isTrue => exact ⟨KeepsNetwork.refl _, .inl rfl⟩
  case isFalse hreach =>
    rw [if_neg hreach] at herr
    dsimp only at herr ⊢
    split
    case isTrue hdec =>
      rw [if_pos hdec] at herr
      rcases measure_cases _ _ answers rfl with ⟨_, hkeep, hstats⟩ | ⟨hok, _⟩
      · exact ⟨⟨hkeep.sent, hkeep.recv, hkeep.time⟩, .inr ⟨_, hstats, rfl⟩⟩
      · exact absurd (hok.symm.trans herr) Bool.false_ne_true.symm
    case isFalse => exact ⟨⟨rfl, rfl, fun _ _ h => h⟩, .inr ⟨_, rfl, rfl⟩⟩

def Updated.sample (updated : Updated φ) (answers : Answers) : NetworkSample :=
  ⟨updated.shared.apiStats.totals.1, updated.shared.apiStats.totals.2, answers.now, answers.later⟩

theorem updateContainerStats_of_ok
    (hok : (updateContainerStats lib call ctr own shared answers).ok = true)
    (hs : s = (updateContainerStats lib call ctr own shared answers).sample answers) :
    Records call.cacheTimeMs s own (updateContainerStats lib call ctr own shared answers).own ∧
      ∃ st, (updateContainerStats lib call ctr own shared answers).own.stats = some st ∧
        st.bandwidth =
          (own.recordSample call.cacheTimeMs s).calculateNetworkStats call.cacheTimeMs s.now := by
  unfold updateContainerStats at hok hs ⊢
  split
  case isTrue hunreachable =>
    rw [if_pos hunreachable] at hok
    exact absurd hok Bool.false_ne_true
  case isFalse hreach =>
    rw [if_neg hreach] at hok hs
    dsimp only at hok hs ⊢
    split
    case isTrue hdec =>
      rw [if_pos hdec] at hok hs
      rcases measure_cases _ _ answers hs with ⟨herr, _⟩ | ⟨_, hrec, hstats⟩
      · exact absurd (herr.symm.trans hok) Bool.false_ne_true
      · exact ⟨⟨hrec.sent, hrec.recv, hrec.time⟩, hstats⟩
    case isFalse hdec =>
      rw [if_neg hdec] at hok
      exact absurd hok Bool.false_ne_true

end Updates

end Bantay.Agent.Docker
