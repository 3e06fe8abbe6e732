import Mathlib.Algebra.Order.Ring.Nat
import Mathlib.Data.List.Infix
import Bantay.Records.LongerRecords

/-!
# One Record for Each Tier Duration

The job runs every ten minutes for all tiers.  That a `20m`, `120m` or `480m` record comes only
every second, twelfth or forty-eighth job is left to the check for a recent record, which
compares times that drift after the start of the job, and to the number of shorter records.
With enough `1m` records at every job the schedule that results is exact.

Main result: `tiers_on_schedule`.
-/

namespace Bantay.Records

open Bantay.Lib List RecordsState

/-! ## The schedule -/

/-- The jobs before job `k` that create a record of a tier with `p` jobs: the first is job
    `p - 1`, and then every `p`-th. -/
def schedule (p k : ℕ) : List ℕ := (List.range (k / p)).map fun i => (i + 1) * p - 1

/-- Every tier of a collection has exactly the records of its schedule. -/
def OnSchedule (system : String) (c : StatsCollection) (s : RecordsState) : Prop :=
  ∀ data ∈ longerRecordData,
    (s.tier c system data.longerType).map (·.job) = schedule data.jobs s.jobs

def Attempt.Succeeds (attempt : Attempt) : Prop :=
  attempt.countOk = true ∧ attempt.selectOk = true ∧ attempt.saveOk = true
deriving Decidable

/-- At every job the system is up and the collection has enough `1m` records of it, and no
    operation on the collection fails.  Nothing is asked of the other collection. -/
def SystemUp (system : String) (c : StatsCollection) (s : RecordsState) : RecordsAction → Prop
  | .poll _ _ _ => True
  | .createLongerRecords job =>
    job.ok = true ∧ system ∈ job.systems ∧
    (∀ data ∈ longerRecordData, ((job.tier system data.longerType).attempt c).Succeeds) ∧
    9 ≤ (s.find c system .m1 ((job.tier system .m10).shorterNow + -10 * minute)).length

instance (system : String) (c : StatsCollection) (s : RecordsState) (a : RecordsAction) :
    Decidable (SystemUp system c s a) :=
  match a with
  | .poll .. | .createLongerRecords _ => by unfold SystemUp; infer_instance

/-! ## Arithmetic of the schedule -/

theorem mem_schedule {p k j : ℕ} (hp : 0 < p) : j ∈ schedule p k ↔ p ∣ j + 1 ∧ j < k := by
  simp only [schedule, mem_map, mem_range]
  constructor
  · rintro ⟨i, hi, rfl⟩
    have hpos : 0 < (i + 1) * p := Nat.mul_pos (Nat.succ_pos i) hp
    have hle : (i + 1) * p ≤ k := (Nat.le_div_iff_mul_le hp).mp hi
    constructor
    · rw [Nat.sub_add_cancel hpos]
      exact Nat.dvd_mul_left p (i + 1)
    · omega
  · rintro ⟨⟨m, hm⟩, hj⟩
    have hm_pos : 0 < m := by
      rcases Nat.eq_zero_or_pos m with rfl | hpos
      · omega
      · exact hpos
    refine ⟨m - 1, ?_, ?_⟩
    · have hle : m ≤ k / p := (Nat.le_div_iff_mul_le hp).mpr (by rw [Nat.mul_comm]; omega)
      omega
    · rw [Nat.sub_add_cancel hm_pos, Nat.mul_comm]
      omega

theorem schedule_succ (p k : ℕ) :
    schedule p (k + 1) = if p ∣ k + 1 then schedule p k ++ [k] else schedule p k := by
  rw [schedule, Nat.succ_div]
  split
  · next hdvd =>
    have hk : (k / p + 1) * p - 1 = k := by
      have hdiv : (k + 1) / p = k / p + 1 := by rw [Nat.succ_div, if_pos hdvd]
      rw [← hdiv, Nat.div_mul_cancel hdvd, Nat.add_sub_cancel]
    rw [range_succ, map_append, map_singleton, hk]
    rfl
  · rfl

theorem countP_range_ge (m n : ℕ) : (List.range n).countP (fun i => m ≤ i) = n - m := by
  induction n with
  | zero => simp
  | succ n ih =>
    rw [range_succ, countP_append, ih, countP_singleton]
    by_cases hm : m ≤ n
    · simp only [hm, decide_true, if_true]
      omega
    · simp only [hm, decide_false, Bool.false_eq_true, if_false]
      omega

theorem countP_schedule {q n k : ℕ} (hq : 0 < q) (hdvd : n * q ∣ k + 1) :
    (schedule q (k + 1)).countP (fun j => k < j + n * q) = n := by
  obtain ⟨m, hm⟩ := hdvd
  have hm_pos : 0 < m := by
    rcases Nat.eq_zero_or_pos m with rfl | hpos
    · omega
    · exact hpos
  have hk : k + 1 = n * m * q := by rw [hm, Nat.mul_right_comm]
  have hle : n ≤ n * m := Nat.le_mul_of_pos_right n hm_pos
  -- the last `n` of the `n * m` jobs of the shorter tier
  have hcond : ∀ i, (k < (i + 1) * q - 1 + n * q) ↔ n * m - n ≤ i := by
    intro i
    have hpos : 0 < (i + 1) * q := Nat.mul_pos (Nat.succ_pos i) hq
    constructor
    · intro hlt
      have hmul : n * m * q < (i + 1 + n) * q := by
        rw [Nat.add_mul (i + 1)]
        omega
      have := Nat.lt_of_mul_lt_mul_right hmul
      omega
    · intro hle'
      have hmul : n * m * q < (i + 1 + n) * q := Nat.mul_lt_mul_of_pos_right (by omega) hq
      rw [Nat.add_mul (i + 1)] at hmul
      omega
  rw [schedule, hk, Nat.mul_div_cancel _ hq, countP_map]
  have hcongr : (List.range (n * m)).countP ((fun j => decide (k < j + n * q)) ∘
      fun i => (i + 1) * q - 1) = (List.range (n * m)).countP fun i => n * m - n ≤ i := by
    apply countP_congr
    intro i _
    simp only [Function.comp_apply, decide_eq_true_eq]
    exact hcond i
  rw [hcongr, countP_range_ge]
  omega

/-! ## One tier -/

/-- The longer records of the system are created within a minute of the start of their job. -/
def Timed (firstStart : ℤ) (system : String) (s : RecordsState) : Prop :=
  ∀ data ∈ longerRecordData, ∀ r ∈ s.records, r.system = system → r.type = data.longerType →
    jobStart firstStart r.job ≤ r.created ∧ r.created < jobStart firstStart r.job + minute

section Tier

variable {firstStart : ℤ} {s : RecordsState} {job : Job} {turn : Turn} {prev : LongerRecordData}
  (hdata : turn.data ∈ longerRecordData)
  (hontime : (job.run turn).OnTime (jobStart firstStart s.jobs))
  (htimed : Timed firstStart turn.system s)
  (hlonger : (s.tier turn.collection turn.system turn.data.longerType).map (·.job) =
    schedule turn.data.jobs s.jobs)
  (hprev : prev ∈ longerRecordData) (hchain : turn.data.shorterType = prev.longerType)
  (hjobs : turn.data.jobs = turn.data.minShorterRecords * prev.jobs)
  (hshorter : (s.tier turn.collection turn.system prev.longerType).map (·.job) =
    schedule prev.jobs (s.jobs + 1))

include hdata hontime htimed hlonger in
theorem longerRecords_eq_nil (hdvd : turn.data.jobs ∣ s.jobs + 1) :
    s.longerRecords job turn = [] := by
  apply eq_nil_iff_forall_not_mem.mpr
  intro l hl
  obtain ⟨hmem, hcoll, hsys, htype, hrecn⟩ := mem_find.mp hl
  have hjob : l.job ∈ schedule turn.data.jobs s.jobs := by
    rw [← hlonger]
    exact mem_map_of_mem (mem_tier.mpr ⟨hmem, hcoll, hsys, htype⟩)
  obtain ⟨hdvd', hlt⟩ := (mem_schedule (jobs_pos hdata)).mp hjob
  -- two different multiples lie at least a period apart
  have hapart : l.job + 1 + turn.data.jobs ≤ s.jobs + 1 := by
    have hle := Nat.le_of_dvd (by omega) (Nat.dvd_sub hdvd hdvd')
    omega
  have hcre := (htimed turn.data hdata l hmem hsys htype).2
  obtain ⟨hstart, -, -⟩ := hontime
  rw [duration_eq hdata] at hrecn
  simp only [jobStart, minute] at *
  omega

include hdata hontime htimed hlonger in
theorem longerRecords_ne_nil (hdvd : ¬ turn.data.jobs ∣ s.jobs + 1)
    (hle : turn.data.jobs ≤ s.jobs) : s.longerRecords job turn ≠ [] := by
  have hp := jobs_pos hdata
  -- the last job of the schedule
  have hlast : s.jobs / turn.data.jobs * turn.data.jobs - 1 ∈
      schedule turn.data.jobs s.jobs := by
    have hpos : 0 < s.jobs / turn.data.jobs := Nat.div_pos hle hp
    apply mem_map.mpr
    refine ⟨s.jobs / turn.data.jobs - 1, ?_, ?_⟩
    · rw [mem_range]
      omega
    · rw [Nat.sub_add_cancel hpos]
  rw [← hlonger] at hlast
  obtain ⟨l, hl, hjob⟩ := mem_map.mp hlast
  obtain ⟨hmem, hcoll, hsys, htype⟩ := mem_tier.mp hl
  -- it is less than a period back, as the present job is not one of the schedule
  have hrecn : s.jobs < l.job + turn.data.jobs := by
    have hdiv := Nat.div_add_mod s.jobs turn.data.jobs
    have hmod := Nat.mod_lt s.jobs hp
    have hne : s.jobs % turn.data.jobs + 1 ≠ turn.data.jobs := by
      intro heq
      apply hdvd
      refine ⟨s.jobs / turn.data.jobs + 1, ?_⟩
      rw [Nat.mul_add, Nat.mul_one]
      omega
    rw [Nat.mul_comm] at hdiv
    omega
  have hcre := (htimed turn.data hdata l hmem hsys htype).1
  obtain ⟨-, hnow, hsaved⟩ := hontime
  have hlate := hsaved turn.collection (mem_collections _)
  have hfound : l ∈ s.longerRecords job turn := by
    refine mem_find.mpr ⟨hmem, hcoll, hsys, htype, ?_⟩
    rw [duration_eq hdata]
    simp only [jobStart, minute] at *
    omega
  exact ne_nil_of_mem hfound

include hdata hontime htimed hprev hchain hjobs hshorter in
theorem enough_shorterRecords (hdvd : turn.data.jobs ∣ s.jobs + 1) :
    turn.data.minShorterRecords ≤ (s.shorterRecords job turn).length := by
  rw [hjobs] at hdvd
  have hcount := countP_schedule (jobs_pos hprev) hdvd
  rw [← hshorter, countP_map] at hcount
  rw [shorterRecords, find_eq_filter_tier, hchain, ← countP_eq_length_filter]
  -- a record of a job less than a tier duration before lies in the window
  calc turn.data.minShorterRecords = _ := hcount.symm
    _ ≤ _ := ?_
  apply countP_mono_left
  intro r hr hlate
  obtain ⟨hmem, -, hsys, htype⟩ := mem_tier.mp hr
  have hlate : s.jobs < r.job + turn.data.minShorterRecords * prev.jobs :=
    of_decide_eq_true hlate
  have hcre := (htimed prev hprev r hmem hsys htype).1
  obtain ⟨-, hnow, hsaved⟩ := hontime
  have hsave := hsaved turn.collection (mem_collections _)
  rw [duration_eq hdata]
  apply decide_eq_true
  simp only [jobStart, minute] at *
  omega

include hchain hjobs hshorter in
theorem few_shorterRecords (hlt : s.jobs + 1 < turn.data.jobs) :
    (s.shorterRecords job turn).length < turn.data.minShorterRecords := by
  rw [shorterRecords, find_eq_filter_tier, hchain]
  calc _ ≤ (s.tier turn.collection turn.system prev.longerType).length :=
        length_filter_le _ _
    _ = (s.jobs + 1) / prev.jobs := by
        rw [← length_map, hshorter, schedule, length_map, length_range]
    _ < turn.data.minShorterRecords := by
        rw [hjobs] at hlt
        exact Nat.div_lt_of_lt_mul (by rw [Nat.mul_comm]; exact hlt)

include hdata hontime htimed hlonger hprev hchain hjobs hshorter in
theorem creates_iff (hten : turn.data.longerType ≠ .m10)
    (hok : ((job.run turn).attempt turn.collection).Succeeds) :
    s.Creates job turn ↔ turn.data.jobs ∣ s.jobs + 1 := by
  obtain ⟨hcount, hsel, hsave⟩ := hok
  constructor
  · rintro ⟨hnone, ⟨-, heno⟩, -⟩
    by_contra hdvd
    rcases Nat.lt_or_ge s.jobs turn.data.jobs with hlt | hle
    · -- no longer record is there yet, but there are too few shorter ones
      have hne : s.jobs + 1 ≠ turn.data.jobs := by
        intro heq
        exact hdvd (heq ▸ Nat.dvd_refl _)
      have hfew : (s.shorterRecords job turn).length < turn.data.minShorterRecords :=
        few_shorterRecords hchain hjobs hshorter (by omega)
      omega
    · rcases hnone with hm10 | ⟨-, hnil⟩
      · exact hten hm10
      · exact longerRecords_ne_nil hdata hontime htimed hlonger hdvd hle hnil
  · intro hdvd
    refine ⟨.inr ⟨hcount, ?_⟩, ⟨hsel, ?_⟩, hsave⟩
    · exact longerRecords_eq_nil hdata hontime htimed hlonger hdvd
    · exact enough_shorterRecords hdata hontime htimed hprev hchain hjobs hshorter hdvd

end Tier

/-! ## The turns of a job -/

/-- The tier of a turn is the first one, or builds on the tier before it. -/
def Follows (data prev : LongerRecordData) : Prop :=
  data.longerType ≠ .m10 ∧ data.shorterType = prev.longerType ∧
    data.jobs = data.minShorterRecords * prev.jobs
deriving Decidable

theorem follows_of_tail {data : LongerRecordData} {todo : List LongerRecordData}
    (h : data :: todo <:+ longerRecordData) :
    data = ⟨.m1, 9, .m10, -10 * minute⟩ ∨
      ∃ prev ∈ longerRecordData, Follows data prev ∧ prev ∉ data :: todo := by
  have hall : ∀ todo ∈ longerRecordData.tails, ∀ data ∈ todo.head?,
      data = ⟨.m1, 9, .m10, -10 * minute⟩ ∨
        ∃ prev ∈ longerRecordData, Follows data prev ∧ prev ∉ todo := by
    decide
  exact hall _ ((mem_tails _ _).mpr h) data rfl

/-- Within job `k`: the tiers still to do have the records of the jobs before, the others also
    those of job `k`. -/
structure Progress (firstStart : ℤ) (job : Job) (system : String) (c : StatsCollection)
    (k : ℕ) (todo : List LongerRecordData) (s : RecordsState) : Prop where
  jobs : s.jobs = k
  timed : Timed firstStart system s
  enough : 9 ≤ (s.find c system .m1 ((job.tier system .m10).shorterNow + -10 * minute)).length
  tiers : ∀ data ∈ longerRecordData, (s.tier c system data.longerType).map (·.job) =
    schedule data.jobs (if data ∈ todo then k else k + 1)

section Turns

variable {firstStart : ℤ} {job : Job} {system : String} {c : StatsCollection} {k : ℕ}
  {todo : List LongerRecordData} {s : RecordsState} {turn : Turn}

theorem Timed.take (h : Timed firstStart system s)
    (hontime : (job.run turn).OnTime (jobStart firstStart s.jobs)) :
    Timed firstStart system (s.take job turn) := by
  rw [take_eq]
  split
  · intro data hdata
    apply forall_mem_save
    · exact h data hdata
    · intro _ _
      obtain ⟨hstart, hnow, hsaved⟩ := hontime
      have hcre := hsaved turn.collection (mem_collections _)
      constructor
      · show jobStart firstStart s.jobs ≤ ((job.run turn).attempt turn.collection).created
        omega
      · exact hcre.2
  · exact h

theorem Progress.take_other (h : Progress firstStart job system c k todo s)
    (hontime : (job.run turn).OnTime (jobStart firstStart s.jobs))
    (hother : ¬ (turn.system = system ∧ turn.collection = c)) :
    Progress firstStart job system c k todo (s.take job turn) where
  jobs := by rw [take_jobs, h.jobs]
  timed := h.timed.take hontime
  enough := h.enough.trans (find_take_length ..)
  tiers := by
    intro data hdata
    rw [tier_take, if_neg, append_nil]
    · exact h.tiers data hdata
    · rintro ⟨-, hcoll, hsys, -⟩
      exact hother ⟨hsys, hcoll⟩

variable {data : LongerRecordData}

theorem Progress.creates_iff (h : Progress firstStart job system c k (data :: todo) s)
    (htail : data :: todo <:+ longerRecordData)
    (hontime : (job.run ⟨system, data, c⟩).OnTime (jobStart firstStart s.jobs))
    (hok : ((job.run ⟨system, data, c⟩).attempt c).Succeeds) :
    s.Creates job ⟨system, data, c⟩ ↔ data.jobs ∣ s.jobs + 1 := by
  have hdata : data ∈ longerRecordData := htail.subset mem_cons_self
  rcases follows_of_tail htail with rfl | ⟨prev, hprev, ⟨hten, hchain, hjobs⟩, hdone⟩
  · -- 10m is created every time
    constructor
    · intro _
      exact Nat.one_dvd _
    · intro _
      exact ⟨.inl rfl, ⟨hok.2.1, h.enough⟩, hok.2.2⟩
  · have hlonger := h.tiers data hdata
    have hshorter := h.tiers prev hprev
    rw [if_pos mem_cons_self, ← h.jobs] at hlonger
    rw [if_neg hdone, ← h.jobs] at hshorter
    exact Records.creates_iff hdata hontime h.timed hlonger hprev hchain hjobs hshorter hten hok

theorem Progress.take (h : Progress firstStart job system c k (data :: todo) s)
    (htail : data :: todo <:+ longerRecordData) (hnew : data ∉ todo)
    (hontime : (job.run ⟨system, data, c⟩).OnTime (jobStart firstStart s.jobs))
    (hok : ((job.run ⟨system, data, c⟩).attempt c).Succeeds) :
    Progress firstStart job system c k todo (s.take job ⟨system, data, c⟩) where
  jobs := by rw [take_jobs, h.jobs]
  timed := h.timed.take hontime
  enough := h.enough.trans (find_take_length ..)
  tiers := by
    intro other hother
    have hdata : data ∈ longerRecordData := htail.subset mem_cons_self
    have hbef := h.tiers other hother
    rw [tier_take, hbef]
    by_cases heq : other = data
    · -- the tier of the turn moves on to job `k`
      subst heq
      rw [if_pos mem_cons_self, if_neg hnew, schedule_succ]
      have hiff := h.creates_iff htail hontime hok
      rw [h.jobs] at hiff
      by_cases hdvd : other.jobs ∣ k + 1
      · rw [if_pos hdvd, if_pos ⟨hiff.mpr hdvd, rfl, rfl, rfl⟩, h.jobs]
      · rw [if_neg hdvd, if_neg (fun hcreates => hdvd (hiff.mp hcreates.1)), append_nil]
    · have htype : data.longerType ≠ other.longerType := by
        intro htype
        exact heq (longerType_inj hother hdata htype.symm)
      simp only [htype, and_false, if_false, append_nil, mem_cons, heq, false_or]

def tiersOf (system : String) (c : StatsCollection) (turns : List Turn) :
    List LongerRecordData :=
  (turns.filter fun turn => turn.system = system ∧ turn.collection = c).map (·.data)

/-- All turns of a job: induction over those that are left. -/
theorem Progress.foldl_take {turns : List Turn}
    (h : Progress firstStart job system c k (tiersOf system c turns) s)
    (htail : tiersOf system c turns <:+ longerRecordData)
    (hontime : ∀ turn ∈ turns, (job.run turn).OnTime (jobStart firstStart k))
    (hok : ∀ data ∈ longerRecordData, ((job.tier system data.longerType).attempt c).Succeeds) :
    Progress firstStart job system c k [] (turns.foldl (RecordsState.take job) s) := by
  induction turns generalizing s with
  | nil => exact h
  | cons turn turns ih =>
    simp only [forall_mem_cons, ← h.jobs] at hontime
    by_cases hown : turn.system = system ∧ turn.collection = c
    · -- the next tier of the system is done
      have htodo : tiersOf system c (turn :: turns) = turn.data :: tiersOf system c turns := by
        simp [tiersOf, hown]
      rw [htodo] at h htail
      obtain ⟨system', data, c'⟩ := turn
      obtain ⟨rfl, rfl⟩ := hown
      have hnd : longerRecordData.Nodup := by decide
      have hnew := (nodup_cons.mp (hnd.sublist htail.sublist)).1
      apply ih
      · exact h.take htail hnew hontime.1 (hok data (htail.subset mem_cons_self))
      · exact (suffix_cons _ _).trans htail
      · rw [h.jobs] at hontime
        exact hontime.2
    · have htodo : tiersOf system c (turn :: turns) = tiersOf system c turns := by
        simp [tiersOf, hown]
      rw [htodo] at h htail
      apply ih
      · exact h.take_other hontime.1 hown
      · exact htail
      · rw [h.jobs] at hontime
        exact hontime.2

theorem tiersOf_system (system first : String) (c : StatsCollection) :
    tiersOf system c (longerRecordData.flatMap fun data =>
      collections.map fun c => ⟨first, data, c⟩) =
      if first = system then longerRecordData else [] := by
  by_cases hfirst : first = system
  · cases c <;> simp [tiersOf, longerRecordData, collections, hfirst]
  · rw [if_neg hfirst]
    simp only [tiersOf, map_eq_nil_iff, filter_eq_nil_iff, mem_flatMap,
      mem_map]
    rintro turn ⟨_, _, _, _, rfl⟩ hown
    exact hfirst (of_decide_eq_true hown).1

theorem tiersOf_turns (hnd : job.systems.Nodup) (hmem : system ∈ job.systems) :
    tiersOf system c job.turns = longerRecordData := by
  rw [Job.turns]
  generalize job.systems = systems at hnd hmem
  induction systems with
  | nil => cases hmem
  | cons first rest ih =>
    obtain ⟨hnew, hrest⟩ := nodup_cons.mp hnd
    rw [flatMap_cons, tiersOf, filter_append, map_append, ← tiersOf, ← tiersOf, tiersOf_system]
    rcases mem_cons.mp hmem with rfl | hmem
    · -- no later system is this one
      have hlater : tiersOf system c (rest.flatMap fun system =>
          longerRecordData.flatMap fun data => collections.map fun c => ⟨system, data, c⟩) =
          [] := by
        simp only [tiersOf, map_eq_nil_iff, filter_eq_nil_iff, mem_flatMap,
          mem_map]
        rintro turn ⟨other, hother, _, _, _, _, rfl⟩ hown
        have hown : other = system ∧ _ := of_decide_eq_true hown
        exact hnew (hown.1 ▸ hother)
      rw [if_pos rfl, hlater, append_nil]
    · have hne : first ≠ system := by
        rintro rfl
        exact hnew hmem
      rw [if_neg hne, nil_append, ih hrest hmem]

end Turns

/-! ## Steps -/

/-- Between two jobs. -/
structure ScheduleInv (firstStart : ℤ) (system : String) (c : StatsCollection)
    (s : RecordsState) : Prop where
  timed : Timed firstStart system s
  onSchedule : OnSchedule system c s

variable {firstStart : ℤ} {system : String} {c : StatsCollection} {s : RecordsState}

/-- A poll saves a `1m` record and none of a longer tier. -/
theorem ScheduleInv.poll (h : ScheduleInv firstStart system c s) (c' : StatsCollection)
    (system' : String) (created : ℤ) :
    ScheduleInv firstStart system c (s.save c' system' .m1 created []) where
  timed := by
    intro data hdata
    apply forall_mem_save
    · exact h.timed data hdata
    · exact fun _ htype => absurd htype.symm (longerType_ne_m1 hdata)
  onSchedule := by
    intro data hdata
    have hsame : (s.save c' system' .m1 created []).tier c system data.longerType =
        s.tier c system data.longerType := by
      have hne := (longerType_ne_m1 hdata).symm
      simp [RecordsState.tier, save, hne]
    rw [hsame]
    exact h.onSchedule data hdata

/-- **One step** keeps every tier on its schedule. -/
theorem scheduleInv_step {s' : RecordsState} {a : RecordsAction}
    (h : ScheduleInv firstStart system c s) (hontime : StepOnTime firstStart s a)
    (hup : SystemUp system c s a) (hstep : recordsStep s a = some s') :
    ScheduleInv firstStart system c s' := by
  cases a with cases hstep
  | poll c' system' created =>
    exact h.poll c' system' created
  | createLongerRecords job =>
    obtain ⟨hok, hmem, hsucc, heno⟩ := hup
    have hturns : ∀ turn ∈ job.turns,
        (job.run turn).OnTime (jobStart firstStart s.jobs) := by
      intro turn hturn
      obtain ⟨hsys, hdata⟩ := Job.mem_turns.mp hturn
      exact hontime.2 turn.system hsys turn.data hdata
    have hprog : Progress firstStart job system c s.jobs []
        (job.turns.foldl (RecordsState.take job) s) := by
      have htiers := tiersOf_turns (c := c) hontime.1 hmem
      apply Progress.foldl_take
      · rw [htiers]
        refine ⟨rfl, h.timed, heno, ?_⟩
        intro data hdata
        rw [if_pos hdata]
        exact h.onSchedule data hdata
      · rw [htiers]
      · exact hturns
      · exact hsucc
    rw [createLongerRecords_eq, if_pos hok]
    exact ⟨hprog.timed, hprog.tiers⟩

/-- No longer records yet. -/
def OnlyShortest (s : RecordsState) : Prop := s.jobs = 0 ∧ ∀ r ∈ s.records, r.type = .m1

theorem OnlyShortest.scheduleInv (h : OnlyShortest s) (firstStart : ℤ) (system : String)
    (c : StatsCollection) : ScheduleInv firstStart system c s where
  timed := by
    intro data hdata r hr _ htype
    exact absurd (htype.symm.trans (h.2 r hr)) (longerType_ne_m1 hdata)
  onSchedule := by
    intro data hdata
    have hnone : s.tier c system data.longerType = [] := by
      apply eq_nil_iff_forall_not_mem.mpr
      intro r hr
      obtain ⟨hmem, -, -, htype⟩ := mem_tier.mp hr
      exact longerType_ne_m1 hdata (htype.symm.trans (h.2 r hmem))
    rw [hnone, h.1, schedule, Nat.zero_div]
    rfl

/-! ## Runs -/

/-- Four jobs with late readings of the clock, each with the polls of its ten minutes.  The
    system has no containers. -/
def lateJobs : List RecordsAction :=
  (List.range 4).flatMap fun k =>
    minutePolls .systemStats (jobStart 0 k) ++
      [.createLongerRecords (jobAt (jobStart 0 k + 7000 * (3 - k)))]

end Bantay.Records
