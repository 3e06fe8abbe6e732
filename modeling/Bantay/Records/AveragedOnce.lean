import Bantay.Records.LongerRecords

/-!
# No Record Is Averaged Twice

A record belongs into one record of the next longer tier.  For the `1m` records nothing but the
window of a job keeps it from the next job; for the other tiers a job skips a tier whose last
record is recent.  The check for a recent record is padded by a minute.  The window of the
shorter records is not, although those of the longer tiers are created by the same job.
-/

namespace Bantay.Records

open Bantay.Lib List RecordsState

/-! ## The property and the condition -/

/-- Every record is averaged into at most one other record. -/
def AveragedOnce (s : RecordsState) : Prop :=
  ∀ r ∈ s.records, s.records.countP (fun l => r.id ∈ l.averaged) ≤ 1

def Turn.Shorter (turn : Turn) (r : StatsRecord) : Prop :=
  r.collection = turn.collection ∧ r.system = turn.system ∧ r.type = turn.data.shorterType
deriving Decidable

/-- A shorter record that the job one tier duration before could find was created before the
    window. -/
def WindowGuard (s : RecordsState) : RecordsAction → Prop
  | .poll _ _ _ => True
  | .createLongerRecords job => ∀ turn ∈ job.turns, ∀ r ∈ s.records,
    turn.Shorter r → r.job + turn.data.jobs ≤ s.jobs →
      r.created < (job.run turn).shorterNow + turn.data.longerTimeDuration

instance (s : RecordsState) (a : RecordsAction) : Decidable (WindowGuard s a) :=
  match a with
  | .poll .. | .createLongerRecords _ => by unfold WindowGuard; infer_instance

/-! ## The invariant -/

def SameTier (data : LongerRecordData) (l l' : StatsRecord) : Prop :=
  l.type = data.longerType ∧ l'.type = data.longerType ∧ l.system = l'.system ∧
    l.collection = l'.collection

/-- Longer records are created after the start of their job and a tier duration apart, and what
    they average was found first less than a tier duration before. -/
structure Tiers (firstStart : ℤ) (s : RecordsState) : Prop where
  ids : ∀ r ∈ s.records, r.id < s.nextId
  distinct : (s.records.map (·.id)).Nodup
  known : ∀ l ∈ s.records, ∀ id ∈ l.averaged, id < s.nextId
  past : ∀ r ∈ s.records, r.job ≤ s.jobs
  started : ∀ data ∈ longerRecordData, ∀ l ∈ s.records, l.type = data.longerType →
    jobStart firstStart l.job ≤ l.created
  apart : s.records.Pairwise fun l l' => ∀ data ∈ longerRecordData, SameTier data l l' →
    l.job + data.jobs ≤ l'.job
  sources : ∀ l ∈ s.records, ∀ r ∈ s.records, r.id ∈ l.averaged →
    ∃ data ∈ longerRecordData, l.type = data.longerType ∧ r.type = data.shorterType ∧
      l.system = r.system ∧ l.collection = r.collection ∧
      r.job ≤ l.job ∧ l.job < r.job + data.jobs

/-- Between two jobs, all longer records are from earlier jobs. -/
structure TierInv (firstStart : ℤ) (s : RecordsState) : Prop extends Tiers firstStart s where
  done : ∀ data ∈ longerRecordData, ∀ l ∈ s.records, l.type = data.longerType → l.job < s.jobs

theorem countP_le_one_of_pairwise {α : Type*} {R : α → α → Prop} {p : α → Bool} {xs : List α}
    (h : xs.Pairwise R) (hp : ∀ x ∈ xs, ∀ y ∈ xs, p x = true → p y = true → ¬ R x y) :
    xs.countP p ≤ 1 := by
  induction h with
  | nil => simp
  | @cons x xs hx _ ih =>
    by_cases hpx : p x = true
    · -- no later element satisfies `p`
      have hnone : xs.countP p = 0 := by
        apply countP_eq_zero.mpr
        intro y hy hpy
        exact hp x mem_cons_self y (mem_cons_of_mem x hy) hpx hpy (hx y hy)
      rw [countP_cons_of_pos hpx]
      omega
    · rw [countP_cons_of_neg hpx]
      apply ih
      intro y hy z hz
      exact hp y (mem_cons_of_mem x hy) z (mem_cons_of_mem x hz)

theorem Tiers.averagedOnce {firstStart : ℤ} {s : RecordsState} (h : Tiers firstStart s) :
    AveragedOnce s := by
  intro r hr
  apply countP_le_one_of_pairwise h.apart
  intro l hl l' hl' hmem hmem' hapart
  obtain ⟨data, hdata, htype, hshorter, hsys, hcoll, hfirst, hlast⟩ :=
    h.sources l hl r hr (of_decide_eq_true hmem)
  obtain ⟨data', hdata', htype', hshorter', hsys', hcoll', hfirst', hlast'⟩ :=
    h.sources l' hl' r hr (of_decide_eq_true hmem')
  -- both are of the tier above `r`
  obtain rfl := shorterType_inj hdata hdata' (hshorter.symm.trans hshorter')
  have hjobs := hapart data hdata
    ⟨htype, htype', hsys.trans hsys'.symm, hcoll.trans hcoll'.symm⟩
  omega

/-! ## Saved records -/

section Save

variable {firstStart : ℤ} {s : RecordsState}

/-- A new record, a tier duration after the last of its tier. -/
theorem Tiers.save (h : Tiers firstStart s) {collection : StatsCollection} {system : String}
    {type : RecordType} {created : ℤ} {averaged : List ℕ}
    (hknown : ∀ id ∈ averaged, id < s.nextId)
    (hstarted : ∀ data ∈ longerRecordData, type = data.longerType →
      jobStart firstStart s.jobs ≤ created)
    (hapart : ∀ data ∈ longerRecordData, type = data.longerType → ∀ l ∈ s.records,
      l.type = type → l.system = system → l.collection = collection →
        l.job + data.jobs ≤ s.jobs)
    (hsources : ∀ r ∈ s.records, r.id ∈ averaged →
      ∃ data ∈ longerRecordData, type = data.longerType ∧ r.type = data.shorterType ∧
        system = r.system ∧ collection = r.collection ∧ s.jobs < r.job + data.jobs) :
    Tiers firstStart (s.save collection system type created averaged) where
  ids := by
    apply forall_mem_save
    · exact fun r hr => Nat.lt_succ_of_lt (h.ids r hr)
    · exact Nat.lt_succ_self _
  distinct := by
    have hnew : s.nextId ∉ s.records.map (·.id) := by
      intro hmem
      obtain ⟨r, hr, hid⟩ := mem_map.mp hmem
      exact Nat.ne_of_lt (h.ids r hr) hid
    show (List.map (·.id) (s.records ++ [_])).Nodup
    rw [map_append, map_singleton, ← concat_eq_append]
    exact h.distinct.concat hnew
  known := by
    apply forall_mem_save
    · exact fun l hl id hid => Nat.lt_succ_of_lt (h.known l hl id hid)
    · exact fun id hid => Nat.lt_succ_of_lt (hknown id hid)
  past := by
    apply forall_mem_save
    · exact h.past
    · exact Nat.le_refl s.jobs
  started := by
    intro data hdata
    apply forall_mem_save
    · exact h.started data hdata
    · exact hstarted data hdata
  apart := by
    apply pairwise_append.mpr
    refine ⟨h.apart, pairwise_singleton _ _, ?_⟩
    rintro l hl l' hl' data hdata ⟨htype, htype', hsys, hcoll⟩
    obtain rfl := mem_singleton.mp hl'
    exact hapart data hdata htype' l hl (htype.trans htype'.symm) hsys hcoll
  sources := by
    intro l hl r hr hmem
    rcases mem_append.mp hl with hl | hl
    · rcases mem_append.mp hr with hr | hr
      · exact h.sources l hl r hr hmem
      · -- an earlier record does not average the new one
        obtain rfl := mem_singleton.mp hr
        exact absurd (h.known l hl _ hmem) (Nat.lt_irrefl _)
    · obtain rfl := mem_singleton.mp hl
      rcases mem_append.mp hr with hr | hr
      · obtain ⟨data, hdata, htype, hshorter, hsys, hcoll, hlast⟩ := hsources r hr hmem
        exact ⟨data, hdata, htype, hshorter, hsys, hcoll, h.past r hr, hlast⟩
      · obtain rfl := mem_singleton.mp hr
        exact absurd (hknown _ hmem) (Nat.lt_irrefl _)

theorem TierInv.poll (h : TierInv firstStart s) (collection : StatsCollection)
    (system : String) (created : ℤ) :
    TierInv firstStart (s.save collection system .m1 created []) where
  toTiers := by
    apply h.toTiers.save
    · intro id hid
      cases hid
    · intro data hdata htype
      exact absurd htype.symm (longerType_ne_m1 hdata)
    · intro data hdata htype
      exact absurd htype.symm (longerType_ne_m1 hdata)
    · intro r hr hid
      cases hid
  done := by
    intro data hdata
    apply forall_mem_save
    · exact h.done data hdata
    · exact fun htype => absurd htype.symm (longerType_ne_m1 hdata)

end Save

/-! ## The turns of a job -/

/-- The turn has not created a record in this job yet. -/
def Turn.Open (turn : Turn) (s : RecordsState) : Prop :=
  ∀ l ∈ s.records, l.type = turn.data.longerType → l.system = turn.system →
    l.collection = turn.collection → l.job < s.jobs

/-- The window of the turn leaves out what was found first a tier duration before. -/
def Turn.Guarded (turn : Turn) (job : Job) (s : RecordsState) : Prop :=
  ∀ r ∈ s.records, turn.Shorter r → r.job + turn.data.jobs ≤ s.jobs →
    r.created < (job.run turn).shorterNow + turn.data.longerTimeDuration

section Turns

variable {firstStart : ℤ} {s : RecordsState} {job : Job} {turn : Turn}

theorem apart_of_creates (h : Tiers firstStart s) (hdata : turn.data ∈ longerRecordData)
    (hontime : (job.run turn).OnTime (jobStart firstStart s.jobs)) (hopen : turn.Open s)
    (hcreates : s.Creates job turn) {l : StatsRecord} (hl : l ∈ s.records)
    (htype : l.type = turn.data.longerType) (hsys : l.system = turn.system)
    (hcoll : l.collection = turn.collection) :
    l.job + turn.data.jobs ≤ s.jobs := by
  rcases hcreates.1 with hten | ⟨-, hnone⟩
  · -- 10m records are not looked up, but there is one turn for them in each job
    have hlt := hopen l hl htype hsys hcoll
    rw [jobs_of_m10 hdata hten]
    omega
  · -- the check is padded by a minute, which is more than a record can be late
    have hold : ¬ (job.run turn).longerNow + (turn.data.longerTimeDuration + minute) ≤
        l.created := by
      intro hrecn
      have hfound : l ∈ s.longerRecords job turn :=
        mem_find.mpr ⟨hl, hcoll, hsys, htype, hrecn⟩
      rw [hnone] at hfound
      cases hfound
    have hstarted := h.started turn.data hdata l hl htype
    obtain ⟨-, hnow, hsaved⟩ := hontime
    have hcre := hsaved turn.collection (mem_collections _)
    rw [duration_eq hdata] at hold
    simp only [jobStart, minute] at *
    omega

theorem Tiers.take (h : Tiers firstStart s) (hdata : turn.data ∈ longerRecordData)
    (hontime : (job.run turn).OnTime (jobStart firstStart s.jobs)) (hopen : turn.Open s)
    (hguard : turn.Guarded job s) : Tiers firstStart (s.take job turn) := by
  rw [take_eq]
  split
  · next hcreates =>
    apply h.save
    · intro id hid
      obtain ⟨r, hr, rfl⟩ := mem_map.mp hid
      exact h.ids r (mem_find.mp hr).1
    · intro data _ _
      obtain ⟨hstart, hnow, hsaved⟩ := hontime
      have hcre := hsaved turn.collection (mem_collections _)
      omega
    · intro data hdata' htype l hl hltype hsys hcoll
      obtain rfl := longerType_inj hdata hdata' htype
      exact apart_of_creates h hdata hontime hopen hcreates hl hltype hsys hcoll
    · intro r hr hid
      -- ids are distinct, so the record itself was found
      obtain ⟨r', hr', hid'⟩ := mem_map.mp hid
      obtain ⟨hmem, hcoll, hsys, htype, hwin⟩ := mem_find.mp hr'
      obtain rfl := inj_on_of_nodup_map h.distinct hmem hr hid'
      refine ⟨turn.data, hdata, rfl, htype, hsys.symm, hcoll.symm, ?_⟩
      -- else its job is a tier duration back, and the window leaves it out
      by_contra hearly
      have hbef := hguard r' hmem ⟨hcoll, hsys, htype⟩ (by omega)
      omega
  · exact h

theorem Turn.Open.take {other : Turn} (h : other.Open s) (hne : other ≠ turn)
    (hdata : turn.data ∈ longerRecordData) (hother : other.data ∈ longerRecordData) :
    other.Open (s.take job turn) := by
  rw [take_eq]
  split
  · apply forall_mem_save
    · exact h
    · intro htype hsys hcoll
      exfalso
      apply hne
      obtain ⟨system, data, collection⟩ := other
      obtain ⟨system', data', collection'⟩ := turn
      obtain rfl := longerType_inj hdata hother htype
      simp only at hsys hcoll
      rw [hsys, hcoll]
  · exact h

theorem Turn.Guarded.take {other : Turn} (h : other.Guarded job s)
    (hother : other.data ∈ longerRecordData) : other.Guarded job (s.take job turn) := by
  rw [take_eq]
  split
  · apply forall_mem_save
    · exact h
    · -- a record of this job was not found before
      intro _ hearly
      have hpos := jobs_pos hother
      have hearly : s.jobs + other.data.jobs ≤ s.jobs := hearly
      omega
  · exact h

/-- All turns of a job: induction over those that are left. -/
theorem Tiers.foldl_take {turns : List Turn} (h : Tiers firstStart s) (hnd : turns.Nodup)
    (hdata : ∀ turn ∈ turns, turn.data ∈ longerRecordData)
    (hontime : ∀ turn ∈ turns, (job.run turn).OnTime (jobStart firstStart s.jobs))
    (hopen : ∀ turn ∈ turns, turn.Open s) (hguard : ∀ turn ∈ turns, turn.Guarded job s) :
    Tiers firstStart (turns.foldl (RecordsState.take job) s) := by
  induction turns generalizing s with
  | nil => exact h
  | cons turn turns ih =>
    simp only [forall_mem_cons] at hdata hontime hopen hguard
    obtain ⟨hnew, hrest⟩ := nodup_cons.mp hnd
    apply ih
    · exact h.take hdata.1 hontime.1 hopen.1 hguard.1
    · exact hrest
    · exact hdata.2
    · rw [take_jobs]
      exact hontime.2
    · intro other hother
      apply (hopen.2 other hother).take _ hdata.1 (hdata.2 other hother)
      rintro rfl
      exact hnew hother
    · intro other hother
      exact (hguard.2 other hother).take (hdata.2 other hother)

end Turns

theorem Tiers.nextJob {firstStart : ℤ} {s : RecordsState} (h : Tiers firstStart s) :
    TierInv firstStart { s with jobs := s.jobs + 1 } where
  ids := h.ids
  distinct := h.distinct
  known := h.known
  past := fun r hr => Nat.le_succ_of_le (h.past r hr)
  started := h.started
  apart := h.apart
  sources := h.sources
  done := fun _ _ l hl _ => Nat.lt_succ_of_le (h.past l hl)

/-- **One step** keeps the records of a tier apart. -/
theorem tierInv_step {firstStart : ℤ} {s s' : RecordsState} {a : RecordsAction}
    (h : TierInv firstStart s) (hontime : StepOnTime firstStart s a) (hguard : WindowGuard s a)
    (hstep : recordsStep s a = some s') : TierInv firstStart s' := by
  cases a with cases hstep
  | poll collection system created =>
    exact h.poll collection system created
  | createLongerRecords job =>
    rw [createLongerRecords_eq]
    split
    · have hturns : Tiers firstStart (job.turns.foldl (RecordsState.take job) s) := by
        apply h.toTiers.foldl_take (Job.nodup_turns hontime.1)
        · exact fun turn hturn => (Job.mem_turns.mp hturn).2
        · intro turn hturn
          obtain ⟨hsys, hdata⟩ := Job.mem_turns.mp hturn
          exact hontime.2 turn.system hsys turn.data hdata
        · intro turn hturn l hl htype _ _
          exact h.done turn.data (Job.mem_turns.mp hturn).2 l hl htype
        · exact hguard
      have hnext := hturns.nextJob
      rw [foldl_take_jobs] at hnext
      exact hnext
    · exact h.toTiers.nextJob

theorem TierInv.empty (firstStart : ℤ) : TierInv firstStart .empty where
  ids := by simp [RecordsState.empty]
  distinct := nodup_nil
  known := by simp [RecordsState.empty]
  past := by simp [RecordsState.empty]
  started := by simp [RecordsState.empty]
  apart := List.Pairwise.nil
  sources := by simp [RecordsState.empty]
  done := by simp [RecordsState.empty]

/-! ## Runs -/

/-- **No record is averaged twice**, if jobs start ten minutes apart and windows leave out what was
    found a tier duration before. -/
theorem records_averaged_once (firstStart : ℤ) (as : List RecordsAction)
    (hontime : EveryStep recordsStep (StepOnTime firstStart) .empty as)
    (hguard : EveryStep recordsStep WindowGuard .empty as) :
    EveryState recordsStep AveragedOnce .empty as := by
  apply everyState_of_invariant (I := TierInv firstStart)
    (G := fun s a => StepOnTime firstStart s a ∧ WindowGuard s a)
  · intro s a s' h hstepGuard hstep
    exact tierInv_step h hstepGuard.1 hstepGuard.2 hstep
  · intro s h
    exact h.toTiers.averagedOnce
  · exact TierInv.empty firstStart
  · exact hontime.and hguard

/-- Four jobs with the polls of their ten minutes, which read the clock `delay` after their
    start. -/
def fourJobs (delay : ℕ → ℤ) : List RecordsAction :=
  (List.range 4).flatMap fun k =>
    minutePolls .systemStats (jobStart 0 k) ++
      [.createLongerRecords (jobAt (jobStart 0 k + delay k))]

theorem later_jobs_average_once :
    ((exec recordsStep .empty (fourJobs fun k => 20 + k)).map fun s =>
      (s.records.filter (·.type = .m20)).map (·.job)) = some [1, 3] ∧
    EveryState recordsStep AveragedOnce .empty (fourJobs fun k => 20 + k) := by
  have hontime : EveryStep recordsStep (StepOnTime 0) .empty (fourJobs fun k => 20 + k) := by
    decide +kernel
  have hguard : EveryStep recordsStep WindowGuard .empty (fourJobs fun k => 20 + k) := by
    decide +kernel
  exact ⟨by decide +kernel, records_averaged_once 0 _ hontime hguard⟩

/-- **A record is averaged twice**: job 3 reads the clock earlier after its start than job 1 has
    created its record, so its window goes back beyond that record. -/
theorem record_averaged_twice :
    EveryStep recordsStep (StepOnTime 0) .empty
      (fourJobs fun k => if k = 1 then 20 else 5) ∧
    ∃ t, exec recordsStep .empty (fourJobs fun k => if k = 1 then 20 else 5) = some t ∧
      ¬ AveragedOnce t := by
  refine ⟨by decide +kernel, _, rfl, ?_⟩
  rw [AveragedOnce]
  decide +kernel

end Bantay.Records
