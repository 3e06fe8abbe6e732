import Bantay.Lib.Spans
import Bantay.Records.LongerRecords

/-!
# What Nine Records Cover

A `10m` record is created from at least nine `1m` records, "change to 9 from 10 to allow edge
case timing or short pauses".  Nine records stand for nine minutes as long as there is one
record for each minute.  The poll interval of the hub, in another package, is five seconds.
-/

namespace Bantay.Records

open Bantay.Lib List RecordsState

/-! ## The property and the condition -/

def interval : ℤ := 5000

def RecordsState.polled (s : RecordsState) (c : StatsCollection) (system : String) : List ℤ :=
  (s.tier c system .m1).map (·.created)

/-- When the job sets the window of the `10m` records of a system. -/
def Job.now (job : Job) (system : String) : ℤ := (job.tier system .m10).shorterNow

/-- Polls come at least the interval of the hub apart, and the job reads the clock after them. -/
def PollsSpaced (s : RecordsState) : RecordsAction → Prop
  | .poll c system created => ∀ t ∈ s.polled c system, t + interval ≤ created
  | .createLongerRecords job =>
    ∀ system ∈ job.systems, ∀ c ∈ collections, ∀ t ∈ s.polled c system, t ≤ job.now system

instance (s : RecordsState) (a : RecordsAction) : Decidable (PollsSpaced s a) :=
  match a with
  | .poll .. | .createLongerRecords _ => by unfold PollsSpaced; infer_instance

/-- A `10m` record of a system is created only if nine of the ten minutes before hold a
    record. -/
def TenMinutesCovered (s : RecordsState) : RecordsAction → Prop
  | .poll _ _ _ => True
  | .createLongerRecords job => ∀ (system : String) (c : StatsCollection),
    (s.tier c system .m10).length < ((s.createLongerRecords job).tier c system .m10).length →
      9 ≤ covered minute (job.now system) 10 (s.polled c system)

/-- No minute holds two records and none lies at the very start of the ten minutes, or at least 97
    of the 120 polls were successful. -/
def MinuteGuard (s : RecordsState) : RecordsAction → Prop
  | .poll _ _ _ => True
  | .createLongerRecords job => ∀ system ∈ job.systems, ∀ c ∈ collections,
    (job.now system - 10 * minute ∉ s.polled c system ∧
      ∀ i < 10, (s.polled c system).countP (InSpan minute (job.now system) i) ≤ 1) ∨
      97 ≤ (s.polled c system).countP (InWindow minute (job.now system) 10)

instance (s : RecordsState) (a : RecordsAction) : Decidable (MinuteGuard s a) :=
  match a with
  | .poll .. | .createLongerRecords _ => by unfold MinuteGuard; infer_instance

/-! ## What a job creates -/

theorem tier_m1_take (s : RecordsState) (job : Job) {turn : Turn}
    (hdata : turn.data ∈ longerRecordData) (c : StatsCollection) (system : String) :
    (s.take job turn).tier c system .m1 = s.tier c system .m1 := by
  rw [take_eq]
  split
  · have hne := longerType_ne_m1 hdata
    simp [RecordsState.tier, save, hne]
  · rfl

variable {turns : List Turn} {job : Job} {c : StatsCollection} {system : String}
  {s : RecordsState}

theorem tier_m1_foldl_take (job : Job) (hdata : ∀ turn ∈ turns, turn.data ∈ longerRecordData)
    (s : RecordsState) (c : StatsCollection) (system : String) :
    (turns.foldl (RecordsState.take job) s).tier c system .m1 = s.tier c system .m1 := by
  induction turns generalizing s with
  | nil => rfl
  | cons turn turns ih =>
    obtain ⟨hfirst, hrest⟩ := forall_mem_cons.mp hdata
    rw [foldl_cons, ih hrest, tier_m1_take s job hfirst]

theorem exists_creates {type : RecordType} (hdata : ∀ turn ∈ turns, turn.data ∈ longerRecordData)
    (hlt : (s.tier c system type).length <
      ((turns.foldl (RecordsState.take job) s).tier c system type).length) :
    ∃ data ∈ longerRecordData, data.longerType = type ∧ ⟨system, data, c⟩ ∈ turns ∧
      ∃ s' : RecordsState, s'.tier c system .m1 = s.tier c system .m1 ∧
        s'.Creates job ⟨system, data, c⟩ := by
  induction turns generalizing s with
  | nil => exact absurd hlt (Nat.lt_irrefl _)
  | cons turn turns ih =>
    obtain ⟨hfirst, hrest⟩ := forall_mem_cons.mp hdata
    by_cases hcre : s.Creates job turn ∧ turn.collection = c ∧ turn.system = system ∧
        turn.data.longerType = type
    · obtain ⟨system', data, c'⟩ := turn
      obtain ⟨hcre, rfl, rfl, htype⟩ := hcre
      exact ⟨data, hfirst, htype, mem_cons_self, s, rfl, hcre⟩
    · -- this turn adds nothing to the tier
      have hlen : ((s.take job turn).tier c system type).length =
          (s.tier c system type).length := by
        have htier := tier_take s job turn c system type
        rw [if_neg hcre, append_nil] at htier
        rw [← length_map (f := (·.job)), htier, length_map]
      rw [foldl_cons, ← hlen] at hlt
      obtain ⟨data, hmem, htype, hturn, s', hm1, hcre⟩ := ih hrest hlt
      rw [tier_m1_take s job hfirst] at hm1
      exact ⟨data, hmem, htype, mem_cons_of_mem turn hturn, s', hm1, hcre⟩

/-- A `10m` record is created from nine records; `find` also returns one at the very start of the
    ten minutes. -/
theorem nine_in_window (hspaced : PollsSpaced s (.createLongerRecords job))
    (hlt : (s.tier c system .m10).length <
      ((s.createLongerRecords job).tier c system .m10).length) :
    system ∈ job.systems ∧ 9 ≤ (s.polled c system).countP fun t =>
      job.now system - 10 * minute ≤ t ∧ t ≤ job.now system := by
  rw [createLongerRecords_eq] at hlt
  split at hlt
  · have hturns : ∀ turn ∈ job.turns, turn.data ∈ longerRecordData :=
      fun turn hturn => (Job.mem_turns.mp hturn).2
    obtain ⟨data, hdata, htype, hturn, s', hm1, hcre⟩ := exists_creates hturns hlt
    have hsys := (Job.mem_turns.mp hturn).1
    refine ⟨hsys, ?_⟩
    obtain rfl : data = ⟨.m1, 9, .m10, -10 * minute⟩ :=
      longerType_inj hdata (by decide) htype
    -- the turn counts its records at a time when the job has only added longer ones
    have hnine := hcre.2.1.2
    rw [shorterRecords, find_eq_filter_tier, hm1, ← countP_eq_length_filter] at hnine
    rw [polled, countP_map]
    refine hnine.trans (countP_mono_left ?_)
    -- all polls lie before the clock is read
    intro r hr hwin
    have hbef : r.created ≤ job.now system :=
      hspaced system hsys c (mem_collections c) _ (mem_map_of_mem hr)
    have hafter : job.now system + -10 * minute ≤ r.created := of_decide_eq_true hwin
    apply decide_eq_true
    simp only [minute] at *
    omega
  · exact absurd hlt (Nat.lt_irrefl _)

/-! ## Runs -/

/-- The polls of every system keep the interval of the hub. -/
def PollsApart (s : RecordsState) : Prop :=
  ∀ (c : StatsCollection) (system : String), Spaced interval (s.polled c system)

theorem polled_poll (s : RecordsState) (c c' : StatsCollection) (system system' : String)
    (created : ℤ) :
    (s.save c system .m1 created []).polled c' system' =
      s.polled c' system' ++ if c = c' ∧ system = system' then [created] else [] := by
  simp only [polled, RecordsState.tier, save, filter_append, map_append]
  congr 1
  by_cases hsame : c = c' ∧ system = system'
  · simp [hsame]
  · rw [if_neg hsame, filter_singleton]
    simp only [and_true, hsame, decide_false]
    rfl

/-- **One step** keeps the interval between polls. -/
theorem pollsApart_step {s' : RecordsState} {a : RecordsAction} (h : PollsApart s)
    (hspaced : PollsSpaced s a) (hstep : recordsStep s a = some s') : PollsApart s' := by
  cases a with cases hstep
  | poll c system created =>
    intro c' system'
    rw [polled_poll]
    split
    · next hsame =>
      obtain ⟨rfl, rfl⟩ := hsame
      exact (h c system).concat hspaced
    · rw [append_nil]
      exact h c' system'
  | createLongerRecords job =>
    intro c system
    have hsame : (s.createLongerRecords job).polled c system = s.polled c system := by
      rw [createLongerRecords_eq]
      split
      · have hturns : ∀ turn ∈ job.turns, turn.data ∈ longerRecordData :=
          fun turn hturn => (Job.mem_turns.mp hturn).2
        exact congrArg (List.map (·.created)) (tier_m1_foldl_take job hturns s c system)
      · rfl
    rw [hsame]
    exact h c system

/-- Twelve polls fit into a minute. -/
theorem minute_countP_le {polled : List ℤ} (h : Spaced interval polled) (now : ℤ) (i : ℕ) :
    polled.countP (InSpan minute now i) ≤ 12 := by
  apply h.countP_le (by decide)
  simp only [minute, interval]
  omega

/-- **A `10m` record stands for nine minutes**, in every run of polls at the interval of the hub,
    if no minute holds two records or most polls were successful. -/
theorem ten_minute_records_covered (as : List RecordsAction)
    (hspaced : EveryStep recordsStep PollsSpaced .empty as)
    (hguard : EveryStep recordsStep MinuteGuard .empty as) :
    EveryStep recordsStep TenMinutesCovered .empty as := by
  apply everyStep_of_invariant (I := PollsApart)
    (G := fun s a => PollsSpaced s a ∧ MinuteGuard s a)
  · intro s a s' h hguard hstep
    exact pollsApart_step h hguard.1 hstep
  · intro s a h hguard
    cases a with
    | poll c system created => trivial
    | createLongerRecords job =>
      intro system c hlt
      obtain ⟨hsys, hnine⟩ := nine_in_window hguard.1 hlt
      rcases hguard.2 system hsys c (mem_collections c) with ⟨hstart, hone⟩ | hmost
      · have hin : (s.polled c system).countP (fun t =>
            job.now system - 10 * minute ≤ t ∧ t ≤ job.now system) ≤
              (s.polled c system).countP (InWindow minute (job.now system) 10) := by
          refine countP_mono_left fun t ht hwin => decide_eq_true ?_
          have hne : t ≠ job.now system - 10 * minute := fun heq => hstart (heq ▸ ht)
          have hwin := of_decide_eq_true hwin
          simp only [InWindow, minute] at *
          omega
        have hspans := countP_inWindow_le (by decide) hone
        omega
      · -- eight minutes hold at most 96 polls
        have hspans := countP_inWindow_le (n := 10) (by decide)
          fun i _ => minute_countP_le (h c system) (job.now system) i
        omega
  · intro c system
    exact List.Pairwise.nil
  · exact hspaced.and hguard

/-- Successful polls every five seconds, the last one five seconds before `now`. -/
def steadyPolls (n : ℕ) (now : ℤ) : List RecordsAction :=
  (List.range n).map fun (i : ℕ) => .poll .systemStats "web" (now - interval * (n - i))

theorem minute_polls_covered :
    ((exec recordsStep .empty (minutePolls .systemStats 0 ++
        [.createLongerRecords (jobAt 0)])).map fun s =>
      (s.tier .systemStats "web" .m10).length) = some 1 ∧
    EveryStep recordsStep TenMinutesCovered .empty
      (minutePolls .systemStats 0 ++ [.createLongerRecords (jobAt 0)]) := by
  constructor
  · decide +kernel
  · apply ten_minute_records_covered
    · decide +kernel
    · decide +kernel

/-- **Nine records in one minute** give a `10m` record although nine of the ten minutes are
    empty. -/
theorem nine_records_in_one_minute :
    EveryStep recordsStep PollsSpaced .empty
      (steadyPolls 9 0 ++ [.createLongerRecords (jobAt 0)]) ∧
    ∃ s, exec recordsStep .empty (steadyPolls 9 0) = some s ∧
      covered minute 0 10 (s.polled .systemStats "web") = 1 ∧
      ¬ TenMinutesCovered s (.createLongerRecords (jobAt 0)) := by
  refine ⟨by decide +kernel, _, rfl, by decide +kernel, ?_⟩
  intro hcov
  have hnine := hcov "web" .systemStats (by decide +kernel)
  revert hnine
  decide +kernel

end Bantay.Records
