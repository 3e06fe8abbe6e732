import Mathlib.Data.Int.Notation
import Mathlib.Data.List.Nodup
import Mathlib.Data.List.ProdSigma
import Bantay.Lib.Transition

/-!
# Longer Records

A step model of `CreateLongerRecords` of `internal/records/records.go`.  Polls save records of the
type `1m`.  A job averages every ten minutes the records of each tier into a record of the next
longer one: `1m` into `10m`, `10m` into `20m`, `20m` into `120m` and `120m` into `480m`, for every
system that is up and for both collections of stats.

Times are in milliseconds.  The job runs in a transaction, so it is one step; its readings of the
clock and the outcomes of its database operations are inputs.  Here a longer record only keeps the
ids of the records it averages; `SystemStats` is about their contents.
-/

namespace Bantay.Records

open Bantay.Lib List

/-! ## Data -/

def minute : ℤ := 60000

/-- The field `type` of a stats record. -/
inductive RecordType where
  | m1
  | m10
  | m20
  | m120
  | m480
deriving DecidableEq

inductive StatsCollection where
  | systemStats
  | containerStats
deriving DecidableEq

/-- The two collections, in the order in which the job handles them. -/
def collections : List StatsCollection := [.systemStats, .containerStats]

theorem mem_collections (c : StatsCollection) : c ∈ collections := by
  cases c <;> decide

structure LongerRecordData where
  shorterType : RecordType
  minShorterRecords : ℕ
  longerType : RecordType
  /-- negative, as in the source -/
  longerTimeDuration : ℤ
deriving DecidableEq

def longerRecordData : List LongerRecordData :=
  [ -- 9 instead of 10 to allow edge case timing or short pauses
    ⟨.m1, 9, .m10, -10 * minute⟩,
    ⟨.m10, 2, .m20, -20 * minute⟩,
    ⟨.m20, 6, .m120, -120 * minute⟩,
    ⟨.m120, 4, .m480, -480 * minute⟩ ]

structure StatsRecord where
  id : ℕ
  collection : StatsCollection
  system : String
  type : RecordType
  created : ℤ
  averaged : List ℕ
  /-- history: the first job that can find it; for a longer record, the job that created it -/
  job : ℕ

structure RecordsState where
  records : List StatsRecord
  nextId : ℕ
  /-- history: the number of jobs so far -/
  jobs : ℕ

/-- What happens outside of the code while one collection is handled for one tier. -/
structure Attempt where
  created : ℤ
  /-- the outcomes of `CountRecords`, of the query for the shorter records and of
      `SaveNoValidate` -/
  countOk : Bool
  selectOk : Bool
  saveOk : Bool

/-- The two readings of the clock, and the attempts for the two collections. -/
structure TierRun where
  longerNow : ℤ
  shorterNow : ℤ
  attempt : StatsCollection → Attempt

structure Job where
  ok : Bool
  /-- `SELECT id FROM systems WHERE status='up'` -/
  systems : List String
  tier : String → RecordType → TierRun

/-! ## The job -/

namespace RecordsState

/-- The database compares texts: a stored time ends in `Z`, which sorts behind a bound within the
    same millisecond. -/
def find (s : RecordsState) (collection : StatsCollection) (system : String)
    (type : RecordType) (after : ℤ) : List StatsRecord :=
  s.records.filter fun r =>
    r.collection = collection ∧ r.system = system ∧ r.type = type ∧ after ≤ r.created

def save (s : RecordsState) (collection : StatsCollection) (system : String)
    (type : RecordType) (created : ℤ) (averaged : List ℕ) : RecordsState :=
  { s with
    records := s.records ++
      [⟨s.nextId, collection, system, type, created, averaged, s.jobs⟩]
    nextId := s.nextId + 1 }

/-- The body of the innermost loop: one collection for one tier of one system. -/
def createLongerRecord (s : RecordsState) (system : String) (recordData : LongerRecordData)
    (run : TierRun) (collection : StatsCollection) : RecordsState :=
  let longerRecordPeriod := run.longerNow + (recordData.longerTimeDuration + minute)
  let shorterRecordPeriod := run.shorterNow + recordData.longerTimeDuration
  let attempt := run.attempt collection
  -- 10m is created every run, so the last longer record is not looked up
  if recordData.longerType ≠ .m10 ∧ (attempt.countOk = false ∨
      0 < (s.find collection system recordData.longerType longerRecordPeriod).length) then
    s
  else
    -- also records that this job has created for the tier before
    let recordIds :=
      (s.find collection system recordData.shorterType shorterRecordPeriod).map (·.id)
    if attempt.selectOk = false ∨ recordIds.length < recordData.minShorterRecords then
      s
    else if attempt.saveOk then
      s.save collection system recordData.longerType attempt.created recordIds
    else
      s

def createLongerRecords (s : RecordsState) (job : Job) : RecordsState :=
  let s' :=
    if job.ok then
      job.systems.foldl (fun s system =>
        longerRecordData.foldl (fun s recordData =>
          collections.foldl (fun s collection =>
            s.createLongerRecord system recordData (job.tier system recordData.longerType)
              collection) s) s) s
    else
      s
  { s' with jobs := s.jobs + 1 }

end RecordsState

inductive RecordsAction where
  | poll (collection : StatsCollection) (system : String) (created : ℤ)
  | createLongerRecords (job : Job)

def recordsStep (s : RecordsState) : RecordsAction → Option RecordsState
  | .poll collection system created => some (s.save collection system .m1 created [])
  | .createLongerRecords job => some (s.createLongerRecords job)

def RecordsState.empty : RecordsState := ⟨[], 0, 0⟩

/-! ## One longer record -/

/-- One turn of the innermost loop: a system, a tier and a collection. -/
structure Turn where
  system : String
  data : LongerRecordData
  collection : StatsCollection

def Job.turns (job : Job) : List Turn :=
  job.systems.flatMap fun system =>
    longerRecordData.flatMap fun data => collections.map fun c => ⟨system, data, c⟩

def Job.run (job : Job) (turn : Turn) : TierRun := job.tier turn.system turn.data.longerType

variable {job : Job}

theorem Job.mem_turns {turn : Turn} :
    turn ∈ job.turns ↔ turn.system ∈ job.systems ∧ turn.data ∈ longerRecordData := by
  obtain ⟨system, data, c⟩ := turn
  simp only [turns, mem_flatMap, mem_map, Turn.mk.injEq]
  constructor
  · rintro ⟨_, hsys, _, hdata, _, _, rfl, rfl, rfl⟩
    exact ⟨hsys, hdata⟩
  · rintro ⟨hsys, hdata⟩
    exact ⟨system, hsys, data, hdata, c, mem_collections c, rfl, rfl, rfl⟩

/-- The systems are distinct, so no turn comes twice. -/
theorem Job.nodup_turns (hsystems : job.systems.Nodup) : job.turns.Nodup := by
  -- the tiers of a system and the collections of a tier differ in their last components
  have hsys : ∀ system : String, (longerRecordData.flatMap fun data =>
      collections.map fun c => (⟨system, data, c⟩ : Turn)).Nodup := by
    intro system
    have hmap : (longerRecordData.flatMap fun data =>
        collections.map fun c => (⟨system, data, c⟩ : Turn)) =
        (longerRecordData.product collections).map fun p => ⟨system, p.1, p.2⟩ := rfl
    rw [hmap]
    apply List.Nodup.map
    · intro p q hpq
      simp only [Turn.mk.injEq, true_and] at hpq
      exact Prod.ext hpq.1 hpq.2
    · decide
  rw [turns, nodup_flatMap]
  refine ⟨fun system _ => hsys system, hsystems.imp ?_⟩
  intro a b hab turn ha hb
  simp only [mem_flatMap, mem_map] at ha hb
  obtain ⟨_, _, _, _, rfl⟩ := ha
  obtain ⟨_, _, _, _, h⟩ := hb
  simp only [Turn.mk.injEq] at h
  exact hab h.1.symm

namespace RecordsState

def take (job : Job) (s : RecordsState) (turn : Turn) : RecordsState :=
  s.createLongerRecord turn.system turn.data (job.run turn) turn.collection

variable (s : RecordsState) (job : Job)

theorem createLongerRecords_eq :
    s.createLongerRecords job =
      { (if job.ok then job.turns.foldl (take job) s else s) with jobs := s.jobs + 1 } := by
  simp only [createLongerRecords, Job.turns, foldl_flatMap, foldl_map]
  rfl

def shorterRecords (turn : Turn) : List StatsRecord :=
  s.find turn.collection turn.system turn.data.shorterType
    ((job.run turn).shorterNow + turn.data.longerTimeDuration)

def longerRecords (turn : Turn) : List StatsRecord :=
  s.find turn.collection turn.system turn.data.longerType
    ((job.run turn).longerNow + (turn.data.longerTimeDuration + minute))

def Creates (turn : Turn) : Prop :=
  (turn.data.longerType = .m10 ∨
    (((job.run turn).attempt turn.collection).countOk = true ∧ s.longerRecords job turn = [])) ∧
  (((job.run turn).attempt turn.collection).selectOk = true ∧
    turn.data.minShorterRecords ≤ (s.shorterRecords job turn).length) ∧
  ((job.run turn).attempt turn.collection).saveOk = true
deriving Decidable

theorem take_eq (turn : Turn) :
    s.take job turn =
      if s.Creates job turn then
        s.save turn.collection turn.system turn.data.longerType
          ((job.run turn).attempt turn.collection).created
          ((s.shorterRecords job turn).map (·.id))
      else
        s := by
  by_cases hcre : s.Creates job turn
  · rw [if_pos hcre]
    simp only [Creates, longerRecords, shorterRecords] at hcre
    simp only [take, createLongerRecord, shorterRecords, length_map, length_pos_iff]
    rw [if_neg (by grind), if_neg (by grind), if_pos (by grind)]
  · rw [if_neg hcre]
    simp only [Creates, longerRecords, shorterRecords] at hcre
    simp only [take, createLongerRecord, length_map, length_pos_iff]
    -- a record is created only behind all three conditions of the source
    split
    · rfl
    · split
      · rfl
      · rw [if_neg (by grind)]

theorem take_jobs (turn : Turn) : (s.take job turn).jobs = s.jobs := by
  rw [take_eq]
  split <;> rfl

theorem foldl_take_jobs (turns : List Turn) : (turns.foldl (take job) s).jobs = s.jobs := by
  induction turns generalizing s with
  | nil => rfl
  | cons turn turns ih => rw [foldl_cons, ih, take_jobs]

variable {s : RecordsState} {c : StatsCollection} {system : String} {type : RecordType}
  {r : StatsRecord}

theorem forall_mem_save {P : StatsRecord → Prop} {created : ℤ} {averaged : List ℕ}
    (hold : ∀ r ∈ s.records, P r)
    (hnew : P ⟨s.nextId, c, system, type, created, averaged, s.jobs⟩) :
    ∀ r ∈ (s.save c system type created averaged).records, P r := by
  intro r hr
  rcases mem_append.mp hr with hr | hr
  · exact hold r hr
  · obtain rfl := mem_singleton.mp hr
    exact hnew

theorem mem_find {after : ℤ} :
    r ∈ s.find c system type after ↔ r ∈ s.records ∧
      r.collection = c ∧ r.system = system ∧ r.type = type ∧ after ≤ r.created := by
  simp [find]

def tier (s : RecordsState) (c : StatsCollection) (system : String)
    (type : RecordType) : List StatsRecord :=
  s.records.filter fun r => r.collection = c ∧ r.system = system ∧ r.type = type

theorem mem_tier :
    r ∈ s.tier c system type ↔
      r ∈ s.records ∧ r.collection = c ∧ r.system = system ∧ r.type = type := by
  simp [tier]

theorem find_eq_filter_tier (s : RecordsState) (c : StatsCollection) (system : String)
    (type : RecordType) (after : ℤ) :
    s.find c system type after = (s.tier c system type).filter (after ≤ ·.created) := by
  rw [find, tier, filter_filter]
  apply filter_congr
  intro r _
  simp only [Bool.decide_and, Bool.and_comm, Bool.and_assoc, Bool.and_left_comm]

theorem find_take_length (s : RecordsState) (job : Job) (turn : Turn) (c : StatsCollection)
    (system : String) (type : RecordType) (after : ℤ) :
    (s.find c system type after).length ≤ ((s.take job turn).find c system type after).length := by
  rw [take_eq]
  split
  · simp only [find, save, filter_append, length_append]
    omega
  · exact Nat.le_refl _

theorem tier_take (s : RecordsState) (job : Job) (turn : Turn) (c : StatsCollection)
    (system : String) (type : RecordType) :
    ((s.take job turn).tier c system type).map (·.job) =
      (s.tier c system type).map (·.job) ++
        if s.Creates job turn ∧ turn.collection = c ∧ turn.system = system ∧
          turn.data.longerType = type then [s.jobs] else [] := by
  rw [take_eq]
  by_cases hcre : s.Creates job turn
  · rw [if_pos hcre]
    simp only [tier, save, filter_append, map_append, hcre, true_and]
    congr 1
    by_cases hkind : turn.collection = c ∧ turn.system = system ∧ turn.data.longerType = type
    · rw [if_pos hkind, filter_singleton]
      simp [hkind]
    · rw [if_neg hkind, filter_singleton]
      simp [hkind]
  · rw [if_neg hcre, if_neg (fun h => hcre h.1), append_nil]

end RecordsState

/-! ## The tiers -/

/-- The number of jobs in the duration of a tier. -/
def LongerRecordData.jobs (data : LongerRecordData) : ℕ :=
  (-data.longerTimeDuration / (10 * minute)).toNat

variable {data : LongerRecordData}

section

variable (h : data ∈ longerRecordData)
include h

theorem duration_eq : data.longerTimeDuration = -(10 * minute * data.jobs) := by
  revert data
  decide

theorem jobs_pos : 0 < data.jobs := by
  revert data
  decide

theorem jobs_of_m10 (hten : data.longerType = .m10) : data.jobs = 1 := by
  revert data
  decide

end

variable {data' : LongerRecordData}

section

variable (h : data ∈ longerRecordData)
include h

theorem longerType_inj (h' : data' ∈ longerRecordData)
    (htype : data.longerType = data'.longerType) : data = data' := by
  have hinj : ∀ data ∈ longerRecordData, ∀ data' ∈ longerRecordData,
      data.longerType = data'.longerType → data = data' := by
    decide
  exact hinj data h data' h' htype

theorem shorterType_inj (h' : data' ∈ longerRecordData)
    (htype : data.shorterType = data'.shorterType) : data = data' := by
  have hinj : ∀ data ∈ longerRecordData, ∀ data' ∈ longerRecordData,
      data.shorterType = data'.shorterType → data = data' := by
    decide
  exact hinj data h data' h' htype

theorem longerType_ne_m1 : data.longerType ≠ .m1 := by
  revert data
  decide

end

/-! ## When jobs run -/

/-- The start of the job with the number `k`: starts are ten minutes apart. -/
def jobStart (firstStart : ℤ) (k : ℕ) : ℤ := firstStart + 10 * minute * k

/-- The clock never runs backwards, and records are saved less than a minute after the start. -/
def TierRun.OnTime (start : ℤ) (run : TierRun) : Prop :=
  start ≤ run.longerNow ∧ run.longerNow ≤ run.shorterNow ∧
    ∀ c ∈ collections, run.shorterNow ≤ (run.attempt c).created ∧
      (run.attempt c).created < start + minute
deriving Decidable

/-- Every system comes once, and all its tiers are on time. -/
def Job.OnTime (start : ℤ) (job : Job) : Prop :=
  job.systems.Nodup ∧ ∀ system ∈ job.systems, ∀ data ∈ longerRecordData,
    (job.tier system data.longerType).OnTime start
deriving Decidable

def StepOnTime (firstStart : ℤ) (s : RecordsState) : RecordsAction → Prop
  | .poll _ _ _ => True
  | .createLongerRecords job => job.OnTime (jobStart firstStart s.jobs)

instance (firstStart : ℤ) (s : RecordsState) (a : RecordsAction) :
    Decidable (StepOnTime firstStart s a) := by
  unfold StepOnTime
  split <;> infer_instance

/-! ## Sample runs -/

/-- A job for the system `web` that reads the clock and saves all its records at one moment. -/
def jobAt (now : ℤ) : Job where
  ok := true
  systems := ["web"]
  tier _ _ := ⟨now, now, fun _ => ⟨now, true, true, true⟩⟩

/-- The polls of the ten minutes before `now`, one for each minute. -/
def minutePolls (c : StatsCollection) (now : ℤ) : List RecordsAction :=
  (List.range 10).map fun i => .poll c "web" (now - 10 * minute + minute * (i + 1) - 1)

end Bantay.Records
