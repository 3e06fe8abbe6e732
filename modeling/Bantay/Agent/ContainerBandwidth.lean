import Bantay.Agent.ContainerIsolation
import Bantay.Agent.ContainerSamples

/-!
# The Bandwidth Reported for a Container

Beside the manager runs the history of one container.  In a call its entry has one position in
the list; the update at that position, or the second try for it, is the only step that records
totals of the container.  `Watching` is the invariant: the history is paired with what the
manager holds, and what a call would report is of that call.
-/

namespace Bantay.Agent.Docker

open Bantay.Lib List DockerManager

/-! ## The history beside the manager -/

/-- The manager with the samples of one container so far, the latest first. -/
structure Watched (φ : Type) where
  manager : DockerManager φ
  samples : UInt16 → List NetworkSample

def Watched.new {φ : Type} : Watched φ := ⟨newDockerManager, fun _ => []⟩

section Watching

variable {φ : Type} (lib : Library φ) (excludeContainers : List String) (c : String)

/-- The sample of the container at a position, if the update succeeds. -/
def DockerManager.sampleAt (m : DockerManager φ) (i : ℕ) (answers : Answers) :
    Option NetworkSample :=
  match m.apiContainerList.elems[i]? with
  | none => none
  | some ctr =>
    let updated := updateContainerStats lib m.call ctr (m.tracked c) m.shared answers
    if updated.ok then some (updated.sample answers) else none

/-- The sample of the container that a step takes. -/
def DockerManager.sample (m : DockerManager φ) : DockerAction → Option NetworkSample
  | .update i id answers => if id = c then m.sampleAt lib c i answers else none
  | .retry i id answers => if id = c then m.sampleAt lib c i answers else none
  | _ => none

/-- The history after a step: its sample is one for the cache time of the call. -/
def DockerManager.history (m : DockerManager φ) (samples : UInt16 → List NetworkSample)
    (a : DockerAction) : UInt16 → List NetworkSample :=
  (m.sample lib c a).elim samples (addSample samples m.call.cacheTimeMs)

def watchStep (w : Watched φ) (a : DockerAction) : Option (Watched φ) :=
  (dockerStep lib excludeContainers w.manager a).map fun m' =>
    ⟨m', w.manager.history lib c w.samples a⟩

/-- Every entry of the list has an id, and at most one has that of the container. -/
def ListsOnce (docs : List ApiInfoDoc) : Prop :=
  (∀ doc ∈ docs, doc.id ≠ none) ∧
    docs.Pairwise fun doc doc' => ¬ (doc.BelongsTo c ∧ doc'.BelongsTo c)
deriving Decidable

def ListGuard : DockerAction → Prop
  | .list _ _ _ (.document docs _) => ListsOnce c docs
  | _ => True

instance (a : DockerAction) : Decidable (ListGuard c a) := by
  unfold ListGuard
  split <;> infer_instance

/-- The API lists a container once, and the samples are in range. -/
def SampleGuard (w : Watched φ) (a : DockerAction) : Prop :=
  ListGuard c a ∧
    ∀ s ∈ w.manager.sample lib c a, s.InRange (w.samples w.manager.call.cacheTimeMs)
deriving Decidable

end Watching

/-! ## Positions of the list -/

section Positions

variable {φ : Type} {lib : Library φ} {excludeContainers : List String} {c : String}
  {m m' : DockerManager φ} {i : ℕ} {id : String} {answers : Answers}

/-- Position `i` has the entry of the container. -/
def DockerManager.EntryAt (m : DockerManager φ) (c : String) (i : ℕ) : Prop :=
  ∃ ctr, m.apiContainerList.elems[i]? = some ctr ∧ ctr.idShort = c

/-- The update at the position has started and has not come to its end. -/
def DockerManager.Started (m : DockerManager φ) (i : ℕ) : Prop := i ∈ m.running ∨ i ∈ m.failed

/-- Each position is at one place, and at none before the loop is past it. -/
structure Placed (m : DockerManager φ) : Prop where
  running : m.running.Nodup
  failed : m.failed.Nodup
  disjoint : ∀ i ∈ m.running, i ∉ m.failed
  below : ∀ i, m.Started i → i < m.next
  idle : m.busy = false → m.running = [] ∧ m.failed = []

theorem Placed.list (h : Placed m) (hidle : m.busy = false) (cacheTimeMs : UInt16)
    (podman windows : Bool) (reply : Reply (List ApiInfoDoc)) :
    Placed (m.list cacheTimeMs podman windows reply) := by
  obtain ⟨hrunning, hfail⟩ := h.idle hidle
  have hkeep : (m.list cacheTimeMs podman windows reply).running = [] ∧
      (m.list cacheTimeMs podman windows reply).failed = [] := by
    unfold DockerManager.list
    split
    · exact ⟨hrunning, hfail⟩
    · dsimp only
      split <;> exact ⟨hrunning, hfail⟩
  constructor <;> simp [hkeep, DockerManager.Started]

theorem Placed.enter (h : Placed m) (hs : m.enter lib excludeContainers id = some m') :
    Placed m' := by
  obtain ⟨ctr, _, hbusy, _, ⟨_, rfl⟩ | ⟨name, _, rfl⟩⟩ := enter_eq_some hs
  · exact ⟨h.running, h.failed, h.disjoint, h.below, h.idle⟩
  have hnew : m.next ∉ m.running ∧ m.next ∉ m.failed :=
    ⟨fun hmem => lt_irrefl _ (h.below _ (.inl hmem)),
      fun hmem => lt_irrefl _ (h.below _ (.inr hmem))⟩
  split
  · exact ⟨h.running, h.failed, h.disjoint, fun i hi => Nat.lt_succ_of_lt (h.below i hi), h.idle⟩
  · constructor
    case running =>
      simpa [nodup_append] using
        ⟨h.running, fun i hi heq => lt_irrefl _ (heq ▸ h.below i (.inl hi))⟩
    case failed => exact h.failed
    case disjoint =>
      intro i hi
      rcases mem_append.mp hi with hi | hi
      · exact h.disjoint i hi
      · exact mem_singleton.mp hi ▸ hnew.2
    case below =>
      rintro i (hi | hi)
      · rcases mem_append.mp hi with hi | hi
        · exact Nat.lt_succ_of_lt (h.below i (.inl hi))
        · exact mem_singleton.mp hi ▸ Nat.lt_succ_self _
      · exact Nat.lt_succ_of_lt (h.below i (.inr hi))
    case idle => simp [hbusy]

theorem Placed.update (h : Placed m) (hs : m.update lib i id answers = some m') : Placed m' := by
  obtain ⟨ctr, _, hbusy, hi, _, rfl⟩ := update_eq_some hs
  have herase : ∀ j ∈ m.running.erase i, j ∈ m.running ∧ j ≠ i :=
    fun j hj => ⟨mem_of_mem_erase hj, ((h.running.mem_erase_iff).mp hj).1⟩
  constructor
  case running => exact h.running.erase i
  case failed =>
    split
    · exact h.failed
    · exact nodup_append.mpr ⟨h.failed, by simp, fun j hj k hk heq =>
        h.disjoint i hi (mem_singleton.mp hk ▸ heq ▸ hj)⟩
  case disjoint =>
    intro j hj
    obtain ⟨hmem, hne⟩ := herase j hj
    split
    · exact h.disjoint j hmem
    · simp [h.disjoint j hmem, hne]
  case below =>
    rintro j (hj | hj)
    · exact h.below j (.inl (herase j hj).1)
    · dsimp only at hj
      split at hj
      · exact h.below j (.inr hj)
      · rcases mem_append.mp hj with hj | hj
        · exact h.below j (.inr hj)
        · exact h.below j (.inl (mem_singleton.mp hj ▸ hi))
  case idle => simp [updateAt, hbusy]

theorem Placed.retry (h : Placed m) (hs : m.retry lib i id answers = some m') : Placed m' := by
  obtain ⟨ctr, _, hbusy, hi, _, rfl⟩ := retry_eq_some hs
  constructor
  case running => exact h.running
  case failed => exact h.failed.erase i
  case disjoint => exact fun j hj hmem => h.disjoint j hj (mem_of_mem_erase hmem)
  case below =>
    rintro j (hj | hj)
    · exact h.below j (.inl hj)
    · exact h.below j (.inr (mem_of_mem_erase hj))
  case idle => simp [updateAt, hbusy]

theorem entryAt_set {ctr new : ApiInfo} (hctr : m.apiContainerList.elems[i]? = some ctr)
    (hid : new.idShort = ctr.idShort) (hlist : m'.apiContainerList = m.apiContainerList.set i new)
    (j : ℕ) : m'.EntryAt c j ↔ m.EntryAt c j := by
  unfold DockerManager.EntryAt
  rw [hlist]
  by_cases hij : i = j
  · subst hij
    have hset : (m.apiContainerList.set i new).elems[i]? = some new := by
      simp [Slice.set, (List.getElem?_eq_some_iff.mp hctr).1]
    simp only [hset, hctr, Option.some.injEq, exists_eq_left', hid]
  · simp [Slice.set, List.getElem?_set_ne hij]

theorem entryAt_unique_of_list (cells : Slice ApiInfo) {docs : List ApiInfoDoc}
    (honce : ListsOnce c docs)
    (hlist : m.apiContainerList = Slice.decode ApiInfoDoc.into ApiInfo.zero docs cells) {i j : ℕ}
    (hi : m.EntryAt c i) (hj : m.EntryAt c j) : i = j := by
  obtain ⟨hids, hpair⟩ := honce
  obtain ⟨ctr, hctr, hown⟩ := hi
  obtain ⟨ctr', hctr', hown'⟩ := hj
  rw [hlist] at hctr hctr'
  obtain ⟨doc, hdoc, _, hbelongs, _⟩ := entry_belongs hids hctr hown
  obtain ⟨doc', hdoc', _, hbelongs', _⟩ := entry_belongs hids hctr' hown'
  exact index_unique hpair hdoc hdoc' hbelongs hbelongs'

end Positions

/-! ## The invariant -/

section Invariant

variable {φ : Type} {lib : Library φ} {excludeContainers : List String} {c : String}
  {m m' : DockerManager φ} {samples : UInt16 → List NetworkSample} {i : ℕ} {id : String}
  {answers : Answers} {ctr : ApiInfo} {running failed : List ℕ} {onError : Tracked φ → Tracked φ}

/-- The container has an update in this call that is still to come. -/
def DockerManager.Awaits (m : DockerManager φ) (c : String) : Prop :=
  ∃ i, m.EntryAt c i ∧ (m.Started i ∨ m.next ≤ i)

/-- What holds between the steps of a call for the container with the history `samples`. -/
structure Watching (c : String) (m : DockerManager φ) (samples : UInt16 → List NetworkSample) :
    Prop where
  placed : Placed m
  once : m.busy = true → ∀ i j, m.EntryAt c i → m.EntryAt c j → i = j
  paired : Paired (m.tracked c) samples
  /-- Totals are recorded only by the update of the present call, for its cache time. -/
  unrecorded : ∀ ct, (m.busy = true → ct = m.call.cacheTimeMs → m.Awaits c) →
    (m.tracked c).Unrecorded ct
  failed : ∀ i ∈ m.failed, m.EntryAt c i → (m.tracked c).stats = none
  reported : m.busy = true → (m.tracked c).valid = true →
    (∃ i, m.EntryAt c i ∧ m.Started i) ∨
      ∀ st, (m.tracked c).stats = some st → BandwidthOf (samples m.call.cacheTimeMs) st.bandwidth

theorem watching_new (c : String) :
    Watching c (newDockerManager : DockerManager φ) fun _ => [] where
  placed := by constructor <;> simp [newDockerManager, DockerManager.Started]
  once := nofun
  paired := ⟨fun _ => by simp [newDockerManager, Tracked.new, Tracker.Holds],
    fun _ => by simp [newDockerManager, Tracked.new, Tracker.Holds],
    nofun, by simp⟩
  unrecorded := fun _ _ => ⟨rfl, rfl⟩
  failed := by simp [newDockerManager]
  reported := nofun

theorem Watching.same (h : Watching c m samples) (hlist : m'.apiContainerList = m.apiContainerList)
    (hrunning : m'.running = m.running) (hfailed : m'.failed = m.failed) (hnext : m'.next = m.next)
    (hbusy : m'.busy = m.busy) (hcall : m'.call.cacheTimeMs = m.call.cacheTimeMs)
    (htrk : m'.tracked c = m.tracked c) : Watching c m' samples := by
  constructor
  case placed =>
    obtain ⟨hr, hf, hd, hb, hi⟩ := h.placed
    constructor <;> simp only [DockerManager.Started, hrunning, hfailed, hnext, hbusy]
    exacts [hr, hf, hd, hb, hi]
  all_goals simp only [DockerManager.EntryAt, DockerManager.Awaits, DockerManager.Started, hlist,
    hrunning, hfailed, hnext, hbusy, hcall, htrk]
  exacts [h.once, h.paired, h.unrecorded, h.failed, h.reported]

theorem Watching.keep {own : Tracked φ} (h : Watching c m samples) (hplaced : Placed m')
    (hbusy : m'.busy = m.busy) (hcall : m'.call = m.call)
    (hentry : ∀ i, m'.EntryAt c i ↔ m.EntryAt c i) (htrk : m'.tracked c = own)
    (hkeep : KeepsNetwork (m.tracked c) own) (hawaits : m'.Awaits c → m.Awaits c)
    (hfail : ∀ i ∈ m'.failed, m.EntryAt c i → own.stats = none)
    (hreported : own.valid = true → (∃ i, m.EntryAt c i ∧ m'.Started i) ∨
      ∀ st, own.stats = some st → BandwidthOf (samples m.call.cacheTimeMs) st.bandwidth) :
    Watching c m' samples := by
  subst htrk
  constructor
  case placed => exact hplaced
  case once =>
    intro hb i j hi hj
    exact h.once (hbusy ▸ hb) i j ((hentry i).mp hi) ((hentry j).mp hj)
  case paired => exact h.paired.keep hkeep
  case unrecorded =>
    intro ct hct
    rw [hbusy, hcall] at hct
    exact hkeep.unrecorded (h.unrecorded ct fun hb heq => hawaits (hct hb heq))
  case failed => exact fun i hi hent => hfail i hi ((hentry i).mp hent)
  case reported =>
    intro _ hvalid
    rw [hcall]
    rcases hreported hvalid with ⟨i, hi, hstarted⟩ | hgood
    · exact .inl ⟨i, (hentry i).mpr hi, hstarted⟩
    · exact .inr hgood

/-! ## Lists and the loop -/

theorem Paired.reportNothing {own : Tracked φ} (h : Paired own samples) :
    Paired own.reportNothing samples :=
  h.keep ⟨rfl, rfl, fun _ _ ht => ht⟩

/-- A list that fails leaves no call; after one that does not, a call begins with nothing
    recorded. -/
theorem Watching.list (h : Watching c m samples) (hidle : m.busy = false) {cacheTimeMs : UInt16}
    {podman windows : Bool} {reply : Reply (List ApiInfoDoc)}
    (hG : ListGuard c (.list cacheTimeMs podman windows reply)) :
    Watching c (m.list cacheTimeMs podman windows reply) samples := by
  have hplaced := h.placed.list hidle cacheTimeMs podman windows reply
  obtain ⟨hrunning, hfail⟩ := h.placed.idle hidle
  have hopen : ∀ ct, (m.tracked c).Unrecorded ct :=
    fun ct => h.unrecorded ct (by simp [hidle])
  unfold DockerManager.list at hplaced ⊢
  split at hplaced
  case isTrue hun =>
    rw [if_pos hun]
    exact ⟨hplaced, by simp [failList, hidle], h.paired.reportNothing,
      fun ct _ => hopen ct, by simp [failList, hfail],
      by simp [failList, hidle]⟩
  case isFalse hun =>
    rw [if_neg hun]
    dsimp only at hplaced ⊢
    split at hplaced
    case isFalse hok =>
      rw [if_neg hok]
      exact ⟨hplaced, by simp [failList, hidle], h.paired.reportNothing,
        fun ct _ => hopen ct, by simp [failList, hfail],
        by simp [failList, hidle]⟩
    case isTrue hok =>
      rw [if_pos hok]
      constructor
      case placed => exact hplaced
      case once =>
        intro _ i j hi hj
        cases reply with
        | unreachable => exact absurd rfl hun
        | unreadable | malformed => cases hok
        | document docs typed =>
          refine entryAt_unique_of_list m.apiContainerList.truncate hG ?_ hi hj
          cases hf : m.shared.decoderFailed with
          | true => simp [Reply.entriesTyped, decode, hf] at hok
          | false => rfl
      case paired => exact h.paired.keep ⟨rfl, rfl, fun _ _ ht => ht⟩
      case unrecorded => exact fun ct _ => hopen ct
      case failed => simp [hfail]
      case reported => simp

theorem keepsNetwork_enter (own : Tracked φ) (status : String) :
    KeepsNetwork own (own.enter status) ∧ (own.stats = none → (own.enter status).stats = none) := by
  unfold Tracked.enter
  split
  · exact ⟨⟨rfl, rfl, nofun⟩, fun _ => rfl⟩
  · exact ⟨⟨rfl, rfl, fun _ _ h => h⟩, fun h => h⟩

/-- A goroutine that starts has measured nothing yet. -/
theorem Watching.enter (h : Watching c m samples)
    (hs : m.enter lib excludeContainers id = some m') :
    Watching c m' samples := by
  have hplaced := h.placed.enter hs
  obtain ⟨ctr, hctr, hbusy, hid, ⟨_, rfl⟩ | ⟨name, _, rfl⟩⟩ := enter_eq_some hs
  · exact h.same rfl rfl rfl rfl rfl rfl rfl
  split at hplaced
  case isTrue hex =>
    rw [if_pos hex]
    refine h.keep hplaced rfl rfl (fun _ => Iff.rfl) rfl (KeepsNetwork.refl _) ?_ h.failed
      (h.reported hbusy)
    rintro ⟨i, hi, hstarted | hle⟩
    · exact ⟨i, hi, .inl hstarted⟩
    · exact ⟨i, hi, .inr (Nat.le_of_succ_le hle)⟩
  case isFalse hex =>
    rw [if_neg hex]
    -- The new goroutine is for a position that the loop had still to come to.
    have hpend : ∀ i, (i ∈ m.running ++ [m.next] ∨ i ∈ m.failed) ∨ m.next + 1 ≤ i →
        m.Started i ∨ m.next ≤ i := by
      rintro i ((hi | hi) | hle)
      · rcases mem_append.mp hi with hi | hi
        · exact .inl (.inl hi)
        · exact .inr (mem_singleton.mp hi).ge
      · exact .inl (.inr hi)
      · exact .inr (Nat.le_of_succ_le hle)
    by_cases hown : id = c
    · subst hown
      obtain ⟨hkeep, hnone⟩ := keepsNetwork_enter (m.tracked id) ctr.status
      refine h.keep hplaced rfl rfl (fun _ => Iff.rfl) (Function.update_self _ _ _) hkeep ?_ ?_ ?_
      · exact fun ⟨i, hi, hp⟩ => ⟨i, hi, hpend i hp⟩
      · exact fun i hi hent => hnone (h.failed i hi hent)
      · exact fun _ => .inl ⟨m.next, ⟨ctr, hctr, hid⟩, .inl (by simp)⟩
    · refine h.keep hplaced rfl rfl (fun _ => Iff.rfl)
        (Function.update_of_ne (Ne.symm hown) _ _) (KeepsNetwork.refl _) ?_ h.failed ?_
      · exact fun ⟨i, hi, hp⟩ => ⟨i, hi, hpend i hp⟩
      · intro hvalid
        rcases h.reported hbusy hvalid with ⟨i, hi, hr | hf⟩ | hgood
        · exact .inl ⟨i, hi, .inl (mem_append_left _ hr)⟩
        · exact .inl ⟨i, hi, .inr hf⟩
        · exact .inr hgood

/-! ## Updates in a call -/

/-- The positions after an update at `i`: the others are as they were. -/
structure SameElsewhere (m : DockerManager φ) (i : ℕ) (running failed : List ℕ) : Prop where
  running : ∀ j ≠ i, (j ∈ running ↔ j ∈ m.running)
  failed : ∀ j ≠ i, (j ∈ failed ↔ j ∈ m.failed)

theorem SameElsewhere.started {i j : ℕ} (h : SameElsewhere m i running failed) (hne : j ≠ i) :
    (j ∈ running ∨ j ∈ failed) ↔ m.Started j :=
  or_congr (h.running j hne) (h.failed j hne)

theorem entryAt_updateAt (hctr : m.apiContainerList.elems[i]? = some ctr) (j : ℕ) :
    DockerManager.EntryAt
      { (m.updateAt lib i id ctr answers onError).1 with running, failed } c j ↔
        m.EntryAt c j :=
  entryAt_set hctr (updateContainerStats_idShort ..) rfl j

theorem Watching.updateAt_other (h : Watching c m samples) (hbusy : m.busy = true)
    (hctr : m.apiContainerList.elems[i]? = some ctr) (hother : ctr.idShort ≠ c)
    (hsame : SameElsewhere m i running failed)
    (hplaced : Placed
      { (m.updateAt lib i ctr.idShort ctr answers onError).1 with running, failed }) :
    Watching c { (m.updateAt lib i ctr.idShort ctr answers onError).1 with running, failed }
      samples := by
  have hne : ∀ j, m.EntryAt c j → j ≠ i := by
    rintro j ⟨ctr', hctr', hown⟩ rfl
    exact hother (Option.some.inj (hctr.symm.trans hctr') ▸ hown)
  refine h.keep hplaced rfl rfl (entryAt_updateAt hctr) (Function.update_of_ne hother.symm _ _)
    (KeepsNetwork.refl _) ?_ ?_ ?_
  · rintro ⟨j, hj, hpend⟩
    have hj' := (entryAt_updateAt hctr j).mp hj
    exact ⟨j, hj', hpend.imp_left (hsame.started (hne j hj')).mp⟩
  · intro j hj hent
    exact h.failed j ((hsame.failed j (hne j hent)).mp hj) hent
  · intro hvalid
    rcases h.reported hbusy hvalid with ⟨j, hj, hstarted⟩ | hgood
    · exact .inl ⟨j, hj, (hsame.started (hne j hj)).mpr hstarted⟩
    · exact .inr hgood

/-- The position is to be retried and the statistics are deleted, or those that stay have no
    bandwidth. -/
theorem Watching.updateAt_error {own : Tracked φ} (h : Watching c m samples) (hbusy : m.busy = true)
    (hctr : m.apiContainerList.elems[i]? = some ctr) (hown : ctr.idShort = c)
    (hstarted : m.Started i)
    (hplaced : Placed { (m.updateAt lib i c ctr answers onError).1 with running, failed })
    (htrk : (m.updateAt lib i c ctr answers onError).1.tracked c = own)
    (hkeep : KeepsNetwork (m.tracked c) own)
    (hstats : (i ∈ failed ∧ own.stats = none) ∨
      (i ∉ failed ∧ ∀ st, own.stats = some st → st.bandwidth = (0, 0))) :
    Watching c { (m.updateAt lib i c ctr answers onError).1 with running, failed } samples := by
  have hentry : m.EntryAt c i := ⟨ctr, hctr, hown⟩
  refine h.keep hplaced rfl rfl (entryAt_updateAt hctr) htrk hkeep ?_ ?_ ?_
  · exact fun _ => ⟨i, hentry, .inl hstarted⟩
  · intro j hj hent
    rcases hstats with ⟨_, hnone⟩ | ⟨hdone, _⟩
    · exact hnone
    · exact absurd (h.once hbusy j i hent hentry ▸ hj) hdone
  · intro _
    rcases hstats with ⟨hfail, _⟩ | ⟨_, hzero⟩
    · exact .inl ⟨i, hentry, .inr hfail⟩
    · refine .inr fun st hst => ?_
      rw [hzero st hst]
      exact bandwidthOf_zero _

/-- A measurement that succeeds is the next sample of its interval. -/
theorem Watching.updateAt_ok {s : NetworkSample} (h : Watching c m samples) (hbusy : m.busy = true)
    (hctr : m.apiContainerList.elems[i]? = some ctr) (hown : ctr.idShort = c)
    (hstarted : m.Started i) (hrunning : i ∉ running) (hfail : i ∉ failed)
    (hplaced : Placed { (m.updateAt lib i c ctr answers onError).1 with running, failed })
    (hok : (updateContainerStats lib m.call ctr (m.tracked c) m.shared answers).ok = true)
    (hs : s = (updateContainerStats lib m.call ctr (m.tracked c) m.shared answers).sample answers)
    (hrange : s.InRange (samples m.call.cacheTimeMs)) :
    Watching c { (m.updateAt lib i c ctr answers onError).1 with running, failed }
      (addSample samples m.call.cacheTimeMs s) := by
  have hopen : (m.tracked c).Unrecorded m.call.cacheTimeMs :=
    h.unrecorded _ fun _ _ => ⟨i, ⟨ctr, hctr, hown⟩, .inl hstarted⟩
  have htrk : (m.updateAt lib i c ctr answers onError).1.tracked c =
      (updateContainerStats lib m.call ctr (m.tracked c) m.shared answers).own := by
    simp [updateAt, hok]
  obtain ⟨hrec, st, hst, hbw⟩ := updateContainerStats_of_ok hok hs
  rw [← htrk] at hrec hst
  have hpos : ∀ j, m.EntryAt c j → j = i := fun j hj => h.once hbusy j i hj ⟨ctr, hctr, hown⟩
  have hlt := h.placed.below i hstarted
  constructor
  case placed => exact hplaced
  case once =>
    intro _ j k hj hk
    rw [entryAt_updateAt hctr] at hj hk
    exact (hpos j hj).trans (hpos k hk).symm
  case paired => exact h.paired.record hopen hrange hrec
  case unrecorded =>
    intro ct hct
    by_cases heq : ct = m.call.cacheTimeMs
    · -- Nothing of the container is to come in this call.
      obtain ⟨j, hj, hpend⟩ := hct hbusy heq
      obtain rfl := hpos j ((entryAt_updateAt hctr j).mp hj)
      rcases hpend with (hr | hf) | hle
      · exact absurd hr hrunning
      · exact absurd hf hfail
      · exact absurd hlt (Nat.not_lt.mpr hle)
    · have hother := h.unrecorded ct fun _ hct' => absurd hct' heq
      unfold Tracked.Unrecorded at hother ⊢
      rw [hrec.sent, hrec.recv]
      simpa [Tracked.recordSample, heq] using hother
  case failed =>
    intro j hj hent
    exact absurd (hpos j ((entryAt_updateAt hctr j).mp hent) ▸ hj) hfail
  case reported =>
    intro _ _
    refine .inr fun st' hst' => ?_
    obtain rfl : st = st' := Option.some.inj (hst.symm.trans hst')
    have hrate := h.paired.isRate hopen hrange
    rw [← hbw] at hrate
    simpa [addSample, updateAt] using hrate

theorem sampleAt_eq (answers : Answers) (hctr : m.apiContainerList.elems[i]? = some ctr) :
    m.sampleAt lib c i answers =
      if (updateContainerStats lib m.call ctr (m.tracked c) m.shared answers).ok then
        some ((updateContainerStats lib m.call ctr (m.tracked c) m.shared answers).sample answers)
      else none := by
  simp only [sampleAt, hctr]

/-- The first attempt at a container: its own sample, or none. -/
theorem Watching.update (h : Watching c m samples) (hs : m.update lib i id answers = some m')
    (hrange : ∀ s ∈ m.sample lib c (.update i id answers), s.InRange (samples m.call.cacheTimeMs)) :
    Watching c m' (m.history lib c samples (.update i id answers)) := by
  have hplaced := h.placed.update hs
  obtain ⟨ctr, hctr, hbusy, hi, rfl, rfl⟩ := update_eq_some hs
  have hgone : i ∉ m.running.erase i := fun hmem => (h.placed.running.mem_erase_iff.mp hmem).1 rfl
  by_cases hown : ctr.idShort = c
  · subst hown
    rw [history]
    simp only [sample, if_true, sampleAt_eq answers hctr] at hrange ⊢
    cases hok : (updateContainerStats lib m.call ctr (m.tracked ctr.idShort) m.shared answers).ok
    case true =>
      simp only [hok, if_true, Option.mem_some_iff, forall_eq', Option.elim_some] at hrange ⊢
      refine h.updateAt_ok hbusy hctr rfl (.inl hi) hgone ?_ hplaced hok rfl hrange
      simpa [updateAt, hok] using h.placed.disjoint i hi
    case false =>
      have hkeep := (updateContainerStats_of_error hok).1
      have htrk : (m.updateAt lib i ctr.idShort ctr answers Tracked.deleteStats).1.tracked
          ctr.idShort = (updateContainerStats lib m.call ctr (m.tracked ctr.idShort) m.shared
            answers).own.deleteStats := by
        simp [updateAt, hok]
      refine h.updateAt_error hbusy hctr rfl (.inl hi) hplaced htrk
        ⟨hkeep.sent, hkeep.recv, hkeep.time⟩ (.inl ⟨?_, rfl⟩)
      simp [updateAt, hok]
  · have hsame : SameElsewhere m i (m.running.erase i)
        (if (m.updateAt lib i ctr.idShort ctr answers Tracked.deleteStats).2 then m.failed
          else m.failed ++ [i]) := by
      refine ⟨fun j hne => mem_erase_of_ne hne, fun j hne => ?_⟩
      split
      · exact Iff.rfl
      · simp [hne]
    rw [history, sample, if_neg hown]
    exact h.updateAt_other hbusy hctr hown hsame hplaced

/-- The second attempt, after the first has failed. -/
theorem Watching.retry (h : Watching c m samples) (hs : m.retry lib i id answers = some m')
    (hrange : ∀ s ∈ m.sample lib c (.retry i id answers), s.InRange (samples m.call.cacheTimeMs)) :
    Watching c m' (m.history lib c samples (.retry i id answers)) := by
  have hplaced := h.placed.retry hs
  obtain ⟨ctr, hctr, hbusy, hi, rfl, rfl⟩ := retry_eq_some hs
  have hgone : i ∉ m.failed.erase i := fun hmem => (h.placed.failed.mem_erase_iff.mp hmem).1 rfl
  by_cases hown : ctr.idShort = c
  · subst hown
    rw [history]
    simp only [sample, if_true, sampleAt_eq answers hctr] at hrange ⊢
    cases hok : (updateContainerStats lib m.call ctr (m.tracked ctr.idShort) m.shared answers).ok
    case true =>
      simp only [hok, if_true, Option.mem_some_iff, forall_eq', Option.elim_some] at hrange ⊢
      refine h.updateAt_ok hbusy hctr rfl (.inr hi) ?_ hgone hplaced hok rfl hrange
      exact fun hmem => h.placed.disjoint i hmem hi
    case false =>
      obtain ⟨hkeep, hstats⟩ := updateContainerStats_of_error hok
      refine h.updateAt_error hbusy hctr rfl (.inr hi) hplaced ?_ hkeep (.inr ⟨hgone, ?_⟩)
      · simp [updateAt, hok]
      · -- The first try left no statistics.
        intro st hst
        have hnone := h.failed i hi ⟨ctr, hctr, rfl⟩
        rcases hstats with hsame | ⟨st', hst', hzero⟩
        · exact absurd (hst.symm.trans (hsame.trans hnone)) (Option.some_ne_none _)
        · exact Option.some.inj (hst'.symm.trans hst) ▸ hzero
  · have hsame : SameElsewhere m i m.running (m.failed.erase i) :=
      ⟨fun _ _ => Iff.rfl, fun j hne => mem_erase_of_ne hne⟩
    rw [history, sample, if_neg hown]
    exact h.updateAt_other hbusy hctr hown hsame hplaced

/-! ## Runs -/

theorem finish_eq_some (hs : m.finish = some m') :
    m.busy = true ∧ m.running = [] ∧ m.failed = [] ∧
      m' = { m with
        tracked := fun id => (m.tracked id).finish m.call.cacheTimeMs
        busy := false } := by
  unfold finish at hs
  split at hs
  case isFalse => cases hs
  case isTrue hcond => exact ⟨hcond.1, hcond.2.2.1, hcond.2.2.2, (Option.some.inj hs).symm⟩

theorem Watching.finish (h : Watching c m samples) (hs : m.finish = some m') :
    Watching c m' samples := by
  obtain ⟨hbusy, hrunning, hfail, rfl⟩ := finish_eq_some hs
  constructor
  case placed => constructor <;> simp [hrunning, hfail, DockerManager.Started]
  case once => simp
  case paired => exact h.paired.finish _
  case unrecorded =>
    intro ct _
    by_cases hct : ct = m.call.cacheTimeMs
    · subst hct
      simp [Tracked.Unrecorded, Tracked.finish, Tracker.cycle]
    · have hother := h.unrecorded ct fun _ heq => absurd heq hct
      unfold Tracked.Unrecorded at hother ⊢
      simpa [Tracked.finish, hct] using hother
  case failed => simp [hfail]
  case reported => simp

/-- **No step takes the trackers and the times of a container apart.** -/
theorem watching_step {a : DockerAction} (h : Watching c m samples) (hlist : ListGuard c a)
    (hrange : ∀ s ∈ m.sample lib c a, s.InRange (samples m.call.cacheTimeMs))
    (hs : dockerStep lib excludeContainers m a = some m') :
    Watching c m' (m.history lib c samples a) := by
  cases a with
  | version reply =>
    simp only [dockerStep] at hs
    split at hs
    case isTrue => cases hs
    case isFalse =>
      cases hs
      exact h.same rfl rfl rfl rfl rfl rfl rfl
  | list cacheTimeMs podman windows reply =>
    simp only [dockerStep] at hs
    split at hs
    case isTrue => cases hs
    case isFalse hidle =>
      cases hs
      exact h.list (Bool.eq_false_iff.mpr hidle) hlist
  | enter id => exact h.enter hs
  | update i id answers => exact h.update hs hrange
  | retry i id answers => exact h.retry hs hrange
  | finish => exact h.finish hs

theorem Watching.bandwidth {st : Stats φ} (h : Watching c m samples) (hs : m.finish = some m')
    (hst : (m'.tracked c).reports.head? = some (some st)) :
    BandwidthOf (samples m.call.cacheTimeMs) st.bandwidth := by
  obtain ⟨hbusy, hrunning, hfail, rfl⟩ := finish_eq_some hs
  have hrep : (if (m.tracked c).valid then (m.tracked c).stats else none) = some st :=
    Option.some.inj hst
  split at hrep
  case isFalse => cases hrep
  case isTrue hvalid =>
    rcases h.reported hbusy hvalid with ⟨i, _, hstarted⟩ | hgood
    · simp [DockerManager.Started, hrunning, hfail] at hstarted
    · exact hgood st hrep

/-- Watching a container changes nothing about the run of the manager. -/
theorem exec_watchStep (lib : Library φ) (excludeContainers : List String) (c : String)
    (as : List DockerAction) (w : Watched φ) :
    (exec (watchStep lib excludeContainers c) w as).map (·.manager) =
      exec (dockerStep lib excludeContainers) w.manager as := by
  induction as generalizing w with
  | nil => rfl
  | cons a as ih =>
    cases hs : dockerStep lib excludeContainers w.manager a with
    | none => simp [exec, watchStep, hs]
    | some m' => simp [exec, watchStep, hs, ih]

end Invariant

/-- **The bandwidth of a container**: in every run of calls, with any cache times, failures and
    second tries, a call reports zero or the growth of the total in a second between the latest two
    samples for its cache time. -/
theorem bandwidth_of_consecutive_samples {φ : Type} (lib : Library φ)
    (excludeContainers : List String) (c : String) {as : List DockerAction}
    {m m' : DockerManager φ} {st : Stats φ}
    (hG : EveryStep (watchStep lib excludeContainers c) (SampleGuard lib c) Watched.new as)
    (hrun : exec (dockerStep lib excludeContainers) newDockerManager as = some m)
    (hfinish : dockerStep lib excludeContainers m .finish = some m')
    (hst : (m'.tracked c).reports.head? = some (some st)) :
    ∃ w, exec (watchStep lib excludeContainers c) Watched.new as = some w ∧ w.manager = m ∧
      IsRate (·.sent) (w.samples m.call.cacheTimeMs) st.bandwidth.1 ∧
      IsRate (·.recv) (w.samples m.call.cacheTimeMs) st.bandwidth.2 := by
  have hmap := (exec_watchStep lib excludeContainers c as Watched.new).trans hrun
  obtain ⟨w, hw, rfl⟩ := Option.map_eq_some_iff.mp hmap
  have hwatching : Watching c w.manager w.samples := by
    refine exec_invariant (I := fun w => Watching c w.manager w.samples) ?_
      (watching_new c) hG hw
    intro w a w' h hguard hs
    obtain ⟨m', hs', rfl⟩ := Option.map_eq_some_iff.mp hs
    exact watching_step h hguard.1 hguard.2 hs'
  exact ⟨w, hw, rfl, hwatching.bandwidth hfinish hst⟩

/-- The answers for a container that has sent `sent` bytes, at a time in milliseconds. -/
def answersAt (sent cpu system : UInt64) (ms : ℤ) : Answers :=
  ⟨.document { sampleStats cpu system 2097152 with networks := some [⟨200, sent⟩] } true, none,
    ms * 1000000, ms * 1000000⟩

/-- A call for `web` with one update, up to its end. -/
def webCall (cacheTimeMs : UInt16) (answers : Answers) : List DockerAction :=
  [.list cacheTimeMs false false (.document [sampleEntry "web000000000" "/web" none] true),
    .enter "web000000000", .update 0 "web000000000" answers]

/-- Two calls for one cache time around a call for another.  The totals of `web` grow by 1000 bytes
    in two seconds: 500 bytes a second. -/
def webCalls : List DockerAction :=
  webCall 1000 (answersAt 100 1000 100000 0) ++ [.finish] ++
    webCall 5000 (answersAt 600 2000 200000 1500) ++ [.finish] ++
    webCall 1000 (answersAt 1100 3000 300000 2000)

theorem web_bandwidth :
    ∃ m m' st w, exec (dockerStep sampleLibrary []) newDockerManager webCalls = some m ∧
      dockerStep sampleLibrary [] m .finish = some m' ∧
      (m'.tracked "web000000000").reports.head? = some (some st) ∧ st.bandwidth = (500, 0) ∧
      exec (watchStep sampleLibrary [] "web000000000") Watched.new webCalls = some w ∧
      w.manager = m ∧ IsRate (·.sent) (w.samples m.call.cacheTimeMs) st.bandwidth.1 ∧
      IsRate (·.recv) (w.samples m.call.cacheTimeMs) st.bandwidth.2 := by
  have hG : EveryStep (watchStep sampleLibrary [] "web000000000")
      (SampleGuard sampleLibrary "web000000000") Watched.new webCalls := by decide +kernel
  have hrep : (((exec (dockerStep sampleLibrary []) newDockerManager webCalls).bind
      fun m => dockerStep sampleLibrary [] m .finish).bind
        fun m' => (m'.tracked "web000000000").reports.head?.bind
          fun report => report.map (·.bandwidth)) = some (500, 0) := by
    decide +kernel
  obtain ⟨m', hm', hrep⟩ := Option.bind_eq_some_iff.mp hrep
  obtain ⟨m, hm, hfinish⟩ := Option.bind_eq_some_iff.mp hm'
  obtain ⟨report, hhead, hst⟩ := Option.bind_eq_some_iff.mp hrep
  obtain ⟨st, rfl, hbw⟩ := Option.map_eq_some_iff.mp hst
  obtain ⟨w, hw, hman, hrates⟩ :=
    bandwidth_of_consecutive_samples sampleLibrary [] "web000000000" hG hm hfinish hhead
  exact ⟨m, m', st, w, hm, hfinish, hhead, hbw, hw, hman, hrates⟩

end Bantay.Agent.Docker
