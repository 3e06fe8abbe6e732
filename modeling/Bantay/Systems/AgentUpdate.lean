import Bantay.Hub.ExpiryMap
import Bantay.Lib.GoMap
import Bantay.Lib.Pool
import Bantay.Systems.FetchData

/-!
# Updates of Agents

A model of `internal/hub/systems/agent_update.go`.  The hub pushes a binary to an agent that is
older than itself.  `shouldAttempt` is asked after every update of a system, and `pushUpdate` runs
in a goroutine: it claims the system, marks the attempt, sends the binary and releases the system.

An attempt starts a cooldown, an entry of an expiring map.  Eligibility is decided before the
goroutine runs and the entry is written in it, so several calls can find a system eligible before
the first has marked its attempt; the claim only keeps pushes from running at the same time.

Every access to the expiring map, to the claim and to the clock is one step; only `Set` reads the
clock in the step that stores its entry.  A push starts when it marks its attempt.
-/

namespace Bantay.Systems

open Bantay.Lib Bantay.Hub Function

/-! ## Binaries -/

structure AgentBinary where
  arch : String
  version : String
  sha256 : String
  bytes : List UInt8

def isSupportedArch (arch : String) : Bool :=
  arch = "amd64" || arch = "arm64" || arch = "armv7"

def normalizeArch (arch : String) : String :=
  let arch := arch.toLower
  if arch = "amd64" ∨ arch = "x86_64" then "amd64"
  else if arch = "arm64" ∨ arch = "aarch64" then "arm64"
  else if arch = "arm" ∨ arch = "armv7" ∨ arch = "armv7l" ∨ arch = "armhf" then "armv7"
  else ""

structure AgentUpdater where
  disabled : Bool
  hubVersion : Version
  binaries : GoMap String AgentBinary
  cooldownTtl : Nat
  disabled_empty : disabled = true → binaries = ∅
  supported : ∀ arch bin, binaries.lookup arch = some bin → isSupportedArch arch = true

/-- The functions of the package `semver`. -/
structure Semver where
  parse : String → Option Version
  lt : Version → Version → Bool

def minute : Nat := 60000000000

def hour : Nat := 60 * minute

/-! ## Loading -/

/-- An entry of the directory of binaries. -/
structure DirEntry where
  name : String
  isDir : Bool
  data : Option (List UInt8)

/-- What `newAgentUpdater` finds. -/
structure UpdaterEnv where
  semver : Semver
  disableAutoUpdate : String
  version : String
  entries : Option (List DirEntry)
  sha256 : List UInt8 → String

def binaryArch (entry : DirEntry) : Option String :=
  if entry.isDir then none
  else if "agent-".toList.isPrefixOf entry.name.toList then
    let arch := String.ofList (entry.name.toList.drop "agent-".toList.length)
    if isSupportedArch arch then some arch else none
  else none

def loadBinary (env : UpdaterEnv) (binaries : GoMap String AgentBinary) (entry : DirEntry) :
    GoMap String AgentBinary :=
  match binaryArch entry, entry.data with
  | some arch, some bytes => binaries.insert arch ⟨arch, env.version, env.sha256 bytes, bytes⟩
  | _, _ => binaries

theorem isSupportedArch_of_binaryArch {entry : DirEntry} {arch : String}
    (h : binaryArch entry = some arch) : isSupportedArch arch = true := by
  unfold binaryArch at h
  dsimp only at h
  split_ifs at h with _ _ hsup
  cases h
  exact hsup

theorem loadBinary_supported {env : UpdaterEnv} {binaries : GoMap String AgentBinary}
    (h : binaries.Forall fun arch _ => isSupportedArch arch = true) (entry : DirEntry) :
    (loadBinary env binaries entry).Forall fun arch _ => isSupportedArch arch = true := by
  unfold loadBinary
  split
  · next arch bytes harch _ => exact GoMap.Forall.insert h (isSupportedArch_of_binaryArch harch)
  · exact h

theorem binaries_supported (env : UpdaterEnv) (entries : List DirEntry) :
    GoMap.Forall (fun arch _ => isSupportedArch arch = true)
      (entries.foldl (loadBinary env) ∅) := by
  apply List.foldlRecOn
  · exact GoMap.forall_empty
  · intro binaries hbinaries entry _
    exact loadBinary_supported hbinaries entry

/-- An updater that does nothing. -/
def disabledUpdater (hubVersion : Version) : AgentUpdater where
  disabled := true
  hubVersion := hubVersion
  binaries := ∅
  cooldownTtl := hour
  disabled_empty _ := rfl
  supported _ _ hlookup := by cases hlookup

def newAgentUpdater (env : UpdaterEnv) : AgentUpdater :=
  if env.disableAutoUpdate.toLower = "true" ∨ env.disableAutoUpdate = "1" then
    disabledUpdater ⟨0, 0, 0, []⟩
  else
    match env.semver.parse env.version, env.entries with
    | none, _ => disabledUpdater ⟨0, 0, 0, []⟩
    | some hubVersion, none => disabledUpdater hubVersion
    | some hubVersion, some entries =>
      { disabled := (entries.foldl (loadBinary env) ∅).keys = []
        hubVersion := hubVersion
        binaries := entries.foldl (loadBinary env) ∅
        cooldownTtl := hour
        disabled_empty := fun hkeys =>
          AList.ext (List.map_eq_nil_iff.mp (of_decide_eq_true hkeys))
        supported := binaries_supported env entries }

/-! ## Eligibility -/

/-- What `shouldAttempt` reads of the data of a system. -/
structure AgentData where
  agentVersion : String
  details : Option String

def AgentData.detailsArch (data : AgentData) : String := data.details.getD ""

def AgentUpdater.candidate (semver : Semver) (u : AgentUpdater) (data : AgentData) :
    Option AgentBinary :=
  if u.disabled = true ∨ data.agentVersion = "" then
    none
  else
    match semver.parse data.agentVersion with
    | none => none
    | some agentVer =>
      if semver.lt agentVer u.hubVersion then u.binaries.lookup (normalizeArch data.detailsArch)
      else none

def AgentUpdater.shouldAttempt (semver : Semver) (u : AgentUpdater)
    (cooldown : ExpiryMap String Nat) (now : Nat) (systemID : String) (data : AgentData) :
    Option AgentBinary × ExpiryMap String Nat :=
  match u.candidate semver data with
  | none => (none, cooldown)
  | some bin =>
    match cooldown.getOk now systemID with
    | (none, cooldown) => (some bin, cooldown)
    | (some last, cooldown) =>
      if now - last < u.cooldownTtl then (none, cooldown) else (some bin, cooldown)

/-- `markAttempted`, with the clock at its first line and at `Set` -/
def AgentUpdater.markAttempted (u : AgentUpdater) (cooldown : ExpiryMap String Nat)
    (start now : Nat) (systemID : String) : ExpiryMap String Nat :=
  if u.disabled then cooldown else cooldown.set now systemID start (u.cooldownTtl + 5 * minute)

/-! ## Calls -/

/-- Where an `update` call, a `pushUpdate` or a `cleanup` of the cooldown is. -/
inductive PushTask where
  | unused
  | done
  /-- `shouldAttempt` at the cooldown -/
  | deciding (bin : AgentBinary)
  /-- `GetOk` has read an entry; at the clock -/
  | checking (bin : AgentBinary) (entry : Val Nat)
  /-- `GetOk` has found its entry expired; at `Remove` -/
  | expiring (bin : AgentBinary)
  /-- `shouldAttempt` at `time.Since` -/
  | comparing (bin : AgentBinary) (last : Nat)
  /-- the system was found eligible; `pushUpdate` at `claim` -/
  | pushing (bin : AgentBinary)
  /-- `markAttempted` at the clock -/
  | claimed (bin : AgentBinary)
  /-- `markAttempted` at `Set` -/
  | marking (bin : AgentBinary) (start : Nat)
  | sending (bin : AgentBinary)
  /-- `cleanup` at `GetAll` -/
  | scanning (now : Nat)
  /-- `cleanup` has found the entry of the system expired; at `Remove` -/
  | cleaning

/-- The updater from the view of one system. -/
structure PushState where
  cooldown : ExpiryMap String Nat
  claim : Bool
  now : Nat
  tasks : Nat → PushTask
  nextTask : Nat
  starts : List Nat

inductive PushAction where
  /-- `update` gets to `shouldAttempt`, with this data of the system -/
  | update (data : AgentData)
  | cleanup
  | run (t : Nat)
  | tick (elapsed : Nat)

namespace PushState

def setTask (s : PushState) (t : Nat) (task : PushTask) : PushState :=
  { s with tasks := Function.update s.tasks t task }

def spawn (s : PushState) (task : PushTask) : PushState :=
  { s with tasks := Function.update s.tasks s.nextTask task, nextTask := s.nextTask + 1 }

def afterRead (bin : AgentBinary) : Option (Val Nat) → PushTask
  | none => .pushing bin
  | some entry => .checking bin entry

def claimSystem (s : PushState) (t : Nat) (bin : AgentBinary) : PushState :=
  if s.claim then s.setTask t .done else { s with claim := true }.setTask t (.claimed bin)

def run (u : AgentUpdater) (systemID : String) (s : PushState) (t : Nat) : Option PushState :=
  match s.tasks t with
  | .unused | .done => none
  | .deciding bin => some (s.setTask t (afterRead bin (s.cooldown.store.lookup systemID)))
  | .checking bin entry =>
    some (s.setTask t (if entry.expires < s.now then .expiring bin else .comparing bin entry.value))
  | .expiring bin =>
    some ({ s with cooldown := s.cooldown.remove systemID }.setTask t (.pushing bin))
  | .comparing bin last =>
    some (s.setTask t (if s.now - last < u.cooldownTtl then .done else .pushing bin))
  | .pushing bin => some (s.claimSystem t bin)
  | .claimed bin => some ({ s with starts := s.now :: s.starts }.setTask t (.marking bin s.now))
  | .marking bin start =>
    some ({ s with cooldown := u.markAttempted s.cooldown start s.now systemID }.setTask t
      (.sending bin))
  | .sending _ => some ({ s with claim := false }.setTask t .done)
  | .scanning now =>
    some (s.setTask t (if (s.cooldown.store.lookup systemID).any (·.expires < now) then .cleaning
      else .done))
  | .cleaning => some ({ s with cooldown := s.cooldown.remove systemID }.setTask t .done)

def init (now : Nat) : PushState where
  cooldown := .new
  claim := false
  now := now
  tasks _ := .unused
  nextTask := 0
  starts := []

end PushState

def pushStep (semver : Semver) (u : AgentUpdater) (systemID : String) (s : PushState) :
    PushAction → Option PushState
  | .update data =>
    match u.candidate semver data with
    | none => some s
    | some bin => some (s.spawn (.deciding bin))
  | .cleanup => some (s.spawn (.scanning s.now))
  | .run t => s.run u systemID t
  | .tick elapsed => some { s with now := s.now + elapsed }

/-! ## The property and the condition -/

/-- Pushes start at least a cooldown apart; the last start is the first of the list. -/
def Spaced (cooldownTtl : Nat) (s : PushState) : Prop :=
  s.starts.Pairwise fun later earlier => earlier + cooldownTtl ≤ later

/-- The call has read the cooldown, may find the system eligible, and has not marked an attempt. -/
def PushTask.Undecided : PushTask → Prop
  | .checking _ _ | .expiring _ | .comparing _ _ | .pushing _ | .claimed _ | .marking _ _ => True
  | .unused | .done | .deciding _ | .sending _ | .scanning _ | .cleaning => False

instance (task : PushTask) : Decidable task.Undecided := by
  unfold PushTask.Undecided
  split <;> infer_instance

/-- The cooldown is read only while no other call is undecided, and a cleanup removes only an entry
    that is still expired. -/
def TaskGuard (systemID : String) (s : PushState) : PushTask → Prop
  | .deciding _ => ∀ t < s.nextTask, ¬ (s.tasks t).Undecided
  | .cleaning => ∀ entry ∈ s.cooldown.store.lookup systemID, entry.expires < s.now
  | .unused | .done | .checking _ _ | .expiring _ | .comparing _ _ | .pushing _ | .claimed _
  | .marking _ _ | .sending _ | .scanning _ => True

instance (systemID : String) (s : PushState) (task : PushTask) :
    Decidable (TaskGuard systemID s task) := by
  unfold TaskGuard
  split <;> infer_instance

def PushGuard (systemID : String) (s : PushState) : PushAction → Prop
  | .run t => TaskGuard systemID s (s.tasks t)
  | .update _ | .cleanup | .tick _ => True

instance (systemID : String) (s : PushState) (a : PushAction) :
    Decidable (PushGuard systemID s a) := by
  unfold PushGuard
  split <;> infer_instance

/-! ## The invariant -/

def Cooled (u : AgentUpdater) (s : PushState) : Prop := ∀ x ∈ s.starts, x + u.cooldownTtl ≤ s.now

/-- The entry stands for the last push, and lives as long as its cooldown. -/
def Shields (u : AgentUpdater) (s : PushState) (entry : Val Nat) : Prop :=
  ∀ x ∈ s.starts, x ≤ entry.value ∧ x + u.cooldownTtl ≤ entry.expires

theorem Shields.cooled {u : AgentUpdater} {s : PushState} {entry : Val Nat}
    (h : Shields u s entry) (hexp : entry.expires < s.now) : Cooled u s :=
  fun x hx => Nat.le_trans (h x hx).2 (Nat.le_of_lt hexp)

/-- What a task knows about the pushes that have started. -/
def TaskOk (u : AgentUpdater) (s : PushState) : PushTask → Prop
  | .deciding _ => u.disabled = false
  | .checking _ entry => u.disabled = false ∧ (Cooled u s ∨ Shields u s entry)
  | .comparing _ last => u.disabled = false ∧ (Cooled u s ∨ ∀ x ∈ s.starts, x ≤ last)
  | .expiring _ | .pushing _ | .claimed _ => u.disabled = false ∧ Cooled u s
  | .marking _ start => u.disabled = false ∧ start ∈ s.starts ∧ ∀ x ∈ s.starts, x ≤ start
  | .unused | .done | .sending _ | .scanning _ | .cleaning => True

/-- The task is about to write the entry of its push. -/
def PushTask.Marks (task : PushTask) : Prop := ∃ bin start, task = .marking bin start

/-- The entry of the last push is about to be written, is no longer needed, or is there. -/
structure CooldownInv (u : AgentUpdater) (systemID : String) (s : PushState) : Prop where
  numbered : ∀ t, s.nextTask ≤ t → s.tasks t = .unused
  exclusive : ∀ t t', (s.tasks t).Undecided → (s.tasks t').Undecided → t = t'
  past : ∀ x ∈ s.starts, x ≤ s.now
  spaced : Spaced u.cooldownTtl s
  task : ∀ t, TaskOk u s (s.tasks t)
  entry : (∃ t, (s.tasks t).Marks) ∨ Cooled u s ∨
    ∃ entry, s.cooldown.store.lookup systemID = some entry ∧ Shields u s entry

namespace CooldownInv

variable {u : AgentUpdater} {systemID : String} {s s' : PushState} {t : Nat}

theorem init (now : Nat) : CooldownInv u systemID (.init now) where
  numbered _ _ := rfl
  exclusive _ _ h := h.elim
  past _ h := by cases h
  spaced := List.Pairwise.nil
  task _ := trivial
  entry := .inr (.inl fun _ h => by cases h)

theorem lt_nextTask (h : CooldownInv u systemID s) (hused : s.tasks t ≠ .unused) : t < s.nextTask :=
  lt_next_of_used h.numbered hused

theorem entry_of_decided (h : CooldownInv u systemID s) (hnone : ∀ t, ¬ (s.tasks t).Undecided) :
    Cooled u s ∨ ∃ entry, s.cooldown.store.lookup systemID = some entry ∧ Shields u s entry := by
  rcases h.entry with ⟨t, bin, start, ht⟩ | hent
  · refine absurd ?_ (hnone t)
    rw [ht]
    trivial
  · exact hent

variable {task : PushTask}

theorem taskOk_of_decided (htask : TaskOk u s task) (hdec : ¬ task.Undecided)
    (s' : PushState) : TaskOk u s' task := by
  cases task with
  | unused | done | sending | scanning | cleaning => trivial
  | deciding bin => exact htask
  | checking | expiring | comparing | pushing | claimed | marking => exact absurd trivial hdec

variable (h : CooldownInv u systemID s)
include h

theorem exclusive_update (hundec : task.Undecided → (s.tasks t).Undecided) (t₁ t₂ : Nat)
    (h₁ : (update s.tasks t task t₁).Undecided)
    (h₂ : (update s.tasks t task t₂).Undecided) : t₁ = t₂ := by
  have hbef : ∀ t', (update s.tasks t task t').Undecided →
      (s.tasks t').Undecided := by
    refine forall_update (P := fun t' (task : PushTask) =>
      task.Undecided → (s.tasks t').Undecided) hundec ?_
    intro t' _ ht'
    exact ht'
  exact h.exclusive t₁ t₂ (hbef t₁ h₁) (hbef t₂ h₂)

theorem task_update (htask : TaskOk u s task) :
    ∀ t', TaskOk u s (update s.tasks t task t') := by
  refine forall_update (P := fun _ (task : PushTask) => TaskOk u s task) htask ?_
  intro t' _
  exact h.task t'

theorem moveTask {old : PushTask} (ht : s.tasks t = old) (hundec : task.Undecided → old.Undecided)
    (htask : TaskOk u s task) (hused : old ≠ .unused := by simp)
    (hmarks : ¬ old.Marks := by simp [PushTask.Marks]) :
    CooldownInv u systemID (s.setTask t task) where
  numbered := numbered_update h.numbered (ht ▸ hused)
  exclusive := h.exclusive_update (ht ▸ hundec)
  past := h.past
  spaced := h.spaced
  task := h.task_update htask
  entry := by
    rcases h.entry with ⟨t', ht'⟩ | hent
    · have hne : t' ≠ t := by
        rintro rfl
        exact hmarks (ht ▸ ht')
      refine .inl ⟨t', ?_⟩
      show (update s.tasks t task t').Marks
      rw [update_of_ne hne]
      exact ht'
    · exact .inr hent

theorem setClaim (claim : Bool) : CooldownInv u systemID { s with claim := claim } :=
  ⟨h.numbered, h.exclusive, h.past, h.spaced, h.task, h.entry⟩

theorem remove (hcooled : Cooled u s) :
    CooldownInv u systemID { s with cooldown := s.cooldown.remove systemID } :=
  ⟨h.numbered, h.exclusive, h.past, h.spaced, h.task, .inr (.inl hcooled)⟩

theorem spawn (htask : TaskOk u s task)
    (hdec : ¬ task.Undecided) : CooldownInv u systemID (s.spawn task) where
  numbered := numbered_spawn h.numbered
  exclusive := h.exclusive_update fun hundec => absurd hundec hdec
  past := h.past
  spaced := h.spaced
  task := h.task_update htask
  entry := by
    rcases h.entry with ⟨t', bin, start, ht'⟩ | hent
    · have hne : t' ≠ s.nextTask := by
        rintro rfl
        rw [h.numbered s.nextTask (Nat.le_refl _)] at ht'
        cases ht'
      refine .inl ⟨t', bin, start, ?_⟩
      show update s.tasks s.nextTask task t' = _
      rw [update_of_ne hne]
      exact ht'
    · exact .inr hent

theorem tick (elapsed : Nat) : CooldownInv u systemID { s with now := s.now + elapsed } := by
  have hcooled : Cooled u s → Cooled u { s with now := s.now + elapsed } :=
    fun hcooled x hx => Nat.le_trans (hcooled x hx) (Nat.le_add_right s.now elapsed)
  refine ⟨h.numbered, h.exclusive, ?_, h.spaced, ?_, ?_⟩
  · intro x hx
    exact Nat.le_trans (h.past x hx) (Nat.le_add_right s.now elapsed)
  · intro t
    have htask := h.task t
    show TaskOk u _ (s.tasks t)
    revert htask
    cases s.tasks t with
    | unused | done | sending | scanning | cleaning => exact id
    | deciding | marking => exact id
    | checking | comparing => exact And.imp_right (Or.imp_left hcooled)
    | expiring | pushing | claimed => exact And.imp_right hcooled
  · rcases h.entry with hmarks | hover | hent
    · exact .inl hmarks
    · exact .inr (.inl (hcooled hover))
    · exact .inr (.inr hent)

variable {bin : AgentBinary}

/-- A call that decides alone reads the entry of the last push. -/
theorem read (ht : s.tasks t = .deciding bin) (hguard : ∀ t < s.nextTask, ¬ (s.tasks t).Undecided) :
    CooldownInv u systemID
      (s.setTask t (PushState.afterRead bin (s.cooldown.store.lookup systemID))) := by
  have henabled : u.disabled = false := by
    have htask := h.task t
    rw [ht] at htask
    exact htask
  have hnone : ∀ t, ¬ (s.tasks t).Undecided := by
    intro t' hundec
    refine hguard t' (h.lt_nextTask fun hunused => ?_) hundec
    rw [hunused] at hundec
    exact hundec
  have hent := h.entry_of_decided hnone
  have htask : TaskOk u s (PushState.afterRead bin (s.cooldown.store.lookup systemID)) := by
    cases hlookup : s.cooldown.store.lookup systemID with rw [hlookup] at hent
    | none =>
      refine ⟨henabled, hent.resolve_right ?_⟩
      rintro ⟨entry, hent, _⟩
      cases hent
    | some entry =>
      refine ⟨henabled, hent.imp_right ?_⟩
      rintro ⟨entry', hent', hshields⟩
      rw [Option.some.inj hent']
      exact hshields
  refine ⟨?_, ?_, h.past, h.spaced, ?_, .inr hent⟩
  · exact numbered_update h.numbered (by simp [ht])
  · -- the call is the only one that is undecided
    have honly : ∀ t', (update s.tasks t
        (PushState.afterRead bin (s.cooldown.store.lookup systemID)) t').Undecided → t' = t := by
      refine forall_update (P := fun t' (task : PushTask) => task.Undecided → t' = t) ?_ ?_
      · intro _
        rfl
      · intro t' _ ht'
        exact absurd ht' (hnone t')
    intro t₁ t₂ h₁ h₂
    exact (honly t₁ h₁).trans (honly t₂ h₂).symm
  · exact h.task_update htask

theorem start (ht : s.tasks t = .claimed bin) :
    CooldownInv u systemID
      ({ s with starts := s.now :: s.starts }.setTask t (.marking bin s.now)) := by
  have htask := h.task t
  rw [ht] at htask
  obtain ⟨henabled, hcooled⟩ := htask
  have hundec : (s.tasks t).Undecided := by
    rw [ht]
    trivial
  refine ⟨?_, ?_, ?_, ?_, ?_, ?_⟩
  · exact numbered_update h.numbered (by simp [ht])
  · exact h.exclusive_update fun _ => hundec
  · intro x hx
    rcases List.mem_cons.mp hx with rfl | hx
    · exact Nat.le_refl _
    · exact h.past x hx
  · exact List.pairwise_cons.mpr ⟨hcooled, h.spaced⟩
  · refine forall_update (P := fun _ (task : PushTask) =>
      TaskOk u { s with starts := s.now :: s.starts } task) ?_ ?_
    · refine ⟨henabled, List.mem_cons_self, ?_⟩
      intro x hx
      rcases List.mem_cons.mp hx with rfl | hx
      · exact Nat.le_refl _
      · exact h.past x hx
    · intro t' hne
      exact taskOk_of_decided (h.task t') (fun ht' => hne (h.exclusive t' t ht' hundec)) _
  · refine .inl ⟨t, bin, s.now, ?_⟩
    exact update_self _ _ _

theorem mark {start : Nat} (ht : s.tasks t = .marking bin start) :
    CooldownInv u systemID
      ({ s with cooldown := u.markAttempted s.cooldown start s.now systemID }.setTask t
        (.sending bin)) := by
  have htask := h.task t
  rw [ht] at htask
  obtain ⟨henabled, hstart, hlast⟩ := htask
  have hlookup : (u.markAttempted s.cooldown start s.now systemID).store.lookup systemID =
      some ⟨start, s.now + (u.cooldownTtl + 5 * minute)⟩ := by
    rw [AgentUpdater.markAttempted, henabled]
    exact AList.lookup_insert _
  have hshields : Shields u s ⟨start, s.now + (u.cooldownTtl + 5 * minute)⟩ := by
    intro x hx
    have hpast := h.past x hx
    refine ⟨hlast x hx, ?_⟩
    show x + u.cooldownTtl ≤ s.now + (u.cooldownTtl + 5 * minute)
    omega
  refine ⟨?_, ?_, h.past, h.spaced, ?_, .inr (.inr ⟨_, hlookup, hshields⟩)⟩
  · exact numbered_update h.numbered (by simp [ht])
  · exact h.exclusive_update fun hsend => hsend.elim
  · exact h.task_update trivial

theorem clean (hexp : ∀ entry ∈ s.cooldown.store.lookup systemID, entry.expires < s.now) :
    CooldownInv u systemID { s with cooldown := s.cooldown.remove systemID } := by
  rcases h.entry with hmarks | hcooled | ⟨entry, hlookup, hshields⟩
  · exact ⟨h.numbered, h.exclusive, h.past, h.spaced, h.task, .inl hmarks⟩
  · exact h.remove hcooled
  · exact h.remove (hshields.cooled (hexp entry hlookup))

/-- A call that meets the condition keeps pushes a cooldown apart. -/
theorem run (hG : TaskGuard systemID s (s.tasks t))
    (hstep : s.run u systemID t = some s') : CooldownInv u systemID s' := by
  have htask := h.task t
  unfold PushState.run at hstep
  cases ht : s.tasks t with rw [ht] at htask hstep hG
  | unused | done => cases hstep
  | deciding bin =>
    cases hstep
    exact h.read ht hG
  | checking bin entry =>
    cases hstep
    refine h.moveTask ht (fun _ => trivial) ?_
    split_ifs with hexp
    · refine ⟨htask.1, ?_⟩
      rcases htask.2 with hcooled | hshields
      · exact hcooled
      · exact hshields.cooled hexp
    · exact ⟨htask.1, htask.2.imp_right fun hshields x hx => (hshields x hx).1⟩
  | expiring bin =>
    cases hstep
    exact (h.remove htask.2).moveTask ht (fun _ => trivial) htask
  | comparing bin last =>
    cases hstep
    refine h.moveTask ht (fun _ => trivial) ?_
    split_ifs with hwithin
    · trivial
    · -- no push started after `last`, so the one at `last` had the longest wait
      refine ⟨htask.1, ?_⟩
      rcases htask.2 with hcooled | hlast
      · exact hcooled
      · intro x hx
        have hpast := h.past x hx
        have hle := hlast x hx
        omega
  | pushing bin =>
    cases hstep
    unfold PushState.claimSystem
    split
    · exact h.moveTask ht (fun hdone => hdone.elim) trivial
    · exact (h.setClaim true).moveTask ht (fun _ => trivial) htask
  | claimed bin =>
    cases hstep
    exact h.start ht
  | marking bin start =>
    cases hstep
    exact h.mark ht
  | sending bin =>
    cases hstep
    exact (h.setClaim false).moveTask ht (fun hdone => hdone.elim) trivial
  | scanning now =>
    cases hstep
    refine h.moveTask ht ?_ ?_
    · split_ifs <;> exact fun hdec => hdec.elim
    · split_ifs <;> trivial
  | cleaning =>
    cases hstep
    exact (h.clean hG).moveTask ht (fun hdone => hdone.elim) trivial

end CooldownInv

/-- **One step** keeps the cooldown. -/
theorem cooldownInv_step {semver : Semver} {u : AgentUpdater} {systemID : String} {s s' : PushState}
    {a : PushAction} (h : CooldownInv u systemID s) (hG : PushGuard systemID s a)
    (hstep : pushStep semver u systemID s a = some s') : CooldownInv u systemID s' := by
  cases a with
  | update data =>
    simp only [pushStep] at hstep
    split at hstep
    · cases hstep
      exact h
    · next bin hcand =>
      cases hstep
      refine h.spawn ?_ id
      -- only an updater that is enabled has a candidate
      unfold AgentUpdater.candidate at hcand
      split_ifs at hcand with hoff
      show u.disabled = false
      simpa using fun hdis => hoff (.inl hdis)
  | cleanup =>
    cases hstep
    exact h.spawn trivial id
  | run t => exact h.run hG hstep
  | tick elapsed =>
    cases hstep
    exact h.tick elapsed

/-! ## Runs -/

/-- **Pushes are a cooldown apart**, if the cooldown of a system is read only while no other call
    is between reading it and marking its attempt, and a cleanup removes only an entry that is
    still expired. -/
theorem push_starts_spaced (semver : Semver) (u : AgentUpdater) (systemID : String) (now : Nat)
    (as : List PushAction)
    (hG : EveryStep (pushStep semver u systemID) (PushGuard systemID) (.init now) as) :
    EveryState (pushStep semver u systemID) (Spaced u.cooldownTtl) (.init now) as := by
  apply everyState_of_invariant (I := CooldownInv u systemID)
  · intro s a s' h hguard hstep
    exact cooldownInv_step h hguard hstep
  · intro s h
    exact h.spaced
  · exact CooldownInv.init now
  · exact hG

/-! ## Fixed inputs -/

def sampleSemver : Semver where
  parse text :=
    if text = "0.18.0" then some ⟨0, 18, 0, []⟩
    else if text = "1.0.5" then some ⟨1, 0, 5, []⟩
    else none
  lt v w := v.lt w.major w.minor w.patch

/-- A hub of version 1.0.5 with a binary for amd64. -/
def sampleUpdater : AgentUpdater :=
  newAgentUpdater
    ⟨sampleSemver, "", "1.0.5", some [⟨"agent-amd64", false, some [1, 2]⟩], fun _ => ""⟩

def olderAgent : AgentData := ⟨"0.18.0", some "x86_64"⟩

/-- Two updates with their pushes, more than an hour apart. -/
def pushesInTurn : List PushAction :=
  [.update olderAgent, .run 0, .run 0, .run 0, .run 0, .run 0, .tick (61 * minute),
    .update olderAgent, .run 1, .run 1, .run 1, .run 1, .run 1, .run 1]

theorem pushes_in_turn_spaced :
    ((exec (pushStep sampleSemver sampleUpdater "web") (.init 0) pushesInTurn).map (·.starts)) =
      some [61 * minute, 0] ∧
    EveryState (pushStep sampleSemver sampleUpdater "web") (Spaced sampleUpdater.cooldownTtl)
      (.init 0) pushesInTurn := by
  have hguard : EveryStep (pushStep sampleSemver sampleUpdater "web") (PushGuard "web") (.init 0)
      pushesInTurn := by
    decide +kernel
  exact ⟨by decide +kernel, push_starts_spaced sampleSemver sampleUpdater "web" 0 _ hguard⟩

/-- Two updates before the goroutine of the first one runs. -/
def overlappingPushes : List PushAction :=
  [.update olderAgent, .run 0, .tick minute, .update olderAgent, .run 1, .run 0, .run 0, .run 0,
    .run 0, .tick minute, .run 1, .run 1]

/-- **Two pushes within a cooldown**: the second update finds the system eligible because the first
    push has not marked its attempt yet, and nobody looks at the cooldown again. -/
theorem second_push_within_cooldown :
    ∃ t, exec (pushStep sampleSemver sampleUpdater "web") (.init 0) overlappingPushes = some t ∧
      t.starts = [2 * minute, minute] ∧ ¬ Spaced sampleUpdater.cooldownTtl t := by
  have hstarts : (exec (pushStep sampleSemver sampleUpdater "web") (.init 0)
      overlappingPushes).map (·.starts) = some [2 * minute, minute] := by
    decide +kernel
  obtain ⟨t, hrun, hstarts⟩ := Option.map_eq_some_iff.mp hstarts
  refine ⟨t, hrun, hstarts, ?_⟩
  rw [Spaced, hstarts]
  decide +kernel

end Bantay.Systems
