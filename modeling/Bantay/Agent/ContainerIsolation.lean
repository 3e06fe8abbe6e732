import Bantay.Agent.DockerStats
import Bantay.Lib.Isolation

/-!
# What Is Reported for a Container and the Other Containers

The values reported for a container should depend on the list entries and the responses of that
container alone.  The elements of the list and the struct for statistics are used again for other
containers, so a field that a document leaves out shows what another container left there.  A
response that is not JSON makes the decoder fail for all of them, an entry with a value of a wrong
type the whole list, and an entry without a name makes the agent panic.

The container on its own is `Own`: its entry and its responses are decoded into new values.
`OwnGuard` is what the manager needs to agree with it.
-/

namespace Bantay.Agent.Docker

open Bantay.Lib Function List DockerManager

/-! ## The container on its own -/

def Reply.map {δ ε : Type} (f : δ → ε) : Reply δ → Reply ε
  | .unreachable => .unreachable
  | .unreadable => .unreadable
  | .malformed => .malformed
  | .document doc typed => .document (f doc) typed

/-- The entry is that of the container with the short id `c`. -/
def ApiInfoDoc.BelongsTo (c : String) (doc : ApiInfoDoc) : Prop := doc.id.map shortId = some c

instance (c : String) : DecidablePred (ApiInfoDoc.BelongsTo c) :=
  fun doc => inferInstanceAs (Decidable (doc.id.map shortId = some c))

/-- What a container has to do with a step: its own entries and its own answers. -/
inductive OwnAction where
  | version (reply : Reply Bool)
  | list (cacheTimeMs : UInt16) (podman windows : Bool) (reply : Reply (List ApiInfoDoc))
  | enter
  | update (answers : Answers)
  | retry (answers : Answers)
  | finish
deriving DecidableEq

/-- The part of a step that is the data of the container. -/
def ownAction (c : String) : DockerAction → Option OwnAction
  | .version reply => some (.version reply)
  | .list cacheTimeMs podman windows reply =>
    some (.list cacheTimeMs podman windows (reply.map (·.filter (ApiInfoDoc.BelongsTo c))))
  | .enter id => if id = c then some .enter else none
  | .update _ id answers => if id = c then some (.update answers) else none
  | .retry _ id answers => if id = c then some (.retry answers) else none
  | .finish => some .finish

/-- A container whose documents are decoded into new values. -/
structure Own (φ : Type) where
  ctr : Option ApiInfo
  tracked : Tracked φ
  call : Call
  decoderFailed : Bool
  panicked : Bool

def Own.new {φ : Type} : Own φ := ⟨none, Tracked.new, ⟨0, false, false⟩, false, false⟩

section Alone

variable {φ : Type} (lib : Library φ) (excludeContainers : List String)

def Own.version (v : Own φ) (reply : Reply Bool) : Own φ :=
  let decoded := decode (fun podman _ => podman) v.decoderFailed reply false
  { v with
    call := { v.call with usingPodman := v.call.usingPodman || (decoded.ok && decoded.value) }
    decoderFailed := decoded.decoderFailed }

def Own.failList (v : Own φ) : Own φ := { v with tracked := v.tracked.reportNothing }

def Own.list (v : Own φ) (cacheTimeMs : UInt16) (podman windows : Bool) :
    Reply (List ApiInfoDoc) → Own φ
  | .unreachable | .unreadable => v.failList
  | .malformed => { v.failList with decoderFailed := true }
  | .document docs typed =>
    if v.decoderFailed || !(typed && docs.all (·.typed)) then v.failList
    else
      { v with
        ctr := docs.head?.map fun doc => doc.into ApiInfo.zero
        tracked := { v.tracked with valid := false }
        call := ⟨cacheTimeMs, v.call.usingPodman || podman, windows⟩ }

def Own.enter (v : Own φ) : Own φ :=
  match v.ctr with
  | none => v
  | some ctr =>
    match ctr.takenName? with
    | none => { v with panicked := true }
    | some name =>
      if shouldExcludeContainer lib excludeContainers name then v
      else { v with tracked := v.tracked.enter ctr.status }

def Own.update (v : Own φ) (answers : Answers) (onError : Tracked φ → Tracked φ) : Own φ :=
  match v.ctr with
  | none => v
  | some ctr =>
    let updated := updateContainerStats lib v.call ctr v.tracked ⟨ApiStats.zero, v.decoderFailed⟩
      answers
    { v with
      ctr := some updated.ctr
      tracked := if updated.ok then updated.own else onError updated.own
      decoderFailed := updated.shared.decoderFailed }

def ownStep (v : Own φ) : OwnAction → Own φ
  | .version reply => v.version reply
  | .list cacheTimeMs podman windows reply => v.list cacheTimeMs podman windows reply
  | .enter => v.enter lib excludeContainers
  | .update answers => v.update lib answers Tracked.deleteStats
  | .retry answers => v.update lib answers fun own => own
  | .finish => { v with tracked := v.tracked.finish v.call.cacheTimeMs }

end Alone

/-! ## What may show of the values that are used again -/

/-- A port leaves out nothing that the old port has. -/
def PortDoc.Fresh (doc : PortDoc) (p : Port) : Prop :=
  (doc.publicPort = none → p.publicPort = 0) ∧ (doc.ip = none → p.ip = "")

/-- An entry leaves out nothing that the old entry has. -/
def ApiInfoDoc.Fresh (doc : ApiInfoDoc) (info : ApiInfo) : Prop :=
  (doc.names = none → info.names = []) ∧ (doc.status = none → info.status = "") ∧
    (doc.image = none → info.image = "") ∧ (doc.healthStatus = none → info.healthStatus = "") ∧
    (doc.ports = none → info.ports.elems = []) ∧
    ∀ q ∈ (doc.ports.getD []).zip info.ports.cells, q.1.Fresh q.2

/-- A response leaves out nothing that the old statistics have, the networks apart. -/
def ApiStatsDoc.Fresh (doc : ApiStatsDoc) (stats : ApiStats) : Prop :=
  (doc.read = none → stats.read = zeroTime) ∧ (doc.numProcs = none → stats.numProcs = 0) ∧
    (doc.totalUsage = none → stats.totalUsage = 0) ∧
    (doc.systemUsage = none → stats.systemUsage = 0) ∧ (doc.usage = none → stats.usage = 0) ∧
    (doc.cache = none → stats.cache = 0) ∧ (doc.inactiveFile = none → stats.inactiveFile = 0) ∧
    (doc.privateWorkingSet = none → stats.privateWorkingSet = 0)

/-- Only a document shows what it is decoded into. -/
def Reply.Fresh (stats : ApiStats) : Reply ApiStatsDoc → Prop
  | .document doc _ => doc.Fresh stats
  | _ => True

/-- Every entry has an id, and the one of the container at most leaves out nothing that its element
    has. -/
def ListFresh (c : String) (cells : List ApiInfo) (docs : List ApiInfoDoc) : Prop :=
  (∀ doc ∈ docs, doc.id ≠ none) ∧
    docs.Pairwise (fun doc doc' => ¬ (doc.BelongsTo c ∧ doc'.BelongsTo c)) ∧
    ∀ q ∈ docs.zip cells, q.1.BelongsTo c → q.1.Fresh q.2

/-- An update of the container leaves out nothing that the statistics have; others are answered
    with JSON. -/
def UpdateGuard (c id : String) (stats : ApiStats) (answers : Answers) : Prop :=
  if id = c then answers.stats.Fresh stats else answers.stats ≠ .malformed

/-- The entries of the other containers have values of the right types. -/
def OthersTyped (c : String) (docs : List ApiInfoDoc) : Prop :=
  ∀ doc ∈ docs, ¬ doc.BelongsTo c → doc.typed = true
deriving Decidable

/-- What the manager needs from a step. -/
def OwnGuard {φ : Type} (c : String) (m : DockerManager φ) : DockerAction → Prop
  | .list _ _ _ (.document docs true) =>
    ListFresh c m.apiContainerList.cells docs ∧ OthersTyped c docs
  -- the loop does not panic at the entry of another container
  | .enter id => id ≠ c → ∀ ctr ∈ m.apiContainerList.elems[m.next]?, ctr.takenName? ≠ none
  | .update _ id answers => UpdateGuard c id m.shared.apiStats answers
  | .retry _ id answers => UpdateGuard c id m.shared.apiStats answers
  | _ => True

instance (doc : PortDoc) (p : Port) : Decidable (doc.Fresh p) :=
  inferInstanceAs (Decidable (_ ∧ _))

instance (doc : ApiInfoDoc) (info : ApiInfo) : Decidable (doc.Fresh info) :=
  inferInstanceAs (Decidable (_ ∧ _))

instance (doc : ApiStatsDoc) (stats : ApiStats) : Decidable (doc.Fresh stats) :=
  inferInstanceAs (Decidable (_ ∧ _))

instance (stats : ApiStats) (reply : Reply ApiStatsDoc) : Decidable (reply.Fresh stats) := by
  unfold Reply.Fresh
  split <;> infer_instance

instance (c : String) (cells : List ApiInfo) (docs : List ApiInfoDoc) :
    Decidable (ListFresh c cells docs) :=
  inferInstanceAs (Decidable (_ ∧ _))

instance (c id : String) (stats : ApiStats) (answers : Answers) :
    Decidable (UpdateGuard c id stats answers) :=
  inferInstanceAs (Decidable (if id = c then _ else _))

instance {φ : Type} (c : String) (m : DockerManager φ) (a : DockerAction) :
    Decidable (OwnGuard c m a) := by
  unfold OwnGuard
  split <;> infer_instance

/-! ## Decoding into old and into new values -/

/-- The entry without what its slice keeps beyond its length. -/
def ApiInfo.visible (ctr : ApiInfo) : ApiInfo := { ctr with ports := ⟨ctr.ports.elems, []⟩ }

theorem visible_clearPorts (ctr : ApiInfo) : ctr.visible.clearPorts = ctr.clearPorts.visible := by
  by_cases h : ctr.ports.elems = []
  · simp [ApiInfo.clearPorts, ApiInfo.visible, h]
  · simp [ApiInfo.clearPorts, ApiInfo.visible, h, Slice.nil]

variable {α : Type} {stats : ApiStats}

theorem getD_eq_of_fresh {o : Option α} {old zero : α} (h : o = none → old = zero) :
    o.getD old = o.getD zero := by
  cases o with
  | none => exact h rfl
  | some a => rfl

theorem PortDoc.into_eq_zero {doc : PortDoc} {p : Port} (h : doc.Fresh p) :
    doc.into p = doc.into Port.zero := by
  obtain ⟨hport, hip⟩ := h
  simp only [PortDoc.into, Port.zero, getD_eq_of_fresh hport, getD_eq_of_fresh hip]

theorem ApiInfoDoc.visible_into {doc : ApiInfoDoc} {info : ApiInfo} (h : doc.Fresh info)
    (hid : doc.id ≠ none) : (doc.into info).visible = doc.into ApiInfo.zero := by
  obtain ⟨hnames, hstat, himage, hhealth, hnone, hports⟩ := h
  have hid' : doc.id.getD info.id = doc.id.getD "" := getD_eq_of_fresh fun hn => absurd hn hid
  simp only [ApiInfo.visible, ApiInfoDoc.into, ApiInfo.zero, hid', getD_eq_of_fresh hnames,
    getD_eq_of_fresh hstat, getD_eq_of_fresh himage, getD_eq_of_fresh hhealth]
  cases hdoc : doc.ports with
  | none => simp only [hnone hdoc, Slice.nil]
  | some ports =>
    rw [hdoc] at hports
    have helems : (Slice.decode PortDoc.into Port.zero ports info.ports).elems =
        ports.map fun doc => doc.into Port.zero :=
      Slice.decode_elems_eq_map fun q hq => PortDoc.into_eq_zero (hports q hq)
    simp only [helems, Slice.decode_nil]

theorem ApiStatsDoc.into_eq_zero {doc : ApiStatsDoc} (h : doc.Fresh stats) :
    doc.into { stats with networks := [] } = doc.into ApiStats.zero := by
  obtain ⟨hread, hprocs, htot, hsys, husage, hcache, hinactive, hprivate⟩ := h
  simp only [ApiStatsDoc.into, ApiStats.zero, getD_eq_of_fresh hread, getD_eq_of_fresh hprocs,
    getD_eq_of_fresh htot, getD_eq_of_fresh hsys, getD_eq_of_fresh husage,
    getD_eq_of_fresh hcache, getD_eq_of_fresh hinactive, getD_eq_of_fresh hprivate]

theorem decode_ok_congr {δ : Type} (into : δ → α → α) (decoderFailed : Bool) (reply : Reply δ)
    (old new : α) : (decode into decoderFailed reply old).ok =
      (decode into decoderFailed reply new).ok ∧
      (decode into decoderFailed reply old).decoderFailed =
      (decode into decoderFailed reply new).decoderFailed := by
  cases reply with
  | document doc typed => cases decoderFailed <;> exact ⟨rfl, rfl⟩
  | unreachable | unreadable | malformed => exact ⟨rfl, rfl⟩

theorem decode_value_of_fresh {reply : Reply ApiStatsDoc} (hfresh : reply.Fresh stats)
    {decoderFailed : Bool}
    (hok : (decode ApiStatsDoc.into decoderFailed reply { stats with networks := [] }).ok = true) :
    (decode ApiStatsDoc.into decoderFailed reply { stats with networks := [] }).value =
      (decode ApiStatsDoc.into decoderFailed reply
        { ApiStats.zero with networks := [] }).value := by
  cases reply with
  | document doc typed =>
    cases decoderFailed with
    | true => exact absurd hok Bool.false_ne_true
    | false => exact ApiStatsDoc.into_eq_zero hfresh
  | unreachable | unreadable | malformed => exact absurd hok Bool.false_ne_true

section Isolation

variable {φ : Type} {lib : Library φ} {excludeContainers : List String} {c : String}
  {m m' : DockerManager φ} {v : Own φ} {i : ℕ} {id : String} {answers : Answers} {ctr : ApiInfo}
  {docs : List ApiInfoDoc}

/-! ## One update -/

theorem updateContainerStats_alone (lib : Library φ) (call : Call) (ctr : ApiInfo) (own : Tracked φ)
    (shared : Shared)
    (hfresh : answers.stats.Fresh shared.apiStats) :
    let updated := updateContainerStats lib call ctr own shared answers
    let alone := updateContainerStats lib call ctr.visible own
      ⟨ApiStats.zero, shared.decoderFailed⟩ answers
    alone.ctr = updated.ctr.visible ∧ alone.own = updated.own ∧ alone.ok = updated.ok ∧
      alone.shared.decoderFailed = updated.shared.decoderFailed := by
  intro updated alone
  obtain ⟨hok, hfail⟩ := decode_ok_congr ApiStatsDoc.into shared.decoderFailed answers.stats
    { ApiStats.zero with networks := [] } { shared.apiStats with networks := [] }
  have hreset : resetStats lib call ctr.visible own answers =
      resetStats lib call ctr own answers := rfl
  by_cases hun : answers.stats = .unreachable
  · simp only [updated, alone, updateContainerStats, if_pos hun, and_self]
  · cases hdec : (decode ApiStatsDoc.into shared.decoderFailed answers.stats
        { shared.apiStats with networks := [] }).ok with
    | false =>
      -- Nothing is measured: what is left comes from the entry in the list.
      simp only [updated, alone, updateContainerStats, if_neg hun, hok, hfail, hdec, hreset,
        visible_clearPorts, Bool.false_eq_true, if_false, and_self]
    | true =>
      have hval := decode_value_of_fresh hfresh hdec
      simp only [updated, alone, updateContainerStats, if_neg hun, hok, hfail, hdec, hreset,
        ← hval, visible_clearPorts, if_true, and_self]

theorem updateContainerStats_idShort (lib : Library φ) (call : Call) (ctr : ApiInfo)
    (own : Tracked φ) (shared : Shared) (answers : Answers) :
    (updateContainerStats lib call ctr own shared answers).ctr.idShort = ctr.idShort := by
  have hclear : ctr.clearPorts.idShort = ctr.idShort := by
    unfold ApiInfo.clearPorts
    split <;> rfl
  unfold updateContainerStats
  split
  · rfl
  · dsimp only
    split <;> exact hclear

theorem updateContainerStats_decoderFailed (lib : Library φ) (call : Call) (ctr : ApiInfo)
    (own : Tracked φ) (shared : Shared) (hjson : answers.stats ≠ .malformed) :
    (updateContainerStats lib call ctr own shared answers).shared.decoderFailed =
      shared.decoderFailed := by
  have hdecode : (decode ApiStatsDoc.into shared.decoderFailed answers.stats
      { shared.apiStats with networks := [] }).decoderFailed = shared.decoderFailed := by
    cases hstats : answers.stats with
    | document doc typed => cases hf : shared.decoderFailed <;> simp [decode]
    | unreachable | unreadable => rfl
    | malformed => exact absurd hstats hjson
  unfold updateContainerStats
  split
  · rfl
  · dsimp only
    split <;> exact hdecode

/-! ## The simulation -/

/-- The manager holds of the container what the container on its own has. -/
structure Sim (c : String) (m : DockerManager φ) (v : Own φ) : Prop where
  tracked : m.tracked c = v.tracked
  call : m.call = v.call
  decoderFailed : m.shared.decoderFailed = v.decoderFailed
  panicked : m.panicked = v.panicked
  ctr : m.busy = true → ∀ (i : ℕ) (ctr : ApiInfo),
    m.apiContainerList.elems[i]? = some ctr → ctr.idShort = c → v.ctr = some ctr.visible
  unique : m.busy = true → ∀ (i j : ℕ) (ctr ctr' : ApiInfo),
    m.apiContainerList.elems[i]? = some ctr → m.apiContainerList.elems[j]? = some ctr' →
    ctr.idShort = c → ctr'.idShort = c → i = j

theorem Sim.of_idle (htrk : m.tracked c = v.tracked) (hcall : m.call = v.call)
    (hfail : m.shared.decoderFailed = v.decoderFailed) (hpanic : m.panicked = v.panicked)
    (hidle : m.busy = false) : Sim c m v where
  tracked := htrk
  call := hcall
  decoderFailed := hfail
  panicked := hpanic
  ctr := by simp [hidle]
  unique := by simp [hidle]

theorem sim_new (c : String) : Sim c (newDockerManager : DockerManager φ) Own.new :=
  Sim.of_idle rfl rfl rfl rfl rfl

/-! ## The version -/

theorem sim_version {reply : Reply Bool} (h : Sim c m v) :
    Sim c (m.checkDockerVersion reply) (v.version reply) where
  tracked := h.tracked
  call := by simp only [DockerManager.checkDockerVersion, Own.version, h.call, h.decoderFailed]
  decoderFailed := by
    simp only [DockerManager.checkDockerVersion, Own.version, h.decoderFailed]
  panicked := h.panicked
  ctr := h.ctr
  unique := h.unique

/-! ## Lists -/

theorem ApiInfoDoc.fresh_zero (doc : ApiInfoDoc) : doc.Fresh ApiInfo.zero :=
  ⟨fun _ => rfl, fun _ => rfl, fun _ => rfl, fun _ => rfl, fun _ => rfl,
    by simp [ApiInfo.zero, Slice.cells, Slice.nil]⟩

variable {doc : ApiInfoDoc} {j : ℕ} {cells list : Slice ApiInfo} {cacheTimeMs : UInt16}
  {podman windows : Bool} {new : ApiInfo}

theorem filter_eq_singleton
    (hpair : docs.Pairwise fun doc doc' => ¬ (doc.BelongsTo c ∧ doc'.BelongsTo c))
    (hmem : doc ∈ docs) (hown : doc.BelongsTo c) :
    docs.filter (ApiInfoDoc.BelongsTo c) = [doc] := by
  have hall : ∀ d ∈ docs.filter (ApiInfoDoc.BelongsTo c), d.BelongsTo c := by
    intro d hd
    simpa using (mem_filter.mp hd).2
  have hdoc : doc ∈ docs.filter (ApiInfoDoc.BelongsTo c) := by
    simpa using ⟨hmem, hown⟩
  have hpair' := hpair.sublist (filter_sublist (p := ApiInfoDoc.BelongsTo c))
  match hlist : docs.filter (ApiInfoDoc.BelongsTo c) with
  | [] => simp [hlist] at hdoc
  | [d] =>
    rw [hlist, mem_singleton] at hdoc
    rw [hlist, hdoc]
  | d :: d' :: rest =>
    rw [hlist] at hpair' hall
    exact absurd ⟨hall d (by simp), hall d' (by simp)⟩ (rel_of_pairwise_cons hpair' (by simp))

theorem index_unique {doc' : ApiInfoDoc}
    (hpair : docs.Pairwise fun doc doc' => ¬ (doc.BelongsTo c ∧ doc'.BelongsTo c))
    (hi : docs[i]? = some doc) (hj : docs[j]? = some doc') (hown : doc.BelongsTo c)
    (hown' : doc'.BelongsTo c) : i = j := by
  obtain ⟨hilt, rfl⟩ := List.getElem?_eq_some_iff.mp hi
  obtain ⟨hjlt, rfl⟩ := List.getElem?_eq_some_iff.mp hj
  have hdiff := pairwise_iff_getElem.mp hpair
  rcases lt_trichotomy i j with hlt | heq | hgt
  · exact absurd ⟨hown, hown'⟩ (hdiff i j hilt hjlt hlt)
  · exact heq
  · exact absurd ⟨hown', hown⟩ (hdiff j i hjlt hilt hgt)

theorem entry_belongs (hids : ∀ doc ∈ docs, doc.id ≠ none)
    (hctr : (Slice.decode ApiInfoDoc.into ApiInfo.zero docs cells).elems[i]? = some ctr)
    (hown : ctr.idShort = c) :
    ∃ doc, docs[i]? = some doc ∧ doc.id ≠ none ∧ doc.BelongsTo c ∧
      ctr = doc.into (cells.cells.getD i ApiInfo.zero) := by
  rw [Slice.getElem?_decode] at hctr
  obtain ⟨doc, hdoc, rfl⟩ := Option.map_eq_some_iff.mp hctr
  have hid : doc.id ≠ none := hids doc (mem_of_getElem? hdoc)
  refine ⟨doc, hdoc, hid, ?_, rfl⟩
  obtain ⟨id, hid'⟩ := Option.ne_none_iff_exists'.mp hid
  simpa [ApiInfoDoc.BelongsTo, hid', ApiInfo.idShort, ApiInfoDoc.into] using hown

theorem entry_of_list (hfresh : ListFresh c cells.cells docs)
    (hctr : (Slice.decode ApiInfoDoc.into ApiInfo.zero docs cells).elems[i]? = some ctr)
    (hown : ctr.idShort = c) :
    ∃ doc, docs[i]? = some doc ∧ doc.BelongsTo c ∧ ctr.visible = doc.into ApiInfo.zero := by
  obtain ⟨hids, _, hzip⟩ := hfresh
  obtain ⟨doc, hdoc, hid, hbelongs, rfl⟩ := entry_belongs hids hctr hown
  refine ⟨doc, hdoc, hbelongs, ApiInfoDoc.visible_into ?_ hid⟩
  rw [getD_eq_getElem?_getD]
  cases hcell : cells.cells[i]? with
  | none => exact doc.fresh_zero
  | some info =>
    have hmem : (doc, info) ∈ docs.zip cells.cells := by
      refine mem_of_getElem? (i := i) ?_
      rw [List.getElem?_zip_eq_some]
      exact ⟨hdoc, hcell⟩
    exact hzip (doc, info) hmem hbelongs

theorem list_document (m : DockerManager φ) (hfail : m.shared.decoderFailed = false)
    (cacheTimeMs : UInt16) (podman windows : Bool) (htyped : docs.all (·.typed) = true) :
    m.list cacheTimeMs podman windows (.document docs true) =
      { m with
        apiContainerList :=
          Slice.decode ApiInfoDoc.into ApiInfo.zero docs m.apiContainerList.truncate
        shared := ⟨m.shared.apiStats, false⟩
        call := ⟨cacheTimeMs, m.call.usingPodman || podman, windows⟩
        dockerVersionChecked := m.dockerVersionChecked || podman
        tracked := fun id => { m.tracked id with valid := false }
        busy := true
        next := 0 } := by
  simp [list, Reply.entriesTyped, decode, hfail, htyped]

/-- With the other entries of the right types, those of the container decide about the list. -/
theorem all_typed_filter (hother : OthersTyped c docs) :
    (docs.filter (ApiInfoDoc.BelongsTo c)).all (·.typed) = docs.all (·.typed) := by
  rw [Bool.eq_iff_iff, all_eq_true, all_eq_true]
  constructor
  · intro h doc hdoc
    by_cases hown : doc.BelongsTo c
    · exact h doc (mem_filter.mpr ⟨hdoc, decide_eq_true hown⟩)
    · exact hother doc hdoc hown
  · exact fun h doc hdoc => h doc (mem_filter.mp hdoc).1

theorem sim_list_document (h : Sim c m v) (hfail : v.decoderFailed = false)
    (hfresh : ListFresh c m.apiContainerList.cells docs) (hother : OthersTyped c docs)
    (htyped : docs.all (·.typed) = true) :
    Sim c (m.list cacheTimeMs podman windows (.document docs true))
      (v.list cacheTimeMs podman windows
        (.document (docs.filter (ApiInfoDoc.BelongsTo c)) true)) := by
  rw [list_document m (h.decoderFailed.trans hfail) _ _ _ htyped]
  simp only [Own.list, hfail, all_typed_filter hother, htyped, Bool.and_self, Bool.not_true,
    Bool.or_self, Bool.false_eq_true, if_false]
  constructor
  case tracked => simp only [h.tracked]
  case call => simp only [h.call]
  case decoderFailed => rfl
  case panicked => exact h.panicked
  case ctr =>
    intro _ i ctr hctr hown
    obtain ⟨doc, hdoc, hbelongs, hvisible⟩ := entry_of_list hfresh hctr hown
    rw [filter_eq_singleton hfresh.2.1 (mem_of_getElem? hdoc) hbelongs, hvisible]
    rfl
  case unique =>
    intro _ i j ctr ctr' hi hj howni hownj
    obtain ⟨doc, hdoc, hbelongs, _⟩ := entry_of_list hfresh hi howni
    obtain ⟨doc', hdoc', hbelongs', _⟩ := entry_of_list hfresh hj hownj
    exact index_unique hfresh.2.1 hdoc hdoc' hbelongs hbelongs'

theorem sim_list {reply : Reply (List ApiInfoDoc)} (h : Sim c m v) (hidle : m.busy = false)
    (hG : OwnGuard c m (.list cacheTimeMs podman windows reply)) :
    Sim c (m.list cacheTimeMs podman windows reply)
      (v.list cacheTimeMs podman windows (reply.map (·.filter (ApiInfoDoc.BelongsTo c)))) := by
  have hfail := h.decoderFailed
  have htrk : (m.tracked c).reportNothing = v.tracked.reportNothing := by rw [h.tracked]
  cases reply with
  | unreachable => exact Sim.of_idle htrk h.call hfail h.panicked hidle
  | unreadable => exact Sim.of_idle htrk h.call hfail h.panicked hidle
  | malformed => exact Sim.of_idle htrk h.call rfl h.panicked hidle
  | document docs typed =>
    -- The call goes on after the list only if the decoder works and the types are right.
    cases hf : v.decoderFailed with
    | true =>
      simp only [list, Reply.entriesTyped, decode, Own.list, Reply.map, hf, hfail]
      exact Sim.of_idle htrk h.call hf.symm h.panicked hidle
    | false =>
      cases typed with
      | false =>
        simp only [list, Reply.entriesTyped, decode, Own.list, Reply.map, hf, hfail]
        exact Sim.of_idle htrk h.call hf.symm h.panicked hidle
      | true =>
        cases htyped : docs.all (·.typed) with
        | true => exact sim_list_document h hf hG.1 hG.2 htyped
        | false =>
          simp only [list, Reply.entriesTyped, decode, Own.list, Reply.map, hf,
            hfail, all_typed_filter hG.2, htyped]
          exact Sim.of_idle htrk h.call hf.symm h.panicked hidle

/-! ## Iterations of the loop -/

/-- An iteration panics, or takes the entry. -/
theorem enter_eq_some (hs : m.enter lib excludeContainers id = some m') :
    ∃ ctr, m.apiContainerList.elems[m.next]? = some ctr ∧ m.busy = true ∧ ctr.idShort = id ∧
      (ctr.takenName? = none ∧ m' = { m with panicked := true } ∨
        ∃ name, ctr.takenName? = some name ∧
          m' = if shouldExcludeContainer lib excludeContainers name then
              { m with next := m.next + 1 }
            else
              { m with
                next := m.next + 1
                running := m.running ++ [m.next]
                tracked := update m.tracked id ((m.tracked id).enter ctr.status) }) := by
  unfold enter at hs
  cases hctr : m.apiContainerList.elems[m.next]? with
  | none => simp [hctr] at hs
  | some ctr =>
    simp only [hctr] at hs
    split at hs
    case isFalse => cases hs
    case isTrue hcond =>
      obtain ⟨hbusy, hid⟩ := hcond
      refine ⟨ctr, rfl, hbusy, hid, ?_⟩
      cases hname : ctr.takenName? with
      | none =>
        simp only [hname, Option.some.injEq] at hs
        exact .inl ⟨rfl, hs.symm⟩
      | some name =>
        simp only [hname] at hs
        refine .inr ⟨name, rfl, ?_⟩
        split at hs
        case isTrue hex =>
          rw [if_pos hex]
          exact (Option.some.inj hs).symm
        case isFalse hex =>
          rw [if_neg hex]
          exact (Option.some.inj hs).symm

theorem Sim.of_tracked {own : Tracked φ} (h : Sim c m v) (htrk : m'.tracked c = own)
    (hlist : m'.apiContainerList = m.apiContainerList) (hshared : m'.shared = m.shared)
    (hcall : m'.call = m.call) (hpanic : m'.panicked = m.panicked) (hbusy : m'.busy = m.busy) :
    Sim c m' { v with tracked := own } where
  tracked := htrk
  call := hcall.trans h.call
  decoderFailed := by rw [hshared]; exact h.decoderFailed
  panicked := hpanic.trans h.panicked
  ctr := by rw [hlist, hbusy]; exact h.ctr
  unique := by rw [hlist, hbusy]; exact h.unique

theorem sim_enter_own (h : Sim c m v) (hs : m.enter lib excludeContainers c = some m') :
    Sim c m' (v.enter lib excludeContainers) := by
  obtain ⟨ctr, hctr, hbusy, hid, hcases⟩ := enter_eq_some hs
  have hv : v.ctr = some ctr.visible := h.ctr hbusy m.next ctr hctr hid
  -- The entry that decides is the one that both have.
  have hname : ctr.visible.takenName? = ctr.takenName? := rfl
  unfold Own.enter
  rcases hcases with ⟨hnone, rfl⟩ | ⟨name, hsome, rfl⟩
  · simp only [hv, hname, hnone]
    exact ⟨h.tracked, h.call, h.decoderFailed, rfl, hv ▸ h.ctr, h.unique⟩
  simp only [hv, hname, hsome]
  split
  · exact h.of_tracked h.tracked rfl rfl rfl rfl rfl
  · rw [← hv]
    refine h.of_tracked ?_ rfl rfl rfl rfl rfl
    calc update m.tracked c ((m.tracked c).enter ctr.status) c
        = (m.tracked c).enter ctr.status := update_self _ _ _
      _ = v.tracked.enter ctr.visible.status := by rw [h.tracked]; rfl

theorem sim_enter_other (h : Sim c m v) (hne : id ≠ c)
    (hG : ∀ ctr ∈ m.apiContainerList.elems[m.next]?, ctr.takenName? ≠ none)
    (hs : m.enter lib excludeContainers id = some m') : Sim c m' v := by
  obtain ⟨ctr, hctr, _, _, ⟨hnone, _⟩ | ⟨name, _, rfl⟩⟩ := enter_eq_some hs
  · exact absurd hnone (hG ctr hctr)
  split
  · exact h.of_tracked h.tracked rfl rfl rfl rfl rfl
  · exact h.of_tracked ((update_of_ne hne.symm _ _).trans h.tracked) rfl rfl rfl rfl rfl

/-! ## Updates -/

theorem Sim.with_pending (h : Sim c m v) (running failed : List ℕ) :
    Sim c { m with running, failed } v :=
  ⟨h.tracked, h.call, h.decoderFailed, h.panicked, h.ctr, h.unique⟩

theorem getElem?_set_elems {ctr : ApiInfo} (h : (list.set i new).elems[j]? = some ctr) :
    (j = i ∧ ctr = new) ∨ (j ≠ i ∧ list.elems[j]? = some ctr) := by
  simp only [Slice.set, List.getElem?_set] at h
  by_cases hij : i = j
  · rw [if_pos hij] at h
    split at h
    · exact .inl ⟨hij.symm, (Option.some.inj h).symm⟩
    · cases h
  · rw [if_neg hij] at h
    exact .inr ⟨Ne.symm hij, h⟩

/-- A replaced entry keeps its container, so the container still has one entry. -/
theorem unique_set {old : ApiInfo} (hold : list.elems[i]? = some old)
    (hid : new.idShort = old.idShort)
    (hunique : ∀ (j k : ℕ) (ctr ctr' : ApiInfo), list.elems[j]? = some ctr →
      list.elems[k]? = some ctr' → ctr.idShort = c → ctr'.idShort = c → j = k) :
    ∀ (j k : ℕ) (ctr ctr' : ApiInfo), (list.set i new).elems[j]? = some ctr →
      (list.set i new).elems[k]? = some ctr' → ctr.idShort = c → ctr'.idShort = c → j = k := by
  -- Every entry of the new list has an entry of the same container at its position.
  have hback : ∀ (j : ℕ) (ctr : ApiInfo), (list.set i new).elems[j]? = some ctr →
      ∃ ctr', list.elems[j]? = some ctr' ∧ ctr'.idShort = ctr.idShort := by
    intro j ctr hj
    rcases getElem?_set_elems hj with ⟨rfl, rfl⟩ | ⟨_, hj'⟩
    · exact ⟨old, hold, hid.symm⟩
    · exact ⟨ctr, hj', rfl⟩
  intro j k ctr ctr' hj hk hown hown'
  obtain ⟨ctr₀, hj₀, heq⟩ := hback j ctr hj
  obtain ⟨ctr₁, hk₁, heq'⟩ := hback k ctr' hk
  exact hunique j k ctr₀ ctr₁ hj₀ hk₁ (heq.trans hown) (heq'.trans hown')

theorem sim_updateAt_own (lib : Library φ) (onError : Tracked φ → Tracked φ) (h : Sim c m v)
    (hbusy : m.busy = true) (hctr : m.apiContainerList.elems[i]? = some ctr) (hid : ctr.idShort = c)
    (hfresh : answers.stats.Fresh m.shared.apiStats) :
    Sim c (m.updateAt lib i c ctr answers onError).1 (v.update lib answers onError) := by
  have hv : v.ctr = some ctr.visible := h.ctr hbusy i ctr hctr hid
  obtain ⟨halone, hown, hok, hfail⟩ :=
    updateContainerStats_alone lib m.call ctr (m.tracked c) m.shared hfresh
  rw [h.tracked, h.call, h.decoderFailed] at halone hown hok hfail
  unfold Own.update
  simp only [hv, updateAt, h.tracked, h.call, halone, hown, hok, hfail]
  constructor
  case tracked => exact update_self _ _ _
  case call => rfl
  case decoderFailed => rfl
  case panicked => exact h.panicked
  case ctr =>
    intro _ j ctr' hj hown'
    rcases getElem?_set_elems hj with ⟨_, rfl⟩ | ⟨hne, hj'⟩
    · rfl
    · exact absurd (h.unique hbusy j i ctr' ctr hj' hctr hown' hid) hne
  case unique =>
    intro _
    exact unique_set hctr (updateContainerStats_idShort ..) (h.unique hbusy)

theorem sim_updateAt_other (lib : Library φ) (onError : Tracked φ → Tracked φ) (h : Sim c m v)
    (hne : id ≠ c) (hctr : m.apiContainerList.elems[i]? = some ctr) (hid : ctr.idShort = id)
    (hjson : answers.stats ≠ .malformed) : Sim c (m.updateAt lib i id ctr answers onError).1 v := by
  have hkeep := updateContainerStats_idShort lib m.call ctr (m.tracked id) m.shared answers
  constructor
  case tracked =>
    rw [← h.tracked]
    exact update_of_ne hne.symm _ _
  case call => exact h.call
  case decoderFailed =>
    rw [← h.decoderFailed]
    exact updateContainerStats_decoderFailed lib m.call ctr (m.tracked id) m.shared hjson
  case panicked => exact h.panicked
  case ctr =>
    intro hbusy j ctr' hj hown
    rcases getElem?_set_elems hj with ⟨_, rfl⟩ | ⟨_, hj'⟩
    · exact absurd ((hkeep.trans hid).symm.trans hown) hne
    · exact h.ctr hbusy j ctr' hj' hown
  case unique =>
    intro hbusy
    exact unique_set hctr hkeep (h.unique hbusy)

theorem sim_updateAt (lib : Library φ) (onError : Tracked φ → Tracked φ) (h : Sim c m v)
    (hbusy : m.busy = true) (hctr : m.apiContainerList.elems[i]? = some ctr)
    (hid : ctr.idShort = id) (hG : UpdateGuard c id m.shared.apiStats answers) :
    Sim c (m.updateAt lib i id ctr answers onError).1
      (if id = c then v.update lib answers onError else v) := by
  unfold UpdateGuard at hG
  by_cases hown : id = c
  · rw [if_pos hown] at hG ⊢
    rw [hown] at hid ⊢
    exact sim_updateAt_own lib onError h hbusy hctr hid hG
  · rw [if_neg hown] at hG ⊢
    exact sim_updateAt_other lib onError h hown hctr hid hG

theorem update_eq_some (hs : m.update lib i id answers = some m') :
    ∃ ctr, m.apiContainerList.elems[i]? = some ctr ∧ m.busy = true ∧ i ∈ m.running ∧
      ctr.idShort = id ∧
      m' =
        { (m.updateAt lib i id ctr answers Tracked.deleteStats).1 with
          running := m.running.erase i
          failed := if (m.updateAt lib i id ctr answers Tracked.deleteStats).2 then m.failed
            else m.failed ++ [i] } := by
  unfold DockerManager.update at hs
  cases hctr : m.apiContainerList.elems[i]? with
  | none => simp [hctr] at hs
  | some ctr =>
    simp only [hctr] at hs
    split at hs
    case isFalse => cases hs
    case isTrue hcond =>
      exact ⟨ctr, rfl, hcond.1, hcond.2.1, hcond.2.2, (Option.some.inj hs).symm⟩

theorem retry_eq_some (hs : m.retry lib i id answers = some m') :
    ∃ ctr, m.apiContainerList.elems[i]? = some ctr ∧ m.busy = true ∧ i ∈ m.failed ∧
      ctr.idShort = id ∧
      m' =
        { (m.updateAt lib i id ctr answers fun own => own).1 with
          failed := m.failed.erase i } := by
  unfold retry at hs
  cases hctr : m.apiContainerList.elems[i]? with
  | none => simp [hctr] at hs
  | some ctr =>
    simp only [hctr] at hs
    split at hs
    case isFalse => cases hs
    case isTrue hcond =>
      exact ⟨ctr, rfl, hcond.1, hcond.2.2.2.1, hcond.2.2.2.2, (Option.some.inj hs).symm⟩

/-! ## Runs -/

theorem sim_finish (h : Sim c m v) (hs : m.finish = some m') :
    Sim c m' { v with tracked := v.tracked.finish v.call.cacheTimeMs } := by
  unfold finish at hs
  split at hs
  case isFalse => cases hs
  case isTrue =>
    cases hs
    refine Sim.of_idle ?_ h.call h.decoderFailed h.panicked rfl
    simp only [h.tracked, h.call]

/-- **One step** of the manager is one step of the container, or none. -/
theorem sim_step {a : DockerAction} (h : Sim c m v) (hG : OwnGuard c m a)
    (hs : dockerStep lib excludeContainers m a = some m') :
    Sim c m' (((ownAction c a).map (ownStep lib excludeContainers v)).getD v) := by
  cases a with
  | version reply =>
    simp only [dockerStep] at hs
    split at hs
    case isTrue => cases hs
    case isFalse =>
      cases hs
      exact sim_version h
  | list cacheTimeMs podman windows reply =>
    simp only [dockerStep] at hs
    split at hs
    case isTrue => cases hs
    case isFalse hidle =>
      cases hs
      exact sim_list h (Bool.eq_false_iff.mpr hidle) hG
  | enter id =>
    by_cases hown : id = c
    · subst hown
      simpa [ownAction, ownStep] using sim_enter_own h hs
    · simpa [ownAction, hown] using sim_enter_other h hown (hG hown) hs
  | update i id answers =>
    obtain ⟨ctr, hctr, hbusy, _, hid, rfl⟩ := update_eq_some hs
    have hsim := sim_updateAt lib Tracked.deleteStats h hbusy hctr hid hG
    by_cases hown : id = c
    · simpa [ownAction, ownStep, hown] using hsim.with_pending _ _
    · simpa [ownAction, hown] using hsim.with_pending _ _
  | retry i id answers =>
    obtain ⟨ctr, hctr, hbusy, _, hid, rfl⟩ := retry_eq_some hs
    have hsim := sim_updateAt lib (fun own => own) h hbusy hctr hid hG
    by_cases hown : id = c
    · simpa [ownAction, ownStep, hown] using hsim.with_pending _ _
    · simpa [ownAction, hown] using hsim.with_pending _ _
  | finish => exact sim_finish h hs

/-- **A run acts on the container as its own steps do**, under the guard. -/
theorem simulates_own {as : List DockerAction} {t : DockerManager φ}
    (hG : EveryStep (dockerStep lib excludeContainers) (OwnGuard c) newDockerManager as)
    (hrun : exec (dockerStep lib excludeContainers) newDockerManager as = some t) :
    Sim c t ((as.filterMap (ownAction c)).foldl (ownStep lib excludeContainers) Own.new) := by
  refine exec_project ?_ ?_ (sim_new c) hG hrun
  · intro m v a b m' h hG hs hown
    simpa only [hown, Option.map_some, Option.getD_some] using sim_step h hG hs
  · intro m v a m' h hG hs hother
    simpa only [hother, Option.map_none, Option.getD_none] using sim_step h hG hs

/-- **Isolation of a container**: two runs with the same entries and responses of the container
    report the same for it and panic or not alike, if what these documents leave out is zero in the
    values that are used again, and the other containers have complete entries of the right types
    and are answered with JSON. -/
theorem reports_depend_on_own_data (lib : Library φ) (excludeContainers : List String) (c : String)
    {as as' : List DockerAction} {t t' : DockerManager φ}
    (hown : as.filterMap (ownAction c) = as'.filterMap (ownAction c))
    (hG : EveryStep (dockerStep lib excludeContainers) (OwnGuard c) newDockerManager as)
    (hG' : EveryStep (dockerStep lib excludeContainers) (OwnGuard c) newDockerManager as')
    (hrun : exec (dockerStep lib excludeContainers) newDockerManager as = some t)
    (hrun' : exec (dockerStep lib excludeContainers) newDockerManager as' = some t') :
    (t.tracked c).reports = (t'.tracked c).reports ∧ t.panicked = t'.panicked := by
  have hsim := simulates_own hG hrun
  have hsim' := simulates_own hG' hrun'
  rw [hsim.tracked, hsim'.tracked, hsim.panicked, hsim'.panicked, hown]
  exact ⟨rfl, rfl⟩

end Isolation

/-! ## Runs with two containers -/

/-- Numbers in place of `float64`, and names without patterns. -/
def sampleLibrary : Library ℕ where
  zero := 0
  percent := fun part whole => part.toNat * 100 / whole.toNat
  exceeds100 := fun pct => decide (100 < pct)
  twoDecimals := fun pct => pct
  bytesToMegabytes := fun bytes => bytes.toNat / 1048576
  pathMatch := fun pattern name => pattern = name
  sortPorts := fun ports => ports
  toLower := fun text => text.map Char.toLower

/-- An entry of a container that has been up for a while, with the health the API has for it. -/
def sampleEntry (id name : String) (health : Option String) : ApiInfoDoc :=
  ⟨some id, some [name], some "Up 5 minutes", some "image", health, some [], true⟩

def sampleStats (cpu system memory : UInt64) : ApiStatsDoc :=
  ⟨some 0, some 0, some [⟨100, 200⟩], some cpu, some system, some memory, none, some 0, none⟩

/-- The message of an error has none of the fields. -/
def noStats : ApiStatsDoc := ⟨none, none, none, none, none, none, none, none, none⟩

def sampleAnswers (doc : ApiStatsDoc) : Answers := ⟨.document doc true, none, 0, 0⟩

/-- A call for the containers `web` and `db`, in which `web` is updated first. -/
def webFirst (memory : UInt64) : List DockerAction :=
  [.list 1000 false false (.document [sampleEntry "web000000000" "/web" none,
      sampleEntry "db0000000000" "/db" none] true),
    .enter "web000000000", .enter "db0000000000",
    .update 0 "web000000000" (sampleAnswers (sampleStats 2000 20000 memory)),
    .update 1 "db0000000000" (sampleAnswers (sampleStats 1000 10000 2097152)), .finish]

def dbFirst (memory : UInt64) : List DockerAction :=
  [.list 1000 false false (.document [sampleEntry "db0000000000" "/db" none,
      sampleEntry "web000000000" "/web" none] true),
    .enter "db0000000000", .enter "web000000000",
    .update 0 "db0000000000" (sampleAnswers (sampleStats 1000 10000 2097152)),
    .update 1 "web000000000" (sampleAnswers (sampleStats 2000 20000 memory)), .finish]

/-- While the responses have their fields, the report for `db` does not depend on `web`. -/
theorem db_reported_alike :
    ∃ t t', exec (dockerStep sampleLibrary []) newDockerManager (webFirst 4194304) = some t ∧
      exec (dockerStep sampleLibrary []) newDockerManager (dbFirst 8388608) = some t' ∧
      (t.tracked "db0000000000").reports = (t'.tracked "db0000000000").reports ∧
      t.panicked = t'.panicked := by
  have hG : EveryStep (dockerStep sampleLibrary []) (OwnGuard "db0000000000") newDockerManager
      (webFirst 4194304) := by decide +kernel
  have hG' : EveryStep (dockerStep sampleLibrary []) (OwnGuard "db0000000000") newDockerManager
      (dbFirst 8388608) := by decide +kernel
  have hrun : (exec (dockerStep sampleLibrary []) newDockerManager
      (webFirst 4194304)).isSome = true := by decide +kernel
  have hrun' : (exec (dockerStep sampleLibrary []) newDockerManager
      (dbFirst 8388608)).isSome = true := by decide +kernel
  obtain ⟨t, ht⟩ := Option.isSome_iff_exists.mp hrun
  obtain ⟨t', ht'⟩ := Option.isSome_iff_exists.mp hrun'
  exact ⟨t, t', ht, ht', reports_depend_on_own_data sampleLibrary [] "db0000000000"
    (by decide +kernel) hG hG' ht ht'⟩

/-- In the first call `web` is updated last; in the second one `db` has its place in the list, and
    its statistics are answered with an error. -/
def webThenDb (memory : UInt64) (health : String) : List DockerAction :=
  [.list 1000 false false (.document [sampleEntry "web000000000" "/web" (some health),
      sampleEntry "db0000000000" "/db" none] true),
    .enter "web000000000", .enter "db0000000000",
    .update 1 "db0000000000" (sampleAnswers (sampleStats 1000 10000 2097152)),
    .update 0 "web000000000" (sampleAnswers (sampleStats 2000 20000 memory)), .finish,
    .list 1000 false false (.document [sampleEntry "db0000000000" "/db" none] true),
    .enter "db0000000000", .update 0 "db0000000000" (sampleAnswers noStats), .finish]

/-- The memory, the CPU and the health in the latest report. -/
def latest (t : DockerManager ℕ) (c : String) : Option (ℕ × ℕ × DockerHealth) :=
  ((t.tracked c).reports.head?.bind id).map fun stats => (stats.mem, stats.cpu, stats.health)

/-- Two runs that differ in `web` alone: the memory, the CPU time and the health of `web` are
    reported for `db`. -/
theorem memory_and_health_of_another :
    ∃ t t', exec (dockerStep sampleLibrary []) newDockerManager
        (webThenDb 4194304 "healthy") = some t ∧
      exec (dockerStep sampleLibrary []) newDockerManager
        (webThenDb 8388608 "unhealthy") = some t' ∧
      (webThenDb 4194304 "healthy").filterMap (ownAction "db0000000000") =
        (webThenDb 8388608 "unhealthy").filterMap (ownAction "db0000000000") ∧
      latest t "db0000000000" = some (4, 10, .healthy) ∧
      latest t' "db0000000000" = some (8, 10, .unhealthy) := by
  have h : (exec (dockerStep sampleLibrary []) newDockerManager
      (webThenDb 4194304 "healthy")).map (latest · "db0000000000") =
        some (some (4, 10, .healthy)) := by decide +kernel
  have h' : (exec (dockerStep sampleLibrary []) newDockerManager
      (webThenDb 8388608 "unhealthy")).map (latest · "db0000000000") =
        some (some (8, 10, .unhealthy)) := by decide +kernel
  obtain ⟨t, hrun, ht⟩ := Option.map_eq_some_iff.mp h
  obtain ⟨t', hrun', ht'⟩ := Option.map_eq_some_iff.mp h'
  exact ⟨t, t', hrun, hrun', by decide +kernel, ht, ht'⟩

end Bantay.Agent.Docker
