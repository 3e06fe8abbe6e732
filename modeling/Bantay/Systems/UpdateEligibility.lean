import Bantay.Systems.AgentUpdate

/-!
# Who Is Found Eligible for an Update

`System.update` asks the agent for details until it has got and saved them once.  `shouldAttempt`
reads the architecture from the data of the system, that is from the last payload and, if that was
unmarshalled into the data, from what earlier payloads have left there.  A typed response and a
session over SSH replace the data.

Polls are those of `Systems.FetchData`, with the fields that an update of the agent looks at.
-/

namespace Bantay.Systems

open Bantay.Lib Bantay.Hub

/-! ## Polls -/

/-- The fields of `CombinedData` that decide about an update. -/
inductive UpdatePlace where
  /-- `Info.AgentVersion` -/
  | agentVersion
  /-- `Info.Hostname`, which has moved to the details -/
  | hostname
  /-- `Details` is not nil -/
  | details
  /-- `Details.Arch` -/
  | arch
deriving DecidableEq

abbrev UpdateData := Fields UpdatePlace String

/-- What `shouldAttempt` reads of the data. -/
def UpdateData.agentData (data : UpdateData) : AgentData where
  agentVersion := (data .agentVersion).getD ""
  details := (data .details).map fun _ => (data .arch).getD ""

/-- The part of `migrateDeprecatedFields` that is about details. -/
def migrateDeprecatedFields (data : UpdateData) (createDetails : Bool) : UpdateData :=
  if data .details = none ∧ (data .hostname).getD "" ≠ "" then
    let data := Function.update data .hostname none
    if createDetails then Function.update data .details (some "") else data
  else
    data

/-- A system, with the cooldown of the updater and the clock. -/
structure PolledSystem where
  data : Data UpdatePlace String
  detailsFetched : Bool
  cooldown : ExpiryMap String Nat
  now : Nat

/-- What the functions of this module are given. -/
structure PollConfig where
  semver : Semver
  updater : AgentUpdater
  systemID : String

namespace PolledSystem

/-- `System.update` after the fetch, with what `shouldAttempt` has found; `saved` says whether
    `createRecords` succeeds. -/
def afterFetch (cfg : PollConfig) (s : PolledSystem) (data : Data UpdatePlace String)
    (saved : Bool) : PolledSystem × Option AgentBinary :=
  let fields : UpdateData := migrateDeprecatedFields data.fields !s.detailsFetched
  let detailsFetched := s.detailsFetched || (saved && (fields .details).isSome)
  let s := { s with data := { data with fields := fields }, detailsFetched := detailsFetched }
  if detailsFetched then
    match cfg.updater.shouldAttempt cfg.semver s.cooldown s.now cfg.systemID fields.agentData with
    | (found, cooldown) => ({ s with cooldown := cooldown }, found)
  else
    (s, none)

def update (cfg : PollConfig) (s : PolledSystem) (exchange : Exchange UpdatePlace String)
    (saved : Bool) : PolledSystem × Option AgentBinary :=
  match fetchDataFromAgent exchange s.data with
  | (data, none) => ({ s with data := data }, none)
  | (data, some _) => s.afterFetch cfg data saved

end PolledSystem

inductive SystemPollAction where
  | poll (exchange : Exchange UpdatePlace String) (saved : Bool)
  | push
  | cleanup (order : List String)
  | tick (elapsed : Nat)

def systemPollStep (cfg : PollConfig) (s : PolledSystem) :
    SystemPollAction → Option PolledSystem
  | .poll exchange saved => some (s.update cfg exchange saved).1
  | .push =>
    some { s with cooldown := cfg.updater.markAttempted s.cooldown s.now s.now cfg.systemID }
  | .cleanup order => some { s with cooldown := s.cooldown.cleanup s.now order }
  | .tick elapsed => some { s with now := s.now + elapsed }

/-! ## The property and the condition -/

def HasBinary (u : AgentUpdater) (arch : String) : Prop :=
  u.binaries.lookup (normalizeArch arch) ≠ none

/-- The version can be parsed and is older than the hub. -/
def Older (cfg : PollConfig) (version : String) : Prop :=
  version ≠ "" ∧ ∃ v ∈ cfg.semver.parse version, cfg.semver.lt v cfg.updater.hubVersion = true

def CooldownOver (cfg : PollConfig) (s : PolledSystem) : Prop :=
  ∀ last ∈ s.cooldown.live s.now cfg.systemID, cfg.updater.cooldownTtl ≤ s.now - last

def FoundEligible (cfg : PollConfig) (s : PolledSystem) : SystemPollAction → Prop
  | .poll exchange saved => CooldownOver cfg s → (s.update cfg exchange saved).2 ≠ none
  | .push | .cleanup _ | .tick _ => True

def Succeeds (s : PolledSystem) (exchange : Exchange UpdatePlace String) (saved : Bool)
    (payload : Payload UpdatePlace String) : Prop :=
  saved = true ∧ (fetchDataFromAgent exchange s.data).2 = some payload

/-- The payload reports an older version, and no architecture without a binary. -/
def Reports (cfg : PollConfig) (payload : UpdateData) : Prop :=
  (∃ version ∈ payload .agentVersion, Older cfg version) ∧
    ∀ arch ∈ payload .arch, HasBinary cfg.updater arch

/-- Polls succeed, and the agent keeps reporting a version for which the hub has a binary. -/
def KeepsReporting (cfg : PollConfig) (s : PolledSystem) : SystemPollAction → Prop
  | .poll exchange saved =>
    ∃ payload, Succeeds s exchange saved payload ∧ Reports cfg payload.fields
  | .push | .cleanup _ | .tick _ => True

def CarriesArch (payload : UpdateData) : Prop := payload .details ≠ none ∧ payload .arch ≠ none

/-- A payload without details is unmarshalled into the data of the system. -/
def DetailsKept (s : PolledSystem) : SystemPollAction → Prop
  | .poll exchange _ => ∀ payload ∈ (fetchDataFromAgent exchange s.data).2,
      CarriesArch payload.fields ∨ ∃ ws ∈ exchange.ws, ws.merges = some payload
  | .push | .cleanup _ | .tick _ => True

/-! ## What a fetch leaves -/

section Fetched

variable {φ ν : Type} {exchange : Exchange φ ν} {data : Data φ ν} {payload : Payload φ ν}

theorem Decoded.into_of_payload? {decoded : Decoded φ ν} (h : decoded.payload? = some payload)
    (data : Data φ ν) : decoded.into data = (data.unmarshal payload, some payload) := by
  cases decoded with
  | ok read =>
    cases h
    rfl
  | error read => cases h

variable {ws : WsExchange φ ν}

theorem fetchDataViaWebSocket_of_merges (h : ws.merges = some payload) (data : Data φ ν) :
    fetchDataViaWebSocket ws data = (data.unmarshal payload, some payload) := by
  obtain ⟨decoded, hreads, hpay⟩ := Option.bind_eq_some_iff.mp h
  have hinto := Decoded.into_of_payload? hpay data
  obtain ⟨message, hmessage, hdec⟩ := Option.bind_eq_some_iff.mp hreads
  unfold fetchDataViaWebSocket
  simp only [hmessage]
  split_ifs at hdec ⊢ with hlegacy
  · rw [Option.some.inj hdec]
    exact hinto
  · obtain ⟨resp, hresp, hdata⟩ := Option.bind_eq_some_iff.mp hdec
    simp only [hresp]
    split_ifs at hdata ⊢ with herror
    simp only [DataResponse.unmarshal, hdata]
    exact hinto

theorem fetchDataFromAgent_alone (h : ∀ ws ∈ exchange.ws, ws.merges = none)
    (hresult : (fetchDataFromAgent exchange data).2 = some payload) :
    (fetchDataFromAgent exchange data).1.fields = payload.fields := by
  have halone : FetchedAlone data (.fetch exchange) := by
    rw [fetchedAlone_iff_nothingRemains]
    intro ws hws payload hpay
    rw [h ws hws] at hpay
    cases hpay
  exact (halone payload hresult).1

theorem fetchDataFromAgent_cases (hresult : (fetchDataFromAgent exchange data).2 = some payload) :
    (∃ ws ∈ exchange.ws, ws.merges = some payload) ∧
        (fetchDataFromAgent exchange data).1.fields = payload.fields.into data.fields ∨
      (∀ ws ∈ exchange.ws, ws.merges = none) ∧
        (fetchDataFromAgent exchange data).1.fields = payload.fields := by
  by_cases hnone : ∀ ws ∈ exchange.ws, ws.merges = none
  · exact .inr ⟨hnone, fetchDataFromAgent_alone hnone hresult⟩
  · push Not at hnone
    obtain ⟨ws, hws, hmerges⟩ := hnone
    obtain ⟨merged, hmerged⟩ := Option.ne_none_iff_exists'.mp hmerges
    simp only [fetchDataFromAgent, Option.mem_def.mp hws,
      fetchDataViaWebSocket_of_merges hmerged data] at hresult ⊢
    cases hresult
    exact .inl ⟨⟨ws, rfl, hmerged⟩, rfl⟩

end Fetched

/-! ## Eligibility -/

section Eligible

variable {cfg : PollConfig} {s : PolledSystem} {data payload : UpdateData}

/-- The data has details with an architecture for which the hub has a binary. -/
def KnownArch (u : AgentUpdater) (data : UpdateData) : Prop :=
  data .details ≠ none ∧ ∃ arch ∈ data .arch, HasBinary u arch

theorem migrateDeprecatedFields_of_details (hdet : data .details ≠ none)
    (createDetails : Bool) : migrateDeprecatedFields data createDetails = data :=
  if_neg fun h => hdet h.1

theorem candidate_ne_none (hknown : KnownArch cfg.updater data) {version : String}
    (hver : data .agentVersion = some version) (holder : Older cfg version) :
    cfg.updater.candidate cfg.semver data.agentData ≠ none := by
  obtain ⟨hdet, arch, harch, hbinary⟩ := hknown
  obtain ⟨hne, v, hparse, hlt⟩ := holder
  have hagentVersion : data.agentData.agentVersion = version := by
    simp [UpdateData.agentData, hver]
  have hdetailsArch : data.agentData.detailsArch = arch := by
    obtain ⟨details, hdet⟩ := Option.ne_none_iff_exists'.mp hdet
    have harch : data .arch = some arch := harch
    simp [AgentData.detailsArch, UpdateData.agentData, hdet, harch]
  have henabled : cfg.updater.disabled ≠ true := by
    intro hdis
    rw [HasBinary, cfg.updater.disabled_empty hdis] at hbinary
    exact hbinary rfl
  rw [AgentUpdater.candidate, hagentVersion, hdetailsArch,
    if_neg (not_or.mpr ⟨henabled, hne⟩), hparse]
  dsimp only
  rw [if_pos hlt]
  exact hbinary

theorem shouldAttempt_eq {u : AgentUpdater} {systemID : String} {bin : AgentBinary}
    {semver : Semver} {data : AgentData}
    (hcand : u.candidate semver data = some bin) (cooldown : ExpiryMap String Nat)
    (now : Nat) :
    u.shouldAttempt semver cooldown now systemID data =
      match cooldown.store.lookup systemID with
      | none => (some bin, cooldown)
      | some entry =>
        if entry.expires < now then (some bin, cooldown.remove systemID)
        else if now - entry.value < u.cooldownTtl then (none, cooldown)
        else (some bin, cooldown) := by
  unfold AgentUpdater.shouldAttempt ExpiryMap.getOk
  rw [hcand]
  cases cooldown.store.lookup systemID with
  | none => rfl
  | some entry =>
    dsimp only
    by_cases hexp : entry.expires < now
    · rw [if_pos hexp, if_pos hexp]
    · rw [if_neg hexp, if_neg hexp]

theorem shouldAttempt_ne_none (hcand : cfg.updater.candidate cfg.semver data.agentData ≠ none)
    (hover : CooldownOver cfg s) :
    (cfg.updater.shouldAttempt cfg.semver s.cooldown s.now cfg.systemID data.agentData).1 ≠
      none := by
  obtain ⟨bin, hbin⟩ := Option.ne_none_iff_exists'.mp hcand
  rw [shouldAttempt_eq hbin]
  unfold CooldownOver ExpiryMap.live at hover
  cases hlookup : s.cooldown.store.lookup cfg.systemID with
  | none => exact Option.some_ne_none bin
  | some entry =>
    rw [hlookup] at hover
    dsimp only at hover ⊢
    split_ifs at hover ⊢ with hexp hwithin
    · exact Option.some_ne_none bin
    · have hle := hover entry.value rfl
      omega
    · exact Option.some_ne_none bin

theorem knownArch_of_kept (hknown : KnownArch cfg.updater s.data.fields)
    (hreps : Reports cfg payload)
    (hdata : data = Fields.into payload s.data.fields ∨ data = payload ∧ CarriesArch payload) :
    KnownArch cfg.updater data := by
  rcases hdata with rfl | ⟨rfl, hdet, harch⟩
  · obtain ⟨hdet, arch, harch, hbinary⟩ := hknown
    refine ⟨?_, ?_⟩
    · unfold Fields.into
      cases payload .details with
      | none => exact hdet
      | some details => exact Option.some_ne_none details
    · unfold Fields.into
      cases hpay : payload .arch with
      | none => exact ⟨arch, harch, hbinary⟩
      | some newArch => exact ⟨newArch, rfl, hreps.2 newArch hpay⟩
  · obtain ⟨arch, harch⟩ := Option.ne_none_iff_exists'.mp harch
    exact ⟨hdet, arch, harch, hreps.2 arch harch⟩

end Eligible

section Polled

variable {cfg : PollConfig} {s : PolledSystem} {payload : Payload UpdatePlace String}
  {exchange : Exchange UpdatePlace String} {saved : Bool}

theorem fetched_place {place : UpdatePlace} {value : String}
    (hresult : (fetchDataFromAgent exchange s.data).2 = some payload)
    (hplace : payload.fields place = some value) :
    (fetchDataFromAgent exchange s.data).1.fields place = some value := by
  rcases fetchDataFromAgent_cases hresult with ⟨_, hdata⟩ | ⟨_, hdata⟩
  · rw [hdata, Fields.into, hplace]
    rfl
  · rw [hdata]
    exact hplace

theorem update_known (hsucc : Succeeds s exchange saved payload)
    (hknown : KnownArch cfg.updater (fetchDataFromAgent exchange s.data).1.fields) :
    (s.update cfg exchange saved).1.detailsFetched = true ∧
      (s.update cfg exchange saved).1.data = (fetchDataFromAgent exchange s.data).1 ∧
      (s.update cfg exchange saved).2 = (cfg.updater.shouldAttempt cfg.semver s.cooldown s.now
        cfg.systemID (UpdateData.agentData (fetchDataFromAgent exchange s.data).1.fields)).1 := by
  obtain ⟨rfl, hresult⟩ := hsucc
  unfold PolledSystem.update
  cases hfetch : fetchDataFromAgent exchange s.data with
  | mk data result =>
    rw [hfetch] at hresult hknown
    obtain rfl : result = some payload := hresult
    have hdet : (data.fields .details).isSome = true := Option.isSome_iff_ne_none.mpr hknown.1
    have hfet : (s.detailsFetched || (true && (data.fields .details).isSome)) = true := by
      rw [hdet]
      exact Bool.or_true _
    simp only [PolledSystem.afterFetch, migrateDeprecatedFields_of_details hknown.1, hfet,
      if_true, and_self]

theorem foundEligible_of_known (hsucc : Succeeds s exchange saved payload)
    (hreps : Reports cfg payload.fields)
    (hknown : KnownArch cfg.updater (fetchDataFromAgent exchange s.data).1.fields) :
    FoundEligible cfg s (.poll exchange saved) := by
  obtain ⟨⟨version, hver, holder⟩, _⟩ := hreps
  intro hover
  rw [(update_known hsucc hknown).2.2]
  exact shouldAttempt_ne_none
    (candidate_ne_none hknown (fetched_place hsucc.2 hver) holder) hover

end Polled

/-! ## Runs -/

/-- Details with a known architecture have been fetched. -/
structure DetailsInv (cfg : PollConfig) (s : PolledSystem) : Prop where
  fetched : s.detailsFetched = true
  known : KnownArch cfg.updater s.data.fields

section Runs

variable {cfg : PollConfig} {s s' : PolledSystem} {payload : Payload UpdatePlace String}
  {exchange : Exchange UpdatePlace String} {saved : Bool}

theorem DetailsInv.fetched_known (h : DetailsInv cfg s) (hsucc : Succeeds s exchange saved payload)
    (hreps : Reports cfg payload.fields) (hkept : DetailsKept s (.poll exchange saved)) :
    KnownArch cfg.updater (fetchDataFromAgent exchange s.data).1.fields := by
  refine knownArch_of_kept h.known hreps ?_
  rcases fetchDataFromAgent_cases hsucc.2 with ⟨_, hdata⟩ | ⟨hnone, hdata⟩
  · exact .inl hdata
  · refine .inr ⟨hdata, (hkept payload hsucc.2).resolve_right ?_⟩
    -- a message that is not unmarshalled has to carry the details itself
    rintro ⟨ws, hws, hmerges⟩
    rw [hnone ws hws] at hmerges
    cases hmerges

theorem detailsInv_of_known (hsucc : Succeeds s exchange saved payload)
    (hknown : KnownArch cfg.updater (fetchDataFromAgent exchange s.data).1.fields) :
    DetailsInv cfg (s.update cfg exchange saved).1 := by
  obtain ⟨hfet, hdata, _⟩ := update_known hsucc hknown
  refine ⟨hfet, ?_⟩
  rw [hdata]
  exact hknown

/-- **One step** under the conditions keeps a known architecture known. -/
theorem detailsInv_step {a : SystemPollAction} (h : DetailsInv cfg s)
    (hreporting : KeepsReporting cfg s a) (hkept : DetailsKept s a)
    (hstep : systemPollStep cfg s a = some s') : DetailsInv cfg s' := by
  cases a with cases hstep
  | poll exchange saved =>
    obtain ⟨payload, hsucc, hreps⟩ := hreporting
    exact detailsInv_of_known hsucc (h.fetched_known hsucc hreps hkept)
  | push | cleanup | tick =>
    exact ⟨h.fetched, h.known⟩

end Runs

/-- **Eligible once the cooldown is over**: after a poll with details of a known architecture, an
    agent that keeps reporting an older version is found eligible at every poll at which its
    cooldown is over, if polls succeed and payloads without details are unmarshalled into the data
    of the system. -/
theorem eligible_after_cooldown (cfg : PollConfig) (s : PolledSystem)
    (exchange : Exchange UpdatePlace String) (payload : Payload UpdatePlace String)
    (hfirst : Succeeds s exchange true payload) (hcarries : KnownArch cfg.updater payload.fields)
    (as : List SystemPollAction)
    (hreporting : EveryStep (systemPollStep cfg) (KeepsReporting cfg)
      (s.update cfg exchange true).1 as)
    (hkept : EveryStep (systemPollStep cfg) DetailsKept (s.update cfg exchange true).1 as) :
    EveryStep (systemPollStep cfg) (FoundEligible cfg) (s.update cfg exchange true).1 as := by
  have hknown : KnownArch cfg.updater (fetchDataFromAgent exchange s.data).1.fields := by
    obtain ⟨hdet, arch, harch, hbinary⟩ := hcarries
    obtain ⟨details, hdet⟩ := Option.ne_none_iff_exists'.mp hdet
    refine ⟨?_, arch, fetched_place hfirst.2 harch, hbinary⟩
    rw [fetched_place hfirst.2 hdet]
    exact Option.some_ne_none details
  refine everyStep_of_invariant (I := DetailsInv cfg)
    (G := fun s a => KeepsReporting cfg s a ∧ DetailsKept s a) ?_ ?_
    (detailsInv_of_known hfirst hknown) (hreporting.and hkept)
  · intro s a s' h hguard hstep
    exact detailsInv_step h hguard.1 hguard.2 hstep
  · intro s a h hguard
    cases a with
    | poll exchange saved =>
      obtain ⟨payload, hsucc, hreps⟩ := hguard.1
      exact foundEligible_of_known hsucc hreps
        (h.fetched_known hsucc hreps hguard.2)
    | push | cleanup | tick => trivial

/-! ## Fixed inputs -/

def sampleConfig : PollConfig := ⟨sampleSemver, sampleUpdater, "web"⟩

def agentPayload (details : Bool) : Payload UpdatePlace String where
  fields
    | .agentVersion => some "0.18.0"
    | .hostname => none
    | .details => if details then some "" else none
    | .arch => if details then some "x86_64" else none
  lists _ := none

def genericExchange (details : Bool) : Exchange UpdatePlace String where
  ws := some ⟨⟨0, 19, 0, []⟩,
    some ⟨.error .empty, some ⟨"", some (.ok (agentPayload details)), none⟩⟩⟩
  ssh _ := .noClient

def typedExchange (details : Bool) : Exchange UpdatePlace String where
  ws := some ⟨⟨0, 18, 0, []⟩, some ⟨.error .empty, some ⟨"", none, some (agentPayload details)⟩⟩⟩
  ssh _ := .noClient

def newSystem : PolledSystem := ⟨.empty, false, .new, 0⟩

/-- A push, and two polls after more than an hour. -/
def laterPolls (exchange : Exchange UpdatePlace String) : List SystemPollAction :=
  [.push, .tick (61 * minute), .poll exchange true, .poll exchange true]

theorem sample_knownArch : KnownArch sampleConfig.updater (agentPayload true).fields :=
  ⟨Option.some_ne_none _, "x86_64", rfl, by unfold HasBinary; decide +kernel⟩

theorem sample_reports (details : Bool) : Reports sampleConfig (agentPayload details).fields := by
  refine ⟨⟨"0.18.0", rfl, by decide, ⟨0, 18, 0, []⟩, rfl, by decide +kernel⟩, ?_⟩
  intro arch harch
  cases details with
  | false => cases harch
  | true =>
    cases harch
    unfold HasBinary
    decide +kernel

theorem laterPolls_report (exchange : Exchange UpdatePlace String)
    (hexch : ∀ s, Succeeds s exchange true (agentPayload false)) (s : PolledSystem) :
    EveryStep (systemPollStep sampleConfig) (KeepsReporting sampleConfig) s
      (laterPolls exchange) := by
  refine EveryStep.mono (G := fun _ a => ∀ s, KeepsReporting sampleConfig s a)
    (fun s _ h => h s) (everyStep_of_forall_mem ?_)
  intro a ha s
  simp only [laterPolls, List.mem_cons, List.not_mem_nil, or_false] at ha
  rcases ha with rfl | rfl | rfl | rfl
  · trivial
  · trivial
  · exact ⟨_, hexch s, sample_reports false⟩
  · exact ⟨_, hexch s, sample_reports false⟩

theorem generic_details_kept (s : PolledSystem) :
    EveryStep (systemPollStep sampleConfig) DetailsKept s (laterPolls (genericExchange false)) := by
  refine EveryStep.mono (G := fun _ a => ∀ s, DetailsKept s a)
    (fun s _ h => h s) (everyStep_of_forall_mem ?_)
  intro a ha s
  simp only [laterPolls, List.mem_cons, List.not_mem_nil, or_false] at ha
  have hpoll : DetailsKept s (.poll (genericExchange false) true) := by
    intro payload hpay
    cases hpay
    exact .inr ⟨_, rfl, rfl⟩
  rcases ha with rfl | rfl | rfl | rfl
  · trivial
  · trivial
  · exact hpoll
  · exact hpoll

theorem generic_agent_eligible :
    Succeeds newSystem (genericExchange true) true (agentPayload true) ∧
      KnownArch sampleConfig.updater (agentPayload true).fields ∧
      EveryStep (systemPollStep sampleConfig) (FoundEligible sampleConfig)
        (newSystem.update sampleConfig (genericExchange true) true).1
        (laterPolls (genericExchange false)) :=
  ⟨⟨rfl, rfl⟩, sample_knownArch,
    eligible_after_cooldown sampleConfig newSystem (genericExchange true) (agentPayload true)
      ⟨rfl, rfl⟩ sample_knownArch (laterPolls (genericExchange false))
      (laterPolls_report _ (fun _ => ⟨rfl, rfl⟩) _) (generic_details_kept _)⟩

/-- **Details are lost**: the typed field of the second response replaces the data, and the hub
    does not ask for the architecture again. -/
theorem details_lost :
    Succeeds newSystem (typedExchange true) true (agentPayload true) ∧
      KnownArch sampleConfig.updater (agentPayload true).fields ∧
      EveryStep (systemPollStep sampleConfig) (KeepsReporting sampleConfig)
        (newSystem.update sampleConfig (typedExchange true) true).1
        (laterPolls (typedExchange false)) ∧
      ¬ EveryStep (systemPollStep sampleConfig) (FoundEligible sampleConfig)
        (newSystem.update sampleConfig (typedExchange true) true).1
        (laterPolls (typedExchange false)) := by
  refine ⟨⟨rfl, rfl⟩, sample_knownArch, laterPolls_report _ (fun _ => ⟨rfl, rfl⟩) _, ?_⟩
  intro h
  have hpoll := (h.2 _ rfl).2 _ rfl
  refine hpoll.1 ?_ ?_
  · unfold CooldownOver
    decide +kernel
  · decide +kernel

end Bantay.Systems
