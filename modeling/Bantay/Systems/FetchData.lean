import Bantay.Lib.Transition
import Bantay.Systems.CombinedData

/-!
# Fetching Data into a System

`fetchDataFromAgent` of `internal/hub/systems/system.go` fetches the data of a system over its
WebSocket and, if that fails, over SSH.  Every fetch writes into the one `CombinedData` of the
system:
- the response of an agent before `MinVersionAgentResponse` is unmarshalled into it
  (`WebSocketTransport.Request`), and so is the generic field of a newer response
  (`UnmarshalResponse`)
- the typed field of a newer response replaces it
- over SSH it is emptied first (`fetchDataViaSSH`)
-/

namespace Bantay.Systems

open Bantay.Lib

variable {φ ν : Type}

/-! ## Versions -/

/-- `semver.Version`, without build metadata. -/
structure Version where
  major : ℕ
  minor : ℕ
  patch : ℕ
  pre : List String
deriving DecidableEq

/-- `v.LT(w)` for a version `w` that is no pre-release. -/
def Version.lt (v : Version) (major minor patch : ℕ) : Bool :=
  if v.major ≠ major then v.major < major
  else if v.minor ≠ minor then v.minor < minor
  else if v.patch ≠ patch then v.patch < patch
  else v.pre ≠ []

/-- `v.LT(bantay.MinVersionCbor)` -/
def Version.beforeCbor (v : Version) : Bool := v.lt 0 12 0

/-- `v.LT(bantay.MinVersionAgentResponse)` -/
def Version.beforeAgentResponse (v : Version) : Bool := v.lt 0 13 0

/-! ## Messages -/

/-- The bytes of a message read as data. -/
inductive Decoded (φ ν : Type) where
  | ok (payload : Payload φ ν)
  | error (read : Payload φ ν)

/-- The data afterwards, and the payload if there was no error. -/
def Decoded.into (decoded : Decoded φ ν) (data : Data φ ν) :
    Data φ ν × Option (Payload φ ν) :=
  match decoded with
  | .ok payload => (data.unmarshal payload, some payload)
  | .error read => (data.unmarshal read, none)

/-- The fields of `common.AgentResponse` that a request for data looks at. -/
structure DataResponse (φ ν : Type) where
  error : String
  /-- the generic field; `none` if it is empty -/
  data : Option (Decoded φ ν)
  systemData : Option (Payload φ ν)

/-- A message over the WebSocket, as the two types it can be decoded into. -/
structure WsMessage (φ ν : Type) where
  asData : Decoded φ ν
  /-- `none` if it is no response -/
  asResponse : Option (DataResponse φ ν)

/-- A request over a WebSocket that is connected. -/
structure WsExchange (φ ν : Type) where
  agentVersion : Version
  /-- `none` if the request fails or is not answered in time -/
  message : Option (WsMessage φ ν)

structure SshSession (φ ν : Type) where
  agentVersion : Version
  stdin : Bool
  /-- the response and its typed field; `none` if it cannot be decoded -/
  response : Option (Option (Payload φ ν))
  cbor : Decoded φ ν
  json : Decoded φ ν
  /-- `session.Wait` returns no error -/
  wait : Bool

/-- One round of `runSSHOperation`. -/
inductive SshAttempt (φ ν : Type) where
  /-- `createSSHClient` fails -/
  | noClient
  /-- `createSessionWithTimeout` fails -/
  | noSession
  /-- the shell of the session cannot be started -/
  | noShell
  | session (session : SshSession φ ν)

/-- What a fetch meets. -/
structure Exchange (φ ν : Type) where
  /-- `none` if there is no WebSocket that is connected -/
  ws : Option (WsExchange φ ν)
  ssh : ℕ → SshAttempt φ ν

/-! ## Fetching -/

def DataResponse.unmarshal (resp : DataResponse φ ν) (data : Data φ ν) :
    Data φ ν × Option (Payload φ ν) :=
  match resp.data with
  | some decoded => decoded.into data
  | none =>
    match resp.systemData with
    | none => (data, none)
    | some payload => (.ofPayload payload, some payload)

def fetchDataViaWebSocket (ws : WsExchange φ ν) (data : Data φ ν) :
    Data φ ν × Option (Payload φ ν) :=
  match ws.message with
  | none => (data, none)
  | some message =>
    -- legacy agents respond with the payload itself
    if ws.agentVersion.beforeAgentResponse then
      message.asData.into data
    else
      match message.asResponse with
      | none => (data, none)
      | some resp => if resp.error ≠ "" then (data, none) else resp.unmarshal data

/-- The data afterwards, the payload if there was no error, and whether to try again. -/
def SshSession.readOutput (session : SshSession φ ν) : Data φ ν × Option (Payload φ ν) × Bool :=
  let decoded := if session.agentVersion.beforeCbor then session.json else session.cbor
  match decoded.into .empty with
  | (data, none) => (data, none, true)
  | (data, some payload) => (data, if session.wait then some payload else none, false)

def SshSession.operation (session : SshSession φ ν) : Data φ ν × Option (Payload φ ν) × Bool :=
  if !session.agentVersion.beforeAgentResponse && session.stdin then
    match session.response with
    | some (some payload) =>
      (.ofPayload payload, if session.wait then some payload else none, false)
    -- no response, or one without system data
    | some none | none => session.readOutput
  else
    session.readOutput

def runSSHOperation (attempts : ℕ → SshAttempt φ ν) (attempt : ℕ) (data : Data φ ν) :
    ℕ → Data φ ν × Option (Payload φ ν)
  | 0 =>
    match attempts attempt with
    | .noClient | .noSession | .noShell => (data, none)
    | .session session => (session.operation.1, session.operation.2.1)
  | retries + 1 =>
    match attempts attempt with
    | .noClient | .noShell => (data, none)
    | .noSession => runSSHOperation attempts (attempt + 1) data retries
    | .session session =>
      match session.operation with
      | (data, none, true) => runSSHOperation attempts (attempt + 1) data retries
      | (data, result, _) => (data, result)

def fetchDataViaSSH (attempts : ℕ → SshAttempt φ ν) (data : Data φ ν) :
    Data φ ν × Option (Payload φ ν) :=
  runSSHOperation attempts 0 data 1

/-- The data of the system afterwards, and the payload if there was no error. -/
def fetchDataFromAgent (exchange : Exchange φ ν) (data : Data φ ν) :
    Data φ ν × Option (Payload φ ν) :=
  match exchange.ws with
  | none => fetchDataViaSSH exchange.ssh data
  | some ws =>
    match fetchDataViaWebSocket ws data with
    | (data, some payload) => (data, some payload)
    | (data, none) => fetchDataViaSSH exchange.ssh data

/-! ## The property and the condition -/

inductive FetchAction (φ ν : Type) where
  | fetch (exchange : Exchange φ ν)
  /-- the data is changed between fetches, as `migrateDeprecatedFields` does -/
  | migrate (data : Data φ ν)

def fetchStep (data : Data φ ν) : FetchAction φ ν → Option (Data φ ν)
  | .fetch exchange => some (fetchDataFromAgent exchange data).1
  | .migrate data => some data

/-- If there was no error, the data is the payload alone. -/
def Alone (data : Data φ ν) (result : Option (Payload φ ν)) : Prop :=
  ∀ payload ∈ result, data.Holds payload

def FetchedAlone (data : Data φ ν) : FetchAction φ ν → Prop
  | .fetch exchange =>
    Alone (fetchDataFromAgent exchange data).1 (fetchDataFromAgent exchange data).2
  | .migrate _ => True

def Decoded.payload? : Decoded φ ν → Option (Payload φ ν)
  | .ok payload => some payload
  | .error _ => none

/-- The bytes that are unmarshalled into the data of the system. -/
def WsExchange.reads (ws : WsExchange φ ν) : Option (Decoded φ ν) :=
  ws.message.bind fun message =>
    if ws.agentVersion.beforeAgentResponse then some message.asData
    else message.asResponse.bind fun resp => if resp.error ≠ "" then none else resp.data

/-- The payload of a message that is unmarshalled into the data of the system. -/
def WsExchange.merges (ws : WsExchange φ ν) : Option (Payload φ ν) :=
  ws.reads.bind Decoded.payload?

def NothingRemains (data : Data φ ν) : FetchAction φ ν → Prop
  | .fetch exchange => ∀ ws ∈ exchange.ws, ∀ payload ∈ ws.merges, payload.Covers data
  | .migrate _ => True

/-! ## What a fetch leaves -/

section Fetch

variable {data : Data φ ν} {payload : Payload φ ν}

theorem alone_none : Alone data none := by
  intro payload h
  cases h

theorem covers_none : ∀ payload ∈ none, Payload.Covers payload data := by
  intro payload h
  cases h

theorem alone_some (h : data.Holds payload) : Alone data (some payload) := by
  rintro payload ⟨⟩
  exact h

theorem alone_ite (h : data.Holds payload) (b : Bool) :
    Alone data (if b then some payload else none) := by
  cases b with
  | true => exact alone_some h
  | false => exact alone_none

theorem SshSession.operation_alone (session : SshSession φ ν) :
    Alone session.operation.1 session.operation.2.1 := by
  have hread : Alone session.readOutput.1 session.readOutput.2.1 := by
    unfold SshSession.readOutput
    cases if session.agentVersion.beforeCbor then session.json else session.cbor with
    | ok payload =>
      -- the payload is unmarshalled into empty data
      exact alone_ite (Data.holds_unmarshal_iff.mpr Data.covers_empty) session.wait
    | error read => exact alone_none
  unfold SshSession.operation
  split
  · split
    · exact alone_ite Data.holds_ofPayload session.wait
    · exact hread
    · exact hread
  · exact hread

/-- Whatever the earlier attempts have left, the data is the payload alone. -/
theorem runSSHOperation_alone (attempts : ℕ → SshAttempt φ ν) (attempt : ℕ) (data : Data φ ν)
    (retries : ℕ) :
    Alone (runSSHOperation attempts attempt data retries).1
      (runSSHOperation attempts attempt data retries).2 := by
  -- an attempt that is retried leaves data behind, so the induction is over any data
  induction retries generalizing attempt data with unfold runSSHOperation
  | zero =>
    cases attempts attempt with
    | noClient | noSession | noShell => exact alone_none
    | session session => exact session.operation_alone
  | succ retries ih =>
    cases attempts attempt with
    | noClient | noShell => exact alone_none
    | noSession => exact ih (attempt + 1) data
    | session session =>
      have halone := session.operation_alone
      dsimp only
      split
      · exact ih (attempt + 1) _
      · next heq =>
        rw [heq] at halone
        exact halone

theorem Decoded.into_alone_iff (decoded : Decoded φ ν) :
    Alone (decoded.into data).1 (decoded.into data).2 ↔
      ∀ payload ∈ decoded.payload?, payload.Covers data := by
  cases decoded with
  | ok payload =>
    show (∀ p ∈ some payload, (data.unmarshal payload).Holds p) ↔ _
    simp only [Decoded.payload?, Option.mem_some_iff, forall_eq']
    exact Data.holds_unmarshal_iff
  | error read => exact iff_of_true alone_none covers_none

theorem fetchDataViaWebSocket_alone_iff (ws : WsExchange φ ν) (data : Data φ ν) :
    Alone (fetchDataViaWebSocket ws data).1 (fetchDataViaWebSocket ws data).2 ↔
      ∀ payload ∈ ws.merges, payload.Covers data := by
  unfold fetchDataViaWebSocket WsExchange.merges WsExchange.reads
  cases ws.message with
  | none => exact iff_of_true alone_none covers_none
  | some message =>
    dsimp only [Option.bind_some]
    cases ws.agentVersion.beforeAgentResponse with
    | true => exact message.asData.into_alone_iff
    | false =>
      cases message.asResponse with
      | none => exact iff_of_true alone_none covers_none
      | some resp =>
        dsimp only [Option.bind_some]
        by_cases herror : resp.error ≠ ""
        · simp only [if_pos herror]
          exact iff_of_true alone_none covers_none
        · simp only [if_neg herror, DataResponse.unmarshal]
          cases resp.data with
          | some decoded => exact decoded.into_alone_iff
          | none =>
            -- the typed field is copied over the data
            refine iff_of_true ?_ covers_none
            cases resp.systemData with
            | none => exact alone_none
            | some payload => exact alone_some Data.holds_ofPayload

end Fetch

/-! ## Main theorem -/

theorem fetchedAlone_iff_nothingRemains {data : Data φ ν} {a : FetchAction φ ν} :
    FetchedAlone data a ↔ NothingRemains data a := by
  cases a with
  | migrate _ => exact Iff.rfl
  | fetch exchange =>
    unfold FetchedAlone NothingRemains fetchDataFromAgent
    dsimp only
    cases exchange.ws with
    | none =>
      refine iff_of_true (runSSHOperation_alone exchange.ssh 0 data 1) ?_
      intro ws hws
      cases hws
    | some ws =>
      have hws := fetchDataViaWebSocket_alone_iff ws data
      simp only [Option.mem_some_iff, forall_eq']
      rcases hfetch : fetchDataViaWebSocket ws data with ⟨left, none | payload⟩
      · -- the WebSocket has failed, so that nothing was unmarshalled, and SSH empties the data
        rw [hfetch] at hws
        exact iff_of_true (runSSHOperation_alone exchange.ssh 0 left 1) (hws.mp alone_none)
      · rw [hfetch] at hws
        exact hws

/-- **The last payload alone**: from any data of a system, after every successful fetch the data is
    the payload of that fetch, exactly if the messages that are unmarshalled into it leave out
    nothing that it has, elements behind the end of a list included. -/
theorem fetched_alone_iff (data : Data φ ν) (as : List (FetchAction φ ν)) :
    EveryStep fetchStep FetchedAlone data as ↔ EveryStep fetchStep NothingRemains data as :=
  ⟨EveryStep.mono fun _ _ => fetchedAlone_iff_nothingRemains.mp,
    EveryStep.mono fun _ _ => fetchedAlone_iff_nothingRemains.mpr⟩

/-- A response over the WebSocket of an agent of version 0.12.0. -/
def legacyExchange (payload : Payload Bool ℕ) : Exchange Bool ℕ where
  ws := some ⟨⟨0, 12, 0, []⟩, some ⟨.ok payload, none⟩⟩
  ssh _ := .noClient

/-- A file system is unmounted between two payloads. -/
def unmounted : List (FetchAction Bool ℕ) :=
  [.fetch (legacyExchange ⟨fun _ => some 80, fun _ => none, .cbor⟩),
   .fetch (legacyExchange ⟨fun mounted => if mounted then some 81 else none, fun _ => none, .cbor⟩)]

/-- After `unmounted` the field that the second payload has left out has its old value. -/
theorem old_place_remains :
    ∃ data, exec fetchStep Data.empty unmounted = some data ∧ data.fields true = some 81 ∧
      data.fields false = some 80 ∧ ¬ EveryStep fetchStep FetchedAlone Data.empty unmounted := by
  refine ⟨_, rfl, rfl, rfl, ?_⟩
  intro h
  have hsecond := (h.2 _ rfl).1 _ rfl
  have hfield := congrFun hsecond.1 false
  cases hfield

end Bantay.Systems
