import Bantay.Agent.Responses

/-!
# Responses between the Agent and the Hub

A response is built by `newAgentResponse` of `agent/response.go`, encoded, decoded on the hub and
unmarshalled by `UnmarshalResponse` of `internal/hub/transport/transport.go`.  The agent chooses the
field of the response by the type of the value, the hub by the action of the request.

The options `omitempty` and `omitzero` of the fields leave out nil pointers, and maps, strings and
byte strings that are empty.  A map or a list inside of a value is the same for the hub whether it
is empty or nil.
-/

namespace Bantay.Hub

open Bantay.Lib
open Bantay.Agent

variable {σ ι κ υ δ μ π Key : Type}

/-! ## Encoded responses -/

/-- Codecs of the values that are not modelled further, and their zero values. -/
structure WireCodecs (σ ι κ υ δ μ π : Type) where
  wire : Codec WireMap
  uint32 : Codec UInt32
  string : Codec String
  stats : Codec σ
  zeroStats : σ
  /-- `system.Info`, with its field `Services` -/
  info : Codec (ι × List UInt16)
  zeroInfo : ι × List UInt16
  containers : Codec (List κ)
  services : Codec (List (Service υ))
  details : Codec δ
  smartData : Codec (GoMap String μ)
  serviceDetails : Codec (GoMap String π)

namespace WireCodecs

variable (c : WireCodecs σ ι κ υ δ μ π)

/-- A map is left out if it is nil or empty. -/
def map {α : Type} (key : ℕ) (codec : Codec (GoMap String α)) :
    Field key (Option (GoMap String α)) :=
  .nilable key codec fun m => m.entries.isEmpty

def combinedDataToWire (data : CombinedData σ ι κ υ δ) : WireMap :=
  (Field.plain 0 c.stats c.zeroStats).write data.stats <|
  (Field.plain 1 c.info c.zeroInfo).write (data.info, data.services) <|
  (Field.plain 2 c.containers []).write data.containers <|
  (Field.list 3 c.services).write data.systemdServices <|
  (Field.pointer 4 c.details).write data.details ∅

def combinedDataFromWire (m : WireMap) : Except String (CombinedData σ ι κ υ δ) := do
  let stats ← (Field.plain 0 c.stats c.zeroStats).read m
  let info ← (Field.plain 1 c.info c.zeroInfo).read m
  let containers ← (Field.plain 2 c.containers []).read m
  let systemdServices ← (Field.list 3 c.services).read m
  let details ← (Field.pointer 4 c.details).read m
  return ⟨stats, info.1, info.2, containers, systemdServices, details⟩

theorem combinedDataFromWire_toWire (data : CombinedData σ ι κ υ δ) :
    c.combinedDataFromWire (c.combinedDataToWire data) = .ok data := by
  simp [combinedDataFromWire, combinedDataToWire, bind, Except.bind, pure, Except.pure]

def combinedData : Codec (CombinedData σ ι κ υ δ) :=
  .record c.wire c.combinedDataToWire c.combinedDataFromWire c.combinedDataFromWire_toWire

def fingerprintToWire (response : FingerprintResponse) : WireMap :=
  (Field.plain 0 c.string "").write response.fingerprint <|
  (Field.text 1 c.string).write response.hostname <|
  (Field.text 2 c.string).write response.port <|
  (Field.text 3 c.string).write response.name ∅

def fingerprintFromWire (m : WireMap) : Except String FingerprintResponse := do
  let fingerprint ← (Field.plain 0 c.string "").read m
  let hostname ← (Field.text 1 c.string).read m
  let port ← (Field.text 2 c.string).read m
  let name ← (Field.text 3 c.string).read m
  return ⟨fingerprint, hostname, port, name⟩

theorem fingerprintFromWire_toWire (response : FingerprintResponse) :
    c.fingerprintFromWire (c.fingerprintToWire response) = .ok response := by
  simp [fingerprintFromWire, fingerprintToWire, bind, Except.bind, pure, Except.pure]

def fingerprint : Codec FingerprintResponse :=
  .record c.wire c.fingerprintToWire c.fingerprintFromWire c.fingerprintFromWire_toWire

def responseToWire (response : AgentResponse σ ι κ υ δ μ π) : WireMap :=
  (Field.pointer 0 c.uint32).write response.id <|
  (Field.pointer 1 c.combinedData).write response.systemData <|
  (Field.pointer 2 c.fingerprint).write response.fingerprint <|
  (Field.text 3 c.string).write response.error <|
  (Field.pointer 4 c.string).write response.string <|
  (map 5 c.smartData).write response.smartData <|
  (map 6 c.serviceDetails).write response.serviceInfo <|
  (Field.list 7 .raw).write response.data ∅

def responseFromWire (m : WireMap) : Except String (AgentResponse σ ι κ υ δ μ π) := do
  let id ← (Field.pointer 0 c.uint32).read m
  let systemData ← (Field.pointer 1 c.combinedData).read m
  let fingerprint ← (Field.pointer 2 c.fingerprint).read m
  let error ← (Field.text 3 c.string).read m
  let string ← (Field.pointer 4 c.string).read m
  let smartData ← (map 5 c.smartData).read m
  let serviceInfo ← (map 6 c.serviceDetails).read m
  let data ← (Field.list 7 .raw).read m
  return ⟨id, systemData, fingerprint, error, string, smartData, serviceInfo, data⟩

/-- A map that is not left out. -/
def sentMap {α : Type} (m : Option (GoMap String α)) : Option (GoMap String α) :=
  m.filter fun m => !m.entries.isEmpty

theorem responseFromWire_toWire (response : AgentResponse σ ι κ υ δ μ π) :
    c.responseFromWire (c.responseToWire response) =
      .ok { response with
        smartData := sentMap response.smartData, serviceInfo := sentMap response.serviceInfo } := by
  simp [responseFromWire, responseToWire, map, sentMap, bind, Except.bind, pure, Except.pure]

end WireCodecs

/-! ## Unmarshalling -/

inductive DestType where
  | combinedData
  | fingerprint
  | string
  | smartData
  | serviceDetails
  | bool
deriving DecidableEq

def DestType.goType : DestType → String
  | .combinedData => "*system.CombinedData"
  | .fingerprint => "*common.FingerprintResponse"
  | .string => "*string"
  | .smartData => "*map[string]smart.SmartData"
  | .serviceDetails => "*systemd.ServiceDetails"
  | .bool => "*bool"

/-- One case of `unmarshalLegacyResponse`: the field that the action stands for. -/
def legacyField (name : String) (expected dest : DestType)
    (value : Option (ResponseData σ ι κ υ δ μ π)) (missing : String) :
    Except String (ResponseData σ ι κ υ δ μ π) :=
  if dest ≠ expected then
    .error ("unexpected dest type for " ++ name ++ ": " ++ dest.goType)
  else
    match value with
    | none => .error missing
    | some v => .ok v

def unmarshalLegacyResponse (resp : AgentResponse σ ι κ υ δ μ π) (action : WebSocketAction)
    (dest : DestType) : Except String (ResponseData σ ι κ υ δ μ π) :=
  if action = .getData then
    legacyField "GetData" .combinedData dest (resp.systemData.map .combinedData)
      "no system data in response"
  else if action = .checkFingerprint then
    legacyField "CheckFingerprint" .fingerprint dest (resp.fingerprint.map .fingerprint)
      "no fingerprint in response"
  else if action = .getContainerLogs then
    legacyField "GetContainerLogs" .string dest (resp.string.map .string) "no logs in response"
  else if action = .getContainerInfo then
    legacyField "GetContainerInfo" .string dest (resp.string.map .string) "no info in response"
  else if action = .getSmartData then
    legacyField "GetSmartData" .smartData dest (resp.smartData.map .smartData)
      "no SMART data in response"
  else if action = .getSystemdInfo then
    legacyField "GetSystemdInfo" .serviceDetails dest (resp.serviceInfo.map .serviceDetails)
      "no systemd info in response"
  else
    .error ("unsupported action: " ++ toString action)

namespace WireCodecs

variable (c : WireCodecs σ ι κ υ δ μ π)

def unmarshal (bytes : RawMessage) : DestType → Except String (ResponseData σ ι κ υ δ μ π)
  | .combinedData => (c.combinedData.decode bytes).map .combinedData
  | .fingerprint => (c.fingerprint.decode bytes).map .fingerprint
  | .string => (c.string.decode bytes).map .string
  | .smartData => (c.smartData.decode bytes).map .smartData
  | .serviceDetails => (c.serviceDetails.decode bytes).map .serviceDetails
  | .bool => (Codec.bool.decode bytes).map .bool

def unmarshalResponse (resp : AgentResponse σ ι κ υ δ μ π) (action : WebSocketAction) :
    Option DestType → Except String (ResponseData σ ι κ υ δ μ π)
  | none => .error "nil destination"
  | some dest =>
    if resp.data.length > 0 then
      match c.unmarshal resp.data dest with
      | .error err => .error ("failed to unmarshal generic response data: " ++ err)
      | .ok value => .ok value
    else
      unmarshalLegacyResponse resp action dest

/-- What the transports do with the bytes of a response. -/
def receive (bytes : List UInt8) (action : WebSocketAction) (dest : Option DestType) :
    Except String (ResponseData σ ι κ υ δ μ π) := do
  let m ← c.wire.decode bytes
  let resp ← c.responseFromWire m
  if resp.error ≠ "" then
    .error resp.error
  else
    c.unmarshalResponse resp action dest

def send (value : ResponseData σ ι κ υ δ μ π) (requestID : Option UInt32) : List UInt8 :=
  c.wire.encode (c.responseToWire (newAgentResponse value requestID))

/-! ## What the hub receives -/

theorem receive_send (value : ResponseData σ ι κ υ δ μ π) (requestID : Option UInt32)
    (action : WebSocketAction) (dest : Option DestType) :
    c.receive (c.send value requestID) action dest =
      c.unmarshalResponse { newAgentResponse value requestID with
        smartData := sentMap (newAgentResponse value requestID).smartData
        serviceInfo := sentMap (newAgentResponse value requestID).serviceInfo } action dest := by
  unfold receive send
  rw [c.wire.decode_encode]
  simp [bind, Except.bind, responseFromWire_toWire]

end WireCodecs

def hubDest : RequestHandler → DestType
  | .getData => .combinedData
  | .checkFingerprint => .fingerprint
  | .getContainerLogs => .string
  | .getContainerInfo => .string
  | .getSmartData => .smartData
  | .getSystemdInfo => .serviceDetails
  | .restartAgent => .bool
  | .pushAgentBinary => .bool

def EmptyMap : ResponseData σ ι κ υ δ μ π → Prop
  | .smartData data => data.entries.isEmpty = true
  | .serviceDetails details => details.entries.isEmpty = true
  | .combinedData _ | .fingerprint _ | .string _ | .bool _ => False

inductive Sends : RequestHandler → ResponseData σ ι κ υ δ μ π → Prop where
  | getData (data) : Sends .getData (.combinedData data)
  | checkFingerprint (response) : Sends .checkFingerprint (.fingerprint response)
  | getContainerLogs (content) : Sends .getContainerLogs (.string content)
  | getContainerInfo (content) : Sends .getContainerInfo (.string content)
  | getSmartData (data) : Sends .getSmartData (.smartData data)
  | getSystemdInfo (details) : Sends .getSystemdInfo (.serviceDetails details)
  | restartAgent : Sends .restartAgent (.bool true)
  | pushAgentBinary : Sends .pushAgentBinary (.bool true)

section Sends

variable {env : AgentEnv σ ι κ υ δ μ π Key} {value : ResponseData σ ι κ υ δ μ π}

theorem sends_of_handleContainerRequest {operation : String → Except String String}
    {data : RawMessage} (h : env.handleContainerRequest operation data = .ok value) :
    ∃ content, value = .string content := by
  unfold AgentEnv.handleContainerRequest at h
  repeat' split at h
  all_goals cases h
  all_goals exact ⟨_, rfl⟩

theorem sends_of_handle {handler : RequestHandler} {msg : HubRequest}
    (h : env.handle handler msg = .ok value) : Sends handler value := by
  cases handler with
  | getData =>
    cases h
    exact .getData _
  | checkFingerprint =>
    simp only [AgentEnv.handle, AgentEnv.handleAuthChallenge] at h
    split at h
    · cases h
    · split at h
      · cases h
        exact .checkFingerprint _
      · cases h
        exact .checkFingerprint _
  -- logs, information and the answer without docker are strings
  | getContainerLogs =>
    obtain ⟨content, rfl⟩ := sends_of_handleContainerRequest h
    exact .getContainerLogs content
  | getContainerInfo =>
    obtain ⟨content, rfl⟩ := sends_of_handleContainerRequest h
    exact .getContainerInfo content
  | getSmartData =>
    -- an empty map without a SMART manager, or what it has
    simp only [AgentEnv.handle, AgentEnv.handleGetSmartData] at h
    split at h
    · cases h
      exact .getSmartData _
    · cases h
      exact .getSmartData _
  | getSystemdInfo =>
    simp only [AgentEnv.handle, AgentEnv.handleGetSystemdInfo] at h
    repeat' split at h
    all_goals cases h
    exact .getSystemdInfo _
  | restartAgent =>
    cases h
    exact .restartAgent
  | pushAgentBinary =>
    simp only [AgentEnv.handle, AgentEnv.handlePushAgentBinary] at h
    repeat' split at h
    all_goals cases h
    exact .pushAgentBinary

end Sends

def handlerAction : RequestHandler → WebSocketAction
  | .getData => .getData
  | .checkFingerprint => .checkFingerprint
  | .getContainerLogs => .getContainerLogs
  | .getContainerInfo => .getContainerInfo
  | .getSmartData => .getSmartData
  | .getSystemdInfo => .getSystemdInfo
  | .restartAgent => .restartAgent
  | .pushAgentBinary => .pushAgentBinary

theorem eq_handlerAction_of_lookup {action : WebSocketAction} {handler : RequestHandler}
    (h : newHandlerRegistry.lookup action = some handler) : action = handlerAction handler := by
  simp only [newHandlerRegistry, List.lookup_cons, List.lookup_nil] at h
  -- the entries of the registry in their order
  repeat' split at h
  all_goals cases h
  all_goals simp_all [handlerAction]

theorem legacyField_sentMap {α : Type} (name missing : String) (dest : DestType)
    (m : GoMap String α) (build : GoMap String α → ResponseData σ ι κ υ δ μ π) :
    legacyField name dest dest ((WireCodecs.sentMap (some m)).map build) missing = .ok (build m) ↔
      m.entries.isEmpty ≠ true := by
  unfold legacyField WireCodecs.sentMap
  cases hempty : m.entries.isEmpty with
  -- an empty map is left out, and the hub finds the field nil
  | true => simp [Option.filter_some, hempty]
  | false => simp [Option.filter_some, hempty]

/-! ## Main theorem -/

/-- **Round trip**: the value that a handler sends is the value that the hub unmarshals for its
    action, exactly if it is not an empty map. -/
theorem response_arrives_iff (c : WireCodecs σ ι κ υ δ μ π) (env : AgentEnv σ ι κ υ δ μ π Key)
    {action : WebSocketAction} {handler : RequestHandler} {msg : HubRequest}
    {value : ResponseData σ ι κ υ δ μ π} (requestID : Option UInt32)
    (hlookup : newHandlerRegistry.lookup action = some handler)
    (hvalue : env.handle handler msg = .ok value) :
    c.receive (c.send value requestID) action (some (hubDest handler)) = .ok value ↔
      ¬ EmptyMap value := by
  rw [c.receive_send, eq_handlerAction_of_lookup hlookup]
  cases sends_of_handle hvalue with
  | getSmartData data =>
    exact legacyField_sentMap "GetSmartData" "no SMART data in response" .smartData data .smartData
  | getSystemdInfo details =>
    exact legacyField_sentMap "GetSystemdInfo" "no systemd info in response" .serviceDetails details
      .serviceDetails
  -- the other values are in a field of their own or in the generic one
  | getData _ | checkFingerprint _ | getContainerLogs _ | getContainerInfo _ | restartAgent
  | pushAgentBinary => exact iff_of_true rfl (fun h => h)

/-! ## Runs -/

def unitItem : Item Unit := Item.nat.via (fun _ => 0) (fun _ => some ()) fun _ => rfl

def stateItem : Item ServiceState :=
  Item.nat.via ServiceState.ctorIdx
    (fun n => [.active, .inactive, .failed, .activating, .deactivating, .reloading][n]?)
    fun state => by cases state <;> rfl

def serviceItem : Item (Service Unit) :=
  (Item.string.pair stateItem).via (fun service => (service.name, service.state))
    (fun p => some ⟨p.1, p.2, ()⟩) fun _ => rfl

/-- Codecs for values without contents. -/
def itemCodecs : WireCodecs Unit Unit Unit Unit Unit Unit Unit where
  wire := (Item.nat.map (Item.nat.via UInt8.toNat (some <| .ofNat ·) (by simp)).list).codec
  uint32 := (Item.nat.via UInt32.toNat (some <| .ofNat ·) (by simp)).codec
  string := Item.string.codec
  stats := unitItem.codec
  zeroStats := ()
  info := (unitItem.pair (Item.nat.via UInt16.toNat (some <| .ofNat ·) (by simp)).list).codec
  zeroInfo := ((), [])
  containers := unitItem.list.codec
  services := serviceItem.list.codec
  details := unitItem.codec
  smartData := (Item.string.map unitItem).codec
  serviceDetails := (Item.string.map unitItem).codec

/-- The data of an agent arrives, in its own field of the response. -/
theorem system_data_arrives :
    newHandlerRegistry.lookup .getData = some .getData ∧
      ∃ data, plainAgent.handle .getData ⟨.getData, [], some 7⟩ = .ok (.combinedData data) ∧
        itemCodecs.receive (itemCodecs.send (.combinedData data) (some 7)) .getData
          (some .combinedData) = .ok (.combinedData data) :=
  have hvalue : ∃ data, plainAgent.handle .getData ⟨.getData, [], some 7⟩ =
      .ok (.combinedData data) := ⟨_, rfl⟩
  ⟨rfl, hvalue.imp fun _ h =>
    ⟨h, (response_arrives_iff itemCodecs plainAgent (some 7) rfl h).mpr fun hempty => hempty⟩⟩

theorem empty_smart_data_is_refused :
    plainAgent.handle .getSmartData ⟨.getSmartData, [], some 7⟩ = .ok (.smartData ∅) ∧
      itemCodecs.receive (itemCodecs.send (.smartData ∅) (some 7)) .getSmartData
        (some .smartData) = .error "no SMART data in response" :=
  ⟨rfl, itemCodecs.receive_send (.smartData ∅) (some 7) .getSmartData (some .smartData)⟩

end Bantay.Hub
