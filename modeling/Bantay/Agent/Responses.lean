import Bantay.Agent.GatherStats
import Bantay.Agent.Handlers
import Bantay.Hub.AgentConnect
import Bantay.Lib.Cbor
import Bantay.Systems.FetchData

/-!
# Responses of the Agent over WebSocket and SSH

The handlers of `agent/handlers.go` and `agent/handler_push_binary.go` end with an error or send
one value.  Two transports dispatch to them: `WebSocketClient.OnMessage` and `handleSSHRequest`.
`handleSession` also serves hubs before `MinVersionAgentResponse`, which get their stats without a
request.

What the handlers ask of the rest of the agent and of the host is a function of `AgentEnv`.  A
response that is sent arrives.
-/

namespace Bantay.Agent

open Bantay.Lib
open Bantay.Hub (FingerprintResponse)
open Bantay.Systems (Version)

/-! ## Values and responses -/

/-- The values that handlers send. -/
inductive ResponseData (σ ι κ υ δ μ π : Type) where
  | combinedData (data : CombinedData σ ι κ υ δ)
  | fingerprint (response : FingerprintResponse)
  | string (content : String)
  | smartData (data : GoMap String μ)
  | serviceDetails (details : GoMap String π)
  | bool (ack : Bool)

/-- `common.AgentResponse`; pointers and maps can be nil. -/
structure AgentResponse (σ ι κ υ δ μ π : Type) where
  id : Option UInt32 := none
  systemData : Option (CombinedData σ ι κ υ δ) := none
  fingerprint : Option FingerprintResponse := none
  error : String := ""
  string : Option String := none
  smartData : Option (GoMap String μ) := none
  serviceInfo : Option (GoMap String π) := none
  data : RawMessage := []

variable {σ ι κ υ δ μ π Key : Type}

def newAgentResponse (data : ResponseData σ ι κ υ δ μ π) (requestID : Option UInt32) :
    AgentResponse σ ι κ υ δ μ π :=
  match data with
  | .combinedData v => { id := requestID, systemData := some v }
  | .fingerprint v => { id := requestID, fingerprint := some v }
  | .string v => { id := requestID, string := some v }
  | .smartData v => { id := requestID, smartData := some v }
  | .serviceDetails v => { id := requestID, serviceInfo := some v }
  -- any other type goes into the generic field
  | .bool v => { id := requestID, data := Codec.bool.encode v }

/-- A message to the hub. -/
inductive Reply (σ ι κ υ δ μ π : Type) where
  | response (r : AgentResponse σ ι κ υ δ μ π)
  | legacy (data : ResponseData σ ι κ υ δ μ π)

/-- A message as the requester sees it. -/
def Reply.withoutId : Reply σ ι κ υ δ μ π → Reply σ ι κ υ δ μ π
  | .response r => .response { r with id := none }
  | .legacy data => .legacy data

/-! ## The agent -/

structure PushAgentBinaryRequest where
  arch : String
  version : String
  sha256 : String
  binary : List UInt8

structure DockerManager where
  getLogs : String → Except String String
  getContainerInfo : String → Except String String

/-- The agent as a request finds it. -/
structure AgentEnv (σ ι κ υ δ μ π Key : Type) where
  stats : StatsAgent σ ι κ υ δ
  now : ℕ
  sample : Sample σ ι κ δ
  docker : DockerManager
  smartManager : Option (GoMap String μ)
  getServiceDetails : String → Except String (GoMap String π)
  client : ClientConfig Key
  fingerprint : String
  systemName : String
  hostname : String
  port : String
  goarch : String
  installPathEnv : Option String
  executable : Except String String
  installBinary : String → List UInt8 → Except String Unit
  sha256Hex : List UInt8 → String
  /-- the verb `%q` -/
  quote : String → String
  /-- `cbor.Unmarshal` into options; what fails to decode is zero -/
  unmarshalOptions : RawMessage → DataRequestOptions
  /-- `cbor.Unmarshal` into a request with a container id -/
  unmarshalContainerRequest : RawMessage → Except String String
  /-- `cbor.Unmarshal` into a request with a service name -/
  unmarshalSystemdInfoRequest : RawMessage → Except String String
  unmarshalPushRequest : RawMessage → Except String PushAgentBinaryRequest

def agentArchTag (goarch : String) : String :=
  if goarch = "arm" then "armv7" else goarch

namespace AgentEnv

variable (env : AgentEnv σ ι κ υ δ μ π Key) (msg : HubRequest)

def resolveInstallPath : Except String String :=
  match env.installPathEnv with
  | some v => if v ≠ "" then .ok v else env.executable
  | none => env.executable

/-! ## Handlers -/

variable (data : RawMessage)

def handleGetData : Except String (ResponseData σ ι κ υ δ μ π) :=
  .ok (.combinedData (env.stats.gatherStats env.now env.sample (env.unmarshalOptions data)).2)

def handleAuthChallenge : Except String (ResponseData σ ι κ υ δ μ π) :=
  match env.client.checkAuthChallenge msg with
  | .error err => .error err
  | .ok authRequest =>
    if authRequest.needSysInfo then
      .ok (.fingerprint ⟨env.fingerprint, env.hostname, env.port, env.systemName⟩)
    else
      .ok (.fingerprint ⟨env.fingerprint, "", "", ""⟩)

/-- A handler that asks docker about a container. -/
def handleContainerRequest (operation : String → Except String String) (data : RawMessage) :
    Except String (ResponseData σ ι κ υ δ μ π) :=
  if env.stats.dockerManager = false then
    .ok (.string "")
  else
    match env.unmarshalContainerRequest data with
    | .error err => .error err
    | .ok containerID =>
      match operation containerID with
      | .error err => .error err
      | .ok content => .ok (.string content)

def handleGetContainerLogs : Except String (ResponseData σ ι κ υ δ μ π) :=
  env.handleContainerRequest env.docker.getLogs data

def handleGetContainerInfo : Except String (ResponseData σ ι κ υ δ μ π) :=
  env.handleContainerRequest env.docker.getContainerInfo data

def handleGetSmartData : Except String (ResponseData σ ι κ υ δ μ π) :=
  match env.smartManager with
  -- an empty map to indicate no data
  | none => .ok (.smartData ∅)
  | some data => .ok (.smartData data)

def handleGetSystemdInfo : Except String (ResponseData σ ι κ υ δ μ π) :=
  if env.stats.systemdManager.isNone then
    .error "unsupported operation"
  else
    match env.unmarshalSystemdInfoRequest data with
    | .error err => .error err
    | .ok serviceName =>
      if serviceName = "" then
        .error "service name is required"
      else
        match env.getServiceDetails serviceName with
        | .error err => .error err
        | .ok details => .ok (.serviceDetails details)

def handlePushAgentBinary : Except String (ResponseData σ ι κ υ δ μ π) :=
  match env.unmarshalPushRequest data with
  | .error err => .error ("decode push binary request: " ++ err)
  | .ok req =>
    let wantArch := agentArchTag env.goarch
    if req.arch ≠ wantArch then
      .error ("arch mismatch: hub sent " ++ env.quote req.arch ++ ", agent is " ++
        env.quote wantArch)
    else if req.binary = [] then
      .error "empty binary payload"
    else if env.sha256Hex req.binary ≠ req.sha256 then
      .error ("sha256 mismatch: want " ++ req.sha256 ++ " got " ++ env.sha256Hex req.binary)
    else
      match env.resolveInstallPath with
      | .error err => .error ("resolve install path: " ++ err)
      | .ok installPath =>
        match env.installBinary installPath req.binary with
        | .error err => .error ("install binary: " ++ err)
        | .ok () => .ok (.bool true)

/-- The value that is sent, or the error that is returned. -/
def handle (handler : RequestHandler) (msg : HubRequest) :
    Except String (ResponseData σ ι κ υ δ μ π) :=
  match handler with
  | .getData => env.handleGetData msg.data
  | .checkFingerprint => env.handleAuthChallenge msg
  | .getContainerLogs => env.handleGetContainerLogs msg.data
  | .getContainerInfo => env.handleGetContainerInfo msg.data
  | .getSmartData => env.handleGetSmartData
  | .getSystemdInfo => env.handleGetSystemdInfo msg.data
  | .restartAgent => .ok (.bool true)
  | .pushAgentBinary => env.handlePushAgentBinary msg.data

/-! ## Transports -/

def sendResponse (data : ResponseData σ ι κ υ δ μ π) (requestID : Option UInt32) :
    Reply σ ι κ υ δ μ π :=
  match requestID with
  | some id => .response (newAgentResponse data (some id))
  | none => .legacy data

/-- The messages that are sent to a verified hub. -/
def onMessage : List (Reply σ ι κ υ δ μ π) :=
  match newHandlerRegistry.handle msg.action true with
  -- errors are logged
  | .error _ => []
  | .ok handler =>
    match env.handle handler msg with
    | .error _ => []
    | .ok data => [sendResponse data msg.id]

def handleSSHRequest : List (Reply σ ι κ υ δ μ π) :=
  if msg.action = .checkFingerprint then
    [.response { error := "unsupported action" }]
  else
    match newHandlerRegistry.lookup msg.action with
    | some handler =>
      match env.handle handler msg with
      | .error err => [.response { error := err }]
      | .ok data => [.response (newAgentResponse data none)]
    | none => [.response { error := "unknown action: " ++ toString msg.action }]

/-! ## The property and the condition -/

def outcome : AgentResponse σ ι κ υ δ μ π :=
  match newHandlerRegistry.lookup msg.action with
  | none => { error := "unknown action: " ++ toString msg.action }
  | some handler =>
    match env.handle handler msg with
    | .error err => { error := err }
    | .ok data => newAgentResponse data none

/-- A request gets this one response over WebSocket, where it has an id, and over SSH. -/
def SameOutcome (action : WebSocketAction) (data : RawMessage) (id : UInt32) : Prop :=
  (env.onMessage ⟨action, data, some id⟩).map Reply.withoutId =
      [.response (env.outcome ⟨action, data, none⟩)] ∧
    env.handleSSHRequest ⟨action, data, none⟩ = [.response (env.outcome ⟨action, data, none⟩)]

/-- A request about a container can be served: there is no docker, or it answers. -/
def CanAskDocker (operation : String → Except String String) (data : RawMessage) : Prop :=
  env.stats.dockerManager = true → ∃ containerID content,
    env.unmarshalContainerRequest data = .ok containerID ∧ operation containerID = .ok content

def CanInstall : Prop :=
  ∃ req installPath, env.unmarshalPushRequest data = .ok req ∧
    req.arch = agentArchTag env.goarch ∧ req.binary ≠ [] ∧
    env.sha256Hex req.binary = req.sha256 ∧ env.resolveInstallPath = .ok installPath ∧
    env.installBinary installPath req.binary = .ok ()

/-- What a request other than `CheckFingerprint` needs of the agent to be served. -/
def CanServe : RequestHandler → Prop
  | .getData | .getSmartData | .restartAgent => True
  | .checkFingerprint => False
  | .getContainerLogs => env.CanAskDocker env.docker.getLogs data
  | .getContainerInfo => env.CanAskDocker env.docker.getContainerInfo data
  | .getSystemdInfo =>
    env.stats.systemdManager.isSome = true ∧ ∃ serviceName details,
      env.unmarshalSystemdInfoRequest data = .ok serviceName ∧ serviceName ≠ "" ∧
      env.getServiceDetails serviceName = .ok details
  | .pushAgentBinary => env.CanInstall data

/-! ## Handlers that succeed -/

variable {env} {handler : RequestHandler} {data : RawMessage} {action : WebSocketAction}
  {id : UInt32}

theorem handleContainerRequest_ok {operation : String → Except String String} :
    (∃ value, env.handleContainerRequest operation data = .ok value) ↔
      env.CanAskDocker operation data := by
  unfold handleContainerRequest CanAskDocker
  cases env.stats.dockerManager with
  | false => simp
  | true =>
    cases env.unmarshalContainerRequest data with
    | error err => simp
    | ok containerID =>
      cases hcont : operation containerID with
      | error err => simp [hcont]
      | ok content => simp [hcont]

theorem handleGetSystemdInfo_ok : (∃ value, env.handleGetSystemdInfo data = .ok value)
    ↔ env.CanServe data .getSystemdInfo := by
  unfold handleGetSystemdInfo CanServe
  cases env.stats.systemdManager with
  | none => simp
  | some sm =>
    cases env.unmarshalSystemdInfoRequest data with
    | error err => simp
    | ok serviceName =>
      by_cases hname : serviceName = ""
      · simp [hname]
      · cases hdet : env.getServiceDetails serviceName with
        | error err => simp [hname, hdet]
        | ok details => simp [hname, hdet]

theorem handlePushAgentBinary_ok : (∃ value, env.handlePushAgentBinary data = .ok value)
    ↔ env.CanInstall data := by
  unfold handlePushAgentBinary CanInstall
  cases env.unmarshalPushRequest data with
  | error err => simp
  | ok req =>
    -- the checks in their order
    by_cases harch : req.arch = agentArchTag env.goarch
    · by_cases hbin : req.binary = []
      · simp [harch, hbin]
      · by_cases hsum : env.sha256Hex req.binary = req.sha256
        · cases hpath : env.resolveInstallPath with
          | error err => simp [harch, hbin, hsum]
          | ok installPath =>
            cases hinstall : env.installBinary installPath req.binary with
            | error err => simp [harch, hbin, hsum, hinstall]
            | ok u => simp [harch, hbin, hsum, hinstall]
        · simp [harch, hbin, hsum]
    · simp [harch]

/-- Handlers other than `CheckFingerprint` succeed exactly if the request can be served. -/
theorem handle_ok (env : AgentEnv σ ι κ υ δ μ π Key) (msg : HubRequest)
    (hhdl : handler ≠ .checkFingerprint) :
    (∃ value, env.handle handler msg = .ok value) ↔ env.CanServe msg.data handler := by
  cases handler with
  | getData => exact ⟨fun _ => trivial, fun _ => ⟨_, rfl⟩⟩
  | checkFingerprint => exact absurd rfl hhdl
  | getContainerLogs => exact handleContainerRequest_ok
  | getContainerInfo => exact handleContainerRequest_ok
  | getSmartData =>
    refine ⟨fun _ => trivial, fun _ => ?_⟩
    show ∃ value, env.handleGetSmartData = .ok value
    unfold handleGetSmartData
    cases env.smartManager with
    | none => exact ⟨_, rfl⟩
    | some data => exact ⟨_, rfl⟩
  | getSystemdInfo => exact handleGetSystemdInfo_ok
  | restartAgent => exact ⟨fun _ => trivial, fun _ => ⟨_, rfl⟩⟩
  | pushAgentBinary => exact handlePushAgentBinary_ok

/-! ## Main theorem -/

@[simp]
theorem newAgentResponse_error (value : ResponseData σ ι κ υ δ μ π) (id : Option UInt32) :
    (newAgentResponse value id).error = "" := by
  cases value <;> rfl

section

variable (h : newHandlerRegistry.lookup action = some handler)
include h

theorem lookup_checkFingerprint : handler = .checkFingerprint ↔ action = .checkFingerprint := by
  constructor
  · rintro rfl
    apply newHandlerRegistry_handle_checkFingerprint (b := true)
    unfold HandlerRegistry.handle
    rw [h]
    simp
  · rintro rfl
    exact (Option.some.inj h).symm

theorem onMessage_of_lookup :
    (env.onMessage ⟨action, data, some id⟩).map Reply.withoutId =
      match env.handle handler ⟨action, data, none⟩ with
      | .error _ => []
      | .ok value => [.response (newAgentResponse value none)] := by
  have hdisp : newHandlerRegistry.handle action true = .ok handler := by
    unfold HandlerRegistry.handle
    rw [h]
    simp
  -- the handlers do not look at the id
  have hid : env.handle handler ⟨action, data, some id⟩ =
      env.handle handler ⟨action, data, none⟩ := by
    cases handler <;> rfl
  unfold onMessage
  rw [hdisp]
  dsimp only
  rw [hid]
  cases env.handle handler ⟨action, data, none⟩ with
  | error err => rfl
  | ok value => cases value <;> rfl

theorem outcome_of_lookup :
    env.outcome ⟨action, data, none⟩ =
      match env.handle handler ⟨action, data, none⟩ with
      | .error err => { error := err }
      | .ok value => newAgentResponse value none := by
  unfold outcome
  rw [h]

theorem handleSSHRequest_of_ne (hact : action ≠ .checkFingerprint) :
    env.handleSSHRequest ⟨action, data, none⟩ = [.response (env.outcome ⟨action, data, none⟩)] := by
  rw [outcome_of_lookup h]
  unfold handleSSHRequest
  rw [if_neg hact]
  rw [h]
  dsimp only
  cases env.handle handler ⟨action, data, none⟩ <;> rfl

end

theorem not_sameOutcome_checkFingerprint
    (h : newHandlerRegistry.lookup .checkFingerprint = some .checkFingerprint) :
    ¬ env.SameOutcome .checkFingerprint data id := by
  rintro ⟨hws, hssh⟩
  rw [onMessage_of_lookup h, outcome_of_lookup h] at hws
  rw [outcome_of_lookup h] at hssh
  cases hval : env.handle .checkFingerprint ⟨.checkFingerprint, data, none⟩ with
  | error err =>
    rw [hval] at hws
    cases hws
  | ok value =>
    rw [hval] at hssh
    -- the answer to a challenge has no error text
    have herror : "unsupported action" = "" :=
      (congrArg AgentResponse.error (Reply.response.inj (List.cons.inj hssh).1)).trans
        (newAgentResponse_error value none)
    exact absurd herror (by decide)

theorem sameOutcome_iff_of_ne (h : newHandlerRegistry.lookup action = some handler)
    (hact : action ≠ .checkFingerprint) :
    env.SameOutcome action data id ↔
      ∃ value, env.handle handler ⟨action, data, none⟩ = .ok value := by
  unfold SameOutcome
  rw [handleSSHRequest_of_ne h hact, onMessage_of_lookup h, outcome_of_lookup h]
  cases env.handle handler ⟨action, data, none⟩ with
  | error err => simp
  | ok value => simp

/-- **Both transports** give a request the same one response, the result of its handler or an error
    text, exactly if its action is registered, is not `CheckFingerprint`, and can be served. -/
theorem same_outcome_iff (env : AgentEnv σ ι κ υ δ μ π Key) (action : WebSocketAction)
    (data : RawMessage) (id : UInt32) :
    env.SameOutcome action data id ↔
      ∃ handler, newHandlerRegistry.lookup action = some handler ∧ env.CanServe data handler := by
  cases hlookup : newHandlerRegistry.lookup action with
  | none =>
    -- an unknown action is not answered over WebSocket
    have hws : env.onMessage ⟨action, data, some id⟩ = [] := by
      unfold onMessage HandlerRegistry.handle
      rw [hlookup]
    simp [SameOutcome, hws]
  | some handler =>
    simp only [Option.some.injEq, exists_eq_left']
    by_cases hact : action = .checkFingerprint
    · obtain rfl := (lookup_checkFingerprint hlookup).mpr hact
      subst hact
      exact iff_of_false (not_sameOutcome_checkFingerprint hlookup) (fun h => h)
    · have hhdl : handler ≠ .checkFingerprint :=
        fun h => hact ((lookup_checkFingerprint hlookup).mp h)
      rw [sameOutcome_iff_of_ne hlookup hact]
      exact handle_ok env ⟨action, data, none⟩ hhdl

end AgentEnv

/-- An agent without docker, systemd and SMART, and a binary for another architecture. -/
def plainAgent : AgentEnv Unit Unit Unit Unit Unit Unit Unit Unit where
  stats := ⟨false, none, (), false, ∅⟩
  now := 0
  sample := ⟨(), (), none, none⟩
  docker := ⟨fun _ => .error "no docker", fun _ => .error "no docker"⟩
  smartManager := none
  getServiceDetails _ := .error "no systemd"
  client := ⟨"token", [], fun _ _ _ => false, fun _ => none⟩
  fingerprint := "fingerprint"
  systemName := ""
  hostname := "host"
  port := "45876"
  goarch := "amd64"
  installPathEnv := none
  executable := .ok "/usr/bin/agent"
  installBinary _ _ := .ok ()
  sha256Hex _ := "sum"
  quote text := "\"" ++ text ++ "\""
  unmarshalOptions _ := ⟨5000, false⟩
  unmarshalContainerRequest _ := .ok "container"
  unmarshalSystemdInfoRequest _ := .ok "nginx"
  unmarshalPushRequest _ := .ok ⟨"arm64", "1.0.5", "sum", [0x7F]⟩

/-- The push is refused with an error text over SSH and not answered over WebSocket. -/
theorem failed_request_is_not_answered :
    plainAgent.onMessage ⟨.pushAgentBinary, [], some 1⟩ = [] ∧
      plainAgent.handleSSHRequest ⟨.pushAgentBinary, [], none⟩ =
        [.response
          { error := "arch mismatch: hub sent \"arm64\", agent is \"amd64\"" }] ∧
      ¬ plainAgent.SameOutcome .pushAgentBinary [] 1 := by
  refine ⟨rfl, rfl, ?_⟩
  rintro ⟨hws, -⟩
  cases hws

/-! ## Sessions of the SSH server -/

/-- What is written to a session at once. -/
inductive SessionPayload (σ ι κ υ δ μ π : Type) where
  | json (stats : CombinedData σ ι κ υ δ)
  | cbor (stats : CombinedData σ ι κ υ δ)
  | reply (message : Reply σ ι κ υ δ μ π)

namespace AgentEnv

variable (env : AgentEnv σ ι κ υ δ μ π Key)

def handleLegacyStats (hubVersion : Version) : List (SessionPayload σ ι κ υ δ μ π) :=
  let stats := (env.stats.gatherStats env.now env.sample ⟨60000, false⟩).2
  if hubVersion.beforeCbor then [.json stats] else [.cbor stats]

/-- The payloads that are written.  The agent is `later` when the input has been read. -/
def handleSession (later : AgentEnv σ ι κ υ δ μ π Key) (decode : List UInt8 → Option HubRequest)
    (hubVersion : Version) (input : List UInt8) : List (SessionPayload σ ι κ υ δ μ π) :=
  -- an older hub has its stats now, but the session goes on
  (if hubVersion.beforeAgentResponse then env.handleLegacyStats hubVersion else []) ++
    match decode input with
    | none => later.handleLegacyStats hubVersion
    | some req => (later.handleSSHRequest req).map .reply

variable {env}

theorem handleLegacyStats_length (hubVersion : Version) :
    (env.handleLegacyStats hubVersion).length = 1 := by
  unfold handleLegacyStats
  dsimp only
  split <;> rfl

theorem handleSSHRequest_length (msg : HubRequest) : (env.handleSSHRequest msg).length = 1 := by
  unfold handleSSHRequest
  split
  · rfl
  · split
    · split <;> rfl
    · rfl

/-- **One payload is written to a session** exactly if the hub is not older than
    `MinVersionAgentResponse`. -/
theorem session_writes_once_iff (env later : AgentEnv σ ι κ υ δ μ π Key)
    (decode : List UInt8 → Option HubRequest) (hubVersion : Version) (input : List UInt8) :
    (env.handleSession later decode hubVersion input).length = 1 ↔
      hubVersion.beforeAgentResponse = false := by
  have hrest : (match decode input with
      | none => later.handleLegacyStats hubVersion
      | some req => (later.handleSSHRequest req).map .reply).length = 1 := by
    split
    · exact handleLegacyStats_length hubVersion
    · rw [List.length_map, handleSSHRequest_length]
  rw [handleSession, List.length_append, hrest]
  cases hubVersion.beforeAgentResponse with
  | false => simp
  | true => simp [handleLegacyStats_length]

end AgentEnv

/-- **A hub of version 0.11.0 that sends nothing gets its stats twice.** -/
theorem older_hub_gets_stats_twice :
    (plainAgent.handleSession plainAgent (fun _ => none) ⟨0, 11, 0, []⟩ []).length = 2 := by
  decide

end Bantay.Agent
