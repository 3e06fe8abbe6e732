import Mathlib.Data.List.Basic

/-!
# Hub Requests and the Agent's Handler Registry

The request path of the agent (`agent/handlers.go`, `agent/client.go`,
`internal/common/common-ws.go`): the actions a hub may send, the registry that maps an
action to its handler, and the check that an action other than `CheckFingerprint` needs a
verified hub.

CBOR decoding and public-key signatures come from other packages.  They are the fields
`unmarshalFingerprintRequest` and `verify` of `ClientConfig`.
-/

namespace Bantay.Agent

/-! ## Actions and requests -/

/-- `common.WebSocketAction`: one byte on the wire, so that an unknown action can arrive. -/
abbrev WebSocketAction := UInt8

namespace WebSocketAction

def getData : WebSocketAction := 0
def checkFingerprint : WebSocketAction := 1
def getContainerLogs : WebSocketAction := 2
def getContainerInfo : WebSocketAction := 3
def getSmartData : WebSocketAction := 4
def getSystemdInfo : WebSocketAction := 5
def restartAgent : WebSocketAction := 6
def pushAgentBinary : WebSocketAction := 7

end WebSocketAction

/-- A CBOR value that has not been decoded yet (`cbor.RawMessage`). -/
abbrev RawMessage := List UInt8

structure HubRequest where
  action : WebSocketAction
  data : RawMessage
  id : Option UInt32
deriving DecidableEq

/-- `common.FingerprintRequest`: the hub's challenge. -/
structure FingerprintRequest where
  signature : List UInt8
  needSysInfo : Bool

/-! ## The handler registry -/

/-- The handler types of `agent/handlers.go`. -/
inductive RequestHandler where
  | getData
  | checkFingerprint
  | getContainerLogs
  | getContainerInfo
  | getSmartData
  | getSystemdInfo
  | restartAgent
  | pushAgentBinary
deriving DecidableEq

/-- `HandlerRegistry`: the map from actions to handlers. -/
abbrev HandlerRegistry := List (WebSocketAction × RequestHandler)

/-- `NewHandlerRegistry`: the handlers registered by default. -/
def newHandlerRegistry : HandlerRegistry :=
  [(.getData, .getData),
   (.checkFingerprint, .checkFingerprint),
   (.getContainerLogs, .getContainerLogs),
   (.getContainerInfo, .getContainerInfo),
   (.getSmartData, .getSmartData),
   (.getSystemdInfo, .getSystemdInfo),
   (.restartAgent, .restartAgent),
   (.pushAgentBinary, .pushAgentBinary)]

/-- The handler that `HandlerRegistry.Handle` calls, or the error it returns instead. -/
def HandlerRegistry.handle (hr : HandlerRegistry) (action : WebSocketAction)
    (hubVerified : Bool) : Except String RequestHandler :=
  match hr.lookup action with
  | none => .error ("unknown action: " ++ toString action)
  | some handler =>
    if action ≠ .checkFingerprint ∧ hubVerified = false then
      .error "hub not verified"
    else
      .ok handler

theorem HandlerRegistry.handle_unverified {hr : HandlerRegistry} {action : WebSocketAction}
    {handler : RequestHandler} (h : hr.handle action false = .ok handler) :
    action = .checkFingerprint := by
  unfold HandlerRegistry.handle at h
  split at h
  · cases h
  · split at h
    · cases h
    · rename_i hnot
      simpa using hnot

theorem newHandlerRegistry_handle_getData :
    newHandlerRegistry.handle .getData true = .ok .getData := by
  decide

theorem newHandlerRegistry_handle_checkFingerprint {action : WebSocketAction} {b : Bool}
    (h : newHandlerRegistry.handle action b = .ok .checkFingerprint) :
    action = .checkFingerprint := by
  unfold HandlerRegistry.handle at h
  split at h
  · cases h
  · rename_i handler hlookup
    split at h
    · cases h
    · obtain rfl : handler = .checkFingerprint := by simpa using h
      simp only [newHandlerRegistry, List.lookup_cons, List.lookup_nil] at hlookup
      repeat' split at hlookup
      all_goals first
        | cases hlookup; done
        | simp_all

/-! ## Verifying the hub -/

structure ClientConfig (Key : Type) where
  token : String
  keys : List Key
  /-- `pubKey.Verify` on the token and a signature blob. -/
  verify : Key → String → List UInt8 → Bool
  /-- `cbor.Unmarshal` into a `FingerprintRequest`. -/
  unmarshalFingerprintRequest : RawMessage → Option FingerprintRequest

variable {Key : Type}

/-- `WebSocketClient.verifySignature`: the first key that accepts the signature decides. -/
def ClientConfig.verifySignature (cfg : ClientConfig Key) (signature : List UInt8) :
    Except String Unit :=
  if cfg.keys.any (fun pubKey => cfg.verify pubKey cfg.token signature) then
    .ok ()
  else
    .error "invalid signature - check KEY value"

/-- What can fail in `WebSocketClient.handleAuthChallenge` before the hub is marked as verified. -/
def ClientConfig.checkAuthChallenge (cfg : ClientConfig Key) (msg : HubRequest) :
    Except String FingerprintRequest :=
  match cfg.unmarshalFingerprintRequest msg.data with
  | none => .error "cbor: cannot unmarshal FingerprintRequest"
  | some authRequest =>
    match cfg.verifySignature authRequest.signature with
    | .error err => .error err
    | .ok () => .ok authRequest

end Bantay.Agent
