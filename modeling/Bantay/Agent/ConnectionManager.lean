import Bantay.Lib.Transition
import Bantay.Agent.Handlers

/-!
# The Agent's Connection Manager

A step model of `agent/connection_manager.go`, `agent/client.go` and the start and stop of the SSH
server in `agent/server.go`.  The goroutines are explicit:

- the event loop of `ConnectionManager.Start` (`LoopPc`)
- every call of `connect`, the first one made by `Start` itself (`ConnectPc`)
- the read loop of every WebSocket connection ever established (`ReadLoop`)
- the goroutines that run `StartServer`, and the SSH sessions about to report themselves

Every channel operation is one step, and so is every stretch of code between two points where a
goroutine waits.  Time is in milliseconds.

Three fields record history that no step of the program reads: the connection an event came from,
whether `verifySignature` passed on a connection, and whether its disconnect event has been
handled.
-/

namespace Bantay.Agent

open Bantay.Lib

/-! ## States and events of the manager -/

inductive ConnectionState where
  | disconnected
  | webSocketConnected
  | sshConnected
deriving DecidableEq

inductive ConnectionEvent where
  | webSocketConnect
  | webSocketDisconnect
  | sshConnect
  | sshDisconnect
deriving DecidableEq

inductive ConnectionType where
  | none
  | ssh
  | webSocket
deriving DecidableEq

/-- The number of a WebSocket connection, in the order in which they are established. -/
abbrev ConnId := Nat

/-- An event in the channel.  The program sends `event` alone; `origin` is history. -/
structure Event where
  event : ConnectionEvent
  origin : Option ConnId
deriving DecidableEq

def wsTickerInterval : Nat := 10000

/-- The rate limit on connection attempts, and the pause before a delayed attempt. -/
def connectPause : Nat := 5000

/-! ## Goroutines -/

/-- Where the `ReadLoop` goroutine of a connection is. -/
inductive ReadLoop where
  | unused
  | reading
  /-- `handleAuthChallenge` is at `eventChan <- WebSocketConnect` -/
  | sendingConnect
  /-- `OnClose` is at `eventChan <- WebSocketDisconnect` -/
  | sendingDisconnect
  | finished
deriving DecidableEq

structure Conn where
  loop : ReadLoop
  closed : Bool
  /-- history: `verifySignature` passed on this connection -/
  verified : Bool
  /-- history: the manager has handled the disconnect event of this connection -/
  handled : Bool
deriving DecidableEq

def Conn.unused : Conn := ⟨.unused, false, false, false⟩

/-- A connection as `gws.NewClient` returns it, its read loop started. -/
def Conn.fresh : Conn := ⟨.reading, false, false, false⟩

/-- Where a call of `ConnectionManager.connect` is. -/
inductive ConnectPc where
  | unused
  | start
  | sleeping (wake : Nat)
  /-- about to call `startWebSocketConnection` -/
  | ready
  | dialing
  /-- `startWebSocketConnection` returned an error; `dns` says if a DNS lookup failed -/
  | failed (dns : Bool)
  /-- the pause before `stop` and `os.Exit` -/
  | exiting (wake : Nat)
  /-- `StopServer`, called on the way to `os.Exit`, is at its send -/
  | exitSending
  | startingSSH
  | startingTicker
  /-- at the deferred `isConnecting = false` -/
  | returning
  | done
deriving DecidableEq

/-- Why the event loop runs `StopServer`. -/
inductive StopReason where
  | stateChange
  | shutdown
deriving DecidableEq

/-- Where the goroutine that runs `ConnectionManager.Start` is. -/
inductive LoopPc where
  /-- in its own call of `connect`, before the loop -/
  | startup
  | select
  | handling (e : Event)
  /-- in `startWebSocketConnection`, called for a tick -/
  | dialing
  /-- `StopServer` is at `eventChan <- SSHDisconnect` -/
  | stopping (reason : StopReason)
deriving DecidableEq

/-! ## Configuration and state -/

structure AgentConfig (Key : Type) extends ClientConfig Key where
  /-- `newWebSocketClient` succeeded -/
  hasWsClient : Bool
  disableSSH : Bool
  exitOnDnsError : Bool

structure AgentState where
  alive : Bool
  now : Nat
  state : ConnectionState
  connectionType : ConnectionType
  eventChan : Option Event
  wsTicker : Option Nat
  isConnecting : Bool
  lastConnectAttempt : Option Nat
  hubVerified : Bool
  clientConn : Option ConnId
  conns : ConnId → Conn
  nextConn : ConnId
  connects : Nat → ConnectPc
  nextConnect : Nat
  /-- `agent.server != nil`: the SSH server is listening -/
  server : Bool
  /-- `StartServer` goroutines before their checks -/
  serverStarts : Nat
  /-- `StartServer` goroutines about to listen -/
  serverBinds : Nat
  /-- `handleSession` goroutines at `eventChan <- SSHConnect` -/
  sessions : Nat
  loop : LoopPc

/-- The state in which `Start` calls `connect`. -/
def AgentState.init : AgentState where
  alive := true
  now := 0
  state := .disconnected
  connectionType := .none
  eventChan := none
  wsTicker := some wsTickerInterval
  isConnecting := false
  lastConnectAttempt := none
  hubVerified := false
  clientConn := none
  conns := fun _ => .unused
  nextConn := 0
  connects := Function.update (fun _ => .unused) 0 .start
  nextConnect := 1
  server := false
  serverStarts := 0
  serverBinds := 0
  sessions := 0
  loop := .startup

/-! ## Pieces of the program -/

namespace AgentState

variable (s : AgentState)

def setConn (c : ConnId) (k : Conn) : AgentState :=
  { s with conns := Function.update s.conns c k }

def setConnect (i : Nat) (pc : ConnectPc) : AgentState :=
  { s with connects := Function.update s.connects i pc }

/-- `time.Since(client.lastConnectAttempt) < 5*time.Second` -/
def attemptedRecently : Bool :=
  match s.lastConnectAttempt with
  | none => false
  | some t => s.now - t < connectPause

/-- `WebSocketClient.Close`, and `closeWebSocket`, which calls it. -/
def closeWebSocket : AgentState :=
  match s.clientConn with
  | none => s
  | some c => s.setConn c { s.conns c with closed := true }

def startWsTicker : AgentState :=
  { s with wsTicker := some (s.now + wsTickerInterval) }

def stopWsTicker : AgentState :=
  { s with wsTicker := none }

def goConnect : AgentState :=
  { s.setConnect s.nextConnect .start with nextConnect := s.nextConnect + 1 }

/-- `gws.NewClient` returned a connection, and its read loop is started. -/
def openConn : AgentState :=
  { s.setConn s.nextConn .fresh with
    clientConn := some s.nextConn
    nextConn := s.nextConn + 1 }

/-- `gws.NewClient` returned an error together with a nil connection. -/
def failConn : AgentState :=
  { s with clientConn := none }

def nextTick (due : Nat) : AgentState :=
  { s with wsTicker := some (due + wsTickerInterval * ((s.now - due) / wsTickerInterval + 1)) }

end AgentState

/-- How `gws.NewClient` ended. -/
inductive DialResult where
  | ok
  | error (dns : Bool)
deriving DecidableEq

variable {Key : Type}

/-- The three checks of `startWebSocketConnection`, then the start of `WebSocketClient.Connect`,
    which closes the previous connection. -/
def startWebSocketConnection (cfg : AgentConfig Key) (s : AgentState) :
    Except String AgentState :=
  if s.state ≠ .disconnected then
    .error "already connected"
  else if cfg.hasWsClient = false then
    .error "WebSocket client not initialized"
  else if s.attemptedRecently then
    .error "already connecting"
  else
    .ok { s with lastConnectAttempt := some s.now }.closeWebSocket

/-- `handleStateChange`, up to the send in `StopServer` when the SSH server is running. -/
def handleStateChange (s : AgentState) (newState : ConnectionState) : AgentState :=
  if s.state = newState then
    { s with loop := .select }
  else
    match newState with
    | .webSocketConnected =>
      let s := { s with state := .webSocketConnected, connectionType := .webSocket }.stopWsTicker
      if s.server then
        { s with server := false, loop := .stopping .stateChange }
      else
        { s with isConnecting := false, loop := .select }
    | .sshConnected =>
      { s with state := .sshConnected, connectionType := .ssh, isConnecting := false,
               loop := .select }.stopWsTicker
    | .disconnected =>
      let s := { s with state := .disconnected, connectionType := .none, loop := .select }
      if s.isConnecting then
        -- a connect call is taken to be at work already
        s
      else
        { s with isConnecting := true }.closeWebSocket.goConnect

def handleEvent (s : AgentState) (event : ConnectionEvent) : AgentState :=
  match event with
  | .webSocketConnect => handleStateChange s .webSocketConnected
  | .sshConnect => handleStateChange s .sshConnected
  | .webSocketDisconnect =>
    if s.state = .webSocketConnected then
      handleStateChange s .disconnected
    else
      { s with loop := .select }
  | .sshDisconnect =>
    if s.state = .sshConnected then
      handleStateChange s .disconnected
    else
      { s with loop := .select }

/-- The history of `handleEvent`: the disconnect event of its connection is handled. -/
def recordHandled (s : AgentState) (e : Event) : AgentState :=
  match e with
  | ⟨.webSocketDisconnect, some c⟩ => s.setConn c { s.conns c with handled := true }
  | _ => s

/-- A WebSocket message as `OnMessage` sees it. -/
inductive Message where
  | notBinary
  | malformed
  | request (msg : HubRequest)
deriving DecidableEq

/-- `OnMessage` on connection `c`.  Other handlers than that of the challenge leave the manager as
    it is. -/
def onMessage (cfg : AgentConfig Key) (s : AgentState) (c : ConnId) : Message → AgentState
  | .notBinary => s
  | .malformed => s
  | .request msg =>
    match newHandlerRegistry.handle msg.action s.hubVerified with
    | .ok .checkFingerprint =>
      match cfg.checkAuthChallenge msg with
      | .error _ => s
      | .ok _ =>
        { s with hubVerified := true }.setConn c
          { s.conns c with loop := .sendingConnect, verified := true }
    | _ => s

/-! ## Steps -/

section

variable (s : AgentState) (cfg : AgentConfig Key)

/-- A channel send: it waits while the channel is full. -/
def AgentState.send (e : Event) : Option AgentState :=
  match s.eventChan with
  | none => some { s with eventChan := some e }
  | some _ => none

/-- The next stretch of the `i`-th call of `connect`, outside the dial itself. -/
def connectRun (s : AgentState) (i : Nat) : Option AgentState :=
  match s.connects i with
  | .start =>
    let s := { s with isConnecting := true }
    if cfg.hasWsClient ∧ s.attemptedRecently then
      some (s.setConnect i (.sleeping (s.now + connectPause)))
    else
      some (s.setConnect i .ready)
  | .sleeping wake =>
    if wake ≤ s.now then some (s.setConnect i .ready) else none
  | .ready =>
    match startWebSocketConnection cfg s with
    | .error _ => some (s.setConnect i (.failed false))
    | .ok s' => some (s'.setConnect i .dialing)
  | .failed dns =>
    if cfg.exitOnDnsError ∧ dns then
      some (s.setConnect i (.exiting (s.now + 2000)))
    else if s.state = .disconnected then
      some (s.setConnect i .startingSSH)
    else
      some (s.setConnect i .returning)
  | .startingSSH =>
    -- startSSHServer checks the state once more
    let s' := if s.state = .disconnected then { s with serverStarts := s.serverStarts + 1 } else s
    some (s'.setConnect i .startingTicker)
  | .startingTicker => some (s.startWsTicker.setConnect i .returning)
  | .returning =>
    let s' := { s with isConnecting := false }.setConnect i .done
    -- the first call is made by Start, which now enters its loop
    some (if i = 0 ∧ s.loop = .startup then { s' with loop := .select } else s')
  | .exiting wake =>
    if wake ≤ s.now then
      if s.server then
        some ({ s with server := false }.setConnect i .exitSending)
      else
        some { s.closeWebSocket with alive := false }
    else
      none
  | .exitSending =>
    match s.send ⟨.sshDisconnect, none⟩ with
    | none => none
    | some s' => some { s'.closeWebSocket with alive := false }
  | _ => none

def connectDialed (i : Nat) (r : DialResult) : Option AgentState :=
  match s.connects i, r with
  | .dialing, .ok => some (s.openConn.setConnect i .returning)
  | .dialing, .error dns => some (s.failConn.setConnect i (.failed dns))
  | _, _ => none

def loopReceive : Option AgentState :=
  match s.loop, s.eventChan with
  | .select, some e => some { s with eventChan := none, loop := .handling e }
  | _, _ => none

/-- The loop runs the handler of the event it took, or the send its handler is at. -/
def loopRun : Option AgentState :=
  match s.loop with
  | .handling e => some (handleEvent (recordHandled s e) e.event)
  | .stopping .stateChange =>
    match s.send ⟨.sshDisconnect, none⟩ with
    | none => none
    | some s' => some { s' with isConnecting := false, loop := .select }
  | .stopping .shutdown =>
    match s.send ⟨.sshDisconnect, none⟩ with
    | none => none
    | some s' => some { s'.closeWebSocket with loop := .select, alive := false }
  | _ => none

def loopTick (s : AgentState) : Option AgentState :=
  match s.loop, s.wsTicker with
  | .select, some due =>
    if due ≤ s.now then
      match startWebSocketConnection cfg (s.nextTick due) with
      | .error _ => some (s.nextTick due)
      | .ok s' => some { s' with loop := .dialing }
    else
      none
  | _, _ => none

def loopDialed (r : DialResult) : Option AgentState :=
  match s.loop, r with
  | .dialing, .ok => some { s.openConn with loop := .select }
  | .dialing, .error _ => some { s.failConn with loop := .select }
  | _, _ => none

def loopShutdown : Option AgentState :=
  match s.loop with
  | .select =>
    if s.server then
      some { s with server := false, loop := .stopping .shutdown }
    else
      some { s.closeWebSocket with alive := false }
  | _ => none

/-- A message on connection `c`, which may have been closed since it was received. -/
def connMessage (s : AgentState) (c : ConnId) (m : Message) : Option AgentState :=
  match (s.conns c).loop with
  | .reading => some (onMessage cfg s c m)
  | _ => none

/-- Connection `c` is closed by the hub, lost, or closed by the agent after a failed write. -/
def connBreak (c : ConnId) : Option AgentState :=
  match (s.conns c).loop with
  | .unused => none
  | _ => some (s.setConn c { s.conns c with closed := true })

/-- The next stretch of the read loop of connection `c`, outside `OnMessage`. -/
def connRun (c : ConnId) : Option AgentState :=
  match (s.conns c).loop with
  | .reading =>
    if (s.conns c).closed then
      some (s.setConn c { s.conns c with loop := .sendingDisconnect })
    else
      none
  | .sendingConnect =>
    match s.send ⟨.webSocketConnect, some c⟩ with
    | none => none
    | some s' => some (s'.setConn c { s.conns c with loop := .reading })
  | .sendingDisconnect =>
    match s.send ⟨.webSocketDisconnect, some c⟩ with
    | none => none
    | some s' => some (s'.setConn c { s.conns c with loop := .finished })
  | _ => none

/-- `StartServer` up to the listen. -/
def serverStart (s : AgentState) : Option AgentState :=
  if s.serverStarts = 0 then
    none
  else
    let s' := { s with serverStarts := s.serverStarts - 1 }
    if cfg.disableSSH ∨ s.server then
      some s'
    else
      some { s' with serverBinds := s.serverBinds + 1 }

def serverListen (ok : Bool) : Option AgentState :=
  if s.serverBinds = 0 then
    none
  else
    some { s with serverBinds := s.serverBinds - 1, server := s.server || ok }

/-- A hub opens a session on the SSH server. -/
def sshSession : Option AgentState :=
  if s.server then some { s with sessions := s.sessions + 1 } else none

/-- A session reports itself.  It may outlive the server that accepted it. -/
def sshSend : Option AgentState :=
  if s.sessions = 0 then
    none
  else
    { s with sessions := s.sessions - 1 }.send ⟨.sshConnect, none⟩

end

inductive AgentAction where
  | clock (ms : Nat)
  | connectRun (i : Nat)
  | connectDialed (i : Nat) (r : DialResult)
  | loopReceive
  | loopRun
  | loopTick
  | loopDialed (r : DialResult)
  | loopShutdown
  | connMessage (c : ConnId) (m : Message)
  | connBreak (c : ConnId)
  | connRun (c : ConnId)
  | serverStart
  | serverListen (ok : Bool)
  | sshSession
  | sshSend
deriving DecidableEq

/-- One step of the agent, as long as the process is alive. -/
def agentStep (cfg : AgentConfig Key) (s : AgentState) (a : AgentAction) : Option AgentState :=
  if s.alive = false then
    none
  else
    match a with
    | .clock ms => some { s with now := s.now + ms }
    | .connectRun i => connectRun cfg s i
    | .connectDialed i r => connectDialed s i r
    | .loopReceive => loopReceive s
    | .loopRun => loopRun s
    | .loopTick => loopTick cfg s
    | .loopDialed r => loopDialed s r
    | .loopShutdown => loopShutdown s
    | .connMessage c m => connMessage cfg s c m
    | .connBreak c => connBreak s c
    | .connRun c => connRun s c
    | .serverStart => serverStart cfg s
    | .serverListen ok => serverListen s ok
    | .sshSession => sshSession s
    | .sshSend => sshSend s

/-! ## A configuration for concrete runs -/

/-- The challenge `{0: h'01', 1: false}` in CBOR. -/
def sampleChallengeData : RawMessage := [0xA2, 0x00, 0x41, 0x01, 0x01, 0xF4]

def sampleConfig : AgentConfig Unit where
  token := "token"
  keys := [()]
  verify := fun _ _ signature => signature == [1]
  unmarshalFingerprintRequest := fun data =>
    if data = sampleChallengeData then some ⟨[1], false⟩ else none
  hasWsClient := true
  disableSSH := false
  exitOnDnsError := false

def sampleChallenge : Message := .request ⟨.checkFingerprint, sampleChallengeData, some 0⟩

/-- The agent starts and establishes its first connection. -/
def startRun : List AgentAction :=
  [.connectRun 0, .connectRun 0, .connectDialed 0 .ok, .connectRun 0]

/-- The hub on connection `c` passes the challenge, and the loop records it. -/
def challengeRun (c : ConnId) : List AgentAction :=
  [.connMessage c sampleChallenge, .connRun c, .loopReceive, .loopRun]

def breakRun (c : ConnId) : List AgentAction :=
  [.connBreak c, .connRun c, .connRun c, .loopReceive, .loopRun]

/-- The `i`-th call of `connect` establishes a connection. -/
def reconnectRun (i : Nat) : List AgentAction :=
  [.connectRun i, .connectRun i, .connectDialed i .ok, .connectRun i]

end Bantay.Agent
