import Bantay.Agent.ConnectionManager

/-!
# What a Step of the Agent Can Do

One inversion theorem, `agentStep_effect`, says for every step of the agent what it does to
the lifetimes of the WebSocket connections, to the event channel, to the loop and to the
recorded state.  The invariants of the later modules are proved from its cases; they do not
unfold the step function again.

A connection's `closed` flag is left out of `SameLives` on purpose: many steps close a
connection, and none of the safety arguments depends on which.
-/

namespace Bantay.Agent

open AgentState

variable {Key : Type}

/-! ## Frames -/

structure SameLives (s s' : AgentState) : Prop where
  next : s'.nextConn = s.nextConn
  loop : ∀ c, (s'.conns c).loop = (s.conns c).loop
  verified : ∀ c, (s'.conns c).verified = (s.conns c).verified
  handled : ∀ c, (s'.conns c).handled = (s.conns c).handled

theorem SameLives.of_eq {s s' : AgentState} (hn : s'.nextConn = s.nextConn)
    (hc : s'.conns = s.conns) : SameLives s s' :=
  ⟨hn, fun c => by rw [hc], fun c => by rw [hc], fun c => by rw [hc]⟩

theorem SameLives.trans {s t u : AgentState} (h₁ : SameLives s t) (h₂ : SameLives t u) :
    SameLives s u where
  next := h₂.next.trans h₁.next
  loop c := (h₂.loop c).trans (h₁.loop c)
  verified c := (h₂.verified c).trans (h₁.verified c)
  handled c := (h₂.handled c).trans (h₁.handled c)

theorem sameLives_setClosed (s : AgentState) (c : ConnId) :
    SameLives s (s.setConn c { s.conns c with closed := true }) := by
  refine ⟨rfl, ?_, ?_, ?_⟩
  all_goals
    intro d
    by_cases h : d = c
    · subst h; simp [setConn]
    · simp [setConn, Function.update_of_ne h]

theorem sameLives_closeWebSocket (s : AgentState) : SameLives s s.closeWebSocket := by
  unfold closeWebSocket
  split
  · exact .of_eq rfl rfl
  · exact sameLives_setClosed s _

theorem SameLives.close {s t : AgentState} (h : SameLives s t) : SameLives s t.closeWebSocket :=
  h.trans (sameLives_closeWebSocket t)

/-- `CloseWebSocket` touches the connections only. -/
@[simp] theorem closeWebSocket_keeps (s : AgentState) :
    s.closeWebSocket.eventChan = s.eventChan ∧ s.closeWebSocket.state = s.state ∧
      s.closeWebSocket.loop = s.loop ∧ s.closeWebSocket.hubVerified = s.hubVerified ∧
      s.closeWebSocket.wsTicker = s.wsTicker ∧ s.closeWebSocket.server = s.server ∧
      s.closeWebSocket.connects = s.connects ∧ s.closeWebSocket.nextConnect = s.nextConnect := by
  unfold closeWebSocket
  split <;> exact ⟨rfl, rfl, rfl, rfl, rfl, rfl, rfl, rfl⟩

/-- The loop is outside its event handlers. -/
def LoopPc.Idle (pc : LoopPc) : Prop :=
  pc = .startup ∨ pc = .select ∨ pc = .dialing

/-- The loop stays where it is, or moves between places outside the event handlers. -/
def LoopQuiet (s s' : AgentState) : Prop :=
  s'.loop = s.loop ∨ (s.loop.Idle ∧ s'.loop.Idle)

/-- Nothing changes but what the connection lifetimes and the event flow do not see. -/
structure Silent (s s' : AgentState) : Prop where
  lives : SameLives s s'
  eventChan : s'.eventChan = s.eventChan
  state : s'.state = s.state
  hubVerified : s'.hubVerified = s.hubVerified
  loop : LoopQuiet s s'

/-! ## The effects -/

inductive Opens (s : AgentState) : AgentAction → Prop where
  | connect (i : Nat) : s.connects i = .dialing → Opens s (.connectDialed i .ok)
  | tick : s.loop = .dialing → Opens s (.loopDialed .ok)

instance (s : AgentState) (a : AgentAction) : Decidable (Opens s a) :=
  match a with
  | .connectDialed i .ok =>
    decidable_of_iff (s.connects i = .dialing) ⟨.connect i, fun h => by cases h; assumption⟩
  | .loopDialed .ok =>
    decidable_of_iff (s.loop = .dialing) ⟨.tick, fun h => by cases h; assumption⟩
  | .connectDialed _ (.error _) | .loopDialed (.error _) | .clock _ | .connectRun _
  | .loopReceive | .loopRun | .loopTick | .loopShutdown | .connMessage _ _ | .connBreak _
  | .connRun _ | .serverStart | .serverListen _ | .sshSession | .sshSend =>
    .isFalse (fun h => by cases h)

/-- The lifetimes after `openConn`. -/
structure Opened (s s' : AgentState) : Prop where
  next : s'.nextConn = s.nextConn + 1
  fresh : s'.conns s.nextConn = .fresh
  others : ∀ c, c ≠ s.nextConn → s'.conns c = s.conns c
  eventChan : s'.eventChan = s.eventChan
  state : s'.state = s.state
  hubVerified : s'.hubVerified = s.hubVerified
  loop : LoopQuiet s s'

/-- The hub on connection `c` passes the challenge in message `m`. -/
structure Passes (cfg : AgentConfig Key) (s : AgentState) (c : ConnId) (m : Message) :
    Prop where
  reading : (s.conns c).loop = .reading
  challenge : ∃ msg authRequest, m = .request msg ∧ msg.action = .checkFingerprint ∧
    cfg.checkAuthChallenge msg = .ok authRequest

/-- The actions that leave the lifetimes and the event flow alone. -/
inductive QuietAction (cfg : AgentConfig Key) (s : AgentState) : AgentAction → Prop where
  | clock (ms) : QuietAction cfg s (.clock ms)
  | connectRun (i) : s.connects i ≠ .exitSending → QuietAction cfg s (.connectRun i)
  | connectDialed (i dns) : QuietAction cfg s (.connectDialed i (.error dns))
  | loopTick : QuietAction cfg s .loopTick
  | loopDialed (dns) : QuietAction cfg s (.loopDialed (.error dns))
  | loopShutdown : s.server = false → QuietAction cfg s .loopShutdown
  | connMessage (c m) : ¬ Passes cfg s c m → QuietAction cfg s (.connMessage c m)
  | connBreak (c) : QuietAction cfg s (.connBreak c)
  | serverStart : QuietAction cfg s .serverStart
  | serverListen (ok) : QuietAction cfg s (.serverListen ok)
  | sshSession : QuietAction cfg s .sshSession

inductive Effect (cfg : AgentConfig Key) (s : AgentState) : AgentAction → AgentState → Prop where
  | silent {a s'} : QuietAction cfg s a → Silent s s' → Effect cfg s a s'
  | opened {a s'} : Opens s a → Opened s s' → Effect cfg s a s'
  | verified {c m} : Passes cfg s c m →
      Effect cfg s (.connMessage c m)
        ({ s with hubVerified := true }.setConn c
          { s.conns c with loop := .sendingConnect, verified := true })
  | connectSent {c} : (s.conns c).loop = .sendingConnect → s.eventChan = none →
      Effect cfg s (.connRun c)
        ({ s with eventChan := some ⟨.webSocketConnect, some c⟩ }.setConn c
          { s.conns c with loop := .reading })
  | closing {c} : (s.conns c).loop = .reading →
      Effect cfg s (.connRun c)
        (s.setConn c { s.conns c with loop := .sendingDisconnect })
  | disconnectSent {c} : (s.conns c).loop = .sendingDisconnect → s.eventChan = none →
      Effect cfg s (.connRun c)
        ({ s with eventChan := some ⟨.webSocketDisconnect, some c⟩ }.setConn c
          { s.conns c with loop := .finished })
  /-- an SSH event is sent by a session or on the way to `os.Exit` -/
  | sshSent {a s'} (event : ConnectionEvent) :
      (a = .sshSend ∧ event = .sshConnect) ∨
        (∃ i, a = .connectRun i ∧ s.connects i = .exitSending ∧ event = .sshDisconnect) →
      s.eventChan = none → s'.eventChan = some ⟨event, none⟩ → SameLives s s' →
      s'.state = s.state → s'.hubVerified = s.hubVerified → s'.loop = s.loop →
      Effect cfg s a s'
  | received (e : Event) : s.loop = .select → s.eventChan = some e →
      Effect cfg s .loopReceive { s with eventChan := none, loop := .handling e }
  | handled (e : Event) : s.loop = .handling e →
      Effect cfg s .loopRun (handleEvent (recordHandled s e) e.event)
  | stopSent {s'} (reason : StopReason) : s.loop = .stopping reason → s.eventChan = none →
      s'.eventChan = some ⟨.sshDisconnect, none⟩ → SameLives s s' → s'.state = s.state →
      s'.hubVerified = s.hubVerified → s'.loop = .select → Effect cfg s .loopRun s'
  | shutdown : s.loop = .select → s.server = true →
      Effect cfg s .loopShutdown { s with server := false, loop := .stopping .shutdown }

variable {cfg : AgentConfig Key} {s s' : AgentState} {a : AgentAction} {i : Nat} {r : DialResult}
  {c : ConnId}

theorem QuietAction.not_opens (h : QuietAction cfg s a) : ¬ Opens s a := by
  intro ho
  cases ho <;> cases h

theorem QuietAction.not_passes (h : QuietAction cfg s a) :
    ∀ c m, a = .connMessage c m → ¬ Passes cfg s c m := by
  rintro c m rfl
  cases h with
  | connMessage _ _ hp => exact hp

/-! ## Inversion, function by function -/

theorem send_eq_some {e : Event} (h : s.send e = some s') :
    s.eventChan = none ∧ s' = { s with eventChan := some e } := by
  unfold send at h
  split at h
  · rename_i hchan
    exact ⟨hchan, (Option.some.inj h).symm⟩
  · cases h

/-- A step that goes on with `next` once its event is sent. -/
theorem sent_eq_some {e : Event} {next : AgentState → AgentState}
    (h : (match s.send e with | none => none | some t => some (next t)) = some s') :
    s.eventChan = none ∧ s' = next { s with eventChan := some e } := by
  split at h
  · cases h
  · rename_i hsend
    obtain ⟨hchan, rfl⟩ := send_eq_some hsend
    exact ⟨hchan, (Option.some.inj h).symm⟩

theorem LoopQuiet.refl (s : AgentState) : LoopQuiet s s := .inl rfl

theorem startWebSocketConnection_ok (h : startWebSocketConnection cfg s = .ok s') :
    s.state = .disconnected ∧
      s' = AgentState.closeWebSocket { s with lastConnectAttempt := some s.now } := by
  unfold startWebSocketConnection at h
  split at h
  · cases h
  · rename_i hstate
    split at h
    · cases h
    · split at h
      · cases h
      · exact ⟨not_not.mp hstate, (Except.ok.inj h).symm⟩

theorem silent_setConnect (s : AgentState) (i : Nat) (pc : ConnectPc) :
    Silent s (s.setConnect i pc) :=
  ⟨.of_eq rfl rfl, rfl, rfl, rfl, .refl _⟩

/-- A call of `connect` is silent up to its dial, the send before `os.Exit` apart. -/
theorem connectRun_silent (h : connectRun cfg s i = some s') (hpc : s.connects i ≠ .exitSending) :
    Silent s s' := by
  unfold connectRun at h
  split at h
  · -- start
    dsimp only at h
    split at h <;> obtain rfl := Option.some.inj h <;>
      exact ⟨.of_eq rfl rfl, rfl, rfl, rfl, .refl _⟩
  · -- sleeping
    split at h
    · cases h
      exact silent_setConnect s i _
    · cases h
  · -- ready: the dial closes the connection before, which its own read loop has to report
    split at h
    · cases h
      exact silent_setConnect s i _
    · rename_i t hdial
      obtain ⟨-, rfl⟩ := startWebSocketConnection_ok hdial
      cases h
      have hlives : SameLives s { s with lastConnectAttempt := some s.now } := .of_eq rfl rfl
      refine ⟨hlives.close.trans (.of_eq rfl rfl), ?_, ?_, ?_, .inl ?_⟩
      all_goals simp [setConnect]
  · -- failed
    split at h
    · cases h
      exact silent_setConnect s i _
    · split at h <;> obtain rfl := Option.some.inj h <;> exact silent_setConnect s i _
  · -- startingSSH
    cases h
    split <;> exact ⟨.of_eq rfl rfl, rfl, rfl, rfl, .refl _⟩
  · -- startingTicker
    cases h
    exact ⟨.of_eq rfl rfl, rfl, rfl, rfl, .refl _⟩
  · -- returning: `Start` may enter its loop; both places are idle, so no event is lost
    cases h
    split
    · rename_i hfirst
      refine ⟨.of_eq rfl rfl, rfl, rfl, rfl, .inr ⟨?_, ?_⟩⟩
      · exact .inl hfirst.2
      · exact .inr (.inl rfl)
    · exact ⟨.of_eq rfl rfl, rfl, rfl, rfl, .refl _⟩
  · -- exiting
    split at h
    · split at h
      · cases h
        exact ⟨.of_eq rfl rfl, rfl, rfl, rfl, .refl _⟩
      · cases h
        refine ⟨(sameLives_closeWebSocket s).trans (.of_eq rfl rfl), ?_, ?_, ?_, .inl ?_⟩
        all_goals simp
    · cases h
  · -- exitSending
    contradiction
  · cases h

/-- `StopServer` sends its event on the way to `os.Exit`. -/
theorem connectRun_sent (h : connectRun cfg s i = some s') (hpc : s.connects i = .exitSending) :
    Effect cfg s (.connectRun i) s' := by
  simp only [connectRun, hpc] at h
  obtain ⟨hchan, rfl⟩ := sent_eq_some h
  have hlives : SameLives s { s with eventChan := some ⟨.sshDisconnect, none⟩ } := .of_eq rfl rfl
  refine .sshSent .sshDisconnect (.inr ⟨i, rfl, hpc, rfl⟩) hchan (by simp)
    (hlives.close.trans (.of_eq rfl rfl)) ?_ ?_ ?_
  all_goals simp

theorem openConn_opened (s : AgentState) : Opened s s.openConn where
  next := rfl
  fresh := by simp [AgentState.openConn, AgentState.setConn]
  others c hc := by simp [AgentState.openConn, AgentState.setConn, Function.update_of_ne hc]
  eventChan := rfl
  state := rfl
  hubVerified := rfl
  loop := .refl _

/-- The dial of a `connect` call opens a connection or changes nothing that is observed. -/
theorem connectDialed_effect (h : connectDialed s i r = some s') :
    s.connects i = .dialing ∧
      ((r = .ok ∧ Opened s s') ∨ ((∃ dns, r = .error dns) ∧ Silent s s')) := by
  unfold connectDialed at h
  split at h
  · rename_i hpc
    cases h
    have hopen := openConn_opened s
    exact ⟨hpc, .inl ⟨rfl, hopen.next, hopen.fresh, hopen.others, rfl, rfl, rfl, .refl _⟩⟩
  · rename_i hpc
    cases h
    exact ⟨hpc, .inr ⟨⟨_, rfl⟩, .of_eq rfl rfl, rfl, rfl, rfl, .refl _⟩⟩
  · cases h

/-- A dial opens a connection, or fails and changes nothing that others see. -/
theorem loopDialed_effect (h : loopDialed s r = some s') :
    s.loop = .dialing ∧ ((r = .ok ∧ Opened s s') ∨ ((∃ dns, r = .error dns) ∧ Silent s s')) := by
  unfold loopDialed at h
  split at h
  · rename_i hpc
    cases h
    have hopen := openConn_opened s
    refine ⟨hpc, .inl ⟨rfl, hopen.next, hopen.fresh, hopen.others, rfl, rfl, rfl, ?_⟩⟩
    exact .inr ⟨.inr (.inr hpc), .inr (.inl rfl)⟩
  · rename_i hpc
    cases h
    refine ⟨hpc, .inr ⟨⟨_, rfl⟩, .of_eq rfl rfl, rfl, rfl, rfl, ?_⟩⟩
    exact .inr ⟨.inr (.inr hpc), .inr (.inl rfl)⟩
  · cases h

theorem loopTick_silent (h : loopTick cfg s = some s') : Silent s s' := by
  unfold loopTick at h
  split at h
  · rename_i due hloop _
    split at h
    · split at h
      · cases h
        exact ⟨.of_eq rfl rfl, rfl, rfl, rfl, .refl _⟩
      · rename_i t hdial
        obtain ⟨-, rfl⟩ := startWebSocketConnection_ok hdial
        cases h
        have hlives : SameLives s
            { s.nextTick due with lastConnectAttempt := some (s.nextTick due).now } :=
          .of_eq rfl rfl
        refine ⟨hlives.close.trans (.of_eq rfl rfl), ?_, ?_, ?_, ?_⟩
        · simp [nextTick]
        · simp [nextTick]
        · simp [nextTick]
        · exact .inr ⟨.inr (.inl hloop), .inr (.inr rfl)⟩
    · cases h
  · cases h

/-- A message passes the check and verifies the hub, or changes nothing. -/
theorem connMessage_effect {m : Message} (h : connMessage cfg s c m = some s') :
    (Passes cfg s c m ∧
      s' = AgentState.setConn { s with hubVerified := true } c
        { s.conns c with loop := .sendingConnect, verified := true }) ∨
      (¬ Passes cfg s c m ∧ s' = s) := by
  unfold connMessage at h
  split at h
  · rename_i hreading
    cases h
    cases m with
    | notBinary =>
      refine .inr ⟨?_, rfl⟩
      rintro ⟨-, msg, -, hm, -⟩
      cases hm
    | malformed =>
      refine .inr ⟨?_, rfl⟩
      rintro ⟨-, msg, -, hm, -⟩
      cases hm
    | request msg =>
      by_cases hact : msg.action = .checkFingerprint
      · -- the challenge is dispatched whether or not the hub counts as verified
        have hdisp : newHandlerRegistry.handle msg.action s.hubVerified
            = .ok .checkFingerprint := by
          rw [hact]
          cases s.hubVerified <;> rfl
        cases hcheck : cfg.checkAuthChallenge msg with
        | ok authRequest =>
          exact .inl ⟨⟨hreading, msg, authRequest, rfl, hact, hcheck⟩,
            by simp [onMessage, hdisp, hcheck]⟩
        | error err =>
          refine .inr ⟨?_, by simp [onMessage, hdisp, hcheck]⟩
          rintro ⟨-, msg', authRequest, hm, -, hok⟩
          cases hm
          rw [hcheck] at hok
          cases hok
      · refine .inr ⟨?_, ?_⟩
        · rintro ⟨-, msg', -, hm, hact', -⟩
          cases hm
          exact hact hact'
        · simp only [onMessage]
          split
          · rename_i hdisp
            exact absurd (newHandlerRegistry_handle_checkFingerprint hdisp) hact
          · rfl
  · cases h

theorem connRun_effect (h : connRun s c = some s') : Effect cfg s (.connRun c) s' := by
  unfold connRun at h
  split at h
  · rename_i hreading
    split at h
    · cases h
      exact .closing hreading
    · cases h
  · rename_i hsending
    obtain ⟨hchan, rfl⟩ := sent_eq_some h
    exact .connectSent hsending hchan
  · rename_i hsending
    obtain ⟨hchan, rfl⟩ := sent_eq_some h
    exact .disconnectSent hsending hchan
  · cases h

theorem loopRun_effect (h : loopRun s = some s') : Effect cfg s .loopRun s' := by
  unfold loopRun at h
  split at h
  · rename_i e hloop
    cases h
    exact .handled e hloop
  · rename_i hloop
    obtain ⟨hchan, rfl⟩ := sent_eq_some h
    exact .stopSent .stateChange hloop hchan rfl (.of_eq rfl rfl) rfl rfl rfl
  · rename_i hloop
    obtain ⟨hchan, rfl⟩ := sent_eq_some h
    have hlives : SameLives s { s with eventChan := some ⟨.sshDisconnect, none⟩ } :=
      .of_eq rfl rfl
    refine .stopSent .shutdown hloop hchan ?_ (hlives.close.trans (.of_eq rfl rfl)) ?_ ?_ rfl
    all_goals simp
  · cases h

theorem loopShutdown_effect (h : loopShutdown s = some s') : Effect cfg s .loopShutdown s' := by
  unfold loopShutdown at h
  split at h
  · rename_i hloop
    split at h
    · rename_i hsrv
      cases h
      exact .shutdown hloop hsrv
    · rename_i hsrv
      cases h
      refine .silent (.loopShutdown (by simpa using hsrv)) ?_
      refine ⟨(sameLives_closeWebSocket s).trans (.of_eq rfl rfl), ?_, ?_, ?_, .inl ?_⟩
      all_goals simp
  · cases h

/-- **Inversion of a step**: every step of the agent has one of the listed effects. -/
theorem agentStep_effect (h : agentStep cfg s a = some s') :
    Effect cfg s a s' := by
  unfold agentStep at h
  split at h
  · cases h
  · cases a with
    | clock ms =>
      cases h
      exact .silent (.clock ms) ⟨.of_eq rfl rfl, rfl, rfl, rfl, .refl _⟩
    | connectRun i =>
      by_cases hpc : s.connects i = .exitSending
      · exact connectRun_sent h hpc
      · exact .silent (.connectRun i hpc) (connectRun_silent h hpc)
    | connectDialed i r =>
      obtain ⟨hpc, ⟨rfl, ho⟩ | ⟨⟨dns, rfl⟩, hs⟩⟩ := connectDialed_effect h
      · exact .opened (.connect i hpc) ho
      · exact .silent (.connectDialed i dns) hs
    | loopReceive =>
      simp only [loopReceive] at h
      split at h
      · rename_i e hloop hchan
        cases h
        exact .received e hloop hchan
      · cases h
    | loopRun => exact loopRun_effect h
    | loopTick => exact .silent .loopTick (loopTick_silent h)
    | loopDialed r =>
      obtain ⟨hpc, ⟨rfl, ho⟩ | ⟨⟨dns, rfl⟩, hs⟩⟩ := loopDialed_effect h
      · exact .opened (.tick hpc) ho
      · exact .silent (.loopDialed dns) hs
    | loopShutdown => exact loopShutdown_effect h
    | connMessage c m =>
      rcases connMessage_effect h with ⟨hp, rfl⟩ | ⟨hp, rfl⟩
      · exact .verified hp
      · exact .silent (.connMessage c m hp) ⟨.of_eq rfl rfl, rfl, rfl, rfl, .refl _⟩
    | connBreak c =>
      simp only [connBreak] at h
      split at h
      · cases h
      · cases h
        exact .silent (.connBreak c) ⟨sameLives_setClosed s c, rfl, rfl, rfl, .refl _⟩
    | connRun c => exact connRun_effect h
    | serverStart =>
      simp only [serverStart] at h
      split at h
      · cases h
      · split at h <;> obtain rfl := Option.some.inj h <;>
          exact .silent .serverStart ⟨.of_eq rfl rfl, rfl, rfl, rfl, .refl _⟩
    | serverListen ok =>
      simp only [serverListen] at h
      split at h
      · cases h
      · cases h
        exact .silent (.serverListen ok) ⟨.of_eq rfl rfl, rfl, rfl, rfl, .refl _⟩
    | sshSession =>
      simp only [sshSession] at h
      split at h
      · cases h
        exact .silent .sshSession ⟨.of_eq rfl rfl, rfl, rfl, rfl, .refl _⟩
      · cases h
    | sshSend =>
      simp only [sshSend] at h
      split at h
      · cases h
      · obtain ⟨hchan, rfl⟩ := send_eq_some h
        exact .sshSent .sshConnect (.inl ⟨rfl, rfl⟩) hchan rfl (.of_eq rfl rfl) rfl rfl rfl

/-! ## Handling an event -/

variable (s : AgentState)

theorem handleStateChange_frame (newState : ConnectionState) :
    SameLives s (handleStateChange s newState) ∧
      (handleStateChange s newState).eventChan = s.eventChan ∧
      (handleStateChange s newState).hubVerified = s.hubVerified ∧
      (handleStateChange s newState).state = newState := by
  unfold handleStateChange
  split
  · rename_i hsame
    exact ⟨.of_eq rfl rfl, rfl, rfl, hsame⟩
  · cases newState with
    | webSocketConnected =>
      dsimp only
      split <;> exact ⟨.of_eq rfl rfl, rfl, rfl, rfl⟩
    | sshConnected => exact ⟨.of_eq rfl rfl, rfl, rfl, rfl⟩
    | disconnected =>
      dsimp only
      split
      · exact ⟨.of_eq rfl rfl, rfl, rfl, rfl⟩
      · have hlives : SameLives s
            { s with state := .disconnected, connectionType := .none, loop := .select,
                     isConnecting := true } := .of_eq rfl rfl
        refine ⟨hlives.close.trans (.of_eq rfl rfl), ?_, ?_, ?_⟩
        all_goals simp [goConnect, setConnect]

theorem handleEvent_frame (event : ConnectionEvent) :
    SameLives s (handleEvent s event) ∧ (handleEvent s event).eventChan = s.eventChan ∧
      (handleEvent s event).hubVerified = s.hubVerified := by
  have hchg : ∀ newState, SameLives s (handleStateChange s newState) ∧
      (handleStateChange s newState).eventChan = s.eventChan ∧
      (handleStateChange s newState).hubVerified = s.hubVerified := fun newState =>
    let h := handleStateChange_frame s newState
    ⟨h.1, h.2.1, h.2.2.1⟩
  cases event with
  | webSocketConnect => exact hchg _
  | sshConnect => exact hchg _
  | webSocketDisconnect =>
    simp only [handleEvent]
    split
    · exact hchg _
    · exact ⟨.of_eq rfl rfl, rfl, rfl⟩
  | sshDisconnect =>
    simp only [handleEvent]
    split
    · exact hchg _
    · exact ⟨.of_eq rfl rfl, rfl, rfl⟩

theorem recordHandled_frame (e : Event) :
    (recordHandled s e).nextConn = s.nextConn ∧
      (∀ c, ((recordHandled s e).conns c).loop = (s.conns c).loop) ∧
      (∀ c, ((recordHandled s e).conns c).verified = (s.conns c).verified) ∧
      (∀ c, ((recordHandled s e).conns c).handled = true ↔
        (s.conns c).handled = true ∨ e = ⟨.webSocketDisconnect, some c⟩) := by
  unfold recordHandled
  split
  · rename_i d
    refine ⟨rfl, ?_, ?_, ?_⟩
    all_goals
      intro c
      by_cases h : c = d
      · subst h; simp [setConn]
      · simp [setConn, Function.update_of_ne h, Ne.symm h]
  · rename_i hother
    refine ⟨rfl, fun _ => rfl, fun _ => rfl, ?_⟩
    intro c
    have hne : e ≠ ⟨.webSocketDisconnect, some c⟩ := fun h => hother c h
    simp [hne]

@[simp] theorem recordHandled_keeps (s : AgentState) (e : Event) :
    (recordHandled s e).eventChan = s.eventChan ∧ (recordHandled s e).state = s.state ∧
      (recordHandled s e).hubVerified = s.hubVerified ∧
      (recordHandled s e).server = s.server ∧ (recordHandled s e).wsTicker = s.wsTicker ∧
      (recordHandled s e).isConnecting = s.isConnecting ∧
      (recordHandled s e).connects = s.connects := by
  unfold recordHandled
  split <;> exact ⟨rfl, rfl, rfl, rfl, rfl, rfl, rfl⟩

def StopsServer (s : AgentState) (event : ConnectionEvent) : Prop :=
  event = .webSocketConnect ∧ s.state ≠ .webSocketConnected ∧ s.server = true
deriving Decidable

/-- The loop waits for the next event, or is at the send of `StopServer` for a WebSocket connection
    it has just recorded. -/
theorem handleEvent_loop (event : ConnectionEvent) :
    (handleEvent s event).loop =
      if StopsServer s event then .stopping .stateChange else .select := by
  cases event with simp only [handleEvent, handleStateChange, StopsServer]
  | webSocketConnect =>
    by_cases hstate : s.state = .webSocketConnected
    · simp [hstate]
    · cases hsrv : s.server <;> simp [hstate, stopWsTicker]
  | sshConnect =>
    split <;> simp [stopWsTicker]
  | webSocketDisconnect =>
    repeat' split
    all_goals simp_all [goConnect, setConnect]
  | sshDisconnect =>
    repeat' split
    all_goals simp_all [goConnect, setConnect]

theorem handleEvent_state (event : ConnectionEvent) :
    (handleEvent s event).state =
      match event with
      | .webSocketConnect => .webSocketConnected
      | .sshConnect => .sshConnected
      | .webSocketDisconnect =>
        if s.state = .webSocketConnected then .disconnected else s.state
      | .sshDisconnect =>
        if s.state = .sshConnected then .disconnected else s.state := by
  cases event with
  | webSocketConnect => exact (handleStateChange_frame s _).2.2.2
  | sshConnect => exact (handleStateChange_frame s _).2.2.2
  | webSocketDisconnect =>
    simp only [handleEvent]
    split
    · exact (handleStateChange_frame s _).2.2.2
    · rfl
  | sshDisconnect =>
    simp only [handleEvent]
    split
    · exact (handleStateChange_frame s _).2.2.2
    · rfl

end Bantay.Agent
