import Bantay.Agent.EventFlow

/-!
# Which Connection a Verified Hub Authorises

`WebSocketClient.hubVerified` is set when a hub passes the challenge and is never cleared,
while the connections come and go.  This module settles when that is safe: along a run,
every request is dispatched on behalf of a hub that was verified on the same connection
exactly if no connection is established once the flag is set, and a hub passes the
challenge only while no other, unverified connection is still being read.
-/

namespace Bantay.Agent

open Bantay.Lib Function

variable {Key : Type} {cfg : AgentConfig Key} {s s' : AgentState}

/-! ## The property -/

/-- The request `msg`, arriving on connection `c`, would be dispatched to `handler`. -/
def Dispatches (s : AgentState) (c : ConnId) (msg : HubRequest) (handler : RequestHandler) :
    Prop :=
  (s.conns c).loop = .reading ∧
    newHandlerRegistry.handle msg.action s.hubVerified = .ok handler

/-- Whatever can be dispatched now, `CheckFingerprint` apart, arrives on a connection whose own hub
    passed `verifySignature`. -/
def DispatchAuthorised (s : AgentState) : Prop :=
  ∀ c msg handler, Dispatches s c msg handler → msg.action ≠ .checkFingerprint →
    (s.conns c).verified = true

/-- The registry reduces the property to the flag: once it is set, every connection that is
    read must be a verified one. -/
theorem dispatchAuthorised_iff (s : AgentState) :
    DispatchAuthorised s ↔
      (s.hubVerified = true → ∀ c, (s.conns c).loop = .reading → (s.conns c).verified = true) := by
  constructor
  · intro h hver c hreading
    refine h c ⟨.getData, [], none⟩ .getData ⟨hreading, ?_⟩ (by decide)
    rw [hver]
    exact newHandlerRegistry_handle_getData
  · intro h c msg handler hdisp hact
    obtain ⟨hreading, hok⟩ := hdisp
    cases hver : s.hubVerified with
    | true => exact h hver c hreading
    | false =>
      rw [hver] at hok
      exact absurd (HandlerRegistry.handle_unverified hok) hact

/-! ## The condition on the steps -/

/-- A connection is established only while the flag is clear, and a hub passes the challenge only
    while every other connection that is read has been verified. -/
structure VerificationGuard (cfg : AgentConfig Key) (s : AgentState) (a : AgentAction) :
    Prop where
  opens : Opens s a → s.hubVerified = false
  passes : ∀ c m, a = .connMessage c m → Passes cfg s c m →
    ∀ d, d ≠ c → (s.conns d).loop = .reading → (s.conns d).verified = true

/-! ## One step -/

/-- A read loop that reports a verified hub belongs to a verified connection. -/
def SendingVerified (s : AgentState) : Prop :=
  ∀ c, (s.conns c).loop = .sendingConnect → (s.conns c).verified = true

theorem SameLives.sendingVerified (h : SameLives s s') (hI : SendingVerified s) :
    SendingVerified s' := by
  intro c hc
  rw [h.verified]
  rw [h.loop] at hc
  exact hI c hc

variable {c : ConnId} {k : Conn} {a : AgentAction}

theorem SendingVerified.update (hI : SendingVerified s)
    (hconns : s'.conns = update s.conns c k)
    (hk : k.loop = .sendingConnect → k.verified = true) : SendingVerified s' := by
  intro d
  rw [hconns]
  by_cases hdc : d = c
  · subst hdc
    simpa using hk
  · rw [update_of_ne hdc]
    exact hI d

/-- **One step** lets a read loop report only a hub it has verified. -/
theorem sendingVerified_step (hI : SendingVerified s) (h : agentStep cfg s a = some s') :
    SendingVerified s' := by
  cases agentStep_effect h with
  | silent _ hs => exact hs.lives.sendingVerified hI
  | opened _ ho =>
    intro d hd
    by_cases hdn : d = s.nextConn
    · rw [hdn, ho.fresh] at hd
      cases hd
    · rw [ho.others d hdn] at hd ⊢
      exact hI d hd
  | verified _ => exact hI.update rfl (fun _ => rfl)
  | connectSent _ _ => exact hI.update rfl (fun hk => by cases hk)
  | closing _ => exact hI.update rfl (fun hk => by cases hk)
  | disconnectSent _ _ => exact hI.update rfl (fun hk => by cases hk)
  | sshSent _ _ _ _ hlives _ _ _ => exact hlives.sendingVerified hI
  | received _ _ _ => exact hI
  | handled e _ =>
    apply (handleEvent_frame _ _).1.sendingVerified
    intro d hd
    obtain ⟨-, hloop, hver, -⟩ := recordHandled_frame s e
    rw [hloop] at hd
    rw [hver]
    exact hI d hd
  | stopSent _ _ _ _ hlives _ _ _ => exact hlives.sendingVerified hI
  | shutdown _ _ => exact hI

/-- Steps that neither establish a connection nor verify one keep the property, provided
    that a connection they return to reading is a verified one. -/
theorem DispatchAuthorised.keep (hs : DispatchAuthorised s) (hflag : s'.hubVerified = s.hubVerified)
    (hkeep : ∀ c, (s'.conns c).loop = .reading → (s'.conns c).verified = true ∨
      ((s.conns c).loop = .reading ∧ (s'.conns c).verified = (s.conns c).verified)) :
    DispatchAuthorised s' := by
  rw [dispatchAuthorised_iff] at hs ⊢
  intro hver c hreading
  rcases hkeep c hreading with hc | ⟨hr, hv⟩
  · exact hc
  · rw [hv]
    exact hs (hflag ▸ hver) c hr

theorem SameLives.dispatchAuthorised (h : SameLives s s') (hs : DispatchAuthorised s)
    (hflag : s'.hubVerified = s.hubVerified) : DispatchAuthorised s' :=
  hs.keep hflag fun c hc => .inr ⟨(h.loop c).symm.trans hc, h.verified c⟩

theorem DispatchAuthorised.update (hs : DispatchAuthorised s)
    (hflag : s'.hubVerified = s.hubVerified) (hconns : s'.conns = update s.conns c k)
    (hk : k.loop = .reading → k.verified = true) : DispatchAuthorised s' := by
  refine hs.keep hflag ?_
  intro d
  rw [hconns]
  by_cases hdc : d = c
  · subst hdc
    intro hd
    rw [update_self] at hd ⊢
    exact .inl (hk hd)
  · rw [update_of_ne hdc]
    exact fun hd => .inr ⟨hd, rfl⟩

/-- Establishing a connection keeps the property exactly while the flag is clear: the new
    connection is read from the start and nothing has verified it. -/
theorem opened_dispatchAuthorised_iff (ho : Opened s s') :
    DispatchAuthorised s' ↔ s.hubVerified = false := by
  constructor
  · intro h
    rw [dispatchAuthorised_iff, ho.hubVerified] at h
    by_contra hflag
    have hnew := h (by simpa using hflag) s.nextConn (by rw [ho.fresh]; rfl)
    rw [ho.fresh] at hnew
    cases hnew
  · intro hflag
    rw [dispatchAuthorised_iff, ho.hubVerified, hflag]
    intro h
    cases h

theorem verified_dispatchAuthorised_iff :
    DispatchAuthorised (AgentState.setConn { s with hubVerified := true } c
        { s.conns c with loop := .sendingConnect, verified := true }) ↔
      ∀ d, d ≠ c → (s.conns d).loop = .reading → (s.conns d).verified = true := by
  rw [dispatchAuthorised_iff]
  constructor
  · intro h d hdc hreading
    have hd := h rfl d
    simp only [AgentState.setConn, update_of_ne hdc] at hd
    exact hd hreading
  · intro h _ d
    by_cases hdc : d = c
    · subst hdc
      simp [AgentState.setConn]
    · simp only [AgentState.setConn, update_of_ne hdc]
      exact h d hdc

/-- **One step**: the property survives exactly the steps that meet the condition. -/
theorem dispatchAuthorised_step_iff (hI : SendingVerified s) (hs : DispatchAuthorised s)
    (h : agentStep cfg s a = some s') :
    DispatchAuthorised s' ↔ VerificationGuard cfg s a := by
  -- all cases but the two interesting ones meet the condition trivially
  have quiet : DispatchAuthorised s' → ¬ Opens s a →
      (∀ c m, a = .connMessage c m → ¬ Passes cfg s c m) →
      (DispatchAuthorised s' ↔ VerificationGuard cfg s a) := by
    intro hs' hno hnp
    refine ⟨fun _ => ⟨fun ho => absurd ho hno, fun c m ha hp => absurd hp (hnp c m ha)⟩,
      fun _ => hs'⟩
  cases agentStep_effect h with
  | silent hquiet hsil =>
    exact quiet (hsil.lives.dispatchAuthorised hs hsil.hubVerified) hquiet.not_opens
      hquiet.not_passes
  | opened hopens ho =>
    rw [opened_dispatchAuthorised_iff ho]
    refine ⟨fun hflag => ⟨fun _ => hflag, ?_⟩, fun hg => hg.opens hopens⟩
    rintro c m rfl
    cases hopens
  | @verified c m hp =>
    rw [verified_dispatchAuthorised_iff]
    refine ⟨fun hall => ⟨?_, ?_⟩, fun hg => hg.passes c m rfl hp⟩
    · rintro ⟨⟩
    · rintro c' m' hcm -
      cases hcm
      exact hall
  | @connectSent c hsend _ =>
    exact quiet (hs.update rfl rfl fun _ => hI c hsend) (by rintro ⟨⟩) (by simp)
  | closing _ => exact quiet (hs.update rfl rfl fun hk => by cases hk) (by rintro ⟨⟩) (by simp)
  | disconnectSent _ _ =>
    exact quiet (hs.update rfl rfl fun hk => by cases hk) (by rintro ⟨⟩) (by simp)
  | sshSent event hwho _ _ hlives _ hflag _ =>
    refine quiet (hlives.dispatchAuthorised hs hflag) ?_ ?_
    · rintro ⟨⟩ <;> simp at hwho
    · rintro c m rfl
      simp at hwho
  | received _ _ _ =>
    exact quiet (hs.keep rfl fun _ hc => .inr ⟨hc, rfl⟩) (by rintro ⟨⟩) (by simp)
  | handled e _ =>
    obtain ⟨hlives, -, hflag⟩ := handleEvent_frame (recordHandled s e) e.event
    obtain ⟨-, hloop, hver, -⟩ := recordHandled_frame s e
    refine quiet (hlives.dispatchAuthorised (hs.keep ?_ ?_) hflag) (by rintro ⟨⟩) (by simp)
    · exact (recordHandled_keeps s e).2.2.1
    · exact fun c hc => .inr ⟨(hloop c).symm.trans hc, hver c⟩
  | stopSent _ _ _ _ hlives _ hflag _ =>
    exact quiet (hlives.dispatchAuthorised hs hflag) (by rintro ⟨⟩) (by simp)
  | shutdown _ _ =>
    exact quiet (hs.keep rfl fun _ hc => .inr ⟨hc, rfl⟩) (by rintro ⟨⟩) (by simp)

/-! ## Runs -/

theorem init_sendingVerified : SendingVerified AgentState.init := by
  intro c hc
  cases hc

theorem init_dispatchAuthorised : DispatchAuthorised AgentState.init := by
  rw [dispatchAuthorised_iff]
  intro h
  cases h

/-- **Verified hubs and connections**: in every run from the start of the agent, every
    dispatched action other than `CheckFingerprint` comes from a hub that passed
    `verifySignature` on the same connection exactly if no connection is established after
    a verification and no hub is verified while another, unverified connection is read. -/
theorem dispatch_authorised_iff_verification_guarded (cfg : AgentConfig Key) (as : List AgentAction)
    (t : AgentState) (hrun : exec (agentStep cfg) .init as = some t) :
    EveryState (agentStep cfg) DispatchAuthorised .init as ↔
      EveryStep (agentStep cfg) (VerificationGuard cfg) .init as :=
  everyState_iff_everyStep (fun _ _ _ hI h => sendingVerified_step hI h)
    (fun _ _ _ hI hs h => dispatchAuthorised_step_iff hI hs h)
    init_sendingVerified init_dispatchAuthorised hrun

theorem first_connection_authorised_iff :
    ∃ t, exec (agentStep sampleConfig) .init (startRun ++ challengeRun 0) = some t ∧
      (EveryState (agentStep sampleConfig) DispatchAuthorised .init
          (startRun ++ challengeRun 0) ↔
        EveryStep (agentStep sampleConfig) (VerificationGuard sampleConfig) .init
          (startRun ++ challengeRun 0)) :=
  ⟨_, rfl, dispatch_authorised_iff_verification_guarded sampleConfig _ _ rfl⟩

/-- A hub verified on connection 0 is lost, the agent reconnects, and the hub of
    connection 1, which passed no challenge, has a pushed binary handled. -/
theorem reconnect_dispatches_for_unverified_hub :
    ∃ s, exec (agentStep sampleConfig) .init
        (startRun ++ challengeRun 0 ++ [.clock 60000] ++ breakRun 0 ++ reconnectRun 1) = some s ∧
      s.clientConn = some 1 ∧
      Dispatches s 1 ⟨.pushAgentBinary, [], none⟩ .pushAgentBinary ∧
      (s.conns 1).verified = false := by
  refine ⟨_, rfl, rfl, ⟨rfl, ?_⟩, rfl⟩
  decide

/-! ## Connect events -/

structure ConnectsVerified (s : AgentState) : Prop where
  flow : EventFlow s
  sending : SendingVerified s
  inFlight : ∀ c, InFlight s (connectOf c) → (s.conns c).verified = true

/-- **One step** puts connect events in flight for verified connections only. -/
theorem connectsVerified_step (hI : ConnectsVerified s) (h : agentStep cfg s a = some s') :
    ConnectsVerified s' := by
  refine ⟨eventFlow_step hI.flow h, sendingVerified_step hI.sending h, ?_⟩
  obtain ⟨⟨hunused, hfin, -, -, hsent, hhand⟩, hsending, hflight⟩ := hI
  unfold SendingVerified at hsending
  intro c
  unfold InFlight at *
  cases agentStep_effect h with
  | silent _ hs =>
    rw [hs.lives.verified, hs.eventChan, hs.loop.handling_iff]
    exact hflight c
  | opened _ ho =>
    rw [ho.eventChan, ho.loop.handling_iff]
    have := ho.others c
    grind
  | verified | connectSent | closing | disconnectSent =>
    simp only [AgentState.setConn, update_apply]
    grind
  | sshSent event hwho _ hchan hlives _ _ hloop =>
    rw [hchan, hloop, hlives.verified]
    grind
  | received | shutdown => grind
  | handled e hloop =>
    rw [(handleEvent_frame _ _).2.1, (recordHandled_keeps _ _).1,
      (handleEvent_frame _ _).1.verified,
      (recordHandled_frame s e).2.2.1]
    have := handled_loop s e (connectOf c)
    grind
  | stopSent _ _ _ hchan hlives _ _ hsel =>
    rw [hchan, hsel, hlives.verified]
    simp

/-- **Only verified hubs are recorded**: in every run, a connect event, in the channel or in the
    hands of the loop, comes from a connection whose own hub passed `verifySignature`. -/
theorem connect_events_verified (cfg : AgentConfig Key) (as : List AgentAction) :
    EveryState (agentStep cfg) (fun s => ∀ o, InFlight s ⟨.webSocketConnect, o⟩ →
      ∃ c, o = some c ∧ (s.conns c).verified = true) .init as := by
  refine everyState_of_step (fun _ _ _ => connectsVerified_step) ?_
    ⟨init_eventFlow, init_sendingVerified, fun c hc => by rcases hc with hc | hc <;> cases hc⟩
  intro s hI o ho
  obtain ⟨c, rfl⟩ : ∃ c, o = some c := by
    rcases ho with hchan | hloop
    · exact (hI.flow.connectSent o hchan).imp fun _ => And.left
    · exact (hI.flow.connectHandling o hloop).imp fun _ => And.left
  exact ⟨c, rfl, hI.inFlight c ho⟩

end Bantay.Agent
