import Bantay.Agent.StepEffects

/-!
# From a Closed Connection to Its Handled Disconnect

Every WebSocket connection sends its events through the one channel, the connect event
before the disconnect event, and the loop handles them in that order.  `EventFlow` states
where the events of a connection can be; it holds in every reachable state.

The second part follows two overlapping connections: a disconnect event names no
connection, so the loop takes the event of an older connection for the loss of the current
one, unless the older connection is done with before the newer one is recorded.
-/

namespace Bantay.Agent

open Bantay.Lib Function

variable {Key : Type} {cfg : AgentConfig Key} {s s' : AgentState}

/-! ## Where the events of a connection are -/

/-- The event is in the channel or being handled. -/
def InFlight (s : AgentState) (e : Event) : Prop :=
  s.eventChan = some e ∨ s.loop = .handling e

abbrev disconnectOf (c : ConnId) : Event := ⟨.webSocketDisconnect, some c⟩

abbrev connectOf (c : ConnId) : Event := ⟨.webSocketConnect, some c⟩

/-- What the event flow of the connections looks like in every reachable state. -/
structure EventFlow (s : AgentState) : Prop where
  unused_iff : ∀ c, (s.conns c).loop = .unused ↔ s.nextConn ≤ c
  /-- a read loop is over exactly if its disconnect event has been sent -/
  finished_iff : ∀ c, (s.conns c).loop = .finished ↔
    (s.conns c).handled = true ∨ InFlight s (disconnectOf c)
  once : ∀ c, (s.conns c).handled = true → ¬ InFlight s (disconnectOf c)
  single : ∀ c, s.eventChan = some (disconnectOf c) → s.loop ≠ .handling (disconnectOf c)
  /-- a connect event in the channel comes from a running read loop -/
  connectSent : ∀ o, s.eventChan = some ⟨.webSocketConnect, o⟩ →
    ∃ c, o = some c ∧ (s.conns c).loop ≠ .unused ∧ (s.conns c).loop ≠ .finished
  connectHandling : ∀ o, s.loop = .handling ⟨.webSocketConnect, o⟩ →
    ∃ c, o = some c ∧ (s.conns c).loop ≠ .unused ∧ (s.conns c).handled = false

theorem LoopQuiet.handling_iff (h : LoopQuiet s s') (e : Event) :
    s'.loop = .handling e ↔ s.loop = .handling e := by
  rcases h with heq | ⟨hidle, hidle'⟩
  · rw [heq]
  · rcases hidle with h | h | h <;> rcases hidle' with h' | h' | h' <;> simp [h, h']

theorem init_eventFlow : EventFlow AgentState.init where
  unused_iff c := ⟨fun _ => Nat.zero_le c, fun _ => rfl⟩
  finished_iff c := by simp [AgentState.init, InFlight, Conn.unused]
  once c h := by cases h
  single c h := by cases h
  connectSent o h := by cases h
  connectHandling o h := by cases h

section

variable (hI : EventFlow s)
include hI

theorem EventFlow.congr (hlives : SameLives s s') (hchan : s'.eventChan = s.eventChan)
    (hloop : ∀ e, s'.loop = .handling e ↔ s.loop = .handling e) : EventFlow s' := by
  have hflight : ∀ e, InFlight s' e ↔ InFlight s e := by
    intro e
    unfold InFlight
    rw [hchan, hloop]
  constructor
  · intro c
    rw [hlives.loop, hlives.next]
    exact hI.unused_iff c
  · intro c
    rw [hlives.loop, hlives.handled, hflight]
    exact hI.finished_iff c
  · intro c hc
    rw [hflight]
    exact hI.once c (hlives.handled c ▸ hc)
  · intro c hc
    rw [ne_eq, hloop]
    exact hI.single c (hchan ▸ hc)
  · intro o ho
    obtain ⟨c, rfl, hc⟩ := hI.connectSent o (hchan ▸ ho)
    exact ⟨c, rfl, by rw [hlives.loop]; exact hc⟩
  · intro o ho
    obtain ⟨c, rfl, hused, hnot⟩ := hI.connectHandling o ((hloop _).mp ho)
    exact ⟨c, rfl, by rw [hlives.loop]; exact hused, by rw [hlives.handled]; exact hnot⟩

theorem EventFlow.opened (ho : Opened s s') : EventFlow s' := by
  have hhandling := ho.loop.handling_iff
  have hconns : ∀ c, s'.conns c = if c = s.nextConn then .fresh else s.conns c := by
    intro c
    split
    · rename_i hc
      rw [hc, ho.fresh]
    · rename_i hc
      exact ho.others c hc
  have hfresh : Conn.fresh.loop = .reading ∧ Conn.fresh.handled = false := ⟨rfl, rfl⟩
  obtain ⟨hnext, -, -, hchan, -, -, -⟩ := ho
  obtain ⟨hunused, hfin, honce, hsingle, hsent, hhand⟩ := hI
  -- no event of the new connection exists: its number was unused
  constructor <;> grind [InFlight]

variable {c : ConnId} {k : Conn} {e : Event}

theorem EventFlow.moved (hnext : s'.nextConn = s.nextConn)
    (hconns : s'.conns = update s.conns c k)
    (hchan : s'.eventChan = s.eventChan ∨ s.eventChan = none ∧ s'.eventChan = some (connectOf c))
    (hloop : s'.loop = s.loop) (hc : (s.conns c).loop ≠ .unused ∧ (s.conns c).loop ≠ .finished)
    (hk : k.loop ≠ .unused ∧ k.loop ≠ .finished) (hhandled : k.handled = (s.conns c).handled) :
    EventFlow s' := by
  have hupd : ∀ d, s'.conns d = if d = c then k else s.conns d := by
    intro d
    rw [hconns, update_apply]
  obtain ⟨hunused, hfin, honce, hsingle, hsent, hhand⟩ := hI
  constructor <;> grind [InFlight]

theorem EventFlow.disconnectSent (hnext : s'.nextConn = s.nextConn)
    (hconns : s'.conns = update s.conns c k) (hempty : s.eventChan = none)
    (hchan : s'.eventChan = some (disconnectOf c)) (hloop : s'.loop = s.loop)
    (hc : (s.conns c).loop = .sendingDisconnect) (hk : k.loop = .finished)
    (hhandled : k.handled = (s.conns c).handled) : EventFlow s' := by
  have hupd : ∀ d, s'.conns d = if d = c then k else s.conns d := by
    intro d
    rw [hconns, update_apply]
  obtain ⟨hunused, hfin, honce, hsingle, hsent, hhand⟩ := hI
  constructor <;> grind [InFlight]

theorem EventFlow.sshSent {event : ConnectionEvent} (hlives : SameLives s s')
    (hempty : s.eventChan = none)
    (hchan : s'.eventChan = some ⟨event, none⟩) (hevent : event ≠ .webSocketConnect)
    (hloop : ∀ e, s'.loop = .handling e ↔ s.loop = .handling e) : EventFlow s' := by
  obtain ⟨hnext, hloops, -, hhandled⟩ := hlives
  obtain ⟨hunused, hfin, honce, hsingle, hsent, hhand⟩ := hI
  constructor <;> grind [InFlight]

theorem EventFlow.received (hloop : s.loop = .select) (hchan : s.eventChan = some e) :
    EventFlow { s with eventChan := none, loop := .handling e } := by
  obtain ⟨hunused, hfin, honce, hsingle, hsent, hhand⟩ := hI
  constructor <;> simp only <;> grind [InFlight]

theorem EventFlow.handled (hloop : s.loop = .handling e) (hnext : s'.nextConn = s.nextConn)
    (hloops : ∀ c, (s'.conns c).loop = (s.conns c).loop)
    (hhandled : ∀ c, (s'.conns c).handled = true ↔
      (s.conns c).handled = true ∨ e = disconnectOf c) (hchan : s'.eventChan = s.eventChan)
    (hloop' : ∀ e, s'.loop ≠ .handling e) :
    EventFlow s' := by
  obtain ⟨hunused, hfin, honce, hsingle, hsent, hhand⟩ := hI
  constructor <;> grind [InFlight]

end

theorem handled_lives (s : AgentState) (e : Event) :
    (handleEvent (recordHandled s e) e.event).nextConn = s.nextConn ∧
      (∀ c, ((handleEvent (recordHandled s e) e.event).conns c).loop = (s.conns c).loop) ∧
      (∀ c, ((handleEvent (recordHandled s e) e.event).conns c).handled = true ↔
        (s.conns c).handled = true ∨ e = disconnectOf c) := by
  obtain ⟨hlives, -, -⟩ := handleEvent_frame (recordHandled s e) e.event
  obtain ⟨hnext, hloop, -, hhandled⟩ := recordHandled_frame s e
  refine ⟨hlives.next.trans hnext, fun c => (hlives.loop c).trans (hloop c), ?_⟩
  intro c
  rw [hlives.handled, hhandled]

theorem handled_loop (s : AgentState) (e e' : Event) :
    (handleEvent (recordHandled s e) e.event).loop ≠ .handling e' := by
  rw [handleEvent_loop]
  split <;> simp

variable {a : AgentAction}

/-- **Event flow**: every step of the agent keeps the events of the connections in order. -/
theorem eventFlow_step (hI : EventFlow s) (h : agentStep cfg s a = some s') :
    EventFlow s' := by
  cases agentStep_effect h with
  | silent _ hs => exact hI.congr hs.lives hs.eventChan hs.loop.handling_iff
  | opened _ ho => exact hI.opened ho
  | verified hp =>
    refine hI.moved rfl rfl (.inl rfl) rfl ?_ (by simp) rfl
    simp [hp.reading]
  | connectSent hpc hchan =>
    refine hI.moved rfl rfl (.inr ⟨hchan, rfl⟩) rfl ?_ (by simp) rfl
    simp [hpc]
  | closing hpc =>
    refine hI.moved rfl rfl (.inl rfl) rfl ?_ (by simp) rfl
    simp [hpc]
  | disconnectSent hpc hchan => exact hI.disconnectSent rfl rfl hchan rfl rfl hpc rfl rfl
  | sshSent event hwho hchan hsent hlives _ _ hloop =>
    refine hI.sshSent hlives hchan hsent ?_ (fun e => by rw [hloop])
    rcases hwho with ⟨-, rfl⟩ | ⟨i, -, -, rfl⟩ <;> simp
  | received e hloop hchan => exact hI.received hloop hchan
  | handled e hloop =>
    obtain ⟨hnext, hloops, hhandled⟩ := handled_lives s e
    refine hI.handled hloop hnext hloops hhandled ?_ (handled_loop s e)
    rw [(handleEvent_frame _ _).2.1, (recordHandled_keeps _ _).1]
  | stopSent reason hloop hchan hsent hlives _ _ hsel =>
    refine hI.sshSent hlives hchan hsent (by simp) ?_
    intro e
    rw [hsel, hloop]
    simp
  | shutdown hloop _ =>
    refine hI.congr (.of_eq rfl rfl) rfl ?_
    intro e
    rw [hloop]
    simp

/-- **No disconnect event is lost or sent twice**: it is in the channel, in the handler or handled
    exactly if the read loop of its connection is over. -/
theorem disconnect_event_conserved (cfg : AgentConfig Key) (as : List AgentAction) :
    EveryState (agentStep cfg) (fun s => ∀ c,
      (if s.eventChan = some (disconnectOf c) then 1 else 0) +
          (if s.loop = .handling (disconnectOf c) then 1 else 0) +
          (if (s.conns c).handled then 1 else 0) =
        if (s.conns c).loop = .finished then 1 else 0) .init as := by
  refine everyState_of_step (fun _ _ _ => eventFlow_step) ?_ init_eventFlow
  intro s hflow c
  have hfinished := hflow.finished_iff c
  have honce := hflow.once c
  have hsingle := hflow.single c
  grind [InFlight]

/-! ## Overlapping connections: the property -/

structure HandlesOlder (s : AgentState) (a : AgentAction) (c : ConnId) : Prop where
  action : a = .loopRun
  event : s.loop = .handling (disconnectOf c)
  older : c + 1 < s.nextConn

/-- The disconnect event of an older connection neither takes the manager out of
    `WebSocketConnected` nor closes a newer connection with a verified hub. -/
def OlderDisconnectHarmless (cfg : AgentConfig Key) (s : AgentState) (a : AgentAction) : Prop :=
  ∀ s' c, agentStep cfg s a = some s' → HandlesOlder s a c →
    (s.state = .webSocketConnected → s'.state = .webSocketConnected) ∧
      ∀ d, c < d → (s.conns d).verified = true → (s.conns d).closed = false →
        (s'.conns d).closed = false

/-! ## Overlapping connections: the condition on the steps -/

def LoopPc.RecordsConnect (pc : LoopPc) : Prop :=
  ∃ o, pc = .handling ⟨.webSocketConnect, o⟩

instance (pc : LoopPc) : Decidable pc.RecordsConnect :=
  match pc with
  | .handling ⟨.webSocketConnect, o⟩ => .isTrue ⟨o, rfl⟩
  | .handling ⟨.webSocketDisconnect, _⟩ | .handling ⟨.sshConnect, _⟩
  | .handling ⟨.sshDisconnect, _⟩ | .startup | .select | .dialing | .stopping _ =>
    .isFalse (fun h => by obtain ⟨o, ho⟩ := h; cases ho)

/-- Lifetimes are kept apart: in `WebSocketConnected` a connection is established, and a connect
    event is handled, only if the disconnect events of all other connections have been handled. -/
structure OverlapGuard (s : AgentState) (a : AgentAction) : Prop where
  opens : Opens s a → s.state = .webSocketConnected →
    ∀ c, c < s.nextConn → (s.conns c).handled = true
  records : a = .loopRun → s.loop.RecordsConnect →
    ∀ c, c < s.nextConn - 1 → (s.conns c).handled = true

instance (s : AgentState) (a : AgentAction) : Decidable (OverlapGuard s a) :=
  decidable_of_iff
    ((Opens s a → s.state = .webSocketConnected →
        ∀ c, c < s.nextConn → (s.conns c).handled = true) ∧
      (a = .loopRun → s.loop.RecordsConnect →
        ∀ c, c < s.nextConn - 1 → (s.conns c).handled = true))
    ⟨fun h => ⟨h.1, h.2⟩, fun h => ⟨h.opens, h.records⟩⟩

/-- While a WebSocket connection is recorded, only the newest one can still disconnect. -/
def OlderHandled (s : AgentState) : Prop :=
  s.state = .webSocketConnected → ∀ c, c + 1 < s.nextConn → (s.conns c).handled = true

/-! ## Overlapping connections: one step -/

theorem SameLives.olderHandled (h : SameLives s s') (hI : OlderHandled s)
    (hstate : s'.state = s.state) : OlderHandled s' := by
  intro hws c hc
  rw [h.handled]
  exact hI (hstate ▸ hws) c (h.next ▸ hc)

theorem OlderHandled.update {c : ConnId} {k : Conn} (hI : OlderHandled s)
    (hstate : s'.state = s.state) (hnext : s'.nextConn = s.nextConn)
    (hconns : s'.conns = update s.conns c k)
    (hk : k.handled = (s.conns c).handled) : OlderHandled s' := by
  intro hws d hd
  have hhandled : (s.conns d).handled = true := hI (hstate ▸ hws) d (hnext ▸ hd)
  rw [hconns]
  by_cases hdc : d = c
  · subst hdc
    rw [update_self, hk]
    exact hhandled
  · rw [update_of_ne hdc]
    exact hhandled

/-- **One step** under the condition keeps older connections handled. -/
theorem olderHandled_step (hI : OlderHandled s) (hG : OverlapGuard s a)
    (h : agentStep cfg s a = some s') : OlderHandled s' := by
  cases agentStep_effect h with
  | silent _ hs => exact hs.lives.olderHandled hI hs.state
  | opened hopens ho =>
    intro hws c hc
    rw [ho.next] at hc
    have hlt : c < s.nextConn := Nat.lt_of_succ_lt_succ hc
    rw [ho.others c (Nat.ne_of_lt hlt)]
    exact hG.opens hopens (ho.state ▸ hws) c hlt
  | verified _ => exact hI.update rfl rfl rfl rfl
  | connectSent _ _ => exact hI.update rfl rfl rfl rfl
  | closing _ => exact hI.update rfl rfl rfl rfl
  | disconnectSent _ _ => exact hI.update rfl rfl rfl rfl
  | sshSent _ _ _ _ hlives hstate _ _ => exact hlives.olderHandled hI hstate
  | received _ _ _ => exact hI
  | handled e hloop =>
    intro hws c hc
    obtain ⟨hnext, -, hhandled⟩ := handled_lives s e
    rw [hnext] at hc
    apply (hhandled c).mpr
    left
    -- the two events after which the manager is in `WebSocketConnected`
    obtain ⟨event, o⟩ := e
    simp only [handleEvent_state, recordHandled_keeps] at hws
    cases event with
    | webSocketConnect => exact hG.records rfl ⟨o, hloop⟩ c (Nat.lt_sub_of_add_lt hc)
    | sshConnect => cases hws
    | webSocketDisconnect =>
      dsimp only at hws
      split at hws
      · cases hws
      · rename_i hne
        exact absurd hws hne
    | sshDisconnect =>
      dsimp only at hws
      split at hws
      · cases hws
      · exact hI hws c hc
  | stopSent _ _ _ _ hlives hstate _ _ => exact hlives.olderHandled hI hstate
  | shutdown _ _ => exact hI

theorem recordHandled_closed (s : AgentState) (e : Event) (c : ConnId) :
    ((recordHandled s e).conns c).closed = (s.conns c).closed := by
  unfold recordHandled
  split
  · rename_i d
    by_cases hcd : c = d
    · subst hcd
      simp [AgentState.setConn]
    · simp [AgentState.setConn, update_of_ne hcd]
  · rfl

/-- An event of an older connection is met outside `WebSocketConnected` only, where nothing
    happens. -/
theorem olderDisconnectHarmless_of_invariant (hflow : EventFlow s) (hI : OlderHandled s) :
    OlderDisconnectHarmless cfg s a := by
  rintro s' c h ⟨rfl, hloop, holder⟩
  have hstate : s.state ≠ .webSocketConnected := by
    intro hws
    exact hflow.once c (hI hws c holder) (.inr hloop)
  refine ⟨fun hws => absurd hws hstate, ?_⟩
  intro d _ _ hopen
  have heq : s' = { recordHandled s (disconnectOf c) with loop := .select } := by
    cases agentStep_effect h with
    | silent hquiet _ => cases hquiet
    | opened hopens _ => cases hopens
    | sshSent _ hwho _ _ _ _ _ _ => simp at hwho
    | handled e he =>
      obtain rfl : e = disconnectOf c := LoopPc.handling.inj (he.symm.trans hloop)
      simp [handleEvent, hstate]
    | stopSent _ hstop _ _ _ _ _ _ =>
      rw [hloop] at hstop
      cases hstop
  rw [heq]
  exact (recordHandled_closed s (disconnectOf c) d).trans hopen

/-! ## Overlapping connections: runs -/

theorem init_olderHandled : OlderHandled AgentState.init := by
  intro h
  cases h

/-- **Older disconnects do no harm** while the lifetimes of the recorded connections are kept
    apart. -/
theorem older_disconnects_harmless (cfg : AgentConfig Key) (as : List AgentAction)
    (hG : EveryStep (agentStep cfg) OverlapGuard .init as) :
    EveryStep (agentStep cfg) (OlderDisconnectHarmless cfg) .init as := by
  apply everyStep_of_invariant (I := fun s => EventFlow s ∧ OlderHandled s) (G := OverlapGuard)
  · rintro s a s' ⟨hflow, hI⟩ hg h
    exact ⟨eventFlow_step hflow h, olderHandled_step hI hg h⟩
  · rintro s a ⟨hflow, hI⟩ _
    exact olderDisconnectHarmless_of_invariant hflow hI
  · exact ⟨init_eventFlow, init_olderHandled⟩
  · exact hG

/-- The tick replaces connection 0, whose hub is silent, and its event is handled before any hub is
    verified. -/
theorem silent_connection_replaced_harmlessly :
    EveryStep (agentStep sampleConfig) OverlapGuard .init
        (startRun ++ [.clock 10000, .loopTick, .loopDialed .ok, .connRun 0, .connRun 0,
          .loopReceive, .loopRun]) ∧
      EveryStep (agentStep sampleConfig) (OlderDisconnectHarmless sampleConfig) .init
        (startRun ++ [.clock 10000, .loopTick, .loopDialed .ok, .connRun 0, .connRun 0,
          .loopReceive, .loopRun]) := by
  have hG : EveryStep (agentStep sampleConfig) OverlapGuard .init
      (startRun ++ [.clock 10000, .loopTick, .loopDialed .ok, .connRun 0, .connRun 0,
        .loopReceive, .loopRun]) := by
    decide +kernel
  exact ⟨hG, older_disconnects_harmless sampleConfig _ hG⟩

/-- The loop's tick replaces connection 0, whose hub is silent, by connection 1. -/
def overlapRun : List AgentAction :=
  startRun ++ [.clock 10000, .loopTick, .loopDialed .ok] ++ challengeRun 1 ++
    [.connRun 0, .connRun 0, .loopReceive]

/-- The disconnect event of connection 0 closes connection 1, verified and recorded before it. -/
theorem overlapRun_closes_verified_connection :
    ∃ s s', exec (agentStep sampleConfig) .init overlapRun = some s ∧
      agentStep sampleConfig s .loopRun = some s' ∧ HandlesOlder s .loopRun 0 ∧
      s.state = .webSocketConnected ∧ s'.state = .disconnected ∧
      (s.conns 1).verified = true ∧ (s.conns 1).closed = false ∧
      (s'.conns 1).closed = true := by
  refine ⟨_, _, rfl, rfl, ⟨rfl, rfl, ?_⟩, rfl, rfl, rfl, rfl, rfl⟩
  decide

end Bantay.Agent
