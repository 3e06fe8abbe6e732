import Bantay.Agent.EventFlow

/-!
# Ways Back to the Hub

When nothing is under way in the connection manager, the agent can only be reached again
through an open WebSocket, a listening SSH server or the retry ticker.  A disconnect event
starts a new `connect` call in one case only: the manager has recorded the connection as up
and no call is taken to be at work.  In all other cases the event is dropped, and something
else has to be left.

`Recoverable` says what is left in each recorded state, `WayBackGuard` when handling an event
keeps it.
-/

namespace Bantay.Agent

open Bantay.Lib Function AgentState

variable {Key : Type} {cfg : AgentConfig Key} {s s' : AgentState}

/-! ## The property -/

/-- Nothing is under way: an empty channel, a waiting loop, and no callback, `OnClose`, `connect`
    call or start of the SSH server. -/
structure Quiescent (s : AgentState) : Prop where
  alive : s.alive = true
  eventChan : s.eventChan = none
  loop : s.loop = .select
  callbacks : ∀ c, (s.conns c).loop ≠ .sendingConnect ∧ (s.conns c).loop ≠ .sendingDisconnect
  closes : ∀ c, (s.conns c).loop = .reading → (s.conns c).closed = false
  connects : ∀ i, s.connects i = .unused ∨ s.connects i = .done
  serverStarts : s.serverStarts = 0 ∧ s.serverBinds = 0

/-- The WebSocket is open, the SSH server is listening or the ticker is running. -/
def WayBack (s : AgentState) : Prop :=
  (∃ c, (s.conns c).loop = .reading ∧ (s.conns c).closed = false) ∨ s.server = true ∨
    s.wsTicker.isSome = true

/-! ## What is left in each recorded state -/

/-- A connection has been established and its disconnect event not been handled. -/
def ConnLeft (s : AgentState) : Prop :=
  ∃ c, c < s.nextConn ∧ (s.conns c).handled = false

/-- The call of `connect` has not taken its last action. -/
def ConnectPc.Working (pc : ConnectPc) : Prop :=
  pc ≠ .unused ∧ pc ≠ .returning ∧ pc ≠ .done

def ConnectLeft (s : AgentState) : Prop :=
  ∃ i, (s.connects i).Working

/-- A `connect` call has stopped the SSH server on the way to `os.Exit`. -/
def Exiting (s : AgentState) : Prop :=
  ∃ i, s.connects i = .exitSending

/-- The process is about to end: the SSH server has been stopped for good. -/
def Leaving (s : AgentState) : Prop :=
  s.loop = .stopping .shutdown ∨ Exiting s

/-- What leads back to the hub, or will: a connection that is left; outside `WebSocketConnected`
    the listening SSH server, or the end of the process; when disconnected the ticker, or a
    `connect` call at work. -/
def Recoverable (s : AgentState) : Prop :=
  ConnLeft s ∨ (s.state ≠ .webSocketConnected ∧ (s.server = true ∨ Leaving s)) ∨
    (s.state = .disconnected ∧ (s.wsTicker.isSome = true ∨ ConnectLeft s))

theorem Recoverable.wayBack (hflow : EventFlow s) (h : Recoverable s) (hq : Quiescent s) :
    WayBack s := by
  -- an established connection whose disconnect is not handled is being read
  have hconn : ConnLeft s → WayBack s := by
    rintro ⟨c, hc, hnot⟩
    have hused : (s.conns c).loop ≠ .unused := by
      rw [ne_eq, hflow.unused_iff]
      exact Nat.not_le.mpr hc
    have hunfinished : (s.conns c).loop ≠ .finished := by
      rw [ne_eq, hflow.finished_iff, hnot, InFlight, hq.eventChan, hq.loop]
      simp
    obtain ⟨hnc, hnd⟩ := hq.callbacks c
    have hreading : (s.conns c).loop = .reading := by
      cases hloop : (s.conns c).loop <;> simp_all
    exact .inl ⟨c, hreading, hq.closes c hreading⟩
  have hleaving : ¬ Leaving s := by
    rintro (hstop | ⟨i, hpc⟩)
    · rw [hq.loop] at hstop
      cases hstop
    · rcases hq.connects i with h | h <;> rw [h] at hpc <;> cases hpc
  have hconnect : ¬ ConnectLeft s := by
    rintro ⟨i, hunused, -, hdone⟩
    rcases hq.connects i with h | h
    · exact hunused h
    · exact hdone h
  rcases h with h | ⟨-, h | h⟩ | ⟨-, h | h⟩
  · exact hconn h
  · exact .inr (.inl h)
  · exact absurd h hleaving
  · exact .inr (.inr h)
  · exact absurd h hconnect

/-! ## The condition on the steps -/

/-- Something other than connection `c` leads back, or will. -/
def OtherWayLeft (s : AgentState) (c : ConnId) : Prop :=
  s.server = true ∨ (∃ d, d < s.nextConn ∧ d ≠ c ∧ (s.conns d).handled = false) ∨
    Leaving s ∨ (s.state ≠ .sshConnected ∧ (s.wsTicker.isSome = true ∨ ConnectLeft s))

/-- An SSH session is recorded only while the server listens, a connection is left or the process
    is ending.  A disconnect event starts no `connect` call only if something else is left. -/
def LeavesWayBack (s : AgentState) : Event → Prop
  | ⟨.sshConnect, _⟩ => s.state = .sshConnected ∨ s.server = true ∨ ConnLeft s ∨ Leaving s
  | ⟨.webSocketDisconnect, some c⟩ =>
    (s.state = .webSocketConnected ∧ s.isConnecting = false) ∨ OtherWayLeft s c
  | ⟨.webSocketDisconnect, none⟩ | ⟨.webSocketConnect, _⟩ | ⟨.sshDisconnect, _⟩ => True

/-- The event whose handler the loop is about to run. -/
def LoopPc.event? : LoopPc → Option Event
  | .handling e => some e
  | .startup | .select | .dialing | .stopping _ => none

/-- The loop runs only handlers that leave a way back. -/
def WayBackGuard (s : AgentState) (a : AgentAction) : Prop :=
  a = .loopRun → ∀ e ∈ s.loop.event?, LeavesWayBack s e

/-! ## Steps outside the event handlers -/

/-- Nothing that leads back is lost. -/
structure Kept (s s' : AgentState) : Prop where
  state : s'.state = s.state
  ticker : s.wsTicker.isSome = true → s'.wsTicker.isSome = true
  server : s.server = true → s'.server = true
  conn : ConnLeft s → ConnLeft s'
  connect : ConnectLeft s → ConnectLeft s'
  leaving : Leaving s → Leaving s'

theorem Kept.recoverable (h : Kept s s') (hs : Recoverable s) : Recoverable s' := by
  rcases hs with hs | ⟨hstate, hs⟩ | ⟨hstate, hs⟩
  · exact .inl (h.conn hs)
  · exact .inr (.inl ⟨h.state ▸ hstate, hs.imp h.server h.leaving⟩)
  · exact .inr (.inr ⟨h.state ▸ hstate, hs.imp h.ticker h.connect⟩)

theorem SameLives.connLeft (h : SameLives s s') (hs : ConnLeft s) : ConnLeft s' := by
  obtain ⟨c, hc, hnot⟩ := hs
  exact ⟨c, by rw [h.next]; exact hc, by rw [h.handled]; exact hnot⟩

theorem ConnLeft.update {c : ConnId} {k : Conn} (hs : ConnLeft s) (hnext : s'.nextConn = s.nextConn)
    (hconns : s'.conns = update s.conns c k)
    (hk : k.handled = (s.conns c).handled) : ConnLeft s' := by
  obtain ⟨d, hd, hnot⟩ := hs
  refine ⟨d, by rw [hnext]; exact hd, ?_⟩
  rw [hconns]
  by_cases hdc : d = c
  · subst hdc
    rw [update_self, hk]
    exact hnot
  · rw [update_of_ne hdc]
    exact hnot

theorem Opened.connLeft (h : Opened s s') : ConnLeft s' := by
  refine ⟨s.nextConn, ?_, ?_⟩
  · rw [h.next]
    exact Nat.lt_succ_self _
  · rw [h.fresh]
    rfl

/-- Only the event loop changes the state, and no one else ends a connection that is left. -/
theorem agentStep_connLeft {a : AgentAction} (h : agentStep cfg s a = some s') (ha : a ≠ .loopRun) :
    s'.state = s.state ∧ (ConnLeft s → ConnLeft s') := by
  cases agentStep_effect h with
  | silent _ hs => exact ⟨hs.state, hs.lives.connLeft⟩
  | opened _ ho => exact ⟨ho.state, fun _ => ho.connLeft⟩
  | verified _ => exact ⟨rfl, fun hs => hs.update rfl rfl rfl⟩
  | connectSent _ _ => exact ⟨rfl, fun hs => hs.update rfl rfl rfl⟩
  | closing _ => exact ⟨rfl, fun hs => hs.update rfl rfl rfl⟩
  | disconnectSent _ _ => exact ⟨rfl, fun hs => hs.update rfl rfl rfl⟩
  | sshSent _ _ _ _ hlives hstate _ _ => exact ⟨hstate, hlives.connLeft⟩
  | received _ _ _ => exact ⟨rfl, id⟩
  | handled _ _ => exact absurd rfl ha
  | stopSent _ _ _ _ _ _ _ _ => exact absurd rfl ha
  | shutdown _ _ => exact ⟨rfl, id⟩

variable {i : Nat}

theorem ConnectLeft.update (pc : ConnectPc) (hs : ConnectLeft s)
    (hconnects : s'.connects = update s.connects i pc)
    (hpc : (s.connects i).Working → pc.Working) : ConnectLeft s' := by
  obtain ⟨j, hworking⟩ := hs
  refine ⟨j, ?_⟩
  rw [hconnects]
  by_cases hji : j = i
  · subst hji
    rw [update_self]
    exact hpc hworking
  · rw [update_of_ne hji]
    exact hworking

/-- Nothing but the end of the process takes a goroutine out of `StopServer` for good. -/
theorem Leaving.update (pc : ConnectPc) (hs : Leaving s)
    (hloop : s.loop = .stopping .shutdown → s'.loop = .stopping .shutdown)
    (hconnects : s'.connects = update s.connects i pc)
    (hpc : s.connects i ≠ .exitSending) : Leaving s' := by
  rcases hs with hstop | ⟨j, hsending⟩
  · exact .inl (hloop hstop)
  · right
    refine ⟨j, ?_⟩
    have hji : j ≠ i := by
      intro hji
      subst hji
      exact hpc hsending
    rw [hconnects, update_of_ne hji]
    exact hsending

theorem ConnectLeft.of_connects_eq (hconnects : s'.connects = s.connects) (h : ConnectLeft s) :
    ConnectLeft s' := by
  unfold ConnectLeft
  rw [hconnects]
  exact h

section

variable (hs : Recoverable s) (hstate : s'.state = s.state) (hconn : ConnLeft s → ConnLeft s')
include hs hstate hconn

theorem Recoverable.working {pc q : ConnectPc} (hpc : s.connects i = pc)
    (htick : s'.wsTicker = s.wsTicker := by rfl) (hsrv : s'.server = s.server := by rfl)
    (hloop : s'.loop = s.loop := by rfl)
    (hconnects : s'.connects = update s.connects i q := by rfl)
    (hfrom : pc ≠ .exitSending := by simp) (hto : q.Working := by simp [ConnectPc.Working]) :
    Recoverable s' := by
  have hkept : Kept s s' :=
    { state := hstate
      ticker := fun h => by rw [htick]; exact h
      server := fun h => by rw [hsrv]; exact h
      conn := hconn
      connect := fun h => h.update q hconnects (fun _ => hto)
      leaving := fun h => h.update q (fun hstop => hloop.trans hstop) hconnects (hpc ▸ hfrom) }
  exact hkept.recoverable hs

theorem Recoverable.of_eq
    (hloop : s.loop = .stopping .shutdown → s'.loop = .stopping .shutdown := by exact id)
    (htick : s.wsTicker.isSome = true → s'.wsTicker.isSome = true := by exact id)
    (hsrv : s.server = true → s'.server = true := by exact id)
    (hconnects : s'.connects = s.connects := by rfl) : Recoverable s' := by
  refine Kept.recoverable ⟨hstate, htick, hsrv, hconn, .of_connects_eq hconnects, ?_⟩ hs
  unfold Leaving Exiting
  rw [hconnects]
  exact Or.imp_left hloop

/-- A `connect` call about to return loses no way back, if with the manager disconnected it leaves
    the ticker running. -/
theorem Recoverable.returning (hsrv : s'.server = s.server) (hloop : s'.loop = s.loop)
    (hconnects : s'.connects = update s.connects i .returning)
    (hfrom : s.connects i ≠ .exitSending)
    (htick : s.state = .disconnected → s'.wsTicker.isSome = true) : Recoverable s' := by
  have hleaving : Leaving s → Leaving s' := fun hl =>
    hl.update .returning (fun hstop => hloop.trans hstop) hconnects hfrom
  rcases hs with hs | ⟨hnow, hs⟩ | ⟨hnow, -⟩
  · exact .inl (hconn hs)
  · exact .inr (.inl ⟨hstate ▸ hnow, hs.imp (fun h => hsrv.trans h) hleaving⟩)
  · exact .inr (.inr ⟨hstate ▸ hnow, .inl (htick hnow)⟩)

/-- A call of `connect` returns.  It no longer counted as a way back, so nothing is lost. -/
theorem returned_recoverable (hpc : s.connects i = .returning)
    (h : connectRun cfg s i = some s') : Recoverable s' := by
  have hnot : ¬ (s.connects i).Working := by simp [hpc, ConnectPc.Working]
  simp only [connectRun, hpc] at h
  cases h
  refine Kept.recoverable ⟨hstate, ?_, ?_, hconn, ?_, ?_⟩ hs
  · split <;> exact id
  · split <;> exact id
  · intro hl
    refine hl.update (i := i) .done ?_ (fun hw => absurd hw hnot)
    split <;> rfl
  · intro hl
    refine hl.update (i := i) .done ?_ ?_ (by simp [hpc])
    · split
      · rename_i hfirst
        rw [hfirst.2]
        intro hstop
        cases hstop
      · exact id
    · split <;> rfl

theorem exiting_recoverable {wake : Nat} (hpc : s.connects i = .exiting wake)
    (h : connectRun cfg s i = some s') (halive : s'.alive = true) : Recoverable s' := by
  simp only [connectRun, hpc] at h
  split at h
  · split at h
    · cases h
      have hleaving :
          Leaving (AgentState.setConnect { s with server := false } i .exitSending) := by
        refine .inr ⟨i, ?_⟩
        simp [setConnect]
      rcases hs with hs | ⟨hnow, -⟩ | ⟨hnow, -⟩
      · exact .inl (hconn hs)
      · exact .inr (.inl ⟨hnow, .inr hleaving⟩)
      · refine .inr (.inl ⟨?_, .inr hleaving⟩)
        rw [hstate, hnow]
        simp
    · cases h
      cases halive
  · cases h

/-- **A `connect` call keeps a way back**: a connection, the ticker, or a connected manager. -/
theorem connectRun_recoverable (h : connectRun cfg s i = some s') (halive : s'.alive = true) :
    Recoverable s' := by
  have hrun := h
  unfold connectRun at hrun
  cases hpc : s.connects i with (rw [hpc] at hrun; dsimp only at hrun)
  | unused | dialing | done => cases hrun
  | start =>
    split at hrun <;> obtain rfl := Option.some.inj hrun <;>
      exact hs.working hstate hconn hpc
  | sleeping wake =>
    split at hrun
    · cases hrun
      exact hs.working hstate hconn hpc
    · cases hrun
  | ready =>
    split at hrun
    · cases hrun
      exact hs.working hstate hconn hpc
    · rename_i t hdial
      obtain ⟨-, rfl⟩ := startWebSocketConnection_ok hdial
      cases hrun
      refine hs.working (q := .dialing) hstate hconn hpc ?_ ?_ ?_ ?_
      all_goals simp [setConnect]
  | failed dns =>
    split at hrun
    · cases hrun
      exact hs.working hstate hconn hpc
    · split at hrun
      · cases hrun
        exact hs.working hstate hconn hpc
      · -- the call gives up because the manager is connected
        rename_i hcnd
        cases hrun
        exact hs.returning hstate hconn rfl rfl rfl (by simp [hpc])
          (fun hnow => absurd hnow hcnd)
  | startingSSH =>
    cases hrun
    refine hs.working (q := .startingTicker) hstate hconn hpc ?_ ?_ ?_ ?_
    all_goals split <;> rfl
  | startingTicker =>
    -- from here on the ticker is what leads back
    cases hrun
    exact hs.returning hstate hconn rfl rfl rfl (by simp [hpc]) (fun _ => rfl)
  | returning => exact returned_recoverable hs hstate hconn hpc h
  | exiting wake => exact exiting_recoverable hs hstate hconn hpc h halive
  | exitSending =>
    split at hrun
    · cases hrun
    · cases hrun
      cases halive

end

/-! ## The event handlers -/

/-- A handler adds a `connect` call when it leaves the manager disconnected, or adds none. -/
theorem handleEvent_connects (s : AgentState) (event : ConnectionEvent) :
    (handleEvent s event).connects = s.connects ∨
      ((handleEvent s event).state = .disconnected ∧ ConnectLeft (handleEvent s event)) := by
  have hadded : ∀ t : AgentState, ConnectLeft t.goConnect := by
    intro t
    refine ⟨t.nextConnect, ?_⟩
    simp [goConnect, setConnect, ConnectPc.Working]
  cases event with
  | webSocketConnect =>
    left
    simp only [handleEvent, handleStateChange]
    split
    · rfl
    · split <;> rfl
  | sshConnect =>
    left
    simp only [handleEvent, handleStateChange]
    split <;> rfl
  | webSocketDisconnect | sshDisconnect =>
    simp only [handleEvent, handleStateChange]
    repeat' split
    any_goals exact .inl rfl
    exact .inr ⟨by simp [goConnect, setConnect], hadded _⟩

variable {event : ConnectionEvent}

theorem handleEvent_server (h : event ≠ .webSocketConnect) :
    (handleEvent s event).server = s.server := by
  cases event with simp only [handleEvent, handleStateChange]
  | webSocketConnect => exact absurd rfl h
  | sshConnect =>
    split <;> rfl
  | webSocketDisconnect =>
    repeat' split
    all_goals simp [goConnect, setConnect]
  | sshDisconnect =>
    repeat' split
    all_goals simp [goConnect, setConnect]

theorem handleEvent_wsTicker (h : event = .webSocketDisconnect ∨ event = .sshDisconnect) :
    (handleEvent s event).wsTicker = s.wsTicker := by
  rcases h with rfl | rfl
  all_goals
    simp only [handleEvent, handleStateChange]
    repeat' split
    all_goals simp [goConnect, setConnect]

/-- Losing the recorded connection starts a `connect` call unless one is taken to run. -/
theorem webSocketDisconnect_connectLeft (hstate : s.state = .webSocketConnected)
    (hidle : s.isConnecting = false) : ConnectLeft (handleEvent s .webSocketDisconnect) := by
  simp only [handleEvent, handleStateChange, hstate, hidle]
  refine ⟨s.nextConnect, ?_⟩
  simp [goConnect, setConnect, ConnectPc.Working]

abbrev AgentState.handled (s : AgentState) (e : Event) : AgentState :=
  handleEvent (recordHandled s e) e.event

variable {e : Event}

theorem handled_server (h : e.event ≠ .webSocketConnect) : (s.handled e).server = s.server := by
  simp only [handleEvent_server h, recordHandled_keeps]

theorem handled_wsTicker (h : e.event = .webSocketDisconnect ∨ e.event = .sshDisconnect) :
    (s.handled e).wsTicker = s.wsTicker := by
  simp only [handleEvent_wsTicker h, recordHandled_keeps]

theorem handled_connLeft {d : ConnId} (hd : d < s.nextConn) (hnot : (s.conns d).handled = false)
    (hother : e ≠ disconnectOf d) : ConnLeft (s.handled e) := by
  obtain ⟨hnext, -, hhand⟩ := handled_lives s e
  refine ⟨d, by rw [hnext]; exact hd, ?_⟩
  rw [← Bool.not_eq_true, hhand d, not_or]
  exact ⟨by simp [hnot], hother⟩

theorem ConnLeft.handled (h : ConnLeft s) (hother : ∀ c, e ≠ disconnectOf c) :
    ConnLeft (s.handled e) := by
  obtain ⟨d, hd, hnot⟩ := h
  exact handled_connLeft hd hnot (hother d)

theorem Leaving.of_handling (hloop : s.loop = .handling e)
    (hconnects : s'.connects = s.connects) (h : Leaving s) : Leaving s' := by
  rcases h with hstop | hexit
  · rw [hloop] at hstop
    cases hstop
  · right
    unfold Exiting
    rw [hconnects]
    exact hexit

theorem webSocketDisconnect_state (s : AgentState) :
    (handleEvent s .webSocketDisconnect).state =
      if s.state = .sshConnected then .sshConnected else .disconnected := by
  rw [handleEvent_state]
  cases s.state <;> simp

section Handlers

variable {origin : Option ConnId}

theorem webSocketConnect_recoverable (hflow : EventFlow s)
    (hloop : s.loop = .handling ⟨.webSocketConnect, origin⟩) :
    Recoverable (s.handled ⟨.webSocketConnect, origin⟩) := by
  obtain ⟨c, rfl, hused, hnot⟩ := hflow.connectHandling origin hloop
  have hlt : c < s.nextConn := by
    rw [ne_eq, hflow.unused_iff] at hused
    exact Nat.not_le.mp hused
  exact .inl (handled_connLeft (e := connectOf c) hlt hnot (by simp))

theorem sshConnect_recoverable (hs : Recoverable s)
    (hloop : s.loop = .handling ⟨.sshConnect, origin⟩) (hG : LeavesWayBack s ⟨.sshConnect, origin⟩)
    (hconnects : (s.handled ⟨.sshConnect, origin⟩).connects = s.connects) :
    Recoverable (s.handled ⟨.sshConnect, origin⟩) := by
  have hleft : s.server = true ∨ ConnLeft s ∨ Leaving s := by
    rcases hG with hssh | hleft
    · -- the session is recorded already, so one of the three is there
      rcases hs with hs | ⟨-, hs | hs⟩ | ⟨hnow, -⟩
      · exact .inr (.inl hs)
      · exact .inl hs
      · exact .inr (.inr hs)
      · rw [hssh] at hnow
        cases hnow
    · exact hleft
  have hne : (s.handled ⟨.sshConnect, origin⟩).state ≠ .webSocketConnected := by
    rw [handleEvent_state]
    simp
  rcases hleft with h | h | h
  · refine .inr (.inl ⟨hne, .inl ?_⟩)
    rw [handled_server (by simp)]
    exact h
  · exact .inl (ConnLeft.handled (e := ⟨.sshConnect, origin⟩) h (by simp))
  · exact .inr (.inl ⟨hne, .inr (Leaving.of_handling hloop hconnects h)⟩)

/-- A disconnect that meets the condition still leaves a way back. -/
theorem webSocketDisconnect_recoverable (hs : Recoverable s)
    (hloop : s.loop = .handling ⟨.webSocketDisconnect, origin⟩)
    (hG : LeavesWayBack s ⟨.webSocketDisconnect, origin⟩)
    (hconnects : (s.handled ⟨.webSocketDisconnect, origin⟩).connects = s.connects) :
    Recoverable (s.handled ⟨.webSocketDisconnect, origin⟩) := by
  have hstate := webSocketDisconnect_state (recordHandled s ⟨.webSocketDisconnect, origin⟩)
  simp only [recordHandled_keeps] at hstate
  have hne : (s.handled ⟨.webSocketDisconnect, origin⟩).state ≠ .webSocketConnected := by
    rw [hstate]
    split <;> simp
  have hdown : s.state ≠ .sshConnected →
      (s.handled ⟨.webSocketDisconnect, origin⟩).state = .disconnected := by
    intro hssh
    rw [hstate, if_neg hssh]
  have hsrv : s.server = true → (s.handled ⟨.webSocketDisconnect, origin⟩).server = true := by
    intro h
    rw [handled_server (by simp)]
    exact h
  have htick : s.wsTicker.isSome = true →
      (s.handled ⟨.webSocketDisconnect, origin⟩).wsTicker.isSome = true := by
    intro h
    rw [handled_wsTicker (.inl rfl)]
    exact h
  cases origin with
  | none =>
    -- no connection is taken away
    rcases hs with hs | ⟨-, hs⟩ | ⟨hnow, hs⟩
    · exact .inl (ConnLeft.handled (e := ⟨.webSocketDisconnect, none⟩) hs (by simp))
    · exact .inr (.inl ⟨hne, hs.imp hsrv (Leaving.of_handling hloop hconnects)⟩)
    · exact .inr (.inr ⟨hdown (by simp [hnow]),
        hs.imp htick (ConnectLeft.of_connects_eq hconnects)⟩)
  | some c =>
    rcases hG with ⟨hup, hidle⟩ | hs | ⟨d, hd, hdc, hnot⟩ | hs | ⟨hssh, hs⟩
    · -- the recorded connection is lost and a new call is made
      refine .inr (.inr ⟨hdown (by simp [hup]), .inr ?_⟩)
      apply webSocketDisconnect_connectLeft
      · simp only [recordHandled_keeps]
        exact hup
      · simp only [recordHandled_keeps]
        exact hidle
    · exact .inr (.inl ⟨hne, .inl (hsrv hs)⟩)
    · exact .inl (handled_connLeft (e := disconnectOf c) hd hnot (by simp [Ne.symm hdc]))
    · exact .inr (.inl ⟨hne, .inr (Leaving.of_handling hloop hconnects hs)⟩)
    · exact .inr (.inr ⟨hdown hssh, hs.imp htick (ConnectLeft.of_connects_eq hconnects)⟩)

theorem sshDisconnect_recoverable (hs : Recoverable s)
    (hloop : s.loop = .handling ⟨.sshDisconnect, origin⟩)
    (hconnects : (s.handled ⟨.sshDisconnect, origin⟩).connects = s.connects) :
    Recoverable (s.handled ⟨.sshDisconnect, origin⟩) := by
  have hstate := handleEvent_state (recordHandled s ⟨.sshDisconnect, origin⟩) .sshDisconnect
  rcases hs with hs | ⟨hnow, hs⟩ | ⟨hnow, hs⟩
  · exact .inl (ConnLeft.handled (e := ⟨.sshDisconnect, origin⟩) hs (by simp))
  · refine .inr (.inl ⟨?_, hs.imp ?_ (Leaving.of_handling hloop hconnects)⟩)
    · rw [hstate]
      dsimp only
      split
      · simp
      · exact hnow
    · rw [handled_server (by simp)]
      exact id
  · refine .inr (.inr ⟨?_, hs.imp ?_ (ConnectLeft.of_connects_eq hconnects)⟩)
    · rw [hstate]
      simp [hnow]
    · rw [handled_wsTicker (.inr rfl)]
      exact id

/-- **A handler that meets the condition keeps a way back.** -/
theorem handled_recoverable (hflow : EventFlow s) (hs : Recoverable s)
    (hloop : s.loop = .handling e) (hG : LeavesWayBack s e) : Recoverable (s.handled e) := by
  rcases handleEvent_connects (recordHandled s e) e.event with hconnects | ⟨hdown, hleft⟩
  · simp only [recordHandled_keeps] at hconnects
    obtain ⟨event, origin⟩ := e
    cases event with
    | webSocketConnect => exact webSocketConnect_recoverable hflow hloop
    | sshConnect => exact sshConnect_recoverable hs hloop hG hconnects
    | webSocketDisconnect => exact webSocketDisconnect_recoverable hs hloop hG hconnects
    | sshDisconnect => exact sshDisconnect_recoverable hs hloop hconnects
  · exact .inr (.inr ⟨hdown, .inr hleft⟩)

end Handlers

/-! ## One step -/

/-- The event loop handles an event and still leaves a way back. -/
theorem loopRun_recoverable (hflow : EventFlow s) (hs : Recoverable s)
    (hG : WayBackGuard s .loopRun) (h : loopRun s = some s') (halive : s'.alive = true) :
    Recoverable s' := by
  unfold loopRun at h
  split at h
  · rename_i e hloop
    cases h
    exact handled_recoverable hflow hs hloop (hG rfl e (by simp [hloop, LoopPc.event?]))
  · rename_i hloop
    split at h
    · cases h
    · rename_i t hsend
      obtain ⟨-, rfl⟩ := send_eq_some hsend
      cases h
      refine hs.of_eq rfl (SameLives.of_eq rfl rfl).connLeft ?_
      rw [hloop]
      intro hstop
      cases hstop
  · split at h
    · cases h
    · cases h
      cases halive
  · cases h

theorem loopTick_recoverable (hs : Recoverable s) (hstate : s'.state = s.state)
    (hconn : ConnLeft s → ConnLeft s')
    (h : loopTick cfg s = some s') : Recoverable s' := by
  unfold loopTick at h
  split at h
  · rename_i due hloop hdue
    have hstop : s.loop = .stopping .shutdown → s'.loop = .stopping .shutdown := by
      rw [hloop]
      intro hstop
      cases hstop
    split at h
    · split at h
      · cases h
        exact hs.of_eq hstate hconn hstop fun _ => rfl
      · rename_i t hdial
        obtain ⟨-, rfl⟩ := startWebSocketConnection_ok hdial
        cases h
        refine hs.of_eq hstate hconn hstop ?_ ?_ ?_
        all_goals simp [nextTick]
    · cases h
  · cases h

theorem loopShutdown_recoverable (hs : Recoverable s) (h : loopShutdown s = some s')
    (halive : s'.alive = true) : Recoverable s' := by
  unfold loopShutdown at h
  split at h
  · split at h
    · cases h
      have hleaving : Leaving { s with server := false, loop := .stopping .shutdown } :=
        .inl rfl
      rcases hs with hs | ⟨hnow, -⟩ | ⟨hnow, -⟩
      · exact .inl hs
      · exact .inr (.inl ⟨hnow, .inr hleaving⟩)
      · refine .inr (.inl ⟨?_, .inr hleaving⟩)
        simp [hnow]
    · cases h
      cases halive
  · cases h

/-- A read loop leaves ticker, server, `connect` calls and event loop alone. -/
theorem connRun_frame (cfg : AgentConfig Key) {c : ConnId} (h : connRun s c = some s') :
    s'.wsTicker = s.wsTicker ∧ s'.server = s.server ∧ s'.connects = s.connects ∧
      s'.loop = s.loop := by
  have heff : Effect cfg s (.connRun c) s' := connRun_effect h
  cases heff with
  | connectSent _ _ => exact ⟨rfl, rfl, rfl, rfl⟩
  | closing _ => exact ⟨rfl, rfl, rfl, rfl⟩
  | disconnectSent _ _ => exact ⟨rfl, rfl, rfl, rfl⟩
  | silent hquiet _ => cases hquiet
  | opened hopens _ => cases hopens
  | sshSent _ hwho _ _ _ _ _ _ => simp at hwho

variable {a : AgentAction}

/-- **One step**: every step that meets the condition keeps a way back. -/
theorem recoverable_step (hflow : EventFlow s) (hs : Recoverable s) (hG : WayBackGuard s a)
    (h : agentStep cfg s a = some s') (halive : s'.alive = true) :
    Recoverable s' := by
  by_cases ha : a = .loopRun
  · subst ha
    unfold agentStep at h
    split at h
    · cases h
    · exact loopRun_recoverable hflow hs hG h halive
  obtain ⟨hstate, hconn⟩ := agentStep_connLeft h ha
  unfold agentStep at h
  split at h
  · cases h
  cases a with
  | loopRun => exact absurd rfl ha
  | connectRun i => exact connectRun_recoverable hs hstate hconn h halive
  | connectDialed i r =>
    obtain ⟨hpc, ⟨-, ho⟩ | ⟨⟨dns, rfl⟩, -⟩⟩ := connectDialed_effect h
    · exact .inl ho.connLeft
    · simp only [connectDialed, hpc] at h
      cases h
      exact hs.working hstate hconn hpc
  | loopTick => exact loopTick_recoverable hs hstate hconn h
  | loopShutdown => exact loopShutdown_recoverable hs h halive
  | clock ms =>
    cases h
    exact hs.of_eq hstate hconn
  | loopReceive =>
    simp only [loopReceive] at h
    split at h
    · rename_i e hloop hchan
      cases h
      refine hs.of_eq hstate hconn ?_
      rw [hloop]
      intro hstop
      cases hstop
    · cases h
  | loopDialed r =>
    obtain ⟨hloop, ⟨-, ho⟩ | ⟨⟨dns, rfl⟩, -⟩⟩ := loopDialed_effect h
    · exact .inl ho.connLeft
    · simp only [loopDialed, hloop] at h
      cases h
      refine hs.of_eq hstate hconn ?_
      rw [hloop]
      intro hstop
      cases hstop
  | connMessage c m =>
    rcases connMessage_effect h with ⟨-, rfl⟩ | ⟨-, rfl⟩
    · exact hs.of_eq hstate hconn
    · exact hs
  | connBreak c =>
    simp only [connBreak] at h
    split at h
    · cases h
    · cases h
      exact hs.of_eq hstate hconn
  | connRun c =>
    obtain ⟨htick, hsrv, hconnects, hloop⟩ := connRun_frame cfg h
    refine hs.of_eq hstate hconn hloop.trans ?_ ?_ hconnects
    · rw [htick]
      exact id
    · rw [hsrv]
      exact id
  | serverStart =>
    simp only [serverStart] at h
    split at h
    · cases h
    · split at h <;> obtain rfl := Option.some.inj h <;>
        exact hs.of_eq hstate hconn
  | serverListen ok =>
    simp only [serverListen] at h
    split at h
    · cases h
    · cases h
      refine hs.of_eq hstate hconn id id ?_
      intro hsrv
      simp [hsrv]
  | sshSession =>
    simp only [sshSession] at h
    split at h
    · cases h
      exact hs.of_eq hstate hconn
    · cases h
  | sshSend =>
    simp only [sshSend] at h
    split at h
    · cases h
    · obtain ⟨-, rfl⟩ := send_eq_some h
      exact hs.of_eq hstate hconn

/-! ## Runs -/

/-- What the runs that meet the condition preserve. -/
structure Tethered (s : AgentState) : Prop where
  flow : EventFlow s
  recoverable : s.alive = true → Recoverable s

theorem init_tethered : Tethered AgentState.init where
  flow := init_eventFlow
  recoverable _ := .inr (.inr ⟨rfl, .inl rfl⟩)

theorem agentStep_alive (h : agentStep cfg s a = some s') : s.alive = true := by
  unfold agentStep at h
  split at h
  · cases h
  · rename_i halive
    simpa using halive

/-- **One step** under the condition leaves a way back. -/
theorem tethered_step (hs : Tethered s) (hG : WayBackGuard s a) (h : agentStep cfg s a = some s') :
    Tethered s' where
  flow := eventFlow_step hs.flow h
  recoverable := recoverable_step hs.flow (hs.recoverable (agentStep_alive h)) hG h

/-- **A way back is always left**: under the condition on the handlers, every quiescent state has
    an open WebSocket, a listening SSH server or a running ticker. -/
theorem quiescent_states_have_way_back (cfg : AgentConfig Key) (as : List AgentAction)
    (hG : EveryStep (agentStep cfg) WayBackGuard .init as) :
    EveryState (agentStep cfg) (fun s => Quiescent s → WayBack s) .init as := by
  apply everyState_of_invariant (I := Tethered) (G := WayBackGuard)
  · intro s a s' hs hg h
    exact tethered_step hs hg h
  · intro s hs hq
    exact (hs.recoverable hq.alive).wayBack hs.flow hq
  · exact init_tethered
  · exact hG

/-- No session is recorded, and every disconnect is that of the recorded connection. -/
def PlainHandler (s : AgentState) (a : AgentAction) : Prop :=
  a = .loopRun → ∀ e ∈ s.loop.event?, e.event ≠ .sshConnect ∧
    (e.event = .webSocketDisconnect → s.state = .webSocketConnected ∧ s.isConnecting = false)
deriving Decidable

theorem PlainHandler.wayBackGuard (h : PlainHandler s a) : WayBackGuard s a := by
  intro ha e he
  obtain ⟨hssh, hdisc⟩ := h ha e he
  obtain ⟨event, origin⟩ := e
  cases event with
  | webSocketConnect => trivial
  | sshConnect => exact absurd rfl hssh
  | webSocketDisconnect =>
    cases origin with
    | none => trivial
    | some c => exact .inl (hdisc rfl)
  | sshDisconnect => trivial

theorem reconnect_has_way_back :
    EveryStep (agentStep sampleConfig) WayBackGuard .init
        (startRun ++ challengeRun 0 ++ [.clock 60000] ++ breakRun 0 ++ reconnectRun 1) ∧
      EveryState (agentStep sampleConfig) (fun s => Quiescent s → WayBack s) .init
        (startRun ++ challengeRun 0 ++ [.clock 60000] ++ breakRun 0 ++ reconnectRun 1) := by
  have hplain : EveryStep (agentStep sampleConfig) PlainHandler .init
      (startRun ++ challengeRun 0 ++ [.clock 60000] ++ breakRun 0 ++ reconnectRun 1) := by
    decide +kernel
  have hG := hplain.mono fun s a => PlainHandler.wayBackGuard
  exact ⟨hG, quiescent_states_have_way_back sampleConfig _ hG⟩

/-- The new connection breaks before a challenge: its event is dropped, and neither ticker nor
    server runs. -/
theorem unverified_reconnect_leaves_no_way_back :
    ∃ s, exec (agentStep sampleConfig) .init
        (startRun ++ challengeRun 0 ++ [.clock 60000] ++ breakRun 0 ++ reconnectRun 1 ++
          breakRun 1) = some s ∧ Quiescent s ∧ ¬ WayBack s := by
  refine ⟨_, rfl, ⟨rfl, rfl, rfl, ?_, ?_, ?_, rfl, rfl⟩, ?_⟩
  · intro c
    rcases c with _ | _ | c <;> exact ⟨fun h => (by cases h), fun h => (by cases h)⟩
  · intro c hreading
    rcases c with _ | _ | c <;> cases hreading
  · intro i
    rcases i with _ | _ | i
    · exact .inr rfl
    · exact .inr rfl
    · exact .inl rfl
  · intro hback
    rcases hback with ⟨c, hreading, -⟩ | hsrv | htick
    · rcases c with _ | _ | c <;> cases hreading
    · cases hsrv
    · cases htick

end Bantay.Agent
