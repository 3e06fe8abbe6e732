import Bantay.Agent.StepEffects

/-!
# The Event Loop and Its Own Channel

The event channel holds one event and only the loop takes events out of it.  The loop also
puts events in: `StopServer`, run by the handler of a WebSocket connect and by `stop`, sends
`SSHDisconnect`.  This module settles along which runs the loop never waits for itself.
-/

namespace Bantay.Agent

open Bantay.Lib

variable {Key : Type} {cfg : AgentConfig Key} {s s' : AgentState}

/-! ## The property -/

/-- The loop is at a send of its own, and the channel is full. -/
def LoopBlocked (s : AgentState) : Prop :=
  (∃ reason, s.loop = .stopping reason) ∧ s.eventChan ≠ none

/-! ## The condition on the steps -/

/-- The steps in which a goroutine other than the loop puts an event into the channel. -/
inductive Sends (s : AgentState) : AgentAction → Prop where
  | connect (c : ConnId) : (s.conns c).loop = .sendingConnect → Sends s (.connRun c)
  | disconnect (c : ConnId) : (s.conns c).loop = .sendingDisconnect → Sends s (.connRun c)
  | session : Sends s .sshSend
  | exit (i : Nat) : s.connects i = .exitSending → Sends s (.connectRun i)

/-- The loop starts to stop a running SSH server only while the channel is empty, and no other
    goroutine sends meanwhile. -/
structure SendGuard (s : AgentState) (a : AgentAction) : Prop where
  handler : a = .loopRun → ∀ e, s.loop = .handling e → StopsServer s e.event →
    s.eventChan = none
  shutdown : a = .loopShutdown → s.server = true → s.eventChan = none
  sender : Sends s a → ∀ reason, s.loop ≠ .stopping reason

/-! ## One step -/

theorem LoopQuiet.stopping_iff (h : LoopQuiet s s') : (∃ reason, s'.loop = .stopping reason)
    ↔ ∃ reason, s.loop = .stopping reason := by
  rcases h with heq | ⟨hidle, hidle'⟩
  · rw [heq]
  · rcases hidle with h | h | h <;> rcases hidle' with h' | h' | h' <;> simp [h, h']

variable {a : AgentAction}

theorem SendGuard.of_unrestricted (hrun : a ≠ .loopRun)
    (hdown : a = .loopShutdown → s.server = false) (hsend : ¬ Sends s a) : SendGuard s a where
  handler ha := absurd ha hrun
  shutdown ha hsrv := by
    rw [hdown ha] at hsrv
    cases hsrv
  sender h := absurd h hsend

theorem QuietAction.sendGuard (h : QuietAction cfg s a) : SendGuard s a := by
  apply SendGuard.of_unrestricted
  · intro ha
    subst ha
    cases h
  · intro ha
    subst ha
    cases h with
    | loopShutdown hsrv => exact hsrv
  · intro hsend
    cases hsend with
    | connect c _ => cases h
    | disconnect c _ => cases h
    | session => cases h
    | exit i hpc =>
      cases h with
      | connectRun _ hne => exact hne hpc

theorem Opens.sendGuard (h : Opens s a) : SendGuard s a := by
  cases h <;> exact .of_unrestricted (by simp) (by simp) (fun hsend => by cases hsend)

/-- A send by another goroutine blocks the loop exactly if the loop is stopping the server. -/
theorem sent_not_loopBlocked_iff (hsends : Sends s a) (hloop : s'.loop = s.loop)
    (hchan : s'.eventChan ≠ none) : ¬ LoopBlocked s' ↔ SendGuard s a := by
  unfold LoopBlocked
  rw [hloop]
  constructor
  · intro hnot
    refine ⟨?_, ?_, fun _ reason hr => hnot ⟨⟨reason, hr⟩, hchan⟩⟩
    · intro ha
      subst ha
      cases hsends
    · intro ha
      subst ha
      cases hsends
  · rintro hg ⟨⟨reason, hr⟩, -⟩
    exact hg.sender hsends reason hr

/-- A handler leaves the loop unblocked exactly if it does not stop the server or finds the channel
    empty. -/
theorem handled_not_loopBlocked_iff {e : Event} (hloop : s.loop = .handling e) :
    ¬ LoopBlocked (handleEvent (recordHandled s e) e.event) ↔ SendGuard s .loopRun := by
  have hchan : (handleEvent (recordHandled s e) e.event).eventChan = s.eventChan := by
    rw [(handleEvent_frame _ _).2.1, (recordHandled_keeps _ _).1]
  have hstops : StopsServer (recordHandled s e) e.event ↔ StopsServer s e.event := by
    simp [StopsServer]
  unfold LoopBlocked
  rw [hchan, handleEvent_loop]
  constructor
  · intro hnot
    refine ⟨?_, by simp, fun hsend => by cases hsend⟩
    intro _ e' he' hstop
    obtain rfl : e = e' := LoopPc.handling.inj (hloop.symm.trans he')
    by_contra hfull
    apply hnot
    rw [if_pos (hstops.mpr hstop)]
    exact ⟨⟨_, rfl⟩, hfull⟩
  · rintro hg ⟨⟨reason, hr⟩, hfull⟩
    split at hr
    · rename_i hstop
      exact hfull (hg.handler rfl e hloop (hstops.mp hstop))
    · cases hr

/-- **One step**: the loop stays free of its own channel exactly in the steps that meet the
    condition. -/
theorem not_loopBlocked_step_iff (hs : ¬ LoopBlocked s) (h : agentStep cfg s a = some s') :
    ¬ LoopBlocked s' ↔ SendGuard s a := by
  -- a step that leaves the loop outside `StopServer` and is not restricted
  have free : (∀ reason, s'.loop ≠ .stopping reason) → SendGuard s a →
      (¬ LoopBlocked s' ↔ SendGuard s a) := by
    intro hfree hg
    refine ⟨fun _ => hg, ?_⟩
    rintro - ⟨⟨reason, hr⟩, -⟩
    exact hfree reason hr
  -- a step that keeps the place of the loop and the channel and is not restricted
  have still : LoopQuiet s s' → s'.eventChan = s.eventChan → SendGuard s a →
      (¬ LoopBlocked s' ↔ SendGuard s a) := by
    intro hquiet hchan hg
    refine ⟨fun _ => hg, ?_⟩
    rintro - ⟨hstop, hfull⟩
    exact hs ⟨hquiet.stopping_iff.mp hstop, hchan ▸ hfull⟩
  cases agentStep_effect h with
  | silent hquiet hsil => exact still hsil.loop hsil.eventChan hquiet.sendGuard
  | opened hopens ho => exact still ho.loop ho.eventChan hopens.sendGuard
  | verified _ =>
    refine still (.refl _) rfl ?_
    exact .of_unrestricted (by simp) (by simp) (fun hsend => by cases hsend)
  | connectSent hpc _ =>
    exact sent_not_loopBlocked_iff (.connect _ hpc) rfl (by simp [AgentState.setConn])
  | closing hpc =>
    refine still (.refl _) rfl ?_
    apply SendGuard.of_unrestricted
    · simp
    · simp
    · intro hsend
      cases hsend <;> simp_all
  | disconnectSent hpc _ =>
    exact sent_not_loopBlocked_iff (.disconnect _ hpc) rfl (by simp [AgentState.setConn])
  | sshSent event hwho _ hsent _ _ _ hloop =>
    refine sent_not_loopBlocked_iff ?_ hloop (by simp [hsent])
    rcases hwho with ⟨rfl, -⟩ | ⟨i, rfl, hpc, -⟩
    · exact .session
    · exact .exit i hpc
  | received e _ _ =>
    refine free (by simp) ?_
    exact .of_unrestricted (by simp) (by simp) (fun hsend => by cases hsend)
  | handled e hloop => exact handled_not_loopBlocked_iff hloop
  | stopSent reason hloop hchan _ _ _ _ hsel =>
    refine free (by simp [hsel]) ⟨?_, by simp, fun hsend => by cases hsend⟩
    intro _ e he
    rw [hloop] at he
    cases he
  | shutdown hloop hsrv =>
    -- the loop is at the send now, so the channel decides
    constructor
    · intro hnot
      refine ⟨by simp, ?_, fun hsend => by cases hsend⟩
      intro _ _
      by_contra hfull
      exact hnot ⟨⟨_, rfl⟩, hfull⟩
    · rintro hg ⟨-, hfull⟩
      exact hfull (hg.shutdown rfl hsrv)

/-! ## Runs -/

theorem init_not_loopBlocked : ¬ LoopBlocked AgentState.init := by
  rintro ⟨-, hfull⟩
  exact hfull rfl

/-- **The loop never waits for itself** exactly if it finds the channel empty whenever it begins to
    stop the SSH server, and no other goroutine sends before it is done. -/
theorem never_loopBlocked_iff_send_guarded (cfg : AgentConfig Key) (as : List AgentAction)
    (t : AgentState) (hrun : exec (agentStep cfg) .init as = some t) :
    EveryState (agentStep cfg) (fun s => ¬ LoopBlocked s) .init as ↔
      EveryStep (agentStep cfg) SendGuard .init as :=
  everyState_iff_everyStep (I := fun _ => True) (fun _ _ _ _ _ => trivial)
    (fun _ _ _ _ hs h => not_loopBlocked_step_iff hs h) trivial init_not_loopBlocked hrun

theorem first_connection_never_loopBlocked_iff :
    ∃ t, exec (agentStep sampleConfig) .init (startRun ++ challengeRun 0) = some t ∧
      (EveryState (agentStep sampleConfig) (fun s => ¬ LoopBlocked s) .init
          (startRun ++ challengeRun 0) ↔
        EveryStep (agentStep sampleConfig) SendGuard .init (startRun ++ challengeRun 0)) :=
  ⟨_, rfl, never_loopBlocked_iff_send_guarded sampleConfig _ _ rfl⟩

/-- The SSH server runs and a tick brings up the WebSocket; while the loop takes its connect event,
    a session puts its own into the channel. -/
def blockingRun : List AgentAction :=
  [.connectRun 0, .connectRun 0, .connectDialed 0 (.error false), .connectRun 0, .connectRun 0,
    .connectRun 0, .connectRun 0, .serverStart, .serverListen true, .clock 10000, .loopTick,
    .loopDialed .ok, .connMessage 0 sampleChallenge, .connRun 0, .sshSession, .loopReceive,
    .sshSend, .loopRun]

theorem blockingRun_blocks_loop :
    ∃ s, exec (agentStep sampleConfig) .init blockingRun = some s ∧ LoopBlocked s := by
  refine ⟨_, rfl, ⟨_, rfl⟩, ?_⟩
  exact Option.some_ne_none (Event.mk .sshConnect none)

end Bantay.Agent
