import Bantay.Hub.RequestManager

/-!
# Who Closes a Message

A message that is handed to `handleResponse` comes from a pool of buffers and has to be closed
once.  The handler closes it if it finds nobody to hand it to; otherwise it puts the message into
the channel of a request, and whoever receives it from there closes it.  Neither side looks
whether the other one is still there.
-/

namespace Bantay.Hub

open Bantay.Lib Function RequestManager RequesterPc

/-! ## The property and the condition -/

/-- Every call of `handleResponse` and every requester has returned. -/
def Settled (s : RequestManager) : Prop :=
  (∀ m < s.nextMessage, (s.messages m).handler = .done) ∧
    ∀ r < s.nextRequest, (s.requests r).requester = .done

/-- No message is closed twice, and none is left open. -/
def ClosedOnce (s : RequestManager) : Prop :=
  ∀ m < s.nextMessage, (s.messages m).closings ≤ 1 ∧ (Settled s → (s.messages m).closings = 1)

/-- The requester will come to its `select`, or is there. -/
def RequesterPc.awaits : RequesterPc → Bool
  | .registering | .sending | .waiting => true
  | .unused | .failing | .received _ | .closing _ | .done => false

/-- The request that the handler delivers to. -/
def HandlerPc.target : HandlerPc → Option Nat
  | .delivering r _ => some r
  | .unused | .routing | .deleting _ | .closing | .done => none

/-- A requester leaves only while its channel is empty, and a message is delivered only to a
    requester that is still to receive. -/
def OwnershipGuard (s : RequestManager) : RequestAction → Prop
  | .leave r => (s.requests r).responseCh = none
  | .runRequester r ok =>
    (s.requests r).requester = .sending → ok = false → (s.requests r).responseCh = none
  | .deliver m =>
    ∀ r ∈ (s.messages m).handler.target, (s.requests r).requester.awaits = true
  | _ => True

instance (s : RequestManager) (a : RequestAction) : Decidable (OwnershipGuard s a) := by
  unfold OwnershipGuard
  split <;> infer_instance

/-! ## The invariant -/

/-- The message that the requester has to close. -/
def RequesterPc.holds : RequesterPc → List Nat
  | .received m | .closing m => [m]
  | .unused | .registering | .sending | .failing | .waiting | .done => []

/-- The messages in the hands of a request: in its channel, or with its requester. -/
def PendingRequest.held (req : PendingRequest) : List Nat :=
  req.responseCh.toList ++ req.requester.holds

def HandlerPc.released : HandlerPc → Bool
  | .deleting _ | .done => true
  | .unused | .routing | .delivering _ _ | .closing => false

/-- Every message is with its handler, with one request, or closed. -/
structure OwnershipInv (s : RequestManager) : Prop where
  numbered : ∀ r, s.nextRequest ≤ r → (s.requests r).requester = .unused
  fresh : ∀ m, s.nextMessage ≤ m → (s.messages m).handler = .unused
  exclusive : Exclusive PendingRequest.held s.requests
  parked : ∀ r, (s.requests r).responseCh ≠ none → (s.requests r).requester.awaits = true
  held : ∀ r, ∀ m ∈ (s.requests r).held,
    (s.messages m).handler.released = true ∧ (s.messages m).closings = 0
  withHandler : ∀ m, (s.messages m).handler.released = false → (s.messages m).closings = 0
  released : ∀ m, (s.messages m).handler.released = true →
    (s.messages m).closings = 1 ∨ ∃ r, m ∈ (s.requests r).held

namespace OwnershipInv

variable {s s' : RequestManager}

theorem init : OwnershipInv newRequestManager where
  numbered _ _ := rfl
  fresh _ _ := rfl
  exclusive := ⟨fun _ => List.nodup_nil, fun _ _ _ h => absurd h List.not_mem_nil⟩
  parked _ h := absurd rfl h
  held _ _ h := absurd h List.not_mem_nil
  withHandler _ _ := rfl
  released := by
    intro m hrel
    cases hrel

variable {r : Nat}

section

variable (h : OwnershipInv s)
include h

theorem responseCh_eq_none
    (hpc : (s.requests r).requester.awaits = false) : (s.requests r).responseCh = none := by
  by_contra hch
  rw [h.parked r hch] at hpc
  cases hpc

theorem held_eq_nil (hpc : (s.requests r).requester = .unused ∨ (s.requests r).requester = .done) :
    (s.requests r).held = [] := by
  have hch : (s.requests r).responseCh = none := by
    apply h.responseCh_eq_none
    rcases hpc with hpc | hpc <;> rw [hpc] <;> rfl
  unfold PendingRequest.held
  rw [hch]
  rcases hpc with hpc | hpc <;> rw [hpc] <;> rfl

theorem closedOnce : ClosedOnce s := by
  intro m hm
  constructor
  · cases hrel : (s.messages m).handler.released with
    | false =>
      rw [h.withHandler m hrel]
      exact Nat.zero_le 1
    | true =>
      rcases h.released m hrel with hclos | ⟨r, hr⟩
      · exact Nat.le_of_eq hclos
      · rw [(h.held r m hr).2]
        exact Nat.zero_le 1
  · intro hsettled
    have hrel : (s.messages m).handler.released = true := by
      rw [hsettled.1 m hm]
      rfl
    rcases h.released m hrel with hclos | ⟨r, hr⟩
    · exact hclos
    · -- a request whose requester has returned has nothing in its hands
      have hret : (s.requests r).requester = .unused ∨ (s.requests r).requester = .done := by
        by_cases hlt : r < s.nextRequest
        · exact .inr (hsettled.2 r hlt)
        · exact .inl (h.numbered r (Nat.le_of_not_lt hlt))
      rw [h.held_eq_nil hret] at hr
      cases hr

/-! ### The parts of a step -/

theorem frame (hmsgs : s'.messages = s.messages) (hnext : s'.nextMessage = s.nextMessage)
    (hnum : ∀ r, s'.nextRequest ≤ r → (s'.requests r).requester = .unused)
    (hparked : ∀ r, (s'.requests r).responseCh ≠ none → (s'.requests r).requester.awaits = true)
    (hheld : ∀ r, (s'.requests r).held = (s.requests r).held) : OwnershipInv s' where
  numbered := hnum
  fresh m hm := by
    rw [hmsgs]
    exact h.fresh m (hnext ▸ hm)
  exclusive := by
    constructor
    · intro r
      rw [hheld r]
      exact h.exclusive.nodup r
    · intro r r' m hr hr'
      rw [hheld] at hr hr'
      exact h.exclusive.unique r r' m hr hr'
  parked := hparked
  held r m hm := by
    rw [hheld] at hm
    rw [hmsgs]
    exact h.held r m hm
  withHandler := by
    rw [hmsgs]
    exact h.withHandler
  released m hrel := by
    rw [hmsgs] at hrel ⊢
    rcases h.released m hrel with hclos | ⟨r, hr⟩
    · exact .inl hclos
    · exact .inr ⟨r, (hheld r).symm ▸ hr⟩

theorem setRequest {req : PendingRequest}
    (hunused : (s.requests r).requester = .unused → req.requester = .unused)
    (hparked : req.responseCh ≠ none → req.requester.awaits = true)
    (hheld : req.held = (s.requests r).held) : OwnershipInv (s.setRequest r req) := by
  refine h.frame rfl rfl ?_ ?_ ?_
  · exact forall_update (P := fun r (req : PendingRequest) => s.nextRequest ≤ r →
      req.requester = .unused) (fun hr => hunused (h.numbered r hr)) fun r' _ => h.numbered r'
  · exact forall_update (P := fun _ (req : PendingRequest) => req.responseCh ≠ none →
      req.requester.awaits = true) hparked fun r' _ => h.parked r'
  · exact forall_update (P := fun r (req : PendingRequest) => req.held = (s.requests r).held)
      hheld fun _ _ => rfl

theorem setPending (pending : GoMap RequestID Nat) :
    OwnershipInv { s with pendingReqs := pending } :=
  h.frame rfl rfl h.numbered h.parked fun _ => rfl

theorem cancelRequest (reqID : RequestID) : OwnershipInv (s.cancelRequest reqID) := by
  unfold RequestManager.cancelRequest
  split
  · exact h
  · next r _ =>
    have hcanc : OwnershipInv (s.setRequest r (s.requests r).cancel) :=
      h.setRequest id (h.parked r) rfl
    exact hcanc.setPending _

theorem close : OwnershipInv s.close := by
  refine h.frame rfl rfl ?_ ?_ ?_
  · intro r hr
    dsimp only [RequestManager.close]
    split
    · exact h.numbered r hr
    · exact h.numbered r hr
  · intro r
    dsimp only [RequestManager.close]
    split
    · exact h.parked r
    · exact h.parked r
  · intro r
    dsimp only [RequestManager.close]
    split
    · rfl
    · rfl

theorem drawId (createdAt : Nat) : OwnershipInv (s.drawId createdAt) := by
  refine h.frame rfl rfl ?_ ?_ ?_
  · intro r hr
    dsimp only [RequestManager.drawId]
    rw [update_of_ne (Nat.ne_of_gt hr)]
    exact h.numbered r (Nat.le_of_succ_le hr)
  · exact forall_update (P := fun _ (req : PendingRequest) => req.responseCh ≠ none →
      req.requester.awaits = true) (fun _ => rfl) fun r _ => h.parked r
  · refine forall_update (P := fun r (req : PendingRequest) => req.held = (s.requests r).held)
      ?_ fun _ _ => rfl
    exact (h.held_eq_nil (.inl (h.numbered _ (Nat.le_refl _)))).symm

end

variable {m : Nat} (h : OwnershipInv s)
include h

variable {msg : ResponseMessage}

theorem setMessage (hused : (s.messages m).handler ≠ .unused)
    (hheld : ∀ r, m ∈ (s.requests r).held → msg.handler.released = true ∧ msg.closings = 0)
    (hwith : msg.handler.released = false → msg.closings = 0)
    (hrel : msg.handler.released = true → msg.closings = 1 ∨ ∃ r, m ∈ (s.requests r).held) :
    OwnershipInv { s with messages := update s.messages m msg } where
  numbered := h.numbered
  fresh := by
    refine forall_update (P := fun m (msg : ResponseMessage) => s.nextMessage ≤ m →
      msg.handler = .unused) ?_ fun m' _ => h.fresh m'
    intro hm
    exact absurd (h.fresh m hm) hused
  exclusive := h.exclusive
  parked := h.parked
  held r := forall_update (P := fun m (msg : ResponseMessage) => m ∈ (s.requests r).held →
    msg.handler.released = true ∧ msg.closings = 0) (hheld r) fun m' _ => h.held r m'
  withHandler := forall_update (P := fun _ (msg : ResponseMessage) =>
    msg.handler.released = false → msg.closings = 0) hwith fun m' _ => h.withHandler m'
  released := forall_update (P := fun m (msg : ResponseMessage) => msg.handler.released = true →
    msg.closings = 1 ∨ ∃ r, m ∈ (s.requests r).held) hrel fun m' _ => h.released m'

theorem setHandler {pc old : HandlerPc} (hold : (s.messages m).handler = old)
    (hrel : pc.released = old.released := by rfl) (hused : old ≠ .unused := by nofun) :
    OwnershipInv (s.setHandler m pc) := by
  subst hold
  refine h.setMessage hused ?_ ?_ ?_
  · intro r hm
    exact ⟨hrel.trans (h.held r m hm).1, (h.held r m hm).2⟩
  · intro hpc
    exact h.withHandler m (hrel.symm.trans hpc)
  · intro hpc
    exact h.released m (hrel.symm.trans hpc)

/-- A message changes hands between its handler, a request and the pool of buffers. -/
theorem transfer {req : PendingRequest}
    (hunused : (s.requests r).requester = .unused → req.requester = .unused)
    (hused : (s.messages m).handler ≠ .unused)
    (hparked : req.responseCh ≠ none → req.requester.awaits = true) (hnd : req.held.Nodup)
    (hothers : ∀ m', m' ≠ m → (m' ∈ req.held ↔ m' ∈ (s.requests r).held))
    (hsole : ∀ r', r' ≠ r → m ∉ (s.requests r').held)
    (hheld : m ∈ req.held → msg.handler.released = true ∧ msg.closings = 0)
    (hwith : msg.handler.released = false → msg.closings = 0)
    (hrel : msg.handler.released = true → msg.closings = 1 ∨ m ∈ req.held) :
    OwnershipInv { s with
      requests := update s.requests r req
      messages := update s.messages m msg } := by
  -- where the other messages are after the step, they were before
  have hiff : ∀ m', m' ≠ m → ∀ r', m' ∈ (update s.requests r req r').held ↔
      m' ∈ (s.requests r').held := by
    intro m' hne
    exact forall_update (P := fun r' (req : PendingRequest) => m' ∈ req.held ↔
      m' ∈ (s.requests r').held) (hothers m' hne) fun _ _ => Iff.rfl
  constructor
  · exact forall_update (P := fun r (req : PendingRequest) => s.nextRequest ≤ r →
      req.requester = .unused) (fun hr => hunused (h.numbered r hr)) fun r' _ => h.numbered r'
  -- the message has been handed to a handler, so its number is given out
  · refine forall_update (P := fun m (msg : ResponseMessage) => s.nextMessage ≤ m →
      msg.handler = .unused) ?_ fun m' _ => h.fresh m'
    intro hm
    exact absurd (h.fresh m hm) hused
  · refine h.exclusive.update hnd ?_
    intro m' hm'
    by_cases hne : m' = m
    · -- the request takes the message only if nobody else has it
      subst hne
      by_cases hself : m' ∈ (s.requests r).held
      · exact .inl hself
      · refine .inr ?_
        intro r'
        by_cases hr' : r' = r
        · rw [hr']
          exact hself
        · exact hsole r' hr'
    · exact .inl ((hothers m' hne).mp hm')
  · exact forall_update (P := fun _ (req : PendingRequest) => req.responseCh ≠ none →
      req.requester.awaits = true) hparked fun r' _ => h.parked r'
  · intro r' m' hm'
    by_cases hne : m' = m
    · subst hne
      dsimp only at hm' ⊢
      rw [update_self]
      by_cases hr' : r' = r
      · rw [hr', update_self] at hm'
        exact hheld hm'
      · rw [update_of_ne hr'] at hm'
        exact absurd hm' (hsole r' hr')
    · dsimp only
      rw [update_of_ne hne]
      exact h.held r' m' ((hiff m' hne r').mp hm')
  · exact forall_update (P := fun _ (msg : ResponseMessage) =>
      msg.handler.released = false → msg.closings = 0) hwith fun m' _ => h.withHandler m'
  · refine forall_update (P := fun m' (msg : ResponseMessage) => msg.handler.released = true →
      msg.closings = 1 ∨ ∃ r', m' ∈ (update s.requests r req r').held) ?_ ?_
    · intro hpc
      refine (hrel hpc).imp_right fun hm => ⟨r, ?_⟩
      rw [update_self]
      exact hm
    · intro m' hne hpc
      refine (h.released m' hpc).imp_right ?_
      rintro ⟨r', hr'⟩
      exact ⟨r', (hiff m' hne r').mpr hr'⟩

theorem handleResponse (carries : Option RequestID) (decodes : Bool) :
    OwnershipInv (s.handleResponse carries decodes) where
  numbered := h.numbered
  fresh := by
    intro m hm
    dsimp only [RequestManager.handleResponse]
    rw [update_of_ne (Nat.ne_of_gt hm)]
    exact h.fresh m (Nat.le_of_succ_le hm)
  exclusive := h.exclusive
  parked := h.parked
  held := by
    intro r m'
    refine forall_update (P := fun m (msg : ResponseMessage) => m ∈ (s.requests r).held →
      msg.handler.released = true ∧ msg.closings = 0) ?_ (fun m _ => h.held r m) m'
    intro hm
    have hrel := (h.held r s.nextMessage hm).1
    rw [h.fresh s.nextMessage (Nat.le_refl _)] at hrel
    cases hrel
  withHandler := forall_update (P := fun _ (msg : ResponseMessage) =>
    msg.handler.released = false → msg.closings = 0) (fun _ => rfl) fun m _ => h.withHandler m
  released := by
    refine forall_update (P := fun m (msg : ResponseMessage) => msg.handler.released = true →
      msg.closings = 1 ∨ ∃ r, m ∈ (s.requests r).held) ?_ fun m' _ => h.released m'
    intro hpc
    cases hpc

theorem not_held (hpc : (s.messages m).handler.released = false)
    (r : Nat) : m ∉ (s.requests r).held := by
  intro hm
  rw [(h.held r m hm).1] at hpc
  cases hpc

theorem closeHeld (hpc : (s.requests r).requester = .closing m) :
    OwnershipInv ((s.closeMessage m).setRequester r .done) := by
  have hch := h.responseCh_eq_none (congrArg awaits hpc)
  have hm : m ∈ (s.requests r).held := by simp [PendingRequest.held, holds, hpc]
  obtain ⟨hrel, hopen⟩ := h.held r m hm
  refine h.transfer ?_ ?_ ?_ ?_ ?_ ?_ ?_ ?_ ?_
  · simp [hpc]
  · intro hunused
    rw [hunused] at hrel
    cases hrel
  · intro hne
    exact absurd hch hne
  · simp [PendingRequest.held, holds, closeMessage, hch]
  · intro m' hne
    simp [PendingRequest.held, holds, closeMessage, hpc, hch, hne]
  · -- no other request has the message
    intro r' hr' hm'
    exact hr' (h.exclusive.unique r' r m hm' hm)
  · intro hm'
    simp [PendingRequest.held, holds, closeMessage, hch] at hm'
  · intro hfalse
    rw [hrel] at hfalse
    cases hfalse
  · intro _
    exact .inl (by rw [hopen])

/-! ### One step -/

/-- A requester takes over its message, or leaves it to be closed. -/
theorem runRequester {ok : Bool} (hguard : OwnershipGuard s (.runRequester r ok))
    (hrun : s.runRequester r ok = some s') : OwnershipInv s' := by
  unfold RequestManager.runRequester at hrun
  cases hpc : (s.requests r).requester with rw [hpc] at hrun
  | unused | waiting | done =>
    cases hrun
  | registering =>
    cases hrun
    refine (h.setPending _).setRequest ?_ (fun _ => rfl) ?_
    · simp [hpc]
    · simp [register, PendingRequest.held, holds, hpc]
  | sending =>
    cases ok with cases hrun
    | true =>
      refine h.setRequest ?_ (fun _ => rfl) ?_
      · simp [hpc]
      · simp [PendingRequest.held, holds, hpc]
    | false =>
      -- nobody will look into the channel any more
      refine h.setRequest ?_ ?_ ?_
      · simp [hpc]
      · intro hch
        exact absurd (hguard hpc rfl) hch
      · simp [PendingRequest.held, holds, hpc]
  | failing =>
    cases hrun
    have hcanc := h.cancelRequest (s.requests r).id
    have hpc' := (s.requester_cancelRequest (s.requests r).id r).trans hpc
    have hch := hcanc.responseCh_eq_none (congrArg awaits hpc')
    refine hcanc.setRequest ?_ ?_ ?_
    · simp [hpc']
    · intro hne
      exact absurd hch hne
    · simp [PendingRequest.held, holds, hpc']
  | received m =>
    -- the message stays with the requester until it is closed
    cases hrun
    have hch := h.responseCh_eq_none (congrArg awaits hpc)
    refine h.setRequest ?_ ?_ ?_
    · simp [hpc]
    · intro hne
      exact absurd hch hne
    · simp [PendingRequest.held, PendingRequest.cancel, holds, hpc]
  | closing m =>
    cases hrun
    exact h.closeHeld hpc

theorem receive (hrun : s.receive r = some s') : OwnershipInv s' := by
  unfold RequestManager.receive at hrun
  split at hrun
  · next m hwait hch =>
    cases hrun
    refine h.setRequest ?_ ?_ ?_
    · simp [hwait]
    · intro hne
      exact absurd rfl hne
    · simp [PendingRequest.held, holds, hwait, hch]
  · cases hrun

theorem leave (hguard : OwnershipGuard s (.leave r))
    (hrun : s.leave r = some s') : OwnershipInv s' := by
  unfold RequestManager.leave at hrun
  split at hrun
  · next hdone =>
    cases hrun
    refine h.setRequest ?_ ?_ ?_
    · simp [hdone.1]
    · intro hne
      exact absurd hguard hne
    · simp [PendingRequest.held, holds, hdone.1]
  · cases hrun

/-- A watcher cancels its request and takes no message. -/
theorem runWatcher (hrun : s.runWatcher r = some s') : OwnershipInv s' := by
  unfold RequestManager.runWatcher at hrun
  split at hrun
  · split at hrun
    · cases hrun
      exact h.setRequest id (h.parked r) rfl
    · cases hrun
  · cases hrun
    have hcanc := h.cancelRequest (s.requests r).id
    exact hcanc.setRequest id (hcanc.parked r) rfl
  · cases hrun
  · cases hrun

theorem route {oldest : Option Nat} (hrun : s.route m oldest = some s') : OwnershipInv s' := by
  unfold RequestManager.route at hrun
  split at hrun
  · next hrouting =>
    -- wherever the handler goes, it still has its message
    have hmove : ∀ {pc : HandlerPc}, pc.released = false → OwnershipInv (s.setHandler m pc) := by
      intro pc hpc
      exact h.setHandler hrouting hpc
    split at hrun
    · unfold routeLegacyResponse at hrun
      split at hrun
      · split at hrun
        · cases hrun
          exact hmove rfl
        · cases hrun
      · split at hrun
        · cases hrun
          exact hmove rfl
        · cases hrun
    · split at hrun
      · cases hrun
        exact hmove rfl
      · cases hrun
        exact hmove rfl
  · cases hrun

theorem deliver (hguard : OwnershipGuard s (.deliver m))
    (hrun : s.deliver m = some s') : OwnershipInv s' := by
  unfold RequestManager.deliver at hrun
  split at hrun
  · next r reqID hdel =>
    split at hrun
    · next hch =>
      cases hrun
      -- the requester is still to receive, so it has nothing in its hands yet
      have hawaits : (s.requests r).requester.awaits = true :=
        hguard r (congrArg HandlerPc.target hdel)
      have hholds : (s.requests r).requester.holds = [] := by
        revert hawaits
        cases (s.requests r).requester <;> simp [awaits, holds]
      have hwithHandler : (s.messages m).handler.released = false :=
        congrArg HandlerPc.released hdel
      refine h.transfer id ?_ (fun _ => hawaits) ?_ ?_ ?_ ?_ ?_ ?_
      · rw [hdel]
        nofun
      · simp [PendingRequest.held, hholds]
      · intro m' hne
        simp [PendingRequest.held, hholds, hch, hne]
      · intro r' _
        exact h.not_held hwithHandler r'
      · intro _
        exact ⟨rfl, h.withHandler m hwithHandler⟩
      · intro hpc
        cases hpc
      · intro _
        exact .inr (by simp [PendingRequest.held])
    · cases hrun
  · cases hrun

theorem discard (hrun : s.discard m = some s') : OwnershipInv s' := by
  unfold RequestManager.discard at hrun
  split at hrun
  · next hdel =>
    split at hrun
    · cases hrun
      exact h.setHandler hdel
    · cases hrun
  · cases hrun

theorem finish (hrun : s.finish m = some s') : OwnershipInv s' := by
  rcases of_finish hrun with ⟨reqID, hdeleting, rfl⟩ | ⟨hclosing, rfl⟩
  · exact (h.setPending (s.pendingReqs.erase reqID)).setHandler hdeleting
  · have hwithHandler : (s.messages m).handler.released = false :=
      congrArg HandlerPc.released hclosing
    -- the two writes to the message are one change
    have hclos : (s.closeMessage m).setHandler m .done = { s with
        messages := update s.messages m
          { s.messages m with closings := (s.messages m).closings + 1, handler := .done } } := by
      simp [RequestManager.closeMessage, RequestManager.setHandler]
    rw [hclos]
    refine h.setMessage ?_ ?_ ?_ ?_
    · rw [hclosing]
      nofun
    · intro r hm
      exact absurd hm (h.not_held hwithHandler r)
    · intro hpc
      cases hpc
    · intro _
      exact .inl (by rw [h.withHandler m hwithHandler])

/-- **One step** under the condition keeps one owner for each message. -/
theorem step {a : RequestAction} (hguard : OwnershipGuard s a)
    (hstep : requestStep s a = some s') : OwnershipInv s' := by
  cases a with
  | request createdAt =>
    cases hstep
    exact h.drawId createdAt
  | runRequester r ok => exact h.runRequester hguard hstep
  | receive r => exact h.receive hstep
  | leave r => exact h.leave hguard hstep
  | runWatcher r => exact h.runWatcher hstep
  | expire r =>
    cases hstep
    exact h.setRequest id (h.parked r) rfl
  | handleResponse carries decodes =>
    cases hstep
    exact h.handleResponse carries decodes
  | route m oldest => exact h.route hstep
  | deliver m => exact h.deliver hguard hstep
  | discard m => exact h.discard hstep
  | finish m => exact h.finish hstep
  | close =>
    cases hstep
    exact h.close

end OwnershipInv

/-! ## Main theorem -/

/-- **Ownership of messages**: no message is closed twice, and once all calls have returned every
    message has been closed, if requesters do not leave while a message is in their channel and
    handlers do not deliver to requesters that have left or have received. -/
theorem messages_closed_once {as : List RequestAction}
    (hguard : EveryStep requestStep OwnershipGuard newRequestManager as) :
    EveryState requestStep ClosedOnce newRequestManager as :=
  everyState_of_invariant (fun _ _ _ h hg hs => h.step hg hs) (fun _ h => h.closedOnce)
    OwnershipInv.init hguard

/-- A response is received; another one, without an id, comes after the manager was closed. -/
def answeredRequest : List RequestAction :=
  [.request 0, .runRequester 0 true, .runRequester 0 true, .handleResponse (some 1) true,
   .route 0 none, .deliver 0, .receive 0, .finish 0, .runRequester 0 true, .runRequester 0 true,
   .close, .handleResponse none true, .route 1 none, .finish 1]

theorem answered_request_closes :
    EveryStep requestStep OwnershipGuard newRequestManager answeredRequest ∧
      EveryState requestStep ClosedOnce newRequestManager answeredRequest :=
  have hguard : EveryStep requestStep OwnershipGuard newRequestManager answeredRequest := by
    decide +kernel
  ⟨hguard, messages_closed_once hguard⟩

/-- The context of a request ends, and its response is put into the channel all the same. -/
def parkedMessage : List RequestAction :=
  [.request 0, .runRequester 0 true, .runRequester 0 true, .handleResponse (some 1) true,
   .route 0 none, .expire 0, .deliver 0, .leave 0, .finish 0]

theorem parked_message_is_not_closed :
    ∃ s, exec requestStep newRequestManager parkedMessage = some s ∧
      Settled s ∧ 0 < s.nextMessage ∧ (s.messages 0).closings = 0 ∧ ¬ ClosedOnce s := by
  refine ⟨_, rfl, ?_, ?_, ?_, ?_⟩
  · exact ⟨by decide +kernel, by decide +kernel⟩
  · decide
  · rfl
  · intro h
    have hclos := (h 0 (by decide)).2 ⟨by decide +kernel, by decide +kernel⟩
    cases hclos

end Bantay.Hub
