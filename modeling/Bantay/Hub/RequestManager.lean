import Mathlib.Algebra.Order.Ring.Nat
import Bantay.Lib.GoMap
import Bantay.Lib.Pool
import Bantay.Lib.Transition

/-!
# Requests to an Agent over one WebSocket Connection

A step model of `internal/hub/ws/request_manager.go` and of the callers that wait for an answer
(`WebSocketTransport.Request`).  A request draws an id, registers under it, is sent, and then waits
for a message in its channel or for the end of its context.  `handleResponse` looks the id of a
message up and hands the message over.

Every lock region, every channel operation, every look at a context and every `Close` of a message
is one step.  A `select` with two cases that are ready may take either.  A message that cannot be
decoded (strings in it may be invalid UTF-8) is taken for a legacy message, whatever id it carries.
-/

namespace Bantay.Hub

open Bantay.Lib

/-! ## Data -/

abbrev RequestID := UInt32

inductive RequesterPc where
  | unused
  /-- `SendRequest` has drawn the id; at its lock region -/
  | registering
  /-- `SendRequest` at `sendMessage` -/
  | sending
  /-- the message could not be sent; at `cancelRequest` -/
  | failing
  /-- `Request` at its `select` -/
  | waiting
  /-- `Request` has received a message and decodes it; `Cancel` is next -/
  | received (m : Nat)
  /-- `Request` at the `Close` of its message -/
  | closing (m : Nat)
  | done
deriving DecidableEq

inductive WatcherPc where
  | unused
  | watching
  /-- at `cancelRequest` -/
  | cancelling
  | done

/-- `PendingRequest`, with the goroutines that work on it. -/
structure PendingRequest where
  id : RequestID
  createdAt : Nat
  /-- the buffer of `ResponseCh`, which has room for one message -/
  responseCh : Option Nat
  /-- `Context` is done -/
  ctxDone : Bool
  requester : RequesterPc
  watcher : WatcherPc
  messages : List Nat

def PendingRequest.unused : PendingRequest where
  id := 0
  createdAt := 0
  responseCh := none
  ctxDone := false
  requester := .unused
  watcher := .unused
  messages := []

def PendingRequest.cancel (req : PendingRequest) : PendingRequest := { req with ctxDone := true }

inductive HandlerPc where
  | unused
  /-- at its look at `pendingReqs` -/
  | routing
  /-- has found a request; at its `select` -/
  | delivering (r : Nat) (reqID : RequestID)
  /-- has delivered its message; at `deleteRequest` -/
  | deleting (reqID : RequestID)
  /-- at the `Close` of its message -/
  | closing
  | done
deriving DecidableEq

/-- A message that was handed to `handleResponse`. -/
structure ResponseMessage where
  /-- the request id; `none` for a legacy message -/
  carries : Option RequestID
  /-- `cbor.Unmarshal` returns no error -/
  decodes : Bool
  handler : HandlerPc
  closings : Nat

def ResponseMessage.unused : ResponseMessage := ⟨none, false, .unused, 0⟩

/-- The id that `handleResponse` finds in the message. -/
def ResponseMessage.id (msg : ResponseMessage) : Option RequestID :=
  if msg.decodes then msg.carries else none

theorem ResponseMessage.carries_of_id {msg : ResponseMessage} {reqID : RequestID}
    (h : msg.id = some reqID) : msg.carries = some reqID := by
  unfold ResponseMessage.id at h
  split at h
  · exact h
  · cases h

structure RequestManager where
  pendingReqs : GoMap RequestID Nat
  nextID : UInt32
  requests : Nat → PendingRequest
  nextRequest : Nat
  messages : Nat → ResponseMessage
  nextMessage : Nat

/-! ## Operations -/

namespace RequestManager

variable (s : RequestManager)

def setRequest (r : Nat) (req : PendingRequest) : RequestManager :=
  { s with requests := Function.update s.requests r req }

def setRequester (r : Nat) (pc : RequesterPc) : RequestManager :=
  s.setRequest r { s.requests r with requester := pc }

def setHandler (m : Nat) (pc : HandlerPc) : RequestManager :=
  { s with messages := Function.update s.messages m { s.messages m with handler := pc } }

def closeMessage (m : Nat) : RequestManager :=
  { s with
    messages := Function.update s.messages m
      { s.messages m with closings := (s.messages m).closings + 1 } }

/-- The atomic increment of `SendRequest`, and the new `PendingRequest`. -/
def drawId (createdAt : Nat) : RequestManager :=
  { s with
    nextID := s.nextID + 1
    nextRequest := s.nextRequest + 1
    requests := Function.update s.requests s.nextRequest
      { PendingRequest.unused with
        id := s.nextID + 1
        createdAt := createdAt
        requester := .registering } }

/-- `rm.pendingReqs[reqID] = req` -/
def register (r : Nat) : RequestManager :=
  { s with pendingReqs := s.pendingReqs.insert (s.requests r).id r }

def cancelRequest (reqID : RequestID) : RequestManager :=
  match s.pendingReqs.lookup reqID with
  | none => s
  | some r =>
    { s.setRequest r (s.requests r).cancel with pendingReqs := s.pendingReqs.erase reqID }

def deleteRequest (reqID : RequestID) : RequestManager :=
  { s with pendingReqs := s.pendingReqs.erase reqID }

def isPending (r : Nat) : Bool :=
  s.pendingReqs.entries.any fun entry => entry.2 = r

def close : RequestManager :=
  { s with
    requests := fun r => if s.isPending r then (s.requests r).cancel else s.requests r
    pendingReqs := ∅ }

/-- No pending request is older; between requests of the same age the order of the map
    decides. -/
def isOldest (r : Nat) : Bool :=
  s.isPending r && s.pendingReqs.entries.all fun entry =>
    decide ((s.requests r).createdAt ≤ (s.requests entry.2).createdAt)

/-- `ok` is the outcome of `sendMessage`. -/
def runRequester (r : Nat) (ok : Bool) : Option RequestManager :=
  match (s.requests r).requester with
  | .registering => some ((s.register r).setRequester r .sending)
  | .sending =>
    if ok then
      some (s.setRequest r { s.requests r with requester := .waiting, watcher := .watching })
    else
      some (s.setRequester r .failing)
  | .failing => some ((s.cancelRequest (s.requests r).id).setRequester r .done)
  | .received m => some (s.setRequest r { (s.requests r).cancel with requester := .closing m })
  | .closing m => some ((s.closeMessage m).setRequester r .done)
  | .unused | .waiting | .done => none

def receive (r : Nat) : Option RequestManager :=
  match (s.requests r).requester, (s.requests r).responseCh with
  | .waiting, some m =>
    some (s.setRequest r { s.requests r with
      responseCh := none
      requester := .received m
      messages := (s.requests r).messages ++ [m] })
  | _, _ => none

/-- The `select` of a requester finds its context done. -/
def leave (r : Nat) : Option RequestManager :=
  if (s.requests r).requester = .waiting ∧ (s.requests r).ctxDone then
    some (s.setRequester r .done)
  else
    none

def runWatcher (r : Nat) : Option RequestManager :=
  match (s.requests r).watcher with
  | .watching =>
    if (s.requests r).ctxDone then
      some (s.setRequest r { s.requests r with watcher := .cancelling })
    else
      none
  | .cancelling =>
    let s' := s.cancelRequest (s.requests r).id
    some (s'.setRequest r { s'.requests r with watcher := .done })
  | .unused | .done => none

def handleResponse (carries : Option RequestID) (decodes : Bool) : RequestManager :=
  { s with
    messages := Function.update s.messages s.nextMessage ⟨carries, decodes, .routing, 0⟩
    nextMessage := s.nextMessage + 1 }

/-- `oldest` is the pending request that `routeLegacyResponse` finds. -/
def routeLegacyResponse (m : Nat) (oldest : Option Nat) : Option RequestManager :=
  match oldest with
  | none => if s.pendingReqs.entries = [] then some (s.setHandler m .closing) else none
  | some r =>
    if s.isOldest r then some (s.setHandler m (.delivering r (s.requests r).id)) else none

def route (m : Nat) (oldest : Option Nat) : Option RequestManager :=
  match (s.messages m).handler with
  | .routing =>
    match (s.messages m).id with
    | none => s.routeLegacyResponse m oldest
    | some reqID =>
      match s.pendingReqs.lookup reqID with
      -- it might have timed out
      | none => some (s.setHandler m .closing)
      | some r => some (s.setHandler m (.delivering r reqID))
  | _ => none

/-- The `select` of `handleResponse` sends the message, if the channel has room. -/
def deliver (m : Nat) : Option RequestManager :=
  match (s.messages m).handler with
  | .delivering r reqID =>
    if (s.requests r).responseCh = none then
      some ((s.setRequest r { s.requests r with responseCh := some m }).setHandler m
        (.deleting reqID))
    else
      none
  | _ => none

/-- The `select` of `handleResponse` finds the context of the request done. -/
def discard (m : Nat) : Option RequestManager :=
  match (s.messages m).handler with
  | .delivering r _ => if (s.requests r).ctxDone then some (s.setHandler m .closing) else none
  | _ => none

def finish (m : Nat) : Option RequestManager :=
  match (s.messages m).handler with
  | .deleting reqID => some ((s.deleteRequest reqID).setHandler m .done)
  | .closing => some ((s.closeMessage m).setHandler m .done)
  | _ => none

theorem of_finish {s s' : RequestManager} {m : Nat} (hrun : s.finish m = some s') :
    (∃ reqID, (s.messages m).handler = .deleting reqID ∧
      s' = (s.deleteRequest reqID).setHandler m .done) ∨
    (s.messages m).handler = .closing ∧ s' = (s.closeMessage m).setHandler m .done := by
  unfold finish at hrun
  cases hhdl : (s.messages m).handler with rw [hhdl] at hrun
  | deleting reqID =>
    exact .inl ⟨reqID, rfl, (Option.some.inj hrun).symm⟩
  | closing =>
    exact .inr ⟨rfl, (Option.some.inj hrun).symm⟩
  | unused | routing | delivering _ _ | done =>
    cases hrun

end RequestManager

inductive RequestAction where
  /-- a call of `SendRequest` draws its id -/
  | request (createdAt : Nat)
  | runRequester (r : Nat) (ok : Bool)
  | receive (r : Nat)
  | leave (r : Nat)
  | runWatcher (r : Nat)
  /-- the context of a request ends: its deadline, or a caller that cancels -/
  | expire (r : Nat)
  | handleResponse (carries : Option RequestID) (decodes : Bool)
  | route (m : Nat) (oldest : Option Nat)
  | deliver (m : Nat)
  | discard (m : Nat)
  | finish (m : Nat)
  | close

def requestStep (s : RequestManager) : RequestAction → Option RequestManager
  | .request createdAt => some (s.drawId createdAt)
  | .runRequester r ok => s.runRequester r ok
  | .receive r => s.receive r
  | .leave r => s.leave r
  | .runWatcher r => s.runWatcher r
  | .expire r => some (s.setRequest r (s.requests r).cancel)
  | .handleResponse carries decodes => some (s.handleResponse carries decodes)
  | .route m oldest => s.route m oldest
  | .deliver m => s.deliver m
  | .discard m => s.discard m
  | .finish m => s.finish m
  | .close => some s.close

def newRequestManager : RequestManager where
  pendingReqs := ∅
  nextID := 0
  requests _ := .unused
  nextRequest := 0
  messages _ := .unused
  nextMessage := 0

theorem RequestManager.requester_cancelRequest (s : RequestManager) (reqID : RequestID) (r : Nat) :
    ((s.cancelRequest reqID).requests r).requester = (s.requests r).requester := by
  unfold cancelRequest
  split
  · rfl
  · refine forall_update (P := fun r (req : PendingRequest) =>
      req.requester = (s.requests r).requester) ?_ (fun _ _ => rfl) r
    rfl

/-! ## The property and the conditions -/

/-- At most one message, which carries the id of the request and of no other. -/
def ReceivesOwn (s : RequestManager) : Prop :=
  ∀ r, (s.requests r).messages.length ≤ 1 ∧
    ∀ m ∈ (s.requests r).messages, (s.messages m).carries = some (s.requests r).id ∧
      ∀ r' < s.nextRequest, (s.messages m).carries = some (s.requests r').id → r' = r

/-- Messages carry a request id, and there are fewer than `2 ^ 32` requests. -/
def IdentifiedGuard (s : RequestManager) : RequestAction → Prop
  | .handleResponse carries _ => carries.isSome = true
  | .request _ => s.nextRequest + 1 < 2 ^ 32
  | _ => True

instance (s : RequestManager) (a : RequestAction) : Decidable (IdentifiedGuard s a) := by
  unfold IdentifiedGuard
  split <;> infer_instance

/-- Messages can be decoded. -/
def DecodesGuard (_ : RequestManager) : RequestAction → Prop
  | .handleResponse _ decodes => decodes = true
  | _ => True

instance (s : RequestManager) (a : RequestAction) : Decidable (DecodesGuard s a) := by
  unfold DecodesGuard
  split <;> infer_instance

/-! ## The invariant -/

/-- The messages in the channel and those that the requester has received. -/
def PendingRequest.carried (req : PendingRequest) : List Nat :=
  req.responseCh.toList ++ req.messages

def RequesterPc.mayReceive : RequesterPc → Bool
  | .unused | .registering | .sending | .waiting => true
  | .failing | .received _ | .closing _ | .done => false

/-- The handler has delivered its message, or is to close it. -/
def HandlerPc.decided : HandlerPc → Bool
  | .deleting _ | .closing | .done => true
  | .unused | .routing | .delivering _ _ => false

structure PendingRequest.Once (req : PendingRequest) : Prop where
  atMostOne : req.messages.length ≤ 1
  notYet : req.requester.mayReceive = true → req.messages = []

/-- The message carries the id of the request. -/
structure Addressed (s : RequestManager) (r m : Nat) : Prop where
  request_lt : r < s.nextRequest
  message_lt : m < s.nextMessage
  id : (s.messages m).id = some (s.requests r).id

/-- What a step may make of a request. -/
structure RequestKept (s : RequestManager) (r : Nat) (req : PendingRequest) : Prop where
  id : req.id = (s.requests r).id
  unused : s.nextRequest ≤ r → req.requester = .unused
  carried : ∀ m ∈ req.carried, Addressed s r m
  once : req.Once

/-- What a step may make of a message. -/
structure MessageKept (s : RequestManager) (m : Nat) (msg : ResponseMessage) : Prop where
  id : msg.id = (s.messages m).id
  routing : msg.handler = .routing → (s.messages m).handler = .routing
  delivering : ∀ r reqID, msg.handler = .delivering r reqID → Addressed s r m

/-- The requests that may stand under an id. -/
def PendingKept (s : RequestManager) : GoMap RequestID Nat → Prop :=
  GoMap.Forall fun reqID r => r < s.nextRequest ∧ (s.requests r).id = reqID

/-- A message is on its way only to the request that it is addressed to. -/
structure RoutingInv (s : RequestManager) : Prop where
  numbered : ∀ r, s.nextRequest ≤ r → (s.requests r).requester = .unused
  counted : s.nextID = UInt32.ofNat s.nextRequest
  bounded : s.nextRequest < 2 ^ 32
  ids : ∀ r < s.nextRequest, (s.requests r).id = UInt32.ofNat (r + 1)
  pending : PendingKept s s.pendingReqs
  routing : ∀ m, (s.messages m).handler = .routing → (s.messages m).id ≠ none ∧ m < s.nextMessage
  delivering : ∀ m r reqID, (s.messages m).handler = .delivering r reqID → Addressed s r m
  carried : ∀ r, ∀ m ∈ (s.requests r).carried, Addressed s r m
  once : ∀ r, (s.requests r).Once

theorem Addressed.congr {s s' : RequestManager} {r m : Nat} (h : Addressed s r m)
    (hreqs : s.nextRequest ≤ s'.nextRequest) (hmsgs : s.nextMessage ≤ s'.nextMessage)
    (hreq : (s'.requests r).id = (s.requests r).id)
    (hmsg : (s'.messages m).id = (s.messages m).id) :
    Addressed s' r m where
  request_lt := Nat.lt_of_lt_of_le h.request_lt hreqs
  message_lt := Nat.lt_of_lt_of_le h.message_lt hmsgs
  id := by rw [hreq, hmsg, h.id]

namespace RoutingInv

variable {s : RequestManager}

theorem init : RoutingInv newRequestManager where
  numbered _ _ := rfl
  counted := rfl
  bounded := by decide
  ids := by
    intro r hr
    cases hr
  pending := GoMap.forall_empty
  routing := by
    intro m hrouting
    cases hrouting
  delivering := by
    intro m r reqID hdel
    cases hdel
  carried := by
    intro r m hm
    cases hm
  once _ := ⟨Nat.zero_le _, fun _ => rfl⟩

variable (h : RoutingInv s)
include h

variable {r m : Nat} {pc : HandlerPc}

theorem id_injective {r' : Nat} (hr : r < s.nextRequest) (hr' : r' < s.nextRequest)
    (hid : (s.requests r).id = (s.requests r').id) : r = r' := by
  have hsize : ∀ {r}, r < s.nextRequest → r + 1 < UInt32.size :=
    fun hr => Nat.lt_of_le_of_lt (Nat.succ_le_of_lt hr) h.bounded
  -- ids are the numbers of the requests, counted from one
  rw [h.ids r hr, h.ids r' hr'] at hid
  have hnat := congrArg UInt32.toNat hid
  rw [UInt32.toNat_ofNat_of_lt' (hsize hr), UInt32.toNat_ofNat_of_lt' (hsize hr')] at hnat
  exact Nat.succ.inj hnat

theorem receivesOwn : ReceivesOwn s := by
  intro r
  refine ⟨(h.once r).atMostOne, ?_⟩
  intro m hm
  have haddressed := h.carried r m (List.mem_append_right _ hm)
  have hcarries := ResponseMessage.carries_of_id haddressed.id
  refine ⟨hcarries, ?_⟩
  intro r' hr' hid
  rw [hcarries] at hid
  exact (h.id_injective haddressed.request_lt hr' (Option.some.inj hid)).symm

theorem lt_nextRequest (hused : (s.requests r).requester ≠ .unused) :
    r < s.nextRequest := by
  by_contra hge
  exact hused (h.numbered r (Nat.le_of_not_lt hge))

/-! ### The parts of a step -/

theorem requestKept (r : Nat) : RequestKept s r (s.requests r) :=
  ⟨rfl, h.numbered r, h.carried r, h.once r⟩

theorem messageKept (m : Nat) : MessageKept s m (s.messages m) :=
  ⟨rfl, id, h.delivering m⟩

theorem frame {s' : RequestManager} (hnextID : s'.nextID = s.nextID)
    (hnextRequest : s'.nextRequest = s.nextRequest) (hnextMessage : s'.nextMessage = s.nextMessage)
    (hpend : PendingKept s s'.pendingReqs) (hreqs : ∀ r, RequestKept s r (s'.requests r))
    (hmsgs : ∀ m, MessageKept s m (s'.messages m)) : RoutingInv s' := by
  have haddressed : ∀ {r m}, Addressed s r m → Addressed s' r m := fun {r m} haddr =>
    haddr.congr (Nat.le_of_eq hnextRequest.symm) (Nat.le_of_eq hnextMessage.symm)
      (hreqs r).id (hmsgs m).id
  constructor
  · intro r hr
    exact (hreqs r).unused (hnextRequest ▸ hr)
  · rw [hnextID, hnextRequest]
    exact h.counted
  · rw [hnextRequest]
    exact h.bounded
  · intro r hr
    rw [(hreqs r).id]
    exact h.ids r (hnextRequest ▸ hr)
  · intro reqID r hlookup
    rw [(hreqs r).id, hnextRequest]
    exact hpend reqID r hlookup
  · intro m hrouting
    rw [(hmsgs m).id, hnextMessage]
    exact h.routing m ((hmsgs m).routing hrouting)
  · intro m r reqID hdel
    exact haddressed ((hmsgs m).delivering r reqID hdel)
  · intro r m hm
    exact haddressed ((hreqs r).carried m hm)
  · intro r
    exact (hreqs r).once

theorem setRequest {req : PendingRequest} (hreq : RequestKept s r req) :
    RoutingInv (s.setRequest r req) := by
  refine h.frame rfl rfl rfl h.pending ?_ h.messageKept
  exact forall_update (P := RequestKept s) hreq fun r' _ => h.requestKept r'

theorem setHandler (hrouting : pc ≠ .routing)
    (hdel : ∀ r reqID, pc = .delivering r reqID → Addressed s r m) :
    RoutingInv (s.setHandler m pc) := by
  refine h.frame rfl rfl rfl h.pending h.requestKept ?_
  refine forall_update (P := MessageKept s) ?_ fun m' _ => h.messageKept m'
  exact ⟨rfl, fun heq => absurd heq hrouting, hdel⟩

theorem setDecided (hpc : pc.decided = true) :
    RoutingInv (s.setHandler m pc) := by
  refine h.setHandler ?_ ?_
  · rintro rfl
    cases hpc
  · rintro r reqID rfl
    cases hpc

theorem closeMessage (m : Nat) : RoutingInv (s.closeMessage m) := by
  refine h.frame rfl rfl rfl h.pending h.requestKept ?_
  refine forall_update (P := MessageKept s) ?_ fun m' _ => h.messageKept m'
  exact ⟨rfl, id, h.delivering m⟩

theorem deleteRequest (reqID : RequestID) : RoutingInv (s.deleteRequest reqID) :=
  h.frame rfl rfl rfl (GoMap.Forall.erase h.pending reqID) h.requestKept h.messageKept

theorem register (hr : r < s.nextRequest) : RoutingInv (s.register r) :=
  h.frame rfl rfl rfl (GoMap.Forall.insert h.pending ⟨hr, rfl⟩) h.requestKept h.messageKept

end RoutingInv

namespace RequestKept

variable {s : RequestManager} {r : Nat} {req : PendingRequest} (h : RequestKept s r req)
include h

theorem cancel : RequestKept s r req.cancel :=
  ⟨h.id, h.unused, h.carried, ⟨h.once.atMostOne, h.once.notYet⟩⟩

theorem setWatcher (pc : WatcherPc) : RequestKept s r { req with watcher := pc } :=
  ⟨h.id, h.unused, h.carried, ⟨h.once.atMostOne, h.once.notYet⟩⟩

theorem setRequester {pc : RequesterPc} (hused : req.requester ≠ .unused)
    (hmay : pc.mayReceive = true → req.requester.mayReceive = true) :
    RequestKept s r { req with requester := pc } where
  id := h.id
  unused hr := absurd (h.unused hr) hused
  carried := h.carried
  once := ⟨h.once.atMostOne, fun hpc => h.once.notYet (hmay hpc)⟩

theorem fill {m : Nat} (haddressed : Addressed s r m) :
    RequestKept s r { req with responseCh := some m } where
  id := h.id
  unused := h.unused
  carried := by
    intro m' hm'
    rcases List.mem_append.mp hm' with hch | hreceived
    · obtain rfl : m' = m := by simpa using hch
      exact haddressed
    · exact h.carried m' (List.mem_append_right _ hreceived)
  once := ⟨h.once.atMostOne, h.once.notYet⟩

theorem receive {m : Nat} (hwait : req.requester = .waiting) (hch : req.responseCh = some m) :
    RequestKept s r { req with
      responseCh := none
      requester := .received m
      messages := req.messages ++ [m] } := by
  -- a requester that waits has received nothing yet
  have hnone : req.messages = [] := h.once.notYet (by rw [hwait]; rfl)
  have hm : Addressed s r m := by
    refine h.carried m (List.mem_append_left _ ?_)
    rw [hch]
    exact List.mem_singleton_self m
  constructor
  · exact h.id
  · intro hr
    rw [h.unused hr] at hwait
    cases hwait
  · intro m' hm'
    rw [PendingRequest.carried, hnone] at hm'
    obtain rfl : m' = m := by simpa using hm'
    exact hm
  · refine ⟨?_, ?_⟩
    · rw [hnone]
      exact Nat.le_refl 1
    · intro hmay
      cases hmay

end RequestKept

namespace RoutingInv

variable {s s' : RequestManager} (h : RoutingInv s)
include h

theorem cancelRequest (reqID : RequestID) : RoutingInv (s.cancelRequest reqID) := by
  unfold RequestManager.cancelRequest
  split
  · exact h
  · exact (h.setRequest (h.requestKept _).cancel).deleteRequest reqID

theorem close : RoutingInv s.close := by
  refine h.frame rfl rfl rfl GoMap.forall_empty ?_ h.messageKept
  intro r
  dsimp only [RequestManager.close]
  split
  · exact (h.requestKept r).cancel
  · exact h.requestKept r

theorem drawId (createdAt : Nat) (hbound : s.nextRequest + 1 < 2 ^ 32) :
    RoutingInv (s.drawId createdAt) := by
  have hid : s.nextID + 1 = UInt32.ofNat (s.nextRequest + 1) := by
    rw [h.counted, UInt32.ofNat_add]
    rfl
  -- the requests that were there keep their records
  have hold : ∀ r < s.nextRequest, (s.drawId createdAt).requests r = s.requests r :=
    fun r hr => Function.update_of_ne (Nat.ne_of_lt hr) _ _
  have haddressed : ∀ {r m}, Addressed s r m → Addressed (s.drawId createdAt) r m :=
    fun {r _} haddr => haddr.congr (Nat.le_succ _) (Nat.le_refl _)
      (congrArg PendingRequest.id (hold r haddr.request_lt)) rfl
  constructor
  · intro r hr
    have hne : r ≠ s.nextRequest := Nat.ne_of_gt hr
    dsimp only [RequestManager.drawId]
    rw [Function.update_of_ne hne]
    exact h.numbered r (Nat.le_of_succ_le hr)
  · exact hid
  · exact hbound
  · intro r hr
    rcases Nat.lt_succ_iff_lt_or_eq.mp hr with hlt | heq
    · rw [hold r hlt]
      exact h.ids r hlt
    · subst heq
      dsimp only [RequestManager.drawId]
      rw [Function.update_self]
      exact hid
  · intro reqID r hlookup
    obtain ⟨hr, hreq⟩ := h.pending reqID r hlookup
    rw [hold r hr]
    exact ⟨Nat.lt_succ_of_lt hr, hreq⟩
  · exact h.routing
  · intro m r reqID hdel
    exact haddressed (h.delivering m r reqID hdel)
  · intro r m hm
    refine haddressed (h.carried r m ?_)
    revert hm
    refine forall_update (P := fun r (req : PendingRequest) => m ∈ req.carried →
      m ∈ (s.requests r).carried) ?_ (fun _ _ => id) r
    intro hm
    cases hm
  · exact forall_update (P := fun _ => PendingRequest.Once) ⟨Nat.zero_le _, fun _ => rfl⟩
      fun r _ => h.once r

theorem handleResponse {id : Option RequestID} (hid : id.isSome = true) :
    RoutingInv (s.handleResponse id true) := by
  have hold : ∀ m < s.nextMessage, (s.handleResponse id true).messages m = s.messages m :=
    fun m hm => Function.update_of_ne (Nat.ne_of_lt hm) _ _
  have haddressed : ∀ {r m}, Addressed s r m → Addressed (s.handleResponse id true) r m :=
    fun {_ m} haddr => haddr.congr (Nat.le_refl _) (Nat.le_succ _) rfl
      (congrArg ResponseMessage.id (hold m haddr.message_lt))
  constructor
  · exact h.numbered
  · exact h.counted
  · exact h.bounded
  · exact h.ids
  · exact h.pending
  · refine forall_update (P := fun m (msg : ResponseMessage) => msg.handler = .routing →
      msg.id ≠ none ∧ m < s.nextMessage + 1) ?_ ?_
    · intro _
      exact ⟨Option.isSome_iff_ne_none.mp hid, Nat.lt_succ_self _⟩
    · intro m _ hrouting
      obtain ⟨hsome, hm⟩ := h.routing m hrouting
      exact ⟨hsome, Nat.lt_succ_of_lt hm⟩
  · intro m r reqID hdel
    refine haddressed (h.delivering m r reqID ?_)
    revert hdel
    refine forall_update (P := fun m (msg : ResponseMessage) => msg.handler = .delivering r reqID →
      (s.messages m).handler = .delivering r reqID) ?_ (fun _ _ hold => hold) m
    intro hdel
    cases hdel
  · intro r m hm
    exact haddressed (h.carried r m hm)
  · exact h.once

/-! ### One step -/

variable {r m : Nat}

/-- A requester that registers, receives or leaves keeps the routing. -/
theorem runRequester {ok : Bool} (hrun : s.runRequester r ok = some s') : RoutingInv s' := by
  unfold RequestManager.runRequester at hrun
  have hused : (s.requests r).requester ≠ .unused := by
    intro hunused
    rw [hunused] at hrun
    cases hrun
  cases hpc : (s.requests r).requester with rw [hpc] at hrun
  | unused | waiting | done =>
    cases hrun
  | registering =>
    cases hrun
    have hreg := h.register (h.lt_nextRequest hused)
    exact hreg.setRequest ((hreg.requestKept r).setRequester hused
      (fun _ => congrArg RequesterPc.mayReceive hpc))
  | sending =>
    have hmay : (s.requests r).requester.mayReceive = true := congrArg RequesterPc.mayReceive hpc
    cases ok with cases hrun
    | true =>
      have hwait : RequestKept s r { s.requests r with requester := .waiting } :=
        (h.requestKept r).setRequester hused fun _ => hmay
      exact h.setRequest (hwait.setWatcher .watching)
    | false =>
      exact h.setRequest ((h.requestKept r).setRequester hused fun _ => hmay)
  | failing =>
    cases hrun
    have hcanc := h.cancelRequest (s.requests r).id
    refine hcanc.setRequest ((hcanc.requestKept r).setRequester ?_ nofun)
    rwa [s.requester_cancelRequest]
  | received m =>
    cases hrun
    exact h.setRequest ((h.requestKept r).cancel.setRequester hused nofun)
  | closing m =>
    cases hrun
    have hclos := h.closeMessage m
    exact hclos.setRequest ((hclos.requestKept r).setRequester hused nofun)

theorem receive (hrun : s.receive r = some s') : RoutingInv s' := by
  unfold RequestManager.receive at hrun
  split at hrun
  · next m hwait hch =>
    cases hrun
    exact h.setRequest ((h.requestKept r).receive hwait hch)
  · cases hrun

theorem leave (hrun : s.leave r = some s') : RoutingInv s' := by
  unfold RequestManager.leave at hrun
  split at hrun
  · next hdone =>
    cases hrun
    refine h.setRequest ((h.requestKept r).setRequester ?_ ?_)
    · rw [hdone.1]
      nofun
    · intro hmay
      cases hmay
  · cases hrun

theorem runWatcher (hrun : s.runWatcher r = some s') : RoutingInv s' := by
  unfold RequestManager.runWatcher at hrun
  split at hrun
  · split at hrun
    · cases hrun
      exact h.setRequest ((h.requestKept r).setWatcher _)
    · cases hrun
  · cases hrun
    have hcanc := h.cancelRequest (s.requests r).id
    exact hcanc.setRequest ((hcanc.requestKept r).setWatcher _)
  · cases hrun
  · cases hrun

theorem route {oldest : Option Nat} (hrun : s.route m oldest = some s') : RoutingInv s' := by
  unfold RequestManager.route at hrun
  split at hrun
  · next hrouting =>
    obtain ⟨hid, hm⟩ := h.routing m hrouting
    split at hrun
    · -- a message in which no id is found would go to the oldest request
      next hnone => exact absurd hnone hid
    · next reqID hreqID =>
      split at hrun
      · -- nobody waits for the message any more
        cases hrun
        exact h.setDecided rfl
      · next r hlookup =>
        cases hrun
        refine h.setHandler HandlerPc.noConfusion ?_
        intro r' reqID' heq
        obtain ⟨rfl, -⟩ := HandlerPc.delivering.inj heq
        obtain ⟨hr, hreq⟩ := h.pending reqID r hlookup
        exact ⟨hr, hm, hreqID.trans (congrArg some hreq.symm)⟩
  · cases hrun

theorem deliver (hrun : s.deliver m = some s') : RoutingInv s' := by
  unfold RequestManager.deliver at hrun
  split at hrun
  · next r reqID hdel =>
    split at hrun
    · cases hrun
      have hfill := h.setRequest ((h.requestKept r).fill (h.delivering m r reqID hdel))
      exact hfill.setDecided rfl
    · cases hrun
  · cases hrun

theorem discard (hrun : s.discard m = some s') : RoutingInv s' := by
  unfold RequestManager.discard at hrun
  split at hrun
  · split at hrun
    · cases hrun
      exact h.setDecided rfl
    · cases hrun
  · cases hrun

theorem finish (hrun : s.finish m = some s') : RoutingInv s' := by
  rcases RequestManager.of_finish hrun with ⟨reqID, -, rfl⟩ | ⟨-, rfl⟩
  · exact (h.deleteRequest reqID).setDecided rfl
  · exact (h.closeMessage m).setDecided rfl

/-- **One step** under the conditions keeps the routing. -/
theorem step {a : RequestAction} (hguard : IdentifiedGuard s a) (hdec : DecodesGuard s a)
    (hstep : requestStep s a = some s') : RoutingInv s' := by
  cases a with
  | request createdAt =>
    cases hstep
    exact h.drawId createdAt hguard
  | runRequester r ok => exact h.runRequester hstep
  | receive r => exact h.receive hstep
  | leave r => exact h.leave hstep
  | runWatcher r => exact h.runWatcher hstep
  | expire r =>
    cases hstep
    exact h.setRequest (h.requestKept r).cancel
  | handleResponse carries decodes =>
    cases hstep
    obtain rfl : decodes = true := hdec
    exact h.handleResponse hguard
  | route m oldest => exact h.route hstep
  | deliver m => exact h.deliver hstep
  | discard m => exact h.discard hstep
  | finish m => exact h.finish hstep
  | close =>
    cases hstep
    exact h.close

end RoutingInv

/-! ## Main theorem -/

/-- **Routing**: every requester receives at most one message, the one that carries the id of its
    own request, if every response has an id and can be decoded. -/
theorem requesters_receive_own_response {as : List RequestAction}
    (hguard : EveryStep requestStep IdentifiedGuard newRequestManager as)
    (hdec : EveryStep requestStep DecodesGuard newRequestManager as) :
    EveryState requestStep ReceivesOwn newRequestManager as :=
  everyState_of_invariant (fun _ _ _ h hg hs => h.step hg.1 hg.2 hs) (fun _ h => h.receivesOwn)
    RoutingInv.init (hguard.and hdec)

/-- The responses of two requests come in the other order, and a third one times out. -/
def crossedResponses : List RequestAction :=
  [.request 0, .request 0, .runRequester 0 true, .runRequester 1 true, .runRequester 0 true,
   .runRequester 1 true, .handleResponse (some 2) true, .handleResponse (some 1) true,
   .route 0 none,
   .route 1 none, .deliver 1, .deliver 0, .receive 0, .finish 1, .receive 1, .finish 0,
   .runRequester 0 true, .runRequester 0 true, .request 1, .runRequester 2 true,
   .runRequester 2 true, .expire 2, .leave 2, .runWatcher 2, .runWatcher 2,
   .handleResponse (some 3) true, .route 2 none, .finish 2]

theorem crossed_responses_are_routed :
    EveryStep requestStep IdentifiedGuard newRequestManager crossedResponses ∧
      EveryState requestStep ReceivesOwn newRequestManager crossedResponses :=
  have hguard : EveryStep requestStep IdentifiedGuard newRequestManager crossedResponses := by
    decide +kernel
  ⟨hguard, requesters_receive_own_response hguard (by decide +kernel)⟩

/-- The response to the second request, logs that are not valid UTF-8, cannot be decoded. -/
def undecodedResponse : List RequestAction :=
  [.request 0, .request 1, .runRequester 0 true, .runRequester 1 true, .runRequester 0 true,
   .runRequester 1 true, .handleResponse (some 2) false, .route 0 (some 0), .deliver 0,
   .receive 0]

/-- **A response of another request**: the message with the id 2 is taken for a legacy one and goes
    to the oldest request. -/
theorem undecoded_response_goes_to_oldest :
    EveryStep requestStep IdentifiedGuard newRequestManager undecodedResponse ∧
      ∃ s, exec requestStep newRequestManager undecodedResponse = some s ∧
        (s.requests 0).messages = [0] ∧ (s.requests 0).id = 1 ∧
        (s.messages 0).carries = some 2 ∧ ¬ ReceivesOwn s := by
  refine ⟨by decide +kernel, _, rfl, rfl, rfl, rfl, ?_⟩
  intro h
  have hid := ((h 0).2 0 List.mem_cons_self).1
  revert hid
  decide +kernel

end Bantay.Hub
