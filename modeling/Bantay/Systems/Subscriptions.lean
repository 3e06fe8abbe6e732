import Mathlib.Algebra.BigOperators.Group.Finset.Piecewise
import Mathlib.Algebra.Order.BigOperators.Group.Finset
import Bantay.Systems.RealtimeAccess

/-!
# Active Subscriptions

`activeSubscriptions` has an entry for every system whose metrics are subscribed to, with the
number of these subscriptions and the topic to which the messages for the system are sent.

The number is of eight bits, and the topic is that of the first subscription.  Topics carry
their options, so one system can have many topics, and a client with another topic than the
first is counted and not served.
-/

namespace Bantay.Systems

open Bantay.Lib List Function RealtimeState

/-! ## Subscriptions to a system -/

def topics (cfg : RealtimeConfig) (systemId : String) (ks : List String) : Nat :=
  ks.countP fun k => Names cfg systemId k

def RealtimeClient.subscriptionsTo (cfg : RealtimeConfig) (systemId : String)
    (client : RealtimeClient) : Nat :=
  if client.connected then topics cfg systemId client.subscriptions else 0

namespace RealtimeState

/-- The number of subscriptions of connected clients to the metrics of the system. -/
def subscriptionsTo (cfg : RealtimeConfig) (s : RealtimeState) (systemId : String) : Nat :=
  ∑ c ∈ Finset.range s.nextClient, (s.clients c).subscriptionsTo cfg systemId

/-- The client is connected and subscribed to the metrics of the system. -/
def Subscribed (cfg : RealtimeConfig) (s : RealtimeState) (systemId : String) (c : Nat) : Prop :=
  (s.clients c).connected = true ∧ ∃ k ∈ (s.clients c).subscriptions, Names cfg systemId k

/-- The clients to which `notify` sends. -/
def receivers (s : RealtimeState) (subscription : String) : List Nat :=
  (List.range s.nextClient).filter fun c =>
    (s.clients c).connected ∧ subscription ∈ (s.clients c).subscriptions

end RealtimeState

/-- What a goroutine is about to send: the system and the topic. -/
def Broadcast.pending : Broadcast → Option (String × String)
  | .fetching systemId subscription | .notifying systemId subscription =>
    some (systemId, subscription)
  | .sending _ _ _ | .unused | .done => none

/-- By the next fetch of a worker, or by a goroutine that is under way. -/
def RealtimeState.Sends (s : RealtimeState) (systemId subscription : String) : Prop :=
  (∃ info, s.activeSubscriptions.lookup systemId = some info ∧
      info.subscription = subscription) ∨
    ∃ b, (s.broadcasts b).pending = some (systemId, subscription)

/-- The entries of `activeSubscriptions` are as the clients are subscribed. -/
structure Tracked (cfg : RealtimeConfig) (s : RealtimeState) : Prop where
  entry : ∀ systemId, (∃ info, s.activeSubscriptions.lookup systemId = some info) ↔
    ∃ c, s.Subscribed cfg systemId c
  counter : ∀ systemId info, s.activeSubscriptions.lookup systemId = some info →
    info.connectedClients.toNat = s.subscriptionsTo cfg systemId
  served : ∀ systemId subscription, s.Sends systemId subscription →
    ∀ c, s.Subscribed cfg systemId c → c ∈ s.receivers subscription

/-! ## The condition -/

def RealtimeAction.MapKeys : RealtimeAction → Prop
  | .subscribe _ _ newSubs _ => newSubs.Nodup
  | .connect _ | .disconnect _ _ | .work _ | .run _ _ => True

abbrev RealtimeEvent := { a : RealtimeAction // a.MapKeys }

def RealtimeEvent.subscribe (c : Nat) (auth : Option String) (newSubs : List String)
    (hkeys : newSubs.Nodup) : RealtimeEvent :=
  ⟨.subscribe c auth newSubs none, hkeys⟩

def realtimeEventStep (cfg : RealtimeConfig) (s : RealtimeState) (event : RealtimeEvent) :
    Option RealtimeState :=
  realtimeStep cfg s event.1

/-- The system has no other topic, and less than 255 subscriptions if the topic is new to the
    client. -/
def TopicGuard (cfg : RealtimeConfig) (s : RealtimeState) (c : Nat) (newSubs : List String)
    (k : String) : Prop :=
  (∀ k' ∈ newSubs, Names cfg (cfg.querySystem k) k' → k' = k) ∧
    (∀ info ∈ s.activeSubscriptions.lookup (cfg.querySystem k), info.subscription = k) ∧
    (∀ b < s.nextBroadcast, ∀ sends ∈ (s.broadcasts b).pending,
      sends.1 = cfg.querySystem k → sends.2 = k) ∧
    (k ∉ (s.clients c).subscriptions → s.subscriptionsTo cfg (cfg.querySystem k) < 255)

instance (cfg : RealtimeConfig) (s : RealtimeState) (c : Nat) (newSubs : List String)
    (k : String) : Decidable (TopicGuard cfg s c newSubs k) :=
  inferInstanceAs (Decidable (_ ∧ _ ∧ _ ∧ _))

/-- Clients subscribe to one topic of a system at a time, and at most 255 times. -/
def OneTopicGuard (cfg : RealtimeConfig) (s : RealtimeState) : RealtimeAction → Prop
  | .subscribe c _ newSubs _ => ∀ k ∈ newSubs, isMetrics k = true → TopicGuard cfg s c newSubs k
  | .connect _ | .disconnect _ _ | .work _ | .run _ _ => True

instance (cfg : RealtimeConfig) (s : RealtimeState) (a : RealtimeAction) :
    Decidable (OneTopicGuard cfg s a) :=
  match a with
  | .subscribe .. => by unfold OneTopicGuard; infer_instance
  | .connect _ | .disconnect .. | .work _ | .run .. => .isTrue trivial

/-! ## Counting topics -/

section Topics

variable {cfg : RealtimeConfig} {systemId k : String}

theorem topics_cons (k : String) (ks : List String) :
    topics cfg systemId (k :: ks) = topics cfg systemId [k] + topics cfg systemId ks := by
  rw [topics, topics, topics, ← countP_append]
  rfl

theorem topics_singleton : topics cfg systemId [k] = if Names cfg systemId k then 1 else 0 := by
  simp only [topics, countP_singleton, decide_eq_true_eq]

variable {ks : List String}

theorem topics_pos :
    0 < topics cfg systemId ks ↔ ∃ k ∈ ks, Names cfg systemId k := by
  simp [topics, countP_pos_iff]

theorem topics_le_one (hnd : ks.Nodup) (hone : ∀ k' ∈ ks, Names cfg systemId k' → k' = k) :
    topics cfg systemId ks ≤ 1 := by
  refine Nat.le_trans (countP_mono_left fun k' hk' hnames => ?_)
    (nodup_iff_count_le_one.mp hnd k)
  rw [hone k' hk' (of_decide_eq_true hnames)]
  exact beq_self_eq_true k

/-- The topics of a system before a request and those added are those after it and those gone. -/
theorem topics_change (cfg : RealtimeConfig) {oldSubs newSubs : List String} (hold : oldSubs.Nodup)
    (hnew : newSubs.Nodup) (systemId : String) :
    topics cfg systemId oldSubs + topics cfg systemId (newSubs.filter fun k => k ∉ oldSubs) =
      topics cfg systemId newSubs +
        topics cfg systemId (oldSubs.filter fun k => k ∉ newSubs) := by
  -- both lists share the topics that are kept
  have hkept : (oldSubs.filter fun k => k ∈ newSubs).Perm
      (newSubs.filter fun k => k ∈ oldSubs) := by
    rw [perm_ext_iff_of_nodup (hold.filter _) (hnew.filter _)]
    intro k
    simp [and_comm]
  have hsplit : ∀ l l' : List String, topics cfg systemId l =
      topics cfg systemId (l.filter fun k => k ∈ l') +
        topics cfg systemId (l.filter fun k => k ∉ l') := by
    intro l l'
    rw [topics, topics, topics, ← countP_append]
    refine (List.Perm.countP_eq _ ?_).symm
    simpa using filter_append_perm (fun k => decide (k ∈ l')) l
  rw [hsplit oldSubs newSubs, hsplit newSubs oldSubs, topics, topics, topics, topics,
    hkept.countP_eq]
  omega

end Topics

/-! ## Handlers -/

structure SameClients (s s' : RealtimeState) : Prop where
  clients : s'.clients = s.clients
  nextClient : s'.nextClient = s.nextClient
  broadcasts : s'.broadcasts = s.broadcasts
  nextBroadcast : s'.nextBroadcast = s.nextBroadcast

theorem SameClients.trans {s s' s'' : RealtimeState} (h : SameClients s s')
    (h' : SameClients s' s'') : SameClients s s'' :=
  ⟨h'.clients.trans h.clients, h'.nextClient.trans h.nextClient,
    h'.broadcasts.trans h.broadcasts, h'.nextBroadcast.trans h.nextBroadcast⟩

section Handlers

variable {cfg : RealtimeConfig} (s : RealtimeState) (receiver : Option Nat) (k : String)

theorem onRealtimeSubscriptionAdded_frame :
    SameClients s s.onRealtimeSubscriptionAdded ∧
      s.onRealtimeSubscriptionAdded.activeSubscriptions = s.activeSubscriptions := by
  unfold onRealtimeSubscriptionAdded
  split <;> exact ⟨⟨rfl, rfl, rfl, rfl⟩, rfl⟩

theorem checkSubscriptions_frame :
    SameClients s (s.checkSubscriptions receiver) ∧
      (s.checkSubscriptions receiver).activeSubscriptions = s.activeSubscriptions := by
  unfold checkSubscriptions
  split
  · exact ⟨⟨rfl, rfl, rfl, rfl⟩, rfl⟩
  · cases receiver with
    | none => exact ⟨⟨rfl, rfl, rfl, rfl⟩, rfl⟩
    | some w =>
      dsimp only
      split <;> exact ⟨⟨rfl, rfl, rfl, rfl⟩, rfl⟩

/-- A new subscription raises the counter of its system, from a new entry if there is none. -/
theorem addRealtimeSubscription_spec :
    SameClients s (s.addRealtimeSubscription cfg k) ∧
      ∀ systemId, (s.addRealtimeSubscription cfg k).activeSubscriptions.lookup systemId =
        if Names cfg systemId k then
          let info := (s.activeSubscriptions.lookup systemId).getD ⟨k, 0⟩
          some { info with connectedClients := info.connectedClients + 1 }
        else
          s.activeSubscriptions.lookup systemId := by
  unfold addRealtimeSubscription
  split
  · next hk =>
    obtain ⟨hframe, hactive⟩ := onRealtimeSubscriptionAdded_frame
      { s with
        activeSubscriptions := s.activeSubscriptions.insert (cfg.querySystem k)
          { (s.activeSubscriptions.lookup (cfg.querySystem k)).getD ⟨k, 0⟩ with
            connectedClients :=
              ((s.activeSubscriptions.lookup (cfg.querySystem k)).getD ⟨k, 0⟩).connectedClients
                + 1 } }
    refine ⟨⟨hframe.1, hframe.2, hframe.3, hframe.4⟩, ?_⟩
    intro systemId
    rw [hactive]
    split_ifs with hid
    · rw [← hid.2, AList.lookup_insert]
    · rw [AList.lookup_insert_ne fun heq => hid ⟨hk, heq.symm⟩]
  · next hk =>
    refine ⟨⟨rfl, rfl, rfl, rfl⟩, fun systemId => ?_⟩
    rw [if_neg fun hid => hk hid.1]

/-- The last subscription takes the entry of its system away. -/
theorem removeRealtimeSubscription_spec :
    SameClients s (s.removeRealtimeSubscription cfg receiver k) ∧
      ∀ systemId,
        (s.removeRealtimeSubscription cfg receiver k).activeSubscriptions.lookup systemId =
        if Names cfg systemId k then
          (s.activeSubscriptions.lookup systemId).bind fun info =>
            if info.connectedClients - 1 ≤ 0 then none
            else some { info with connectedClients := info.connectedClients - 1 }
        else
          s.activeSubscriptions.lookup systemId := by
  unfold removeRealtimeSubscription
  split
  · next hk =>
    refine ⟨?_, fun systemId => ?_⟩
    · have hframe := fun active =>
        (checkSubscriptions_frame { s with activeSubscriptions := active } receiver).1
      exact ⟨(hframe _).1, (hframe _).2, (hframe _).3, (hframe _).4⟩
    · rw [(checkSubscriptions_frame _ receiver).2]
      split_ifs with hid
      · obtain ⟨_, rfl⟩ := hid
        cases hlookup : s.activeSubscriptions.lookup (cfg.querySystem k) with
        | none => exact hlookup
        | some info =>
          dsimp only [Option.bind_some]
          split_ifs
          · rw [AList.lookup_erase]
          · rw [AList.lookup_insert]
      · have hne : systemId ≠ cfg.querySystem k := fun heq => hid ⟨hk, heq.symm⟩
        cases s.activeSubscriptions.lookup (cfg.querySystem k) with
        | none => rfl
        | some info =>
          dsimp only
          split_ifs
          · rw [AList.lookup_erase_ne hne]
          · rw [AList.lookup_insert_ne hne]
  · next hk =>
    refine ⟨⟨rfl, rfl, rfl, rfl⟩, fun systemId => ?_⟩
    rw [if_neg fun hid => hk hid.1]

theorem add_frame (ks : List String) :
    SameClients s (ks.foldl (addRealtimeSubscription cfg) s) := by
  apply foldlRecOn
  · exact ⟨rfl, rfl, rfl, rfl⟩
  · intro t ht k _
    exact ht.trans (addRealtimeSubscription_spec t k).1

theorem remove_frame (ks : List String) :
    SameClients s (ks.foldl (removeRealtimeSubscription cfg receiver) s) := by
  apply foldlRecOn
  · exact ⟨rfl, rfl, rfl, rfl⟩
  · intro t ht k _
    exact ht.trans (removeRealtimeSubscription_spec t receiver k).1

end Handlers

/-! ## Counters -/

/-- What the entry of a system with this number of subscriptions is. -/
def Counts (n : Nat) : Option SubscriptionInfo → Prop
  | none => n = 0
  | some info => info.connectedClients.toNat = n ∧ 0 < n

def Counted (s : RealtimeState) (n : String → Nat) : Prop :=
  ∀ systemId, Counts (n systemId) (s.activeSubscriptions.lookup systemId)

section Counters

variable {cfg : RealtimeConfig} {s : RealtimeState} {n : String → Nat} {k : String}
  {entry : Option SubscriptionInfo} {ks : List String}

theorem Counts.add {n : Nat} (h : Counts n entry) (hroom : n < 255) (k : String) :
    Counts (n + 1) (some { entry.getD ⟨k, 0⟩ with
      connectedClients := (entry.getD ⟨k, 0⟩).connectedClients + 1 }) := by
  cases entry with
  | none =>
    obtain rfl : n = 0 := h
    exact ⟨rfl, Nat.zero_lt_one⟩
  | some info =>
    refine ⟨?_, Nat.succ_pos n⟩
    have hcount : info.connectedClients.toNat = n := h.1
    show (info.connectedClients + 1).toNat = n + 1
    rw [UInt8.toNat_add, hcount]
    exact Nat.mod_eq_of_lt (Nat.succ_lt_succ hroom)

theorem Counts.remove {n : Nat} (h : Counts n entry) (hpos : 0 < n) :
    Counts (n - 1) (entry.bind fun info =>
      if info.connectedClients - 1 ≤ 0 then none
      else some { info with connectedClients := info.connectedClients - 1 }) := by
  cases entry with
  | none => exact absurd h (Nat.ne_of_gt hpos)
  | some info =>
    have hcount : info.connectedClients.toNat = n := h.1
    have hless : (info.connectedClients - 1).toNat = n - 1 := by
      rw [UInt8.toNat_sub_of_le, hcount]
      · rfl
      · rw [UInt8.le_iff_toNat_le, hcount]
        exact hpos
    dsimp only [Option.bind_some]
    split_ifs with hlast
    · rw [UInt8.le_iff_toNat_le, hless] at hlast
      exact Nat.le_zero.mp hlast
    · rw [UInt8.le_iff_toNat_le, hless] at hlast
      exact ⟨hless, Nat.pos_of_ne_zero fun hzero => hlast (Nat.le_of_eq hzero)⟩

variable (h : Counted s n)
include h

theorem Counted.add (hroom : isMetrics k = true → n (cfg.querySystem k) < 255) :
    Counted (s.addRealtimeSubscription cfg k) fun systemId =>
      n systemId + topics cfg systemId [k] := by
  intro systemId
  show Counts (n systemId + topics cfg systemId [k]) _
  rw [(addRealtimeSubscription_spec s k).2, topics_singleton]
  split_ifs with hid
  · obtain ⟨hk, rfl⟩ := hid
    exact (h (cfg.querySystem k)).add (hroom hk) k
  · exact h systemId

/-- The subscriptions of a request, none of which overflows a counter. -/
theorem Counted.add_all
    (hroom : ∀ k ∈ ks, isMetrics k = true →
      n (cfg.querySystem k) + topics cfg (cfg.querySystem k) ks ≤ 255) :
    Counted (ks.foldl (addRealtimeSubscription cfg) s) fun systemId =>
      n systemId + topics cfg systemId ks := by
  induction ks generalizing s n with
  | nil => exact h
  | cons k ks ih =>
    have hhead : isMetrics k = true → n (cfg.querySystem k) < 255 := by
      intro hk
      have htot := hroom k mem_cons_self hk
      rw [topics_cons, topics_singleton, if_pos ⟨hk, rfl⟩] at htot
      omega
    have hrest := ih (h.add hhead) fun k' hk' hmet => by
      have htot := hroom k' (mem_cons_of_mem k hk') hmet
      rw [topics_cons] at htot
      omega
    intro systemId
    show Counts (n systemId + topics cfg systemId (k :: ks)) _
    rw [topics_cons, ← Nat.add_assoc]
    exact hrest systemId

theorem Counted.remove (receiver : Option Nat)
    (hpos : isMetrics k = true → 0 < n (cfg.querySystem k)) :
    Counted (s.removeRealtimeSubscription cfg receiver k) fun systemId =>
      n systemId - topics cfg systemId [k] := by
  intro systemId
  show Counts (n systemId - topics cfg systemId [k]) _
  rw [(removeRealtimeSubscription_spec s receiver k).2, topics_singleton]
  split_ifs with hid
  · obtain ⟨hk, rfl⟩ := hid
    exact (h (cfg.querySystem k)).remove (hpos hk)
  · exact h systemId

theorem Counted.remove_all (receiver : Option Nat)
    (hle : ∀ systemId, topics cfg systemId ks ≤ n systemId) :
    Counted (ks.foldl (removeRealtimeSubscription cfg receiver) s) fun systemId =>
      n systemId - topics cfg systemId ks := by
  induction ks generalizing s n with
  | nil => exact h
  | cons k ks ih =>
    have hhead : isMetrics k = true → 0 < n (cfg.querySystem k) := by
      intro hk
      have hcounted := hle (cfg.querySystem k)
      rw [topics_cons, topics_singleton, if_pos ⟨hk, rfl⟩] at hcounted
      omega
    have hrest := ih (h.remove receiver hhead) fun systemId => by
      have hcounted := hle systemId
      rw [topics_cons] at hcounted
      omega
    intro systemId
    show Counts (n systemId - topics cfg systemId (k :: ks)) _
    rw [topics_cons, ← Nat.sub_sub]
    exact hrest systemId

end Counters

/-! ## The number of subscriptions -/

section Number

variable {cfg : RealtimeConfig} {s : RealtimeState} {c : Nat}

theorem SameClients.subscriptionsTo {s' : RealtimeState} (h : SameClients s s')
    (systemId : String) : s'.subscriptionsTo cfg systemId = s.subscriptionsTo cfg systemId := by
  rw [RealtimeState.subscriptionsTo, RealtimeState.subscriptionsTo, h.nextClient, h.clients]

theorem subscriptionsTo_setClient (cfg : RealtimeConfig) (client : RealtimeClient)
    (hc : c < s.nextClient) (systemId : String) :
    (s.setClient c client).subscriptionsTo cfg systemId +
        (s.clients c).subscriptionsTo cfg systemId =
      s.subscriptionsTo cfg systemId + client.subscriptionsTo cfg systemId := by
  have hmem : c ∈ Finset.range s.nextClient := Finset.mem_range.mpr hc
  have hupd : (fun c' => ((s.setClient c client).clients c').subscriptionsTo cfg systemId) =
      update (fun c' => (s.clients c').subscriptionsTo cfg systemId) c
        (client.subscriptionsTo cfg systemId) :=
    comp_update (RealtimeClient.subscriptionsTo cfg systemId) s.clients c client
  have hafter : (s.setClient c client).subscriptionsTo cfg systemId =
      client.subscriptionsTo cfg systemId + ∑ c' ∈ Finset.range s.nextClient \ {c},
        (s.clients c').subscriptionsTo cfg systemId := by
    rw [subscriptionsTo, hupd]
    exact Finset.sum_update_of_mem hmem _ _
  have hbef : s.subscriptionsTo cfg systemId =
      (s.clients c).subscriptionsTo cfg systemId + ∑ c' ∈ Finset.range s.nextClient \ {c},
        (s.clients c').subscriptionsTo cfg systemId :=
    Finset.sum_eq_add_sum_sdiff_singleton_of_mem hmem _
  omega

theorem subscriptionsTo_client_le (cfg : RealtimeConfig) (hc : c < s.nextClient)
    (systemId : String) :
    (s.clients c).subscriptionsTo cfg systemId ≤ s.subscriptionsTo cfg systemId :=
  Finset.single_le_sum_of_canonicallyOrdered
    (f := fun c => (s.clients c).subscriptionsTo cfg systemId) (Finset.mem_range.mpr hc)

theorem exists_subscribed {systemId : String} (hpos : 0 < s.subscriptionsTo cfg systemId) :
    ∃ c, s.Subscribed cfg systemId c := by
  rw [subscriptionsTo, Finset.sum_pos_iff] at hpos
  obtain ⟨c, _, hc⟩ := hpos
  rw [RealtimeClient.subscriptionsTo] at hc
  split_ifs at hc with hcnd
  · exact ⟨c, hcnd, topics_pos.mp hc⟩
  · exact absurd hc (Nat.lt_irrefl 0)

theorem lt_nextClient (hfresh : ∀ c, s.nextClient ≤ c → (s.clients c).connected = false)
    (hc : (s.clients c).connected = true) : c < s.nextClient := by
  by_contra hge
  rw [hfresh c (Nat.le_of_not_lt hge)] at hc
  cases hc

theorem subscriptionsTo_pos (hfresh : ∀ c, s.nextClient ≤ c → (s.clients c).connected = false)
    (systemId : String) :
    0 < s.subscriptionsTo cfg systemId ↔ ∃ c, s.Subscribed cfg systemId c := by
  constructor
  · exact exists_subscribed
  · rintro ⟨c, hcnd, htopic⟩
    rw [subscriptionsTo, Finset.sum_pos_iff]
    refine ⟨c, Finset.mem_range.mpr (lt_nextClient hfresh hcnd), ?_⟩
    rw [RealtimeClient.subscriptionsTo, if_pos hcnd]
    exact topics_pos.mpr htopic

end Number

/-! ## The invariant -/

/-- A connected client subscribes to the metrics of the system by this topic only. -/
def HoldsOnly (cfg : RealtimeConfig) (systemId subscription : String) (client : RealtimeClient) :
    Prop :=
  client.connected = true → ∀ k ∈ client.subscriptions, Names cfg systemId k → k = subscription

def OneTopic (cfg : RealtimeConfig) (s : RealtimeState) (systemId subscription : String) : Prop :=
  ∀ c, HoldsOnly cfg systemId subscription (s.clients c)

/-- Entries count the subscriptions, and what is sent for a system goes to its one topic. -/
structure TrackInv (cfg : RealtimeConfig) (s : RealtimeState) : Prop where
  fresh : ∀ c, s.nextClient ≤ c → (s.clients c).connected = false
  numbered : ∀ b, s.nextBroadcast ≤ b → s.broadcasts b = .unused
  nodup : ∀ c, (s.clients c).subscriptions.Nodup
  counted : Counted s (s.subscriptionsTo cfg)
  topic : ∀ systemId subscription, s.Sends systemId subscription →
    OneTopic cfg s systemId subscription

namespace TrackInv

variable {cfg : RealtimeConfig} {s s' : RealtimeState}

theorem init (cfg : RealtimeConfig) : TrackInv cfg .init where
  fresh _ _ := rfl
  numbered _ _ := rfl
  nodup _ := nodup_nil
  counted _ := rfl
  topic := by
    rintro systemId subscription (⟨info, hinfo, _⟩ | ⟨b, hb⟩)
    · cases hinfo
    · cases hb

section

variable (h : TrackInv cfg s)
include h

variable {c b : Nat} {broadcast : Broadcast}

theorem tracked : Tracked cfg s where
  entry systemId := by
    rw [← subscriptionsTo_pos h.fresh]
    have hcnts := h.counted systemId
    cases hlookup : s.activeSubscriptions.lookup systemId with rw [hlookup] at hcnts
    | none =>
      have hzero : s.subscriptionsTo cfg systemId = 0 := hcnts
      simp [hzero]
    | some info =>
      exact ⟨fun _ => hcnts.2, fun _ => ⟨info, rfl⟩⟩
  counter systemId info hlookup := by
    have hcnts := h.counted systemId
    rw [hlookup] at hcnts
    exact hcnts.1
  served systemId subscription hsends c hc := by
    obtain ⟨hcnd, k, hk, hnames⟩ := hc
    obtain rfl := h.topic systemId subscription hsends c hcnd k hk hnames
    exact mem_filter.mpr
      ⟨mem_range.mpr (lt_nextClient h.fresh hcnd), decide_eq_true ⟨hcnd, hk⟩⟩

theorem of_sends (hclis : s'.clients = s.clients) (hnext : s'.nextClient = s.nextClient)
    (hactive : s'.activeSubscriptions = s.activeSubscriptions)
    (hnum : ∀ b, s'.nextBroadcast ≤ b → s'.broadcasts b = .unused)
    (hpend : ∀ b systemId subscription,
      (s'.broadcasts b).pending = some (systemId, subscription) →
        s.Sends systemId subscription) : TrackInv cfg s' where
  fresh := by
    rw [hclis, hnext]
    exact h.fresh
  numbered := hnum
  nodup := by
    rw [hclis]
    exact h.nodup
  counted := by
    intro systemId
    rw [subscriptionsTo, hclis, hnext, hactive]
    exact h.counted systemId
  topic := by
    intro systemId subscription hsends
    have hbef : s.Sends systemId subscription := by
      rcases hsends with hent | ⟨b, hb⟩
      · rw [hactive] at hent
        exact .inl hent
      · exact hpend b systemId subscription hb
    unfold OneTopic
    rw [hclis]
    exact h.topic systemId subscription hbef

/-- A goroutine moves on or is started, and what it is about to send could be sent before. -/
theorem setPending {next : Nat}
    (hnum : ∀ b', next ≤ b' → update s.broadcasts b broadcast b' = .unused)
    (hpend : ∀ sends, broadcast.pending = some sends → s.Sends sends.1 sends.2) :
    TrackInv cfg { s with
      broadcasts := update s.broadcasts b broadcast, nextBroadcast := next } := by
  refine h.of_sends rfl rfl rfl hnum ?_
  refine forall_update (P := fun _ (broadcast : Broadcast) => ∀ systemId subscription,
    broadcast.pending = some (systemId, subscription) → s.Sends systemId subscription) ?_ ?_
  · intro systemId subscription hsends
    exact hpend _ hsends
  · intro b' _ systemId subscription hsends
    exact .inr ⟨b', hsends⟩

theorem setWorker (w : Nat) (worker : Worker) : TrackInv cfg (s.setWorker w worker) :=
  h.of_sends rfl rfl rfl h.numbered fun b _ _ hb => .inr ⟨b, hb⟩

theorem sent (deliveries : List Delivery) : TrackInv cfg { s with sent := deliveries } :=
  h.of_sends rfl rfl rfl h.numbered fun b _ _ hb => .inr ⟨b, hb⟩

theorem setBroadcast (hused : s.broadcasts b ≠ .unused)
    (hpend : ∀ sends, broadcast.pending = some sends → (s.broadcasts b).pending = some sends) :
    TrackInv cfg (s.setBroadcast b broadcast) :=
  h.setPending (numbered_update h.numbered hused) fun _ hsends => .inr ⟨b, hpend _ hsends⟩

theorem startFetch {entry : (_ : String) × SubscriptionInfo}
    (hent : s.activeSubscriptions.lookup entry.1 = some entry.2) :
    TrackInv cfg (s.startFetch cfg entry) := by
  unfold RealtimeState.startFetch
  split
  · refine h.setPending (numbered_spawn h.numbered) ?_
    intro sends hsends
    cases hsends
    exact .inl ⟨entry.2, hent, rfl⟩
  · exact h

end

theorem startFetch_active (s : RealtimeState) (entry : (_ : String) × SubscriptionInfo) :
    (s.startFetch cfg entry).activeSubscriptions = s.activeSubscriptions := by
  unfold RealtimeState.startFetch
  split <;> rfl

section

variable (h : TrackInv cfg s)
include h

theorem fetchRealtimeDataAndNotify : TrackInv cfg (s.fetchRealtimeDataAndNotify cfg) := by
  -- the fetch goes through the entries that there are when it starts
  have hfold : TrackInv cfg (s.fetchRealtimeDataAndNotify cfg) ∧
      (s.fetchRealtimeDataAndNotify cfg).activeSubscriptions = s.activeSubscriptions := by
    refine foldlRecOn (motive := fun t => TrackInv cfg t ∧
      t.activeSubscriptions = s.activeSubscriptions) _ _ ⟨h, rfl⟩ ?_
    rintro t ⟨ht, hactive⟩ entry hent
    refine ⟨ht.startFetch ?_, (startFetch_active t entry).trans hactive⟩
    rw [hactive]
    exact AList.mem_lookup_iff.mpr hent
  exact hfold.1

/-- A goroutine that broadcasts sends no more than it was started with. -/
theorem runBroadcast {b : Nat} {ok : Bool}
    (hstep : s.runBroadcast b ok = some s') : TrackInv cfg s' := by
  unfold RealtimeState.runBroadcast at hstep
  split at hstep
  · next systemId subscription hb =>
    cases hstep
    refine h.setBroadcast (by simp [hb]) fun sends hsends => ?_
    rw [hb]
    cases ok with
    | true => exact hsends
    | false => cases hsends
  · next systemId subscription hb =>
    cases hstep
    exact h.setBroadcast (by simp [hb]) fun sends hsends => by cases hsends
  · next hb =>
    cases hstep
    exact h.setBroadcast (by simp [hb]) fun sends hsends => by cases hsends
  · next systemId subscription c clients hb =>
    cases hstep
    have hsent : TrackInv cfg (s.notifyClient systemId subscription c) ∧
        (s.notifyClient systemId subscription c).broadcasts b = s.broadcasts b := by
      unfold notifyClient
      dsimp only
      split
      · exact ⟨h.sent _, rfl⟩
      · exact ⟨h, rfl⟩
    exact hsent.1.setBroadcast (by simp [hsent.2, hb]) fun sends hsends => by cases hsends
  · cases hstep
  · cases hstep

theorem runWorker {w : Nat} (hstep : s.runWorker cfg w = some s') : TrackInv cfg s' := by
  rcases RealtimeState.runWorker_eq_some hstep with rfl | rfl
  · exact h.fetchRealtimeDataAndNotify.setWorker w _
  · exact h.setWorker w .done

/-! ## Requests -/

theorem connect (auth : Option String) :
    TrackInv cfg { s with
      clients := update s.clients s.nextClient ⟨auth, [], true⟩
      nextClient := s.nextClient + 1 } where
  fresh := by
    intro c hc
    show (update s.clients s.nextClient _ c).connected = false
    rw [update_of_ne (Nat.ne_of_gt hc)]
    exact h.fresh c (Nat.le_of_succ_le hc)
  numbered := h.numbered
  nodup := by
    refine forall_update (P := fun _ (client : RealtimeClient) => client.subscriptions.Nodup) ?_ ?_
    · exact nodup_nil
    · intro c _
      exact h.nodup c
  counted := by
    intro systemId
    have hsame : subscriptionsTo cfg { s with
        clients := update s.clients s.nextClient ⟨auth, [], true⟩
        nextClient := s.nextClient + 1 } systemId = s.subscriptionsTo cfg systemId := by
      rw [subscriptionsTo, Finset.sum_range_succ]
      dsimp only
      have hnone : RealtimeClient.subscriptionsTo cfg systemId ⟨auth, [], true⟩ = 0 := rfl
      rw [update_self, hnone, Nat.add_zero]
      refine Finset.sum_congr rfl fun c hc => ?_
      rw [update_of_ne (Nat.ne_of_lt (Finset.mem_range.mp hc))]
    rw [hsame]
    exact h.counted systemId
  topic := by
    intro systemId subscription hsends
    refine forall_update (P := fun _ => HoldsOnly cfg systemId subscription) ?_ ?_
    · intro _ k hk
      cases hk
    · intro c _
      exact h.topic systemId subscription hsends c

end

/-- The entries have topics with this property. -/
def Topics (P : String → String → Prop) (t : RealtimeState) : Prop :=
  ∀ systemId info, t.activeSubscriptions.lookup systemId = some info → P systemId info.subscription

section

variable {t : RealtimeState} {P : String → String → Prop} {k : String} {receiver : Option Nat}

theorem topic_of_added (hP : Topics P t) (hk : isMetrics k = true → P (cfg.querySystem k) k) :
    Topics P (t.addRealtimeSubscription cfg k) := by
  intro systemId info hlookup
  rw [(addRealtimeSubscription_spec t k).2] at hlookup
  split_ifs at hlookup with hid
  · obtain ⟨hmet, rfl⟩ := hid
    cases hlookup
    cases hent : t.activeSubscriptions.lookup (cfg.querySystem k) with
    | none => exact hk hmet
    | some info => exact hP _ info hent
  · exact hP systemId info hlookup

theorem topic_of_removed (hP : Topics P t) :
    Topics P (t.removeRealtimeSubscription cfg receiver k) := by
  intro systemId info hlookup
  rw [(removeRealtimeSubscription_spec t receiver k).2] at hlookup
  split_ifs at hlookup with hid
  · obtain ⟨info', hent, hinfo⟩ := Option.bind_eq_some_iff.mp hlookup
    split_ifs at hinfo
    cases hinfo
    exact hP systemId info' hent
  · exact hP systemId info hlookup

end

section

variable (s : RealtimeState) (c : Nat) (auth : Option String) (newSubs : List String)
  (receiver : Option Nat)

/-- The client of a request, with its new subscriptions. -/
abbrev requested : RealtimeState :=
  s.setClient c { s.clients c with auth := auth, subscriptions := newSubs }

theorem topic_of_request :
    Topics (fun systemId subscription => s.Sends systemId subscription ∨
      (subscription ∈ newSubs ∧ Names cfg systemId subscription))
      (s.onRealtimeSubscribeRequest cfg c auth newSubs receiver) := by
  refine foldlRecOn (motive := Topics _) _ _
    (foldlRecOn (motive := Topics _) _ _ ?_ ?_) ?_
  · intro systemId info hlookup
    exact .inl (.inl ⟨info, hlookup, rfl⟩)
  · intro t ht k hk
    exact topic_of_added ht
      fun hmet => .inr ⟨(mem_filter.mp hk).1, hmet, rfl⟩
  · intro t ht k _
    exact topic_of_removed ht

theorem onRealtimeDisconnect_eq :
    s.onRealtimeDisconnect cfg c receiver =
      (s.clients c).subscriptions.foldl (removeRealtimeSubscription cfg receiver)
        (s.setClient c { s.clients c with connected := false }) := by
  have hcli : (s.setClient c { s.clients c with connected := false }).clients c =
      { s.clients c with connected := false } := update_self _ _ _
  rw [RealtimeState.onRealtimeDisconnect, hcli]

theorem topic_of_disconnect : Topics s.Sends (s.onRealtimeDisconnect cfg c receiver) := by
  refine foldlRecOn (motive := Topics _) _ _ ?_ ?_
  · intro systemId info hlookup
    exact .inl ⟨info, hlookup, rfl⟩
  · intro t ht k _
    exact topic_of_removed ht

theorem request_frame :
    SameClients (requested s c auth newSubs)
      (s.onRealtimeSubscribeRequest cfg c auth newSubs receiver) :=
  (add_frame _ _).trans (remove_frame _ receiver _)

theorem disconnect_frame :
    SameClients (s.setClient c { s.clients c with connected := false })
      (s.onRealtimeDisconnect cfg c receiver) :=
  remove_frame _ receiver _

end

section Request

variable {c : Nat} {newSubs : List String} (auth : Option String) (receiver : Option Nat)
  (h : TrackInv cfg s)
include h

theorem topics_le (hc : (s.clients c).connected = true) (systemId : String) :
    topics cfg systemId (s.clients c).subscriptions ≤ s.subscriptionsTo cfg systemId := by
  have hle := subscriptionsTo_client_le cfg (lt_nextClient h.fresh hc) systemId
  rw [RealtimeClient.subscriptionsTo, if_pos hc] at hle
  exact hle

/-- Entries count the subscriptions after a request, which may add and remove topics. -/
theorem counted_request (hc : (s.clients c).connected = true) (hnd : newSubs.Nodup)
    (hguard : ∀ k ∈ newSubs, isMetrics k = true → TopicGuard cfg s c newSubs k) :
    Counted (s.onRealtimeSubscribeRequest cfg c auth newSubs receiver)
      ((s.onRealtimeSubscribeRequest cfg c auth newSubs receiver).subscriptionsTo cfg) := by
  have hlt : c < s.nextClient := lt_nextClient h.fresh hc
  have hchg := topics_change cfg (h.nodup c) hnd
  have hown := h.topics_le hc
  have hset : Counted (requested s c auth newSubs) (s.subscriptionsTo cfg) := h.counted
  -- one topic of a system can be new at most
  have hadded : Counted ((newSubs.filter fun k => k ∉ (s.clients c).subscriptions).foldl
      (addRealtimeSubscription cfg) (requested s c auth newSubs)) _ :=
    hset.add_all fun k hk hmet => by
      obtain ⟨hk, hnew⟩ := mem_filter.mp hk
      obtain ⟨hone, _, _, hroom⟩ := hguard k hk hmet
      have hle : topics cfg (cfg.querySystem k)
          (newSubs.filter fun k => k ∉ (s.clients c).subscriptions) ≤ 1 :=
        topics_le_one (hnd.filter _) fun k' hk' => hone k' (mem_filter.mp hk').1
      have hless := hroom (of_decide_eq_true hnew)
      omega
  have hrem : Counted (s.onRealtimeSubscribeRequest cfg c auth newSubs receiver) _ :=
    hadded.remove_all receiver fun systemId => by
      have hsys := hchg systemId
      have hle := hown systemId
      omega
  intro systemId
  have htot : (requested s c auth newSubs).subscriptionsTo cfg systemId +
      topics cfg systemId (s.clients c).subscriptions =
        s.subscriptionsTo cfg systemId + topics cfg systemId newSubs := by
    have hcli := subscriptionsTo_setClient cfg
      { s.clients c with auth := auth, subscriptions := newSubs } hlt systemId
    rw [RealtimeClient.subscriptionsTo, RealtimeClient.subscriptionsTo, if_pos hc, if_pos hc]
      at hcli
    exact hcli
  have hnumber : (s.onRealtimeSubscribeRequest cfg c auth newSubs receiver).subscriptionsTo cfg
      systemId = s.subscriptionsTo cfg systemId +
        topics cfg systemId (newSubs.filter fun k => k ∉ (s.clients c).subscriptions) -
        topics cfg systemId ((s.clients c).subscriptions.filter fun k => k ∉ newSubs) := by
    rw [(request_frame s c auth newSubs receiver).subscriptionsTo]
    have hsys := hchg systemId
    omega
  rw [hnumber]
  exact hrem systemId

/-- What is sent for a system still goes to its one topic after a request. -/
theorem oneTopic_request (hguard : ∀ k ∈ newSubs, isMetrics k = true → TopicGuard cfg s c newSubs k)
    {systemId subscription : String}
    (hsends : s.Sends systemId subscription ∨
      (subscription ∈ newSubs ∧ Names cfg systemId subscription)) :
    OneTopic cfg (requested s c auth newSubs) systemId subscription := by
  refine forall_update (P := fun _ => HoldsOnly cfg systemId subscription) ?_ ?_
  · -- the client of the request
    rintro _ k hk ⟨hmet, rfl⟩
    obtain ⟨hone, hent, hpend, _⟩ := hguard k hk hmet
    rcases hsends with (⟨info, hlookup, rfl⟩ | ⟨b, hb⟩) | ⟨hnew, hnames⟩
    · exact (hent info hlookup).symm
    · have hlt : b < s.nextBroadcast := by
        refine lt_next_of_used h.numbered fun hunused => ?_
        rw [hunused] at hb
        cases hb
      exact (hpend b hlt _ hb rfl).symm
    · exact (hone subscription hnew hnames).symm
  · -- another client: there is an entry, and the request is for its topic
    intro c' _ hcnd k hk hnames
    rcases hsends with hbef | ⟨hnew, hmet, rfl⟩
    · exact h.topic systemId subscription hbef c' hcnd k hk hnames
    · obtain ⟨info, hlookup⟩ := (h.tracked.entry _).mpr ⟨c', hcnd, k, hk, hnames⟩
      have htopic : k = info.subscription :=
        h.topic _ _ (.inl ⟨info, hlookup, rfl⟩) c' hcnd k hk hnames
      exact htopic.trans ((hguard subscription hnew hmet).2.1 info hlookup)

theorem of_client {client : RealtimeClient} (hc : c < s.nextClient)
    (hframe : SameClients (s.setClient c client) s') (hnd : client.subscriptions.Nodup)
    (hcounted : Counted s' (s'.subscriptionsTo cfg))
    (htopic : ∀ systemId subscription, s'.Sends systemId subscription →
      OneTopic cfg (s.setClient c client) systemId subscription) : TrackInv cfg s' where
  fresh := by
    rw [hframe.clients, hframe.nextClient]
    intro c' hc'
    show (update s.clients c client c').connected = false
    rw [update_of_ne (Nat.ne_of_gt (Nat.lt_of_lt_of_le hc hc'))]
    exact h.fresh c' hc'
  numbered := by
    rw [hframe.broadcasts, hframe.nextBroadcast]
    exact h.numbered
  nodup := by
    rw [hframe.clients]
    exact forall_update (P := fun _ (client : RealtimeClient) => client.subscriptions.Nodup) hnd
      fun c' _ => h.nodup c'
  counted := hcounted
  topic := by
    intro systemId subscription hsends
    unfold OneTopic
    rw [hframe.clients]
    exact htopic systemId subscription hsends

variable (hc : (s.clients c).connected = true)
include hc

theorem onRealtimeSubscribeRequest (hnd : newSubs.Nodup)
    (hguard : ∀ k ∈ newSubs, isMetrics k = true → TopicGuard cfg s c newSubs k) :
    TrackInv cfg (s.onRealtimeSubscribeRequest cfg c auth newSubs receiver) := by
  refine h.of_client (lt_nextClient h.fresh hc) (request_frame s c auth newSubs receiver) hnd
    (h.counted_request auth receiver hc hnd hguard) ?_
  intro systemId subscription hsends
  apply h.oneTopic_request auth hguard
  rcases hsends with ⟨info, hlookup, rfl⟩ | ⟨b, hb⟩
  · exact topic_of_request s c auth newSubs receiver systemId info hlookup
  · rw [(request_frame s c auth newSubs receiver).broadcasts] at hb
    exact .inl (.inr ⟨b, hb⟩)

theorem counted_disconnect : Counted (s.onRealtimeDisconnect cfg c receiver)
      ((s.onRealtimeDisconnect cfg c receiver).subscriptionsTo cfg) := by
  have hset : Counted (s.setClient c { s.clients c with connected := false })
      (s.subscriptionsTo cfg) := h.counted
  have hdropped := hset.remove_all receiver (h.topics_le hc)
  rw [← onRealtimeDisconnect_eq] at hdropped
  intro systemId
  have hnumber : (s.onRealtimeDisconnect cfg c receiver).subscriptionsTo cfg systemId =
      s.subscriptionsTo cfg systemId - topics cfg systemId (s.clients c).subscriptions := by
    have hcli := subscriptionsTo_setClient cfg
      { s.clients c with connected := false } (lt_nextClient h.fresh hc) systemId
    rw [RealtimeClient.subscriptionsTo, if_pos hc] at hcli
    rw [(disconnect_frame s c receiver).subscriptionsTo]
    exact Nat.eq_sub_of_add_eq hcli
  rw [hnumber]
  exact hdropped systemId

theorem onRealtimeDisconnect : TrackInv cfg (s.onRealtimeDisconnect cfg c receiver) := by
  refine h.of_client (lt_nextClient h.fresh hc) (disconnect_frame s c receiver) (h.nodup c)
    (h.counted_disconnect receiver hc) ?_
  intro systemId subscription hsends
  have hbef : s.Sends systemId subscription := by
    rcases hsends with ⟨info, hlookup, rfl⟩ | ⟨b, hb⟩
    · exact topic_of_disconnect s c receiver systemId info hlookup
    · rw [(disconnect_frame s c receiver).broadcasts] at hb
      exact .inr ⟨b, hb⟩
  -- the client that has left hears nothing any more
  refine forall_update (P := fun _ => HoldsOnly cfg systemId subscription) ?_ ?_
  · intro hcnd
    cases hcnd
  · intro c' _
    exact h.topic systemId subscription hbef c'

end Request

end TrackInv

/-- **One step** keeps the entries in line with the subscriptions. -/
theorem trackInv_step {cfg : RealtimeConfig} {s s' : RealtimeState} {event : RealtimeEvent}
    (h : TrackInv cfg s) (hG : OneTopicGuard cfg s event.1)
    (hstep : realtimeEventStep cfg s event = some s') : TrackInv cfg s' := by
  obtain ⟨a, hkeys⟩ := event
  cases a with
  | connect auth =>
    cases hstep
    exact h.connect auth
  | subscribe c auth newSubs receiver =>
    simp only [realtimeEventStep, realtimeStep] at hstep
    split at hstep
    · next hc =>
      cases hstep
      exact h.onRealtimeSubscribeRequest auth receiver hc hkeys hG
    · cases hstep
  | disconnect c receiver =>
    simp only [realtimeEventStep, realtimeStep] at hstep
    split at hstep
    · next hc =>
      cases hstep
      exact h.onRealtimeDisconnect receiver hc
    · cases hstep
  | work w => exact h.runWorker hstep
  | run b ok => exact h.runBroadcast hstep

/-! ## Runs -/

/-- **Subscriptions are tracked**: a system has an entry exactly if a connected client is
    subscribed to its metrics, the entry counts these subscriptions, and what is sent for the
    system reaches all these clients, if clients subscribe to one topic of a system at a time and
    at most 255 times. -/
theorem subscriptions_tracked (cfg : RealtimeConfig) (events : List RealtimeEvent)
    (hG : EveryStep (realtimeEventStep cfg) (fun s event => OneTopicGuard cfg s event.1) .init
      events) :
    EveryState (realtimeEventStep cfg) (Tracked cfg) .init events := by
  apply everyState_of_invariant (I := TrackInv cfg)
  · intro s event s' h hguard hstep
    exact trackInv_step h hguard hstep
  · intro s h
    exact h.tracked
  · exact TrackInv.init cfg
  · exact hG

/-- Two clients subscribe to one topic, the worker broadcasts, and one client leaves. -/
def sharedRun : List RealtimeEvent :=
  [⟨.connect none, trivial⟩, ⟨.connect none, trivial⟩,
    .subscribe 0 (some "alice") [webTopic "rt_metrics", "systems/*"] (by decide),
    .subscribe 1 (some "alice") [webTopic "rt_metrics"] (by decide),
    ⟨.work 0, trivial⟩, ⟨.run 0 true, trivial⟩, ⟨.run 0 true, trivial⟩,
    ⟨.disconnect 0 none, trivial⟩]

theorem shared_topic_tracked :
    ((exec (realtimeEventStep sampleRealtime) .init sharedRun).map fun t =>
        t.activeSubscriptions.lookup "web") = some (some ⟨webTopic "rt_metrics", 1⟩) ∧
      EveryState (realtimeEventStep sampleRealtime) (Tracked sampleRealtime) .init sharedRun := by
  have hguard : EveryStep (realtimeEventStep sampleRealtime)
      (fun s event => OneTopicGuard sampleRealtime s event.1) .init sharedRun := by
    decide +kernel
  exact ⟨by decide +kernel, subscriptions_tracked sampleRealtime sharedRun hguard⟩

/-! ## Without the condition -/

/-- Two clients subscribe to the metrics of one system by different topics. -/
def twoTopicsRun : List RealtimeEvent :=
  [⟨.connect none, trivial⟩, ⟨.connect none, trivial⟩,
    .subscribe 0 (some "alice") [webTopic "rt_metrics"] (by decide),
    .subscribe 1 (some "alice") [webTopic "rt_metrics_all"] (by decide)]

def manyTopics : List String :=
  (List.range 256).map fun i =>
    webTopic ("rt_metrics" ++ String.ofList (replicate i 'x'))

theorem manyTopics_nodup : manyTopics.Nodup := by
  refine nodup_range.map fun i j heq => ?_
  have hlen := congrArg String.length heq
  simpa [webTopic] using hlen

theorem names_manyTopics (k : String) (hk : k ∈ manyTopics) : Names sampleRealtime "web" k := by
  obtain ⟨i, _, rfl⟩ := mem_map.mp hk
  have hmet :
      isMetrics (webTopic ("rt_metrics" ++ String.ofList (replicate i 'x'))) = true := by
    simp [isMetrics, webTopic]
  exact ⟨hmet, if_pos hmet⟩

/-- A client connects and subscribes. -/
def requestRun (newSubs : List String) (hkeys : newSubs.Nodup) : List RealtimeEvent :=
  [⟨.connect none, trivial⟩, .subscribe 0 (some "alice") newSubs hkeys]

theorem exec_requestRun (cfg : RealtimeConfig) (newSubs : List String) (hkeys : newSubs.Nodup)
    (systemId : String) :
    ∃ t, exec (realtimeEventStep cfg) .init (requestRun newSubs hkeys) = some t ∧
      t.subscriptionsTo cfg systemId = topics cfg systemId newSubs := by
  refine ⟨_, rfl, ?_⟩
  refine ((TrackInv.request_frame _ 0 (some "alice") newSubs none).subscriptionsTo systemId).trans
    ?_
  exact Finset.sum_range_one _

theorem topics_manyTopics : topics sampleRealtime "web" manyTopics = 256 := by
  have hlen : manyTopics.length = 256 := by
    rw [manyTopics, length_map, length_range]
  rw [← hlen, topics, countP_eq_length]
  intro k hk
  exact decide_eq_true (names_manyTopics k hk)

/-- **A second topic is not served, and the counter does not suffice**: messages go to the topic of
    the first subscription, and 256 subscriptions are more than the counter can say. -/
theorem second_topic_unserved :
    (∃ t, exec (realtimeEventStep sampleRealtime) .init twoTopicsRun = some t ∧
      t.Sends "web" (webTopic "rt_metrics") ∧ t.Subscribed sampleRealtime "web" 1 ∧
      1 ∉ t.receivers (webTopic "rt_metrics") ∧ ¬ Tracked sampleRealtime t) ∧
    ∃ t, exec (realtimeEventStep sampleRealtime) .init
        (requestRun manyTopics manyTopics_nodup) = some t ∧
      t.subscriptionsTo sampleRealtime "web" = 256 ∧ ¬ Tracked sampleRealtime t := by
  constructor
  · have hsends : ∃ t, exec (realtimeEventStep sampleRealtime) .init twoTopicsRun = some t ∧
        t.Sends "web" (webTopic "rt_metrics") ∧ t.Subscribed sampleRealtime "web" 1 ∧
        1 ∉ t.receivers (webTopic "rt_metrics") := by
      refine ⟨_, rfl, .inl ⟨⟨webTopic "rt_metrics", 2⟩, by decide +kernel, rfl⟩, ?_, ?_⟩
      · exact ⟨by decide +kernel, webTopic "rt_metrics_all", by decide +kernel,
          by decide +kernel⟩
      · decide +kernel
    obtain ⟨t, hrun, hsends, hsub, hrecv⟩ := hsends
    exact ⟨t, hrun, hsends, hsub, hrecv,
      fun h => hrecv (h.served _ _ hsends 1 hsub)⟩
  · obtain ⟨t, hrun, hnumber⟩ := exec_requestRun sampleRealtime manyTopics manyTopics_nodup "web"
    rw [topics_manyTopics] at hnumber
    refine ⟨t, hrun, hnumber, fun h => ?_⟩
    have hpos : 0 < t.subscriptionsTo sampleRealtime "web" := by omega
    obtain ⟨info, hlookup⟩ := (h.entry "web").mpr (exists_subscribed hpos)
    have hcounter := h.counter "web" info hlookup
    have hbits := info.connectedClients.toNat_lt
    omega

end Bantay.Systems
