import Mathlib.Data.List.Infix
import Bantay.Lib.GoMap
import Bantay.Systems.Realtime

/-!
# Who Receives Realtime Metrics

The endpoints that read data of a system check with `HasUser` that the caller is in its users
list.  A realtime subscription to the same data is not checked: a broadcast goes to every
client that holds the subscription.

`HasUser` looks for the id of the user in the text of the list.
-/

namespace Bantay.Systems

open Bantay.Lib List

/-! ## The property and the condition -/

def UserOf (cfg : RealtimeConfig) (systemId : String) : Option String → Prop
  | none => False
  | some user => user ∈ cfg.users systemId

instance (cfg : RealtimeConfig) (systemId : String) (auth : Option String) :
    Decidable (UserOf cfg systemId auth) := by
  unfold UserOf
  split <;> infer_instance

/-- Every message that was sent went to a user of its system. -/
def SentToUsers (cfg : RealtimeConfig) (s : RealtimeState) : Prop :=
  ∀ delivery ∈ s.sent, UserOf cfg delivery.systemId delivery.auth

/-- A client subscribes to the metrics of a system only as a user of that system. -/
def SubscribeGuard (cfg : RealtimeConfig) : RealtimeAction → Prop
  | .subscribe _ auth newSubs _ =>
    ∀ k ∈ newSubs, isMetrics k = true → UserOf cfg (cfg.querySystem k) auth
  | .connect _ | .disconnect _ _ | .work _ | .run _ _ => True

instance (cfg : RealtimeConfig) (a : RealtimeAction) : Decidable (SubscribeGuard cfg a) := by
  unfold SubscribeGuard
  split <;> infer_instance

/-! ## The invariant -/

def Names (cfg : RealtimeConfig) (systemId subscription : String) : Prop :=
  isMetrics subscription = true ∧ cfg.querySystem subscription = systemId
deriving Decidable

def RealtimeClient.Allowed (cfg : RealtimeConfig) (client : RealtimeClient) : Prop :=
  ∀ k ∈ client.subscriptions, isMetrics k = true → UserOf cfg (cfg.querySystem k) client.auth

def Broadcast.Named (cfg : RealtimeConfig) : Broadcast → Prop
  | .fetching systemId subscription | .notifying systemId subscription
  | .sending systemId subscription _ => Names cfg systemId subscription
  | .unused | .done => True

/-- Clients may receive what they subscribe to, and a broadcast for a system goes to a subscription
    to it. -/
structure AccessInv (cfg : RealtimeConfig) (s : RealtimeState) : Prop where
  clients : ∀ c, (s.clients c).Allowed cfg
  active : ∀ systemId info, info ∈ s.activeSubscriptions.lookup systemId →
    Names cfg systemId info.subscription
  broadcasts : ∀ b, (s.broadcasts b).Named cfg
  sent : SentToUsers cfg s

namespace AccessInv

variable {cfg : RealtimeConfig} {s : RealtimeState}

theorem init (cfg : RealtimeConfig) : AccessInv cfg .init where
  clients _ k hk := by cases hk
  active _ _ hinfo := by cases hinfo
  broadcasts _ := trivial
  sent _ hdel := by cases hdel

variable (h : AccessInv cfg s)
include h

variable {s' : RealtimeState} {b : Nat} {broadcast : Broadcast} {systemId : String}

theorem congr (hclis : s'.clients = s.clients)
    (hactive : s'.activeSubscriptions = s.activeSubscriptions)
    (hbroadcasts : s'.broadcasts = s.broadcasts) (hsent : s'.sent = s.sent) :
    AccessInv cfg s' where
  clients := by rw [hclis]; exact h.clients
  active := by rw [hactive]; exact h.active
  broadcasts := by rw [hbroadcasts]; exact h.broadcasts
  sent := by rw [SentToUsers, hsent]; exact h.sent

theorem setWorker (w : Nat) (worker : Worker) : AccessInv cfg (s.setWorker w worker) :=
  h.congr rfl rfl rfl rfl

theorem setClient {c : Nat} {client : RealtimeClient}
    (hcli : client.Allowed cfg) : AccessInv cfg (s.setClient c client) where
  clients := by
    apply forall_update (P := fun _ client => RealtimeClient.Allowed cfg client)
    · exact hcli
    · intro c' _
      exact h.clients c'
  active := h.active
  broadcasts := h.broadcasts
  sent := h.sent

theorem setBroadcast (hnamed : broadcast.Named cfg) :
    AccessInv cfg (s.setBroadcast b broadcast) where
  clients := h.clients
  active := h.active
  broadcasts := by
    apply forall_update (P := fun _ broadcast => Broadcast.Named cfg broadcast)
    · exact hnamed
    · intro b' _
      exact h.broadcasts b'
  sent := h.sent

theorem spawn (hnamed : broadcast.Named cfg) :
    AccessInv cfg (s.spawn broadcast) :=
  (h.setBroadcast hnamed).congr rfl rfl rfl rfl

theorem setActive {active : ActiveSubscriptions}
    (hactive : ∀ systemId info, info ∈ active.lookup systemId →
      Names cfg systemId info.subscription) :
    AccessInv cfg { s with activeSubscriptions := active } :=
  ⟨h.clients, hactive, h.broadcasts, h.sent⟩

theorem names_insert {info : SubscriptionInfo} (hinfo : Names cfg systemId info.subscription) :
    GoMap.Forall (fun systemId info => Names cfg systemId info.subscription)
      (s.activeSubscriptions.insert systemId info) :=
  GoMap.Forall.insert h.active hinfo

/-! ## Subscriptions -/

theorem onRealtimeSubscriptionAdded : AccessInv cfg s.onRealtimeSubscriptionAdded := by
  unfold RealtimeState.onRealtimeSubscriptionAdded
  split
  · exact h
  · exact h.congr rfl rfl rfl rfl

theorem checkSubscriptions (receiver : Option Nat) :
    AccessInv cfg (s.checkSubscriptions receiver) := by
  have hstop : AccessInv cfg { s with workerRunning := false } := h.congr rfl rfl rfl rfl
  unfold RealtimeState.checkSubscriptions
  split
  · exact h
  · cases receiver with
    | none => exact hstop
    | some w =>
      dsimp only
      split
      · exact hstop.setWorker w .done
      · exact hstop

/-- An entry keeps the subscription it was made with. -/
theorem addRealtimeSubscription (k : String) : AccessInv cfg (s.addRealtimeSubscription cfg k) := by
  unfold RealtimeState.addRealtimeSubscription
  split
  · rename_i hk
    apply onRealtimeSubscriptionAdded
    apply h.setActive
    apply h.names_insert
    show Names cfg (cfg.querySystem k)
      ((s.activeSubscriptions.lookup (cfg.querySystem k)).getD ⟨k, 0⟩).subscription
    cases hlookup : s.activeSubscriptions.lookup (cfg.querySystem k) with
    | none => exact ⟨hk, rfl⟩
    | some info => exact h.active (cfg.querySystem k) info hlookup
  · exact h

theorem removeRealtimeSubscription (receiver : Option Nat) (k : String) :
    AccessInv cfg (s.removeRealtimeSubscription cfg receiver k) := by
  unfold RealtimeState.removeRealtimeSubscription
  split
  · apply checkSubscriptions
    apply h.setActive
    split
    · exact h.active
    · rename_i info hlookup
      dsimp only
      split
      · exact GoMap.Forall.erase h.active (cfg.querySystem k)
      · exact h.names_insert (h.active _ info hlookup)
  · exact h

theorem onRealtimeSubscribeRequest (c : Nat) (auth : Option String)
    (newSubs : List String) (receiver : Option Nat)
    (hallowed : ∀ k ∈ newSubs, isMetrics k = true → UserOf cfg (cfg.querySystem k) auth) :
    AccessInv cfg (s.onRealtimeSubscribeRequest cfg c auth newSubs receiver) := by
  apply foldlRecOn
  · apply foldlRecOn
    · exact h.setClient hallowed
    · intro u hu k _
      exact hu.addRealtimeSubscription k
  · intro u hu k _
    exact hu.removeRealtimeSubscription receiver k

theorem onRealtimeDisconnect (c : Nat) (receiver : Option Nat) :
    AccessInv cfg (s.onRealtimeDisconnect cfg c receiver) := by
  apply foldlRecOn
  · exact h.setClient (h.clients c)
  · intro u hu k _
    exact hu.removeRealtimeSubscription receiver k

/-! ## Broadcasts -/

theorem fetchRealtimeDataAndNotify : AccessInv cfg (s.fetchRealtimeDataAndNotify cfg) := by
  apply foldlRecOn
  · exact h
  · intro u hu entry hent
    unfold RealtimeState.startFetch
    split
    · exact hu.spawn (h.active entry.1 entry.2 (AList.mem_lookup_iff.mpr hent))
    · exact hu

theorem notifyClient {subscription : String} (hnames : Names cfg systemId subscription) (c : Nat) :
    AccessInv cfg (s.notifyClient systemId subscription c) := by
  unfold RealtimeState.notifyClient
  dsimp only
  split
  · rename_i hholds
    refine ⟨h.clients, h.active, h.broadcasts, ?_⟩
    intro delivery hdel
    rcases mem_cons.mp hdel with rfl | hbef
    · have huser := h.clients c subscription hholds.1 hnames.1
      rw [hnames.2] at huser
      exact huser
    · exact h.sent delivery hbef
  · exact h

/-- A broadcast names a system and sends to the subscriptions to it. -/
theorem runBroadcast {ok : Bool} (hstep : s.runBroadcast b ok = some s') : AccessInv cfg s' := by
  have hnamed := h.broadcasts b
  unfold RealtimeState.runBroadcast at hstep
  split at hstep
  · rename_i systemId subscription hb
    rw [hb] at hnamed
    cases hstep
    apply h.setBroadcast
    cases ok with
    | true => exact hnamed
    | false => trivial
  · rename_i systemId subscription hb
    rw [hb] at hnamed
    cases hstep
    exact h.setBroadcast hnamed
  · cases hstep
    exact h.setBroadcast trivial
  · rename_i systemId subscription c clients hb
    rw [hb] at hnamed
    cases hstep
    exact (h.notifyClient hnamed c).setBroadcast hnamed
  · cases hstep
  · cases hstep

theorem runWorker {w : Nat} (hstep : s.runWorker cfg w = some s') : AccessInv cfg s' := by
  rcases RealtimeState.runWorker_eq_some hstep with rfl | rfl
  · exact h.fetchRealtimeDataAndNotify.setWorker w _
  · exact h.setWorker w .done

end AccessInv

/-- **One step** keeps what clients may receive and where broadcasts go. -/
theorem accessInv_step {cfg : RealtimeConfig} {s s' : RealtimeState} {a : RealtimeAction}
    (h : AccessInv cfg s) (hG : SubscribeGuard cfg a) (hstep : realtimeStep cfg s a = some s') :
    AccessInv cfg s' := by
  cases a with
  | connect auth =>
    cases hstep
    -- a new client has no subscriptions
    have hcli : RealtimeClient.Allowed cfg ⟨auth, [], true⟩ := by
      intro k hk
      cases hk
    exact (h.setClient hcli).congr rfl rfl rfl rfl
  | subscribe c auth newSubs receiver =>
    simp only [realtimeStep] at hstep
    split at hstep
    · cases hstep
      exact h.onRealtimeSubscribeRequest c auth newSubs receiver hG
    · cases hstep
  | disconnect c receiver =>
    simp only [realtimeStep] at hstep
    split at hstep
    · cases hstep
      exact h.onRealtimeDisconnect c receiver
    · cases hstep
  | work w => exact h.runWorker hstep
  | run b ok => exact h.runBroadcast hstep

/-! ## Runs -/

/-- **Metrics go to users of their system**, in every run in which only users of a system
    subscribe to its metrics. -/
theorem metrics_sent_to_system_users (cfg : RealtimeConfig) (as : List RealtimeAction)
    (hG : EveryStep (realtimeStep cfg) (fun _ => SubscribeGuard cfg) .init as) :
    EveryState (realtimeStep cfg) (SentToUsers cfg) .init as := by
  apply everyState_of_invariant (I := AccessInv cfg)
  · intro s a s' h hguard hstep
    exact accessInv_step h hguard hstep
  · intro s h
    exact h.sent
  · exact AccessInv.init cfg
  · exact hG

/-- One system, `web`, with one user, `alice`; the subscription of the web page names it. -/
def sampleRealtime : RealtimeConfig where
  querySystem k := if isMetrics k then "web" else ""
  monitored systemId := systemId == "web"
  users systemId := if systemId = "web" then ["alice"] else []

/-- A topic with the options of the web page, in which `query` names the system. -/
def webTopic (topic : String) : String :=
  topic ++ "?options=%7B%22query%22%3A%7B%22system%22%3A%22web%22%7D%7D"

/-- A client subscribes to the metrics, and the worker broadcasts twice. -/
def subscribeRun (auth : Option String) : List RealtimeAction :=
  [.connect auth, .subscribe 0 auth [webTopic "rt_metrics", "systems/*"] none, .work 0,
    .run 0 true, .run 0 true, .run 0 true, .work 0, .run 1 true, .run 1 true, .run 1 true]

/-- Alice receives two messages, and so does nobody else. -/
theorem alice_receives_metrics :
    (exec (realtimeStep sampleRealtime) .init
        (subscribeRun (some "alice") ++ [.disconnect 0 (some 0)])).map RealtimeState.sent =
      some [⟨"web", some "alice"⟩, ⟨"web", some "alice"⟩] ∧
    EveryState (realtimeStep sampleRealtime) (SentToUsers sampleRealtime) .init
      (subscribeRun (some "alice") ++ [.disconnect 0 (some 0)]) := by
  have hguard : EveryStep (realtimeStep sampleRealtime)
      (fun _ => SubscribeGuard sampleRealtime) .init
      (subscribeRun (some "alice") ++ [.disconnect 0 (some 0)]) := by
    decide +kernel
  exact ⟨by decide +kernel, metrics_sent_to_system_users sampleRealtime _ hguard⟩

/-- **A stranger receives the metrics**, without being in the users list of the system. -/
theorem stranger_receives_metrics :
    ∃ t, exec (realtimeStep sampleRealtime) .init (subscribeRun (some "mallory")) = some t ∧
      ¬ SentToUsers sampleRealtime t := by
  refine ⟨_, rfl, ?_⟩
  intro hsent
  have huser : UserOf sampleRealtime "web" (some "mallory") :=
    hsent ⟨"web", some "mallory"⟩ mem_cons_self
  revert huser
  decide

/-! ## The users list as a text -/

def idChar (c : Char) : Bool := 'a' ≤ c ∧ c ≤ 'z' ∨ '0' ≤ c ∧ c ≤ '9'

def IsUserId (id : String) : Prop := id.toList.length = 15 ∧ ∀ c ∈ id.toList, idChar c

/-- The elements of an array as `json.Marshal` writes them; ids need no escapes. -/
def jsonElements : List String → List Char
  | [] => [']']
  | [id] => '"' :: id.toList ++ ['"', ']']
  | id :: ids => '"' :: id.toList ++ '"' :: ',' :: jsonElements ids

/-- The value of `SHARE_ALL_SYSTEMS`, the stored users of the system, if they are found, and the
    user, if there is one. -/
def hasUser (shareAllSystems users user : Option String) : Bool :=
  match user with
  | none => false
  | some id =>
    if shareAllSystems = some "true" then true
    else
      match users with
      | none => false
      | some text => text ≠ "" ∧ id.toList <:+: text.toList

theorem infix_append_cons {word left right : List Char} {c : Char} (hc : c ∉ word)
    (h : word <:+: left ++ c :: right) : word <:+: left ∨ word <:+: right := by
  have hhead : ∀ {part}, part <+: c :: right → part ⊆ word → part = [] := by
    rintro (_ | ⟨d, part⟩) hprefix hsub
    · rfl
    · exact absurd ((cons_prefix_cons.mp hprefix).1 ▸ hsub mem_cons_self) hc
  rcases infix_append_iff.mp h with h | h | ⟨part, rest, rfl, hsuffix, hprefix⟩
  · exact .inl h
  · rcases infix_cons_iff.mp h with h | h
    · exact .inl (hhead h (List.Subset.refl _) ▸ nil_infix)
    · exact .inr h
  · rw [hhead hprefix (subset_append_right ..), append_nil]
    exact .inl hsuffix.isInfix

section Users

variable {id id' : String} {ids : List String} {text : List Char} {c : Char}

theorem infix_elements (h : id ∈ ids) : id.toList <:+: jsonElements ids := by
  induction ids using jsonElements.induct with
  | case1 => cases h
  | case2 id' =>
    obtain rfl := mem_singleton.mp h
    exact ⟨['"'], ['"', ']'], rfl⟩
  | case3 id' ids hne ih =>
    rw [jsonElements.eq_3 _ _ hne]
    rcases mem_cons.mp h with rfl | h
    · exact ⟨['"'], '"' :: ',' :: jsonElements ids, rfl⟩
    · exact (ih h).trans ⟨'"' :: id'.toList ++ ['"', ','], [], by simp⟩

variable (hid : IsUserId id)
include hid

theorem IsUserId.infix_of_cons (hc : idChar c = false) (h : id.toList <:+: c :: text) :
    id.toList <:+: text := by
  rcases @infix_append_cons _ [] _ _ (fun hmem => by simp [hid.2 _ hmem] at hc) h with h | h
  · exact h.trans nil_infix
  · exact h

theorem IsUserId.eq_or_infix (hid' : IsUserId id')
    (h : id.toList <:+: '"' :: id'.toList ++ '"' :: text) : id = id' ∨ id.toList <:+: text := by
  have hquote : '"' ∉ id.toList := fun hmem => absurd (hid.2 _ hmem) (by decide)
  refine (infix_append_cons hquote (hid.infix_of_cons (by decide) h)).imp_left fun h => ?_
  exact String.toList_inj.mp (h.eq_of_length (hid.1.trans hid'.1.symm))

theorem IsUserId.mem_of_infix (hids : ∀ id ∈ ids, IsUserId id)
    (h : id.toList <:+: jsonElements ids) : id ∈ ids := by
  have hempty : ¬ id.toList <:+: [] := by
    intro hnil
    have hlen := hid.1
    rw [eq_nil_of_infix_nil hnil] at hlen
    cases hlen
  induction ids using jsonElements.induct with
  | case1 => exact absurd (hid.infix_of_cons (by decide) h) hempty
  | case2 id' =>
    rcases hid.eq_or_infix (hids id' mem_cons_self) h with rfl | h
    · exact mem_cons_self
    · exact absurd (hid.infix_of_cons (by decide) h) hempty
  | case3 id' ids hne ih =>
    obtain ⟨hid', hids⟩ := forall_mem_cons.mp hids
    rw [jsonElements.eq_3 _ _ hne] at h
    rcases hid.eq_or_infix hid' h with rfl | h
    · exact mem_cons_self
    · exact mem_cons_of_mem _ (ih hids (hid.infix_of_cons (by decide) h))

end Users

/-- **`HasUser` finds the elements of the list**: no id begins in one element and ends in
    another. -/
theorem hasUser_iff (ids : List String) (id : String) (hids : ∀ id ∈ ids, IsUserId id)
    (hid : IsUserId id) :
    hasUser none (some (String.ofList ('[' :: jsonElements ids))) (some id) = true ↔ id ∈ ids := by
  simp only [hasUser, reduceCtorEq, if_false, decide_eq_true_eq, String.toList_ofList]
  constructor
  · rintro ⟨-, h⟩
    exact hid.mem_of_infix hids (hid.infix_of_cons (by decide) h)
  · intro h
    exact ⟨by simp, (infix_elements h).trans (suffix_cons ..).isInfix⟩

theorem hasUser_of_two :
    hasUser none (some (String.ofList ('[' :: jsonElements ["abcdefghij01234", "0123456789abcde"])))
      (some "0123456789abcde") = true := by
  refine (hasUser_iff ["abcdefghij01234", "0123456789abcde"] "0123456789abcde" ?_ ?_).mpr ?_
  · simp [IsUserId, idChar]
  · simp [IsUserId, idChar]
  · simp

end Bantay.Systems
