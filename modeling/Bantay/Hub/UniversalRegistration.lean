import Bantay.Hub.AgentConnect

/-!
# Systems Created for a Universal Token

An agent that connects with a universal token and an unknown fingerprint gets a system of its
own.  Whether the fingerprint is known is decided on the records read before the handshake,
and the system and its fingerprint row are saved one after the other.  A token whose lookup fails
counts as a regular one, for which the fingerprint of a row may be replaced.
-/

namespace Bantay.Hub

open Bantay.Lib

/-! ## The property and the condition -/

def createdFor (s : ConnectState) (token fingerprint : String) : Nat :=
  s.systems.countP (fun system => system.token = token ∧ system.fingerprint = fingerprint)

/-- At most one system has been created for each fingerprint. -/
def OneSystemEach (token : String) (s : ConnectState) : Prop :=
  ∀ fingerprint, createdFor s token fingerprint ≤ 1

/-- The fingerprint for which a connection of the token is creating a system. -/
def ConnectTask.registering? (token : String) : ConnectTask → Option String
  | .creatingSystem acr response | .creatingFingerprint acr _ response =>
    if acr.token = token then some response.fingerprint else none
  | _ => none

/-- A fingerprint that is not among the records read is still unknown when the agent presents it,
    and no connection registers it.  The token is looked up and the row of a new system saved
    without an error. -/
def RegistrationGuard (token : String) (s : ConnectState) : ConnectAction → Prop
  | .respond c (some response) =>
    match s.conns c with
    | .awaiting acr records =>
      acr.token = token →
        (∀ record ∈ records, record.fingerprint ≠ response.fingerprint) →
        (∀ record ∈ getFingerprintRecordsByToken s token,
          record.fingerprint ≠ response.fingerprint) ∧
        ∀ c' < s.nextConn, (s.conns c').registering? token ≠ some response.fingerprint
    | _ => True
  | .run c ok =>
    match s.conns c with
    | .looking headers => headers.token = token → ok = true
    | .creatingFingerprint acr _ _ => acr.token = token → ok = true
    | _ => True
  | _ => True

instance (token : String) (s : ConnectState) (a : ConnectAction) :
    Decidable (RegistrationGuard token s a) :=
  match a with
  | .request _ | .respond _ none => .isTrue trivial
  | .respond c (some _) | .run c _ => by
    unfold RegistrationGuard
    dsimp only
    generalize s.conns c = task
    exact match task with
      | .idle | .looking _ | .fetching _ | .upgrading .. | .challenging .. | .awaiting ..
      | .reading .. | .updating .. | .creatingSystem .. | .creatingFingerprint .. | .adding ..
      | .accepted .. | .refused .. | .closed _ => inferInstance

/-! ## The invariant -/

def HasRow (s : ConnectState) (token fingerprint : String) : Prop :=
  ∃ id row, s.fingerprints id = some row ∧ row.token = token ∧ row.fingerprint = fingerprint

/-- A connection is about to save the row of a system it has created. -/
def SavingRow (s : ConnectState) (token fingerprint : String) : Prop :=
  ∃ c acr systemId response, s.conns c = .creatingFingerprint acr systemId response ∧
    acr.token = token ∧ response.fingerprint = fingerprint

/-- The request of a connection that has looked up its token. -/
def ConnectTask.acr? : ConnectTask → Option AgentConnectRequest
  | .fetching acr | .upgrading acr _ | .challenging acr _ | .awaiting acr _ | .reading acr _ _
  | .updating acr _ _ _ => some acr
  | _ => none

/-- The connection knows the token as a universal one. -/
def KnowsToken (token : String) (task : ConnectTask) : Prop :=
  ∀ acr ∈ task.acr?, acr.token = token → acr.universal ≠ none

/-- A fingerprint has one system at most, and one connection at most that registers it. -/
structure Registered (cfg : ConnectConfig) (token : String) (s : ConnectState) : Prop where
  sound : Sound cfg s
  looked : ∀ c, KnowsToken token (s.conns c)
  single : ∀ c c' f, (s.conns c).registering? token = some f →
    (s.conns c').registering? token = some f → c = c'
  fresh : ∀ c acr response, s.conns c = .creatingSystem acr response → acr.token = token →
    createdFor s token response.fingerprint = 0
  known : ∀ f, createdFor s token f ≠ 0 → HasRow s token f ∨ SavingRow s token f
  bounded : OneSystemEach token s

theorem Start.registered {s : ConnectState} (h : Start s) (cfg : ConnectConfig)
    (token : String) : Registered cfg token s := by
  have hnone : ∀ f, createdFor s token f = 0 := by
    intro f
    rw [createdFor, h.systems, List.countP_nil]
  refine ⟨h.sound cfg, ?_, ?_, ?_, ?_, ?_⟩
  · intro c
    rw [h.conns]
    exact nofun
  · intro c c' f hc
    rw [h.conns] at hc
    cases hc
  · intro c acr response hc
    rw [h.conns] at hc
    cases hc
  · intro f hf
    exact absurd (hnone f) hf
  · intro f
    rw [hnone f]
    exact Nat.zero_le 1

section Step

variable {cfg : ConnectConfig} {token : String} {s s' : ConnectState} {task : ConnectTask}

theorem Ended.registering?_eq_none (h : Ended task) : task.registering? token = none := by
  cases h <;> rfl

/-- A fingerprint with a row keeps one. -/
theorem HasRow.step {a : ConnectAction} {fingerprint : String}
    (hlooked : ∀ c, KnowsToken token (s.conns c)) (hs : Sound cfg s)
    (heff : ConnectEffect cfg s a s') (h : HasRow s token fingerprint) :
    HasRow s' token fingerprint := by
  obtain ⟨id, row, hrow, htoken, hfp⟩ := h
  cases heff with
  | requested headers task' _ => exact ⟨id, row, hrow, htoken, hfp⟩
  | moved c task' _ => exact ⟨id, row, hrow, htoken, hfp⟩
  | created c acr response _ => exact ⟨id, row, hrow, htoken, hfp⟩
  | updated c acr record loaded stored response htask _ =>
    have hsound := hs.tasks c
    rw [htask] at hsound
    obtain ⟨hregular, -, row₀, hrow₀, htoken₀⟩ := hsound
    have hid : id ≠ record.id := by
      intro heq
      rw [heq] at hrow
      obtain rfl : row₀ = row := Option.some.inj (hrow₀.symm.trans hrow)
      have hknows := hlooked c
      rw [htask] at hknows
      exact hknows acr rfl (htoken₀.symm.trans htoken) hregular
    exact ⟨id, row, (fingerprints_saveRow_of_ne _ hid).trans hrow, htoken, hfp⟩
  | registered c acr systemId response _ =>
    have hid : id ≠ s.nextFingerprint := by
      intro heq
      rw [heq, hs.numbered _ (Nat.le_refl _)] at hrow
      cases hrow
    exact ⟨id, row, (fingerprints_saveRow_of_ne _ hid).trans hrow, htoken, hfp⟩

theorem Registered.createdFor_eq_zero (hs : Registered cfg token s) {fingerprint : String}
    (hquery : ∀ record ∈ getFingerprintRecordsByToken s token, record.fingerprint ≠ fingerprint)
    (hconns : ∀ c, (s.conns c).registering? token ≠ some fingerprint) :
    createdFor s token fingerprint = 0 := by
  by_contra hcre
  rcases hs.known fingerprint hcre with ⟨id, row, hrow, htoken, hfp⟩ |
    ⟨c, acr, systemId, response, htask, htoken, hfp⟩
  · have hid : id < s.nextFingerprint := by
      by_contra hge
      rw [hs.sound.numbered id (Nat.le_of_not_lt hge)] at hrow
      cases hrow
    exact hquery _ (mem_getFingerprintRecordsByToken.mpr ⟨id, row, hid, hrow, htoken, rfl⟩)
      hfp
  · apply hconns c
    rw [htask, ← hfp]
    exact if_pos htoken

variable {c : Nat}

/-- At most one connection registers a fingerprint, if the one that moves takes over none. -/
theorem single_setConn (hsingle : ∀ c c' f, (s.conns c).registering? token = some f →
      (s.conns c').registering? token = some f → c = c')
    (hnew : ∀ f, task.registering? token = some f →
      ∀ c', c' ≠ c → (s.conns c').registering? token ≠ some f) (c₁ c₂ : Nat) (f : String)
    (h₁ : ((s.setConn c task).conns c₁).registering? token = some f)
    (h₂ : ((s.setConn c task).conns c₂).registering? token = some f) : c₁ = c₂ := by
  by_cases hc₁ : c₁ = c
  · by_cases hc₂ : c₂ = c
    · exact hc₁.trans hc₂.symm
    · rw [hc₁, conns_setConn_self] at h₁
      rw [conns_setConn_of_ne task hc₂] at h₂
      exact absurd h₂ (hnew f h₁ c₂ hc₂)
  · rw [conns_setConn_of_ne task hc₁] at h₁
    by_cases hc₂ : c₂ = c
    · rw [hc₂, conns_setConn_self] at h₂
      exact absurd h₁ (hnew f h₂ c₁ hc₁)
    · rw [conns_setConn_of_ne task hc₂] at h₂
      exact hsingle c₁ c₂ f h₁ h₂

section

variable (hs : Registered cfg token s)
include hs

/-- A step that creates no system keeps the invariant if the connection neither takes over a
    fingerprint nor gives up a row. -/
theorem Registered.setConn (u : ConnectState) (hsound : Sound cfg (u.setConn c task))
    (hconns : u.conns = s.conns) (hsystems : u.systems = s.systems)
    (hrows : ∀ f, HasRow s token f → HasRow u token f) (hknows : KnowsToken token task)
    (hnew : ∀ f, task.registering? token = some f →
      ∀ c', c' ≠ c → (s.conns c').registering? token ≠ some f)
    (hfresh : ∀ acr response, task = .creatingSystem acr response → acr.token = token →
      createdFor s token response.fingerprint = 0)
    (hgone : ∀ acr systemId response, s.conns c = .creatingFingerprint acr systemId response →
      acr.token = token → HasRow u token response.fingerprint) :
    Registered cfg token (u.setConn c task) := by
  have hcre : ∀ f, createdFor (u.setConn c task) token f = createdFor s token f := by
    intro f
    show u.systems.countP _ = _
    rw [hsystems]
    rfl
  refine ⟨hsound, ?_, ?_, ?_, ?_, ?_⟩
  · refine forall_conns_setConn hknows fun c' _ => ?_
    rw [hconns]
    exact hs.looked c'
  · apply single_setConn
    · rw [hconns]
      exact hs.single
    · rw [hconns]
      exact hnew
  · intro c' acr response htask htoken
    rw [hcre]
    by_cases hc : c' = c
    · rw [hc, conns_setConn_self] at htask
      exact hfresh acr response htask htoken
    · rw [conns_setConn_of_ne task hc, hconns] at htask
      exact hs.fresh c' acr response htask htoken
  · intro f hf
    rw [hcre] at hf
    rcases hs.known f hf with hrow | ⟨c', acr, systemId, response, htask, htoken, rfl⟩
    · exact .inl (hrows f hrow)
    · by_cases hc : c' = c
      · subst hc
        exact .inl (hgone acr systemId response htask htoken)
      · refine .inr ⟨c', acr, systemId, response, ?_, htoken, rfl⟩
        rw [conns_setConn_of_ne task hc, hconns]
        exact htask
  · intro f
    rw [hcre]
    exact hs.bounded f

theorem Registered.setConn_of_none (u : ConnectState) (hsound : Sound cfg (u.setConn c task))
    (hconns : u.conns = s.conns) (hsystems : u.systems = s.systems)
    (hrows : ∀ f, HasRow s token f → HasRow u token f) (hknows : KnowsToken token task)
    (hnone : task.registering? token = none)
    (hgone : ∀ acr systemId response, s.conns c = .creatingFingerprint acr systemId response →
      acr.token = token → HasRow u token response.fingerprint) :
    Registered cfg token (u.setConn c task) := by
  refine hs.setConn u hsound hconns hsystems hrows hknows ?_ ?_ hgone
  · intro f hf
    rw [hnone] at hf
    cases hf
  · intro acr response heq htoken
    rw [heq, ConnectTask.registering?, if_pos htoken] at hnone
    cases hnone

/-- The system that is created is the first of its fingerprint. -/
theorem Registered.created {acr : AgentConnectRequest} {response : FingerprintResponse}
    (htask : s.conns c = .creatingSystem acr response)
    (hsound : Sound cfg ((s.addSystem (newSystemRow cfg s.nextSystem acr response)).setConn c
      (.creatingFingerprint acr s.nextSystem response))) :
    Registered cfg token ((s.addSystem (newSystemRow cfg s.nextSystem acr response)).setConn c
      (.creatingFingerprint acr s.nextSystem response)) := by
  have hsame : ConnectTask.registering? token
      (.creatingFingerprint acr s.nextSystem response) =
        (s.conns c).registering? token := by rw [htask]; rfl
  have hcre : ∀ f, createdFor ((s.addSystem (newSystemRow cfg s.nextSystem acr
      response)).setConn c (.creatingFingerprint acr s.nextSystem response)) token f =
        createdFor s token f +
          if acr.token = token ∧ response.fingerprint = f then 1 else 0 := by
    intro f
    simp [createdFor, ConnectState.addSystem, ConnectState.setConn, newSystemRow,
      List.countP_append, List.countP_singleton]
  refine ⟨hsound, forall_conns_setConn nofun fun c' _ => hs.looked c', ?_, ?_, ?_, ?_⟩
  · apply single_setConn
    · exact hs.single
    · intro f hf c' hne hother
      rw [hsame] at hf
      exact hne (hs.single c' c f hother hf)
  · intro c' acr' response' htask' htoken'
    have hne : c' ≠ c := by
      intro heq
      rw [heq, conns_setConn_self] at htask'
      cases htask'
    rw [conns_setConn_of_ne _ hne] at htask'
    rw [hcre, if_neg]
    · exact hs.fresh c' acr' response' htask' htoken'
    · -- two connections would be registering this fingerprint
      rintro ⟨htoken, hfp⟩
      refine hne (hs.single c' c response'.fingerprint ?_ ?_)
      · exact (congrArg (ConnectTask.registering? token) htask').trans (if_pos htoken')
      · rw [htask, ← hfp]
        exact if_pos htoken
  · intro f hf
    by_cases hown : acr.token = token ∧ response.fingerprint = f
    · exact .inr ⟨c, acr, s.nextSystem, response, conns_setConn_self _ _, hown⟩
    · rw [hcre, if_neg hown] at hf
      rcases hs.known f hf with hrow | ⟨c', acr', systemId, response', htask', hother⟩
      · exact .inl hrow
      · have hne : c' ≠ c := by
          intro heq
          rw [heq, htask] at htask'
          cases htask'
        exact .inr ⟨c', acr', systemId, response',
          (conns_setConn_of_ne _ hne).trans htask', hother⟩
  · intro f
    rw [hcre]
    split
    · rename_i hown
      rw [← hown.2, hs.fresh c acr response htask hown.1]
    · exact hs.bounded f

/-- A connection that moves registers no fingerprint that has a system. -/
theorem Moves.registered {a : ConnectAction} {task' : ConnectTask}
    (hactive : cfg.universalUser token ≠ none) (hG : RegistrationGuard token s a)
    (hmoves : Moves cfg s c a (s.conns c) task') (hsound : Sound cfg (s.setConn c task')) :
    Registered cfg token (s.setConn c task') := by
  -- a task that registers nothing, reached from a task that has no row to save
  have quiet : KnowsToken token task' → task'.registering? token = none →
      (∀ acr systemId response, s.conns c = .creatingFingerprint acr systemId response →
        acr.token ≠ token) → Registered cfg token (s.setConn c task') := by
    intro hknows hnone hkeeps
    refine hs.setConn_of_none s hsound rfl rfl (fun _ => id) hknows hnone ?_
    intro acr systemId response hc htoken
    exact absurd htoken (hkeeps acr systemId response hc)
  have hknows := hs.looked c
  generalize htask : s.conns c = task at hmoves quiet hknows
  cases hmoves with
  | ended hended _ hkeeps =>
    refine quiet (by cases hended <;> exact nofun) hended.registering?_eq_none ?_
    intro acr systemId response heq
    exact absurd heq (hkeeps acr systemId response)
  | unsaved acr systemId response =>
    -- a system without a row would be created again at the next connect
    refine quiet nofun rfl ?_
    intro acr' systemId' response' heq htoken
    cases heq
    simp only [RegistrationGuard, htask] at hG
    cases hG htoken
  | looked headers =>
    refine quiet ?_ rfl nofun
    intro acr hacr htoken huniv
    obtain rfl := Option.some.inj hacr
    simp only [RegistrationGuard, htask] at hG
    rw [hG htoken] at huniv
    exact hactive (htoken ▸ huniv)
  | fetched | upgraded | challenged | trusted | read => exact quiet hknows rfl nofun
  | found | lost | accepted => exact quiet nofun rfl nofun
  | @creates response acr records hchoice =>
    by_cases htoken : acr.token = token
    · simp only [RegistrationGuard, htask] at hG
      obtain ⟨hquery, hothers⟩ :=
        hG htoken (findOrCreateSystemForToken_createSystem hchoice).2
      -- the query and the other connections together see every system created so far
      have hfree : ∀ c', (s.conns c').registering? token ≠ some response.fingerprint := by
        intro c'
        by_cases hc' : c' < s.nextConn
        · exact hothers c' hc'
        · rw [hs.sound.idle c' (Nat.le_of_not_lt hc')]
          exact fun h => by cases h
      refine hs.setConn s hsound rfl rfl (fun _ => id) nofun ?_ ?_ ?_
      · intro f hf c' _
        rw [ConnectTask.registering?, if_pos htoken] at hf
        rw [← hf]
        exact hfree c'
      · intro acr' response' heq _
        cases heq
        exact hs.createdFor_eq_zero hquery hfree
      · intro acr' systemId response' heq
        rw [htask] at heq
        cases heq
    · exact quiet nofun (if_neg htoken) nofun

end

/-- **One step** under the condition registers a fingerprint once. -/
theorem registered_step {a : ConnectAction} (hactive : cfg.universalUser token ≠ none)
    (hs : Registered cfg token s) (hG : RegistrationGuard token s a)
    (h : connectStep cfg s a = some s') : Registered cfg token s' := by
  have hsound := sound_step hs.sound h
  have heff := connectStep_effect h
  have hrows : ∀ f, HasRow s token f → HasRow s' token f := by
    intro f hrow
    exact hrow.step hs.looked hs.sound heff
  cases heff with
  | requested headers task' htask' =>
    have hnone : task'.registering? token = none := by
      rcases htask' with rfl | hended
      · rfl
      · exact hended.registering?_eq_none
    have hknows : KnowsToken token task' := by
      rcases htask' with rfl | hended
      · exact nofun
      · cases hended <;> exact nofun
    refine hs.setConn_of_none { s with nextConn := s.nextConn + 1 } hsound rfl rfl hrows hknows
      hnone ?_
    intro acr systemId response hc
    rw [hs.sound.idle s.nextConn (Nat.le_refl _)] at hc
    cases hc
  | moved c task' hmoves => exact hmoves.registered hs hactive hG hsound
  | updated c acr record loaded stored response htask _ =>
    refine hs.setConn_of_none (s.saveRow record.id _) hsound rfl rfl hrows nofun rfl ?_
    intro acr' systemId response' hc
    rw [htask] at hc
    cases hc
  | created c acr response htask => exact hs.created htask hsound
  | registered c acr systemId response htask =>
    -- the system that was known by its connection is now known by its row
    refine hs.setConn_of_none (s.createRow _) hsound rfl rfl hrows nofun rfl ?_
    intro acr' systemId' response' hc htoken
    rw [htask] at hc
    cases hc
    exact ⟨s.nextFingerprint, _, fingerprints_saveRow_self _ _, htoken, rfl⟩

end Step

/-! ## Runs -/

/-- **One system for each fingerprint**: under the condition, an active universal token creates at
    most one. -/
theorem one_system_for_each_fingerprint (cfg : ConnectConfig) (token : String) (s : ConnectState)
    (as : List ConnectAction) (hstart : Start s) (hactive : cfg.universalUser token ≠ none)
    (hG : EveryStep (connectStep cfg) (RegistrationGuard token) s as) :
    EveryState (connectStep cfg) (OneSystemEach token) s as := by
  apply everyState_of_invariant (I := Registered cfg token)
  · intro s a s' hs hguard h
    exact registered_step hactive hs hguard h
  · intro s hs
    exact hs.bounded
  · exact hstart.registered cfg token
  · exact hG

/-- Two machines connect with the universal token, and the first one comes back. -/
def registeringRun : List ConnectAction :=
  arriveRun 0 "universal" ++ [presentFingerprint 0 "first", .run 0 true] ++
    arriveRun 1 "universal" ++ [presentFingerprint 1 "second", .run 0 true, .run 1 true] ++
    [.run 0 true, .run 1 true, .run 1 true] ++
    arriveRun 2 "universal" ++ [presentFingerprint 2 "first", .run 2 true]

theorem returning_machine_one_system :
    EveryStep (connectStep sampleConnectConfig) (RegistrationGuard "universal") sampleHub
        registeringRun ∧
      EveryState (connectStep sampleConnectConfig) (OneSystemEach "universal") sampleHub
        registeringRun := by
  have hguard : EveryStep (connectStep sampleConnectConfig) (RegistrationGuard "universal")
      sampleHub registeringRun := by decide +kernel
  exact ⟨hguard, one_system_for_each_fingerprint sampleConnectConfig "universal" sampleHub
    registeringRun sampleHub_start (by decide) hguard⟩

/-- An agent that connects a second time before it is registered. -/
def overlappingRun : List ConnectAction :=
  arriveRun 0 "universal" ++ arriveRun 1 "universal" ++
    [presentFingerprint 0 "machine", .run 0 true, .run 0 true, .run 0 true] ++
    [presentFingerprint 1 "machine", .run 1 true, .run 1 true, .run 1 true]

/-- **Two systems for one machine**: both connections are accepted, each with a system of its
    own. -/
theorem overlapping_connects_create_two_systems :
    ∃ t, exec (connectStep sampleConnectConfig) sampleHub overlappingRun = some t ∧
      createdFor t "universal" "machine" = 2 :=
  ⟨_, rfl, by decide +kernel⟩

end Bantay.Hub
