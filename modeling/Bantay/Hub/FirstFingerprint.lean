import Bantay.Hub.AgentConnect

/-!
# Trust on First Use

A regular token belongs to one row of `fingerprints`.  The row is read when an agent asks to
connect, and `handleSingleRecord` decides on that copy after the handshake: an empty
fingerprint is replaced by whatever the agent presents.
-/

namespace Bantay.Hub

open Bantay.Lib List

/-! ## The property and the condition -/

/-- A connection that presented `token` and `fingerprint` has been accepted. -/
def AcceptedWith (s : ConnectState) (token fingerprint : String) : Prop :=
  ∃ c acr systemId response, s.conns c = .accepted acr systemId response ∧
    acr.token = token ∧ response.fingerprint = fingerprint

def OneFingerprint (token : String) (s : ConnectState) : Prop :=
  (∀ f, AcceptedWith s token f → f ≠ "") ∧
    ∀ f f', AcceptedWith s token f → AcceptedWith s token f' → f = f'

/-- The fingerprint that a connection of the token is about to write into its row. -/
def ConnectTask.setting? (token : String) : ConnectTask → Option String
  | .reading acr _ response | .updating acr _ _ response =>
    if acr.token = token then some response.fingerprint else none
  | _ => none

/-- An agent whose connection has read an empty fingerprint presents the one that the row has by
    now, if any, and that other connections are writing. -/
def FirstUseGuard (token : String) (s : ConnectState) : ConnectAction → Prop
  | .respond c (some response) =>
    match s.conns c with
    | .awaiting acr [record] =>
      acr.token = token → record.fingerprint = "" →
        response.fingerprint ≠ "" ∧
        (∀ row ∈ s.fingerprints record.id,
          row.fingerprint = "" ∨ row.fingerprint = response.fingerprint) ∧
        ∀ c' < s.nextConn, ∀ f ∈ (s.conns c').setting? token, f = response.fingerprint
    | _ => True
  | _ => True

instance (token : String) (s : ConnectState) (a : ConnectAction) :
    Decidable (FirstUseGuard token s a) := by
  unfold FirstUseGuard
  split
  · split <;> infer_instance
  · infer_instance

/-- The token belongs to the row with number `id` and to no other. -/
structure OnlyRow (s : ConnectState) (token : String) (id : Nat) : Prop where
  exists_row : ∃ row, s.fingerprints id = some row ∧ row.token = token
  unique : ∀ id' row, s.fingerprints id' = some row → row.token = token → id' = id

/-! ## The invariant -/

/-- A connection of the token, when its row has the fingerprint `stored` and `pending` is being
    written. -/
def FirstUseTask (token : String) (id : Nat) (stored pending : String) : ConnectTask → Prop
  | .upgrading acr records | .challenging acr records | .awaiting acr records =>
    acr.token = token → ∃ record, records = [record] ∧ record.id = id ∧
      (record.fingerprint = "" ∨ record.fingerprint = stored)
  | .reading acr record response =>
    acr.token = token → record.id = id ∧ response.fingerprint = pending ∧ pending ≠ "" ∧
      (stored = "" ∨ stored = pending)
  | .updating acr record row response =>
    acr.token = token → (record.id = id ∧ response.fingerprint = pending ∧ pending ≠ "" ∧
      (stored = "" ∨ stored = pending)) ∧ (row.fingerprint = "" ∨ row.fingerprint = stored)
  | .adding acr _ response | .accepted acr _ response =>
    acr.token = token → response.fingerprint = stored ∧ stored ≠ ""
  | _ => True

structure FirstUse (cfg : ConnectConfig) (token : String) (id : Nat) (s : ConnectState) :
    Prop where
  sound : Sound cfg s
  only : OnlyRow s token id
  tasks : ∃ row pending, s.fingerprints id = some row ∧
    ∀ c, FirstUseTask token id row.fingerprint pending (s.conns c)

variable {token stored pending : String} {id : Nat} {task : ConnectTask}

theorem FirstUse.oneFingerprint {cfg : ConnectConfig} {s : ConnectState}
    (h : FirstUse cfg token id s) : OneFingerprint token s := by
  obtain ⟨row, pending, -, htasks⟩ := h.tasks
  have hacc : ∀ f, AcceptedWith s token f →
      f = row.fingerprint ∧ row.fingerprint ≠ "" := by
    rintro f ⟨c, acr, systemId, response, htask, htoken, rfl⟩
    have hfirst := htasks c
    rw [htask] at hfirst
    exact hfirst htoken
  constructor
  · intro f hf
    obtain ⟨heq, hne⟩ := hacc f hf
    rwa [heq]
  · intro f f' hf hf'
    exact (hacc f hf).1.trans (hacc f' hf').1.symm

theorem Ended.firstUseTask (h : Ended task) (token : String) (id : Nat) (stored pending : String) :
    FirstUseTask token id stored pending task := by
  cases h <;> trivial

theorem FirstUseTask.change_pending {pending' : String}
    (h : FirstUseTask token id stored pending task)
    (hsetting : ∀ f ∈ task.setting? token, f = pending') :
    FirstUseTask token id stored pending' task := by
  have hset : ∀ acr : AgentConnectRequest, ∀ response : FingerprintResponse,
      task.setting? token = (if acr.token = token then some response.fingerprint else none) →
      acr.token = token → response.fingerprint = pending → pending = pending' := by
    intro acr response htask htoken hresp
    rw [if_pos htoken] at htask
    exact hresp.symm.trans (hsetting _ htask)
  cases task with
  | reading acr record response =>
    intro htoken
    obtain ⟨hid, hresp, hne, hstored⟩ := h htoken
    obtain rfl := hset acr response rfl htoken hresp
    exact ⟨hid, hresp, hne, hstored⟩
  | updating acr record row response =>
    intro htoken
    obtain ⟨⟨hid, hresp, hne, hstored⟩, hload⟩ := h htoken
    obtain rfl := hset acr response rfl htoken hresp
    exact ⟨⟨hid, hresp, hne, hstored⟩, hload⟩
  | _ => exact h

theorem FirstUseTask.store (h : FirstUseTask token id stored pending task)
    (hstored : stored = "" ∨ stored = pending) :
    FirstUseTask token id pending pending task := by
  -- a copy of the old fingerprint is empty or already the new one
  have hrecs : ∀ acr : AgentConnectRequest, ∀ records : List FingerprintRecord,
      (acr.token = token → ∃ record, records = [record] ∧ record.id = id ∧
        (record.fingerprint = "" ∨ record.fingerprint = stored)) →
      (acr.token = token → ∃ record, records = [record] ∧ record.id = id ∧
        (record.fingerprint = "" ∨ record.fingerprint = pending)) := by
    intro acr records hread htoken
    obtain ⟨record, hrecs, hid, hfp⟩ := hread htoken
    refine ⟨record, hrecs, hid, ?_⟩
    rcases hfp with hempty | hcopy
    · exact .inl hempty
    · rw [hcopy]
      exact hstored
  cases task with
  | upgrading acr records => exact hrecs acr records h
  | challenging acr records => exact hrecs acr records h
  | awaiting acr records => exact hrecs acr records h
  | reading acr record response =>
    intro htoken
    obtain ⟨hid, hresp, hne, -⟩ := h htoken
    exact ⟨hid, hresp, hne, .inr rfl⟩
  | updating acr record row response =>
    intro htoken
    obtain ⟨⟨hid, hresp, hne, -⟩, hload⟩ := h htoken
    refine ⟨⟨hid, hresp, hne, .inr rfl⟩, ?_⟩
    rcases hload with hempty | hcopy
    · exact .inl hempty
    · rw [hcopy]
      exact hstored
  | adding acr systemId response =>
    intro htoken
    obtain ⟨hresp, hne⟩ := h htoken
    obtain rfl : stored = pending := hstored.resolve_left hne
    exact ⟨hresp, hne⟩
  | accepted acr systemId response =>
    intro htoken
    obtain ⟨hresp, hne⟩ := h htoken
    obtain rfl : stored = pending := hstored.resolve_left hne
    exact ⟨hresp, hne⟩
  | _ => trivial

/-! ## One step -/

theorem filterMap_range_eq_singleton {β : Type*} {f : Nat → Option β} {n : Nat} {x : β}
    (hsome : f id = some x) (hnone : ∀ i, i ≠ id → f i = none) (hid : id < n) :
    (range n).filterMap f = [x] := by
  induction n with
  | zero => exact absurd hid (Nat.not_lt_zero id)
  | succ n ih =>
    rw [range_succ, filterMap_append]
    by_cases hn : id = n
    · subst hn
      have hbelow : (range id).filterMap f = [] := by
        rw [filterMap_eq_nil_iff]
        intro i hi
        exact hnone i (Nat.ne_of_lt (mem_range.mp hi))
      simp [hbelow, hsome]
    · rw [ih (by omega)]
      simp [hnone n (Ne.symm hn)]

section Step

variable {cfg : ConnectConfig} {s s' : ConnectState} {row : FingerprintRow} {c : Nat}
  {a : ConnectAction} {acr : AgentConnectRequest} {response : FingerprintResponse}

theorem OnlyRow.getFingerprintRecordsByToken (h : OnlyRow s token id) (hs : Sound cfg s)
    (hrow : s.fingerprints id = some row) :
    getFingerprintRecordsByToken s token = [⟨id, row.system, row.fingerprint, row.token⟩] := by
  obtain ⟨row', hrow', htoken⟩ := h.exists_row
  obtain rfl : row' = row := Option.some.inj (hrow'.symm.trans hrow)
  apply filterMap_range_eq_singleton
  · exact recordByToken_eq_some.mpr ⟨row', hrow, htoken, rfl⟩
  · intro i hi
    rw [Option.eq_none_iff_forall_ne_some]
    intro record hrec
    obtain ⟨row, hfound, hfoundToken, -⟩ := recordByToken_eq_some.mp hrec
    exact hi (h.unique i row hfound hfoundToken)
  · by_contra hge
    rw [hs.numbered id (Nat.le_of_not_lt hge)] at hrow
    cases hrow

/-- What the connection that moves meets afterwards, for a fingerprint that the others agree on. -/
theorem Moves.firstUseTask {task' : ConnectTask} (hregular : cfg.universalUser token = none)
    (hs : FirstUse cfg token id s) {pending : String} (hrow : s.fingerprints id = some row)
    (htasks : ∀ c, FirstUseTask token id row.fingerprint pending (s.conns c))
    (hG : FirstUseGuard token s a) (hmoves : Moves cfg s c a (s.conns c) task') :
    ∃ pending', FirstUseTask token id row.fingerprint pending' task' ∧
      ∀ c', FirstUseTask token id row.fingerprint pending' (s.conns c') := by
  have hfirst := htasks c
  have hsound := hs.sound.tasks c
  generalize htask : s.conns c = task at hfirst hsound hmoves
  cases hmoves with
  | ended hended _ _ => exact ⟨pending, hended.firstUseTask _ _ _ _, htasks⟩
  | unsaved acr systemId response => exact ⟨pending, trivial, htasks⟩
  | looked headers => exact ⟨pending, trivial, htasks⟩
  | fetched acr records hread hfound =>
    refine ⟨pending, ?_, htasks⟩
    intro htoken
    rcases hread with ⟨-, rfl⟩ | hempty
    · rw [htoken, hs.only.getFingerprintRecordsByToken hs.sound hrow]
      exact ⟨_, rfl, rfl, .inr rfl⟩
    · -- without a record only a universal token gets further
      refine absurd ?_ (hfound hempty)
      exact SoundUser.regular hsound (htoken ▸ hregular)
  | upgraded acr records => exact ⟨pending, hfirst, htasks⟩
  | challenged acr records => exact ⟨pending, hfirst, htasks⟩
  | @found response acr records record hchoice =>
    refine ⟨pending, ?_, htasks⟩
    intro htoken
    obtain ⟨record', rfl, -, hcopy⟩ := hfirst htoken
    have huniv : acr.universal = none := hsound.1.regular (htoken ▸ hregular)
    rcases findOrCreateSystemForToken_single huniv hchoice with
      ⟨-, hset⟩ | ⟨hne, hmatch, -⟩
    · cases hset
    · have hstored := hcopy.resolve_left hne
      exact ⟨hmatch.symm.trans hstored, hstored ▸ hne⟩
  | @trusted response acr records record hchoice =>
    by_cases htoken : acr.token = token
    · obtain ⟨record', rfl, hid, -⟩ := hfirst htoken
      have huniv : acr.universal = none := hsound.1.regular (htoken ▸ hregular)
      rcases findOrCreateSystemForToken_single huniv hchoice with
        ⟨hempty, hset⟩ | ⟨-, -, hset⟩
      · obtain rfl := SystemChoice.setFingerprint.inj hset
        simp only [FirstUseGuard, htask] at hG
        obtain ⟨hne, hrows, hsetting⟩ := hG htoken hempty
        refine ⟨response.fingerprint, ?_, ?_⟩
        · intro _
          exact ⟨hid, rfl, hne, hrows row (hid ▸ hrow)⟩
        · intro c'
          refine (htasks c').change_pending ?_
          intro f hf
          by_cases hc' : c' < s.nextConn
          · exact hsetting c' hc' f hf
          · rw [hs.sound.idle c' (Nat.le_of_not_lt hc')] at hf
            cases hf
      · cases hset
    · exact ⟨pending, fun h => absurd h htoken, htasks⟩
  | creates acr records hchoice => exact ⟨pending, trivial, htasks⟩
  | lost acr record row response hgone =>
    -- the row of the token is there
    obtain ⟨-, -, row₀, hrow₀, -⟩ := hsound
    rw [hgone] at hrow₀
    cases hrow₀
  | read acr record row' response hrow' =>
    refine ⟨pending, ?_, htasks⟩
    intro htoken
    have hread := hfirst htoken
    obtain rfl : row = row' := Option.some.inj (hrow.symm.trans (hread.1 ▸ hrow'))
    exact ⟨hread, .inr rfl⟩
  | accepted acr systemId response => exact ⟨pending, hfirst, htasks⟩

theorem OnlyRow.of_tokensKept (h : OnlyRow s token id) (hkept : TokensKept s s')
    (hnew : ∀ id' row, s'.fingerprints id' = some row → row.token = token →
      ∃ row₀, s.fingerprints id' = some row₀ ∧ row₀.token = token) : OnlyRow s' token id where
  exists_row := by
    obtain ⟨row, hrow, htoken⟩ := h.exists_row
    obtain ⟨row', hrow', htoken'⟩ := hkept id row hrow
    exact ⟨row', hrow', htoken'.trans htoken⟩
  unique := by
    intro id' row hrow htoken
    obtain ⟨row₀, hrow₀, htoken₀⟩ := hnew id' row hrow htoken
    exact h.unique id' row₀ hrow₀ htoken₀

/-- A step gives a regular token no second row. -/
theorem onlyRow_step (hregular : cfg.universalUser token = none) (hs : Sound cfg s)
    (honly : OnlyRow s token id) (heff : ConnectEffect cfg s a s') :
    OnlyRow s' token id := by
  have hkept := heff.tokensKept hs
  refine honly.of_tokensKept hkept ?_
  intro id' row hrow htoken
  cases heff with
  | requested headers task' _ => exact ⟨row, hrow, htoken⟩
  | moved c task' _ => exact ⟨row, hrow, htoken⟩
  | created c acr response htask => exact ⟨row, hrow, htoken⟩
  | updated c acr record loaded stored response htask hstored =>
    by_cases hid : id' = record.id
    · subst hid
      obtain ⟨row', hrow', hsame⟩ := hkept record.id stored hstored
      obtain rfl : row' = row := Option.some.inj (hrow'.symm.trans hrow)
      exact ⟨stored, hstored, hsame.symm.trans htoken⟩
    · exact ⟨row, (fingerprints_saveRow_of_ne _ hid).symm.trans hrow, htoken⟩
  | registered c acr systemId response htask =>
    have huniv := hs.tasks c
    rw [htask] at huniv
    by_cases hid : id' = s.nextFingerprint
    · -- a new row has a universal token
      subst hid
      obtain rfl := Option.some.inj ((fingerprints_saveRow_self _ _).symm.trans hrow)
      refine absurd hregular ?_
      rw [← htoken]
      exact huniv
    · exact ⟨row, (fingerprints_saveRow_of_ne _ hid).symm.trans hrow, htoken⟩

def FirstUseTasks (token : String) (id : Nat) (s : ConnectState) : Prop :=
  ∃ row pending, s.fingerprints id = some row ∧
    ∀ c, FirstUseTask token id row.fingerprint pending (s.conns c)

/-- The first fingerprint is stored, and every copy agrees with it. -/
theorem firstUseTasks_updated {record : FingerprintRecord} {loaded stored : FingerprintRow}
    (hs : FirstUse cfg token id s) (htask : s.conns c = .updating acr record loaded response)
    (hrow₀ : s.fingerprints record.id = some stored) :
    FirstUseTasks token id
      ((s.saveRow record.id (savedRow loaded record.token response.fingerprint)).setConn c
        (.adding acr record.systemId response)) := by
  obtain ⟨row, pending, hrow, htasks⟩ := hs.tasks
  have hsound := hs.sound.tasks c
  have hfirst := htasks c
  rw [htask] at hsound hfirst
  obtain ⟨-, hrec, row₀, hread, htoken₀⟩ := hsound
  obtain rfl : row₀ = stored := Option.some.inj (hread.symm.trans hrow₀)
  by_cases htoken : acr.token = token
  · obtain ⟨⟨hid, hresp, hne, hstored⟩, hload⟩ := hfirst htoken
    subst hid
    obtain rfl : row₀ = row := Option.some.inj (hrow₀.symm.trans hrow)
    refine ⟨_, pending, fingerprints_saveRow_self _ _, ?_⟩
    show ∀ c', FirstUseTask token record.id response.fingerprint pending _
    rw [hresp]
    apply forall_conns_setConn
    · intro _
      exact ⟨hresp, hne⟩
    · intro c' _
      exact (htasks c').store hstored
  · -- the row of another token
    have hid : id ≠ record.id := by
      intro heq
      subst heq
      obtain ⟨row', hrow', htoken'⟩ := hs.only.exists_row
      obtain rfl : row' = row₀ := Option.some.inj (hrow'.symm.trans hrow₀)
      exact htoken (htoken₀.symm.trans htoken')
    refine ⟨row, pending, (fingerprints_saveRow_of_ne _ hid).trans hrow, ?_⟩
    apply forall_conns_setConn
    · intro h
      exact absurd h htoken
    · intro c' _
      exact htasks c'

theorem firstUseTasks_registered {systemId : Nat} (hregular : cfg.universalUser token = none)
    (hs : FirstUse cfg token id s)
    (htask : s.conns c = .creatingFingerprint acr systemId response) :
    FirstUseTasks token id
      ((s.createRow ⟨systemId, acr.token, response.fingerprint⟩).setConn c
        (.adding acr systemId response)) := by
  obtain ⟨row, pending, hrow, htasks⟩ := hs.tasks
  have huniv := hs.sound.tasks c
  rw [htask] at huniv
  have hid : id ≠ s.nextFingerprint := by
    intro heq
    rw [heq, hs.sound.numbered _ (Nat.le_refl _)] at hrow
    cases hrow
  refine ⟨row, pending, (fingerprints_saveRow_of_ne _ hid).trans hrow, ?_⟩
  apply forall_conns_setConn
  · intro htoken
    refine absurd hregular ?_
    rw [← htoken]
    exact huniv
  · intro c' _
    exact htasks c'

/-- **One step** under the condition keeps the first fingerprint. -/
theorem firstUse_step (hregular : cfg.universalUser token = none) (hs : FirstUse cfg token id s)
    (hG : FirstUseGuard token s a) (h : connectStep cfg s a = some s') :
    FirstUse cfg token id s' := by
  have heff := connectStep_effect h
  refine ⟨sound_step hs.sound h, onlyRow_step hregular hs.sound hs.only heff, ?_⟩
  obtain ⟨row, pending, hrow, htasks⟩ := hs.tasks
  cases heff with
  | requested headers task' htask' =>
    refine ⟨row, pending, hrow, ?_⟩
    apply forall_conns_setConn
    · rcases htask' with rfl | hended
      · trivial
      · exact hended.firstUseTask _ _ _ _
    · intro c _
      exact htasks c
  | moved c task' hmoves =>
    obtain ⟨pending', htask', hothers⟩ := hmoves.firstUseTask hregular hs hrow htasks hG
    refine ⟨row, pending', hrow, ?_⟩
    apply forall_conns_setConn
    · exact htask'
    · intro c' _
      exact hothers c'
  | created c acr response htask =>
    refine ⟨row, pending, hrow, ?_⟩
    apply forall_conns_setConn
    · trivial
    · intro c' _
      exact htasks c'
  | updated c acr record loaded stored response htask hrow₀ =>
    exact firstUseTasks_updated hs htask hrow₀
  | registered c acr systemId response htask =>
    exact firstUseTasks_registered hregular hs htask

end Step

/-! ## Runs -/

theorem Start.firstUse {s : ConnectState} (h : Start s) {token : String} {id : Nat}
    (honly : OnlyRow s token id) (cfg : ConnectConfig) : FirstUse cfg token id s where
  sound := h.sound cfg
  only := honly
  tasks := by
    obtain ⟨row, hrow, -⟩ := honly.exists_row
    refine ⟨row, "", hrow, ?_⟩
    intro c
    rw [h.conns]
    trivial

/-- **One fingerprint for each regular token**: under the condition, all accepted connections of
    the token presented the same non-empty fingerprint. -/
theorem one_fingerprint_accepted (cfg : ConnectConfig) (token : String) (id : Nat)
    (s : ConnectState) (as : List ConnectAction) (hstart : Start s)
    (hregular : cfg.universalUser token = none) (honly : OnlyRow s token id)
    (hG : EveryStep (connectStep cfg) (FirstUseGuard token) s as) :
    EveryState (connectStep cfg) (OneFingerprint token) s as := by
  apply everyState_of_invariant (I := FirstUse cfg token id)
  · intro s a s' hs hguard h
    exact firstUse_step hregular hs hguard h
  · intro s hs
    exact hs.oneFingerprint
  · exact hstart.firstUse honly cfg
  · exact hG

theorem sampleHub_onlyRow : OnlyRow sampleHub "token" 0 where
  exists_row := ⟨_, rfl, rfl⟩
  unique := by
    intro id row hrow _
    by_contra hid
    rw [show sampleHub.fingerprints id = none from if_neg hid] at hrow
    cases hrow

/-- An agent connects for the first time, and later once more. -/
def returningRun : List ConnectAction :=
  arriveRun 0 "token" ++ [presentFingerprint 0 "machine", .run 0 true, .run 0 true, .run 0 true]
    ++ arriveRun 1 "token" ++ [presentFingerprint 1 "machine", .run 1 true]

theorem returning_agent_one_fingerprint :
    Start sampleHub ∧ OnlyRow sampleHub "token" 0 ∧
      EveryStep (connectStep sampleConnectConfig) (FirstUseGuard "token") sampleHub
        returningRun ∧
      EveryState (connectStep sampleConnectConfig) (OneFingerprint "token") sampleHub
        returningRun := by
  have hguard : EveryStep (connectStep sampleConnectConfig) (FirstUseGuard "token") sampleHub
      returningRun := by decide +kernel
  exact ⟨sampleHub_start, sampleHub_onlyRow, hguard,
    one_fingerprint_accepted sampleConnectConfig "token" 0 sampleHub returningRun
      sampleHub_start rfl sampleHub_onlyRow hguard⟩

/-- Two machines connect with the token of a new system before the first fingerprint is written. -/
def racingRun : List ConnectAction :=
  arriveRun 0 "token" ++ arriveRun 1 "token"
    ++ [presentFingerprint 0 "machine", .run 0 true, .run 0 true, .run 0 true]
    ++ [presentFingerprint 1 "intruder", .run 1 true, .run 1 true, .run 1 true]

/-- **Two machines with one token** are both accepted, and so is an agent without a fingerprint. -/
theorem racing_agents_both_accepted :
    Start sampleHub ∧ OnlyRow sampleHub "token" 0 ∧
    (∃ t, exec (connectStep sampleConnectConfig) sampleHub racingRun = some t ∧
      AcceptedWith t "token" "machine" ∧ AcceptedWith t "token" "intruder") ∧
    ∃ t, exec (connectStep sampleConnectConfig) sampleHub
        (arriveRun 0 "token" ++ [presentFingerprint 0 "", .run 0 true, .run 0 true, .run 0 true])
        = some t ∧ AcceptedWith t "token" "" :=
  ⟨sampleHub_start, sampleHub_onlyRow,
    ⟨_, rfl, ⟨0, _, _, _, rfl, rfl, rfl⟩, ⟨1, _, _, _, rfl, rfl, rfl⟩⟩,
    ⟨_, rfl, ⟨0, _, _, _, rfl, rfl, rfl⟩⟩⟩

end Bantay.Hub
