import Bantay.Config.Reconciliation

/-!
# Export and Sync

What a sync with the exported config does to the stored systems.  Of the systems with one key the
map of existing systems holds the last.  The first exported entry with that key takes it; a system
of the map that no entry takes is deleted, and a system that is not in the map is left alone.

The schema of the database (`internal/migrations`) makes emails and ids of users unique, and
requires users of a system and a token of a fingerprint record, so users and tokens survive the
export.  Ports need not: a port is a text in the database and a number in the file.
-/

namespace Bantay.Config

open Bantay.Lib List ExistingSystems

/-! ## Tokens -/

def ConfigDb.token (db : ConfigDb) (id : String) : Option String :=
  (db.fingerprints.lookup id).map (·.token)

section Token

variable {env : SyncEnv} {faults : EntryFaults} {entry : SystemConfig}
  {existing existing' : ExistingSystems} {db db' : ConfigDb} {system : SystemRecord}

theorem token_insert_of_ne {id id' : String} {record : FingerprintRecord} (hne : id ≠ id') :
    ((db.fingerprints.insert id' record).lookup id).map (·.token) = db.token id := by
  rw [AList.lookup_insert_ne hne]
  rfl

theorem token_updateFingerprintToken_self (id token : String) :
    (db.updateFingerprintToken id token).token id = some token := by
  unfold ConfigDb.updateFingerprintToken ConfigDb.createFingerprintRecord ConfigDb.token
  split <;> rw [AList.lookup_insert] <;> rfl

theorem token_syncEntry_of_ne {id : String} (hid : id ∈ db.ids)
    (hne : ∀ system, existing.lookup entry.key = some system → id ≠ system.id) :
    (syncEntry env faults entry existing db).1.token id = db.token id := by
  unfold syncEntry
  cases hlookup : existing.lookup entry.key with
  | none =>
    have hnew : id ≠ env.newId db.ids := by
      rintro rfl
      exact env.newId_fresh db.ids hid
    show (createNew env faults entry existing db).1.token id = db.token id
    unfold createNew
    split
    · rfl
    · split
      · rfl
      · split
        · rfl
        · exact token_insert_of_ne hnew
  | some system =>
    show (updateExisting faults entry system existing db).1.token id = db.token id
    unfold updateExisting
    split
    · rfl
    · show (if _ then _ else _ : ConfigDb × _).1.token id = db.token id
      split_ifs
      · rfl
      · split
        · rfl
        · unfold ConfigDb.updateFingerprintToken
          split <;> exact token_insert_of_ne (hne system hlookup)

def SystemConfig.tokenOver (entry : SystemConfig) (token : Option String) : Option String :=
  if entry.token = "" then token else some entry.token

/-- A round does nothing to the system that its entry takes, updates it, or its token too.  If it
    succeeds, it does all of it. -/
inductive Taken (entry : SystemConfig) (system : SystemRecord) (db : ConfigDb) :
    ConfigDb × Except String ExistingSystems → Prop where
  | refused {err : String} : Taken entry system db (db, .error err)
  | failed {db' : ConfigDb} {err : String}
      (hsystems : db'.systems = (db.saveSystem system.id entry).systems)
      (htoken : db'.token system.id = db.token system.id) :
      Taken entry system db (db', .error err)
  | done {db' : ConfigDb} {existing' : ExistingSystems}
      (hsystems : db'.systems = (db.saveSystem system.id entry).systems)
      (htoken : db'.token system.id = entry.tokenOver (db.token system.id)) :
      Taken entry system db (db', .ok existing')

theorem syncEntry_taken (hlookup : existing.lookup entry.key = some system) :
    Taken entry system db (syncEntry env faults entry existing db) := by
  unfold syncEntry
  simp only [hlookup, updateExisting]
  split
  · exact .refused
  · split_ifs with htoken
    · refine .done rfl ?_
      rw [SystemConfig.tokenOver, if_pos htoken]
      rfl
    · split
      · exact .failed rfl rfl
      · refine .done (updateFingerprintToken_systems _ _) ?_
        rw [SystemConfig.tokenOver, if_neg htoken]
        exact token_updateFingerprintToken_self _ _

end Token

/-! ## The fate of a system -/

section Fate

variable {env : SyncEnv} {faults : Nat → EntryFaults} {i : Nat} {entry : SystemConfig}
  {entries : List SystemConfig} {existing existing' : ExistingSystems} {db db' : ConfigDb}
  {system record : SystemRecord} {token : Option String}

def Stored (record : SystemRecord) (token : Option String) (db : ConfigDb) : Prop :=
  record ∈ db.systems ∧ db.token record.id = token

theorem Stored.syncEntry {faults : EntryFaults} (h : Stored record token db)
    (hne : ∀ system, existing.lookup entry.key = some system → record.id ≠ system.id) :
    Stored record token (syncEntry env faults entry existing db).1 := by
  have hid : record.id ∈ db.ids := mem_map_of_mem h.1
  refine ⟨?_, (token_syncEntry_of_ne hid hne).trans h.2⟩
  have heff := syncEntry_effect env faults entry existing db
  revert heff
  generalize Config.syncEntry env faults entry existing db = result
  intro heff
  cases heff with
  | refused => exact h.1
  | updated system hlookup hsystems _ _ =>
    rw [hsystems]
    exact mem_saveSystem_of_ne h.1 (hne system hlookup)
  | created _ hsystems _ _ =>
    rw [hsystems]
    exact mem_append_left _ h.1

theorem Stored.syncEntries (h : Stored record token db) (hsettled : record.id ∉ existing.ids) :
    Stored record token (syncEntries env faults i entries existing db).1 := by
  induction entries generalizing i existing db with
  | nil => exact h
  | cons entry entries ih =>
    have hround : Stored record token (Config.syncEntry env (faults i) entry existing db).1 := by
      apply h.syncEntry
      rintro system hlookup heq
      apply hsettled
      rw [heq]
      exact mem_ids.mpr ⟨_, system, hlookup, rfl⟩
    rw [Config.syncEntries]
    split
    · next hent =>
      rw [hent] at hround
      exact hround
    · next hent =>
      rw [hent] at hround
      obtain rfl := syncEntry_erases hent
      exact ih hround fun hmem => hsettled (ids_erase_subset hmem)

theorem Stored.deleteSystems {faults : Nat → Option String} {ids : List String}
    (h : Stored record token db) (hid : record.id ∉ ids) :
    Stored record token (deleteSystems faults i ids db).1 := by
  induction ids generalizing i db with
  | nil => exact h
  | cons id ids ih =>
    rw [mem_cons, not_or] at hid
    rw [Config.deleteSystems]
    split
    · exact h
    · refine ih ⟨?_, ?_⟩ hid.2
      · exact mem_filter.mpr ⟨h.1, decide_eq_true hid.1⟩
      · rw [← h.2]
        show ((db.fingerprints.erase id).lookup record.id).map _ = _
        rw [AList.lookup_erase_ne hid.1]
        rfl

/-- The loop on a system that is left under its key and that `entry` is the first to have: if it
    succeeds, the entry is written into it. -/
inductive LoopFate (entry : SystemConfig) (system : SystemRecord) (token : Option String) :
    ConfigDb × Except String ExistingSystems → Prop where
  | untouched {db' : ConfigDb} {err : String} (hstored : Stored system token db') :
      LoopFate entry system token (db', .error err)
  | failed {db' : ConfigDb} {err : String} (token' : Option String)
      (htoken : token' = token ∨ token' = entry.tokenOver token)
      (hstored : Stored (system.update entry) token' db') :
      LoopFate entry system token (db', .error err)
  | done {db' : ConfigDb} {existing' : ExistingSystems}
      (hstored : Stored (system.update entry) (entry.tokenOver token) db')
      (hsettled : system.id ∉ existing'.ids) :
      LoopFate entry system token (db', .ok existing')

theorem Stored.update (h : Stored system token db) {db' : ConfigDb} {token' : Option String}
    (hsystems : db'.systems = (db.saveSystem system.id entry).systems)
    (htoken : db'.token system.id = token') : Stored (system.update entry) token' db' := by
  refine ⟨?_, htoken⟩
  rw [hsystems]
  exact mem_map.mpr ⟨system, h.1, if_pos rfl⟩

/-- The entry takes the system, and no later round changes it. -/
theorem loopFate_of_taken (htracks : Tracks existing db)
    (hlookup : existing.lookup entry.key = some system) (hstored : Stored system token db) :
    LoopFate entry system token (syncEntries env faults i (entry :: entries) existing db) := by
  have htaken : Taken entry system db (syncEntry env (faults i) entry existing db) :=
    syncEntry_taken hlookup
  rw [syncEntries]
  revert htaken
  cases hent : syncEntry env (faults i) entry existing db with
  | mk db₁ result =>
    intro htaken
    cases htaken with
    | refused => exact .untouched hstored
    | failed hsystems htoken =>
      exact .failed token (.inl rfl) (hstored.update hsystems (htoken.trans hstored.2))
    | done hsystems htoken =>
      obtain rfl := syncEntry_erases hent
      have hsettled : system.id ∉ ids (existing.erase entry.key) :=
        htracks.notMem_ids_erase hlookup
      rw [hstored.2] at htoken
      have hrest : Stored (system.update entry) (entry.tokenOver token)
          (syncEntries env faults (i + 1) entries (existing.erase entry.key) db₁).1 :=
        (hstored.update hsystems htoken).syncEntries hsettled
      show LoopFate entry system token
        (syncEntries env faults (i + 1) entries (existing.erase entry.key) db₁)
      cases hents : syncEntries env faults (i + 1) entries (existing.erase entry.key) db₁ with
      | mk db' result =>
        rw [hents] at hrest
        cases result with
        | error err => exact .failed _ (.inr rfl) hrest
        | ok existing' =>
          refine .done hrest fun hmem => hsettled ?_
          obtain ⟨key, record, hleft, hid⟩ := mem_ids.mp hmem
          exact mem_ids.mpr
            ⟨key, record, (syncEntries_left hents hleft).1, hid⟩

theorem syncEntries_fate (htracks : Tracks existing db)
    (hlookup : existing.lookup system.key = some system) (hstored : Stored system token db)
    (hfind : entries.find? (fun entry => entry.key = system.key) = some entry) :
    LoopFate entry system token (syncEntries env faults i entries existing db) := by
  induction entries generalizing i existing db with
  | nil => cases hfind
  | cons head entries ih =>
    by_cases hkey : head.key = system.key
    · rw [find?_cons_of_pos (by simpa using hkey)] at hfind
      obtain rfl : head = entry := Option.some.inj hfind
      rw [← hkey] at hlookup
      exact loopFate_of_taken htracks hlookup hstored
    · rw [find?_cons_of_neg (by simpa using hkey)] at hfind
      have hround : Stored system token (syncEntry env (faults i) head existing db).1 := by
        apply hstored.syncEntry
        intro other hother hid
        -- the entry takes the system of another key
        obtain rfl : system = other :=
          ConfigDb.eq_of_id (htracks.mem _ _ hlookup) (htracks.mem _ _ hother) hid
        exact hkey (htracks.key _ _ hother).symm
      rw [syncEntries]
      split
      · next hent =>
        rw [hent] at hround
        exact .untouched hround
      · next hent =>
        rw [hent] at hround
        have htracks₁ := htracks.syncEntry hent
        obtain rfl := syncEntry_erases hent
        refine ih htracks₁ ?_ hround hfind
        rw [AList.lookup_erase_ne (Ne.symm hkey)]
        exact hlookup

theorem syncEntries_left_of_notMem
    (hsync : syncEntries env faults i entries existing db = (db', .ok existing'))
    {key : String} (hlookup : existing.lookup key = some system)
    (hkey : ∀ entry ∈ entries, entry.key ≠ key) : existing'.lookup key = some system := by
  induction entries generalizing i existing db with
  | nil =>
    cases hsync
    exact hlookup
  | cons entry entries ih =>
    obtain ⟨db₁, _, hrest⟩ := syncEntries_cons_ok hsync
    refine ih hrest ?_ fun entry' hent' => hkey entry' (mem_cons_of_mem entry hent')
    rw [AList.lookup_erase_ne (hkey entry mem_cons_self).symm]
    exact hlookup

end Fate

/-! ## A sync -/

section Sync

variable {env : SyncEnv} {faults : SyncFaults} {config : List SystemConfig} {db db' : ConfigDb}
  {entry : SystemConfig} {system record : SystemRecord} {token : Option String}

/-- Nothing has been done, the loop has failed, or the loop is done and systems are deleted. -/
theorem syncSystems_cases (env : SyncEnv) (faults : SyncFaults) (config : List SystemConfig)
    (db : ConfigDb) :
    ((syncSystems env faults (.parsed config) db).1 ≠ .synced ∧
        (syncSystems env faults (.parsed config) db).2 = db) ∨
      (∃ db₁ err, syncEntries env faults.entry 0 (configured db config)
          (existingSystemsMap db.systems) db = (db₁, .error err) ∧
        (syncSystems env faults (.parsed config) db).1 ≠ .synced ∧
        (syncSystems env faults (.parsed config) db).2 = db₁) ∨
      ∃ db₁ existing, syncEntries env faults.entry 0 (configured db config)
          (existingSystemsMap db.systems) db = (db₁, .ok existing) ∧
        (syncSystems env faults (.parsed config) db).2 =
          (deleteSystems faults.delete 0 (faults.order existing.ids) db₁).1 := by
  cases config with
  | nil => exact .inl ⟨SyncOutcome.noConfusion, rfl⟩
  | cons entry entries =>
    simp only [syncSystems]
    split
    · exact .inl ⟨SyncOutcome.noConfusion, rfl⟩
    · exact .inl ⟨SyncOutcome.noConfusion, rfl⟩
    · split
      · next db₁ err hents =>
        exact .inr (.inl ⟨db₁, err, hents, SyncOutcome.noConfusion, rfl⟩)
      · next db₁ existing hents =>
        refine .inr (.inr ⟨db₁, existing, hents, ?_⟩)
        split <;> next hdel => rw [hdel]

theorem stored_syncSystems (env : SyncEnv) (faults : SyncFaults) (config : List SystemConfig)
    (h : Stored record token db) (hsettled : record.id ∉ (existingSystemsMap db.systems).ids) :
    Stored record token (syncSystems env faults (.parsed config) db).2 := by
  have hloop : Stored record token (syncEntries env faults.entry 0 (configured db config)
      (existingSystemsMap db.systems) db).1 := h.syncEntries hsettled
  rcases syncSystems_cases env faults config db with ⟨_, hsame⟩ |
    ⟨db₁, err, hents, _, hresult⟩ | ⟨db₁, existing, hents, hresult⟩
  · rw [hsame]
    exact h
  · rw [hents] at hloop
    rw [hresult]
    exact hloop
  · rw [hents] at hloop
    rw [hresult]
    refine hloop.deleteSystems fun hmem => hsettled ?_
    obtain ⟨key, system, hleft, hid⟩ := mem_ids.mp (SyncFaults.mem_order.mp hmem)
    exact mem_ids.mpr ⟨key, system, (syncEntries_left hents hleft).1, hid⟩

section Taken

variable (hstored : Stored system token db)
  (hlookup : (existingSystemsMap db.systems).lookup system.key = some system)
  (hfind : (configured db config).find? (fun entry => entry.key = system.key) = some entry)
include hstored hlookup hfind

theorem loopFate_configured : LoopFate entry system token (syncEntries env faults.entry 0
    (configured db config) (existingSystemsMap db.systems) db) :=
  syncEntries_fate (tracks_existingSystemsMap db) hlookup hstored hfind

theorem syncSystems_taken (env : SyncEnv) (faults : SyncFaults) :
    Stored system token (syncSystems env faults (.parsed config) db).2 ∨
      ∃ token', (token' = token ∨ token' = entry.tokenOver token) ∧
        Stored (system.update entry) token' (syncSystems env faults (.parsed config) db).2 := by
  have hfate := @loopFate_configured env faults _ _ _ _ _ hstored hlookup hfind
  rcases syncSystems_cases env faults config db with ⟨_, hsame⟩ |
    ⟨db₁, err, hents, _, hresult⟩ | ⟨db₁, existing, hents, hresult⟩
  · rw [hsame]
    exact .inl hstored
  · rw [hents] at hfate
    rw [hresult]
    cases hfate with
    | untouched hstored => exact .inl hstored
    | failed token' htoken hstored => exact .inr ⟨token', htoken, hstored⟩
  · rw [hents] at hfate
    rw [hresult]
    cases hfate with
    | done hstored hsettled =>
      exact .inr ⟨_, .inr rfl,
        hstored.deleteSystems (mt SyncFaults.mem_order.mp hsettled)⟩

theorem synced_taken (hsync : syncSystems env faults (.parsed config) db = (.synced, db')) :
    Stored (system.update entry) (entry.tokenOver token) db' := by
  have hfate := @loopFate_configured env faults _ _ _ _ _ hstored hlookup hfind
  rcases syncSystems_cases env faults config db with ⟨hfail, _⟩ | ⟨_, _, _, hfail, _⟩ |
    ⟨db₁, existing, hents, hresult⟩
  · exact absurd (congrArg Prod.fst hsync) hfail
  · exact absurd (congrArg Prod.fst hsync) hfail
  · rw [hsync] at hresult
    obtain rfl : db' = (deleteSystems faults.delete 0 (faults.order existing.ids) db₁).1 :=
      hresult
    rw [hents] at hfate
    cases hfate with
    | done hstored hsettled =>
      exact hstored.deleteSystems (mt SyncFaults.mem_order.mp hsettled)

end Taken

theorem synced_dropped (hsync : syncSystems env faults (.parsed config) db = (.synced, db'))
    (hlookup : (existingSystemsMap db.systems).lookup system.key = some system)
    (hfind : (configured db config).find? (fun entry => entry.key = system.key) = none) :
    ∀ record ∈ db'.systems, record.id ≠ system.id := by
  obtain ⟨db₁, existing, hents, hsystems, _⟩ := syncSystems_synced hsync
  have hleft : existing.lookup system.key = some system := by
    refine syncEntries_left_of_notMem hents hlookup fun entry hent => ?_
    simpa using find?_eq_none.mp hfind entry hent
  intro record hrec hid
  rw [hsystems] at hrec
  refine (mem_settled.mp hrec).2 ?_
  exact mem_ids.mpr ⟨system.key, system, hleft, hid.symm⟩

end Sync

/-! ## The exported config -/

def SystemRecord.exportedPort (env : SyncEnv) (system : SystemRecord) : String :=
  toString (defaultPort (env.toUint16 system.port)).toNat

def SystemRecord.exportedKey (env : SyncEnv) (system : SystemRecord) : String :=
  Identity.key (system.name, system.host, system.exportedPort env)

/-- The stored systems in the order of the exported config. -/
def ConfigDb.byName (db : ConfigDb) : List SystemRecord :=
  db.systems.insertionSort fun system system' => system.name ≤ system'.name

def ConfigDb.taker (env : SyncEnv) (db : ConfigDb) (key : String) : Option SystemRecord :=
  db.byName.find? fun system => system.exportedKey env = key

/-- What the schema of the database requires of users and tokens. -/
structure Consistent (db : ConfigDb) : Prop where
  userIds : (db.users.map (·.id)).Nodup
  emails : (db.users.map (·.email)).Nodup
  usersRequired : ∀ system ∈ db.systems, system.users ≠ []
  usersExist : ∀ system ∈ db.systems, ∀ id ∈ system.users, ∃ user ∈ db.users, user.id = id
  tokenRequired : ∀ id, db.token id ≠ some ""

section Export

variable {env : SyncEnv} {db : ConfigDb} {system : SystemRecord}

theorem mem_byName : system ∈ db.byName ↔ system ∈ db.systems :=
  mem_insertionSort _

theorem resolveUsers_export (hdb : Consistent db) (hsys : system ∈ db.systems) :
    resolveUsers db.users (system.users.filterMap fun id =>
      (getUserEmailMap db.users (db.byName.flatMap (·.users))).lookup id) = system.users := by
  have hback : (system.users.filterMap fun id =>
      (getUserEmailMap db.users (db.byName.flatMap (·.users))).lookup id).filterMap
        (fun email => (userEmailToID db.users).lookup email) = system.users := by
    rw [filterMap_filterMap]
    conv_rhs => rw [← filterMap_some (l := system.users)]
    refine filterMap_congr fun id hid => ?_
    obtain ⟨user, huser, rfl⟩ := hdb.usersExist system hsys id hid
    have hkept : user ∈ db.users.filter fun user => user.id ∈ db.byName.flatMap (·.users) :=
      mem_filter.mpr ⟨huser, decide_eq_true
        (mem_flatMap.mpr ⟨system, mem_byName.mpr hsys, hid⟩)⟩
    have hids : ((db.users.filter fun user =>
        user.id ∈ db.byName.flatMap (·.users)).map Account.id).Nodup :=
      hdb.userIds.sublist (filter_sublist.map _)
    have hemail : (getUserEmailMap db.users (db.byName.flatMap (·.users))).lookup user.id =
        some user.email := GoMap.lookup_index_of_nodup hids hkept
    have hid : (userEmailToID db.users).lookup user.email = some user.id :=
      GoMap.lookup_index_of_nodup hdb.emails huser
    rw [hemail]
    exact hid
  -- the default of the first user is not used: there are emails
  unfold resolveUsers
  split
  · next hemails =>
    rw [hemails] at hback
    exact absurd hback.symm (hdb.usersRequired system hsys)
  · exact hback

def SystemRecord.exported (env : SyncEnv) (db : ConfigDb) (system : SystemRecord) :
    SystemConfig :=
  (exportSystem env (getUserEmailMap db.users (db.byName.flatMap (·.users))) db.fingerprints
    system).withDefaults db.users

theorem configured_generateYAML :
    configured db (generateYAML env db) = db.byName.map (SystemRecord.exported env db) := by
  simp only [configured, generateYAML, map_map]
  rfl

theorem find?_exported (env : SyncEnv) (db : ConfigDb) (key : String) :
    (configured db (generateYAML env db)).find? (fun entry => entry.key = key) =
      (db.taker env key).map (SystemRecord.exported env db) := by
  rw [configured_generateYAML, find?_map]
  rfl

theorem mem_of_taker {key : String} (h : db.taker env key = some system) : system ∈ db.systems :=
  mem_byName.mp (mem_of_find?_eq_some h)

theorem update_exported (env : SyncEnv) (hdb : Consistent db) (hsys : system ∈ db.systems)
    (record : SystemRecord) :
    record.update (system.exported env db) =
      { record with
        name := system.name, port := system.exportedPort env, users := system.users } := by
  have husers : (system.exported env db).users = system.users := resolveUsers_export hdb hsys
  rw [SystemRecord.update, husers]
  rfl

theorem tokenOver_exported (env : SyncEnv) (hdb : Consistent db) (token : Option String) :
    (system.exported env db).tokenOver token = token ↔
      db.token system.id = none ∨ db.token system.id = token := by
  have hexported : (system.exported env db).token = (db.token system.id).getD "" := rfl
  rw [SystemConfig.tokenOver, hexported]
  cases htoken : db.token system.id with
  | none => simp
  | some own =>
    have hown : own ≠ "" := by
      rintro rfl
      exact hdb.tokenRequired system.id htoken
    simp [hown]

end Export

/-! ## Systems stay in place -/

/-- Every system is in place, with the same id, host, port, users and token. -/
def InPlace (db db' : ConfigDb) : Prop :=
  ∀ system ∈ db.systems, ∃ record ∈ db'.systems, record.id = system.id ∧
    record.host = system.host ∧ record.port = system.port ∧ record.users = system.users ∧
    db'.token system.id = db.token system.id

/-- A system that is the last one with its key is taken by an entry with its port, its users, and
    its token or none. -/
def RoundTrips (env : SyncEnv) (db : ConfigDb) : Prop :=
  ∀ system ∈ db.systems, (existingSystemsMap db.systems).lookup system.key = some system →
    ∃ source ∈ db.taker env system.key, source.exportedPort env = system.port ∧
      source.users = system.users ∧
      (db.token source.id = none ∨ db.token source.id = db.token system.id)
deriving Decidable

section InPlace

variable {env : SyncEnv} {faults : SyncFaults} {db db' : ConfigDb} {system : SystemRecord}

theorem notMem_ids_of_shadowed (hsys : system ∈ db.systems)
    (hshadowed : (existingSystemsMap db.systems).lookup system.key ≠ some system) :
    system.id ∉ (existingSystemsMap db.systems).ids := by
  intro hmem
  obtain ⟨key, record, hlookup, hid⟩ := mem_ids.mp hmem
  have htracks := tracks_existingSystemsMap db
  obtain rfl : record = system := ConfigDb.eq_of_id (htracks.mem _ _ hlookup) hsys hid
  rw [htracks.key _ _ hlookup] at hshadowed
  exact hshadowed hlookup

theorem inPlace_of_roundTrips (hdb : Consistent db) (h : RoundTrips env db) :
    InPlace db (syncSystems env faults (.parsed (generateYAML env db)) db).2 := by
  intro system hsys
  have hstored : Stored system (db.token system.id) db := ⟨hsys, rfl⟩
  by_cases hlookup : (existingSystemsMap db.systems).lookup system.key = some system
  · obtain ⟨source, htaker, hport, husers, htoken⟩ := h system hsys hlookup
    have hfind := find?_exported env db system.key
    rw [htaker] at hfind
    have hupdate := update_exported env hdb (mem_of_taker htaker) system
    have hover := (tokenOver_exported env hdb (db.token system.id)).mpr htoken
    rcases syncSystems_taken hstored hlookup hfind env faults with
      hkept | ⟨token, htoken', hkept⟩
    · exact ⟨system, hkept.1, rfl, rfl, rfl, rfl, hkept.2⟩
    · have htoken' : token = db.token system.id := by
        rcases htoken' with rfl | rfl
        · rfl
        · exact hover
      rw [hupdate, htoken'] at hkept
      exact ⟨_, hkept.1, rfl, rfl, hport, husers, hkept.2⟩
  · have hkept := stored_syncSystems env faults (generateYAML env db) hstored
      (notMem_ids_of_shadowed hsys hlookup)
    exact ⟨system, hkept.1, rfl, rfl, rfl, rfl, hkept.2⟩

theorem roundTrips_of_inPlace (hdb : Consistent db)
    (hsync : syncSystems env faults (.parsed (generateYAML env db)) db = (.synced, db'))
    (h : InPlace db db') : RoundTrips env db := by
  intro system hsys hlookup
  have hstored : Stored system (db.token system.id) db := ⟨hsys, rfl⟩
  obtain ⟨record, hrec, hid, _, hport, husers, htoken⟩ := h system hsys
  have hfind := find?_exported env db system.key
  cases htaker : db.taker env system.key with rw [htaker] at hfind
  | none =>
    exact absurd hid (synced_dropped hsync hlookup hfind record hrec)
  | some source =>
    have hupd := synced_taken hstored hlookup hfind hsync
    rw [update_exported env hdb (mem_of_taker htaker)] at hupd
    have hover : (source.exported env db).tokenOver (db.token system.id) = db.token system.id :=
      hupd.2.symm.trans htoken
    obtain rfl := ConfigDb.eq_of_id hrec hupd.1 hid
    exact ⟨source, rfl, hport, husers, (tokenOver_exported env hdb _).mp hover⟩

end InPlace

/-- **Export and sync**: the exported config leaves every system in place, whichever accesses fail,
    exactly if every system that is the last one with its key is taken by an entry with its port,
    its users and its token. -/
theorem export_in_place_iff (env : SyncEnv) (db : ConfigDb) (hdb : Consistent db) :
    (∀ faults, InPlace db (syncSystems env faults (.parsed (generateYAML env db)) db).2) ↔
      RoundTrips env db := by
  constructor
  · intro h
    by_cases hne : generateYAML env db = []
    · -- nothing is stored
      intro system hsys
      have hname : db.byName = [] := map_eq_nil_iff.mp hne
      rw [← mem_byName, hname] at hsys
      cases hsys
    · obtain ⟨db', hsync⟩ := exists_synced env hne db
      have hinPlace := h .none
      rw [hsync] at hinPlace
      exact roundTrips_of_inPlace hdb hsync hinPlace
  · intro h faults
    exact inPlace_of_roundTrips hdb h

/-- Two systems with a user each, one of them with a token. -/
def rackDb : ConfigDb where
  systems := [⟨"s1", "web", "10.0.0.1", "12345", ["u1"]⟩,
    ⟨"s2", "db", "10.0.0.2", "45876", ["u2"]⟩]
  nodup := by decide
  users := [⟨"u1", "ana@b.c"⟩, ⟨"u2", "ben@b.c"⟩]
  fingerprints := AList.singleton "s2" ⟨"token-2", "print-2"⟩

theorem token_singleton (id id' : String) (record : FingerprintRecord) :
    ((AList.singleton id' record : GoMap String FingerprintRecord).lookup id).map (·.token) =
      if id = id' then some record.token else none := by
  rw [← AList.insert_empty]
  split_ifs with hid
  · rw [hid, AList.lookup_insert]
    rfl
  · rw [AList.lookup_insert_ne hid]
    rfl

theorem rackDb_consistent : Consistent rackDb where
  userIds := by decide
  emails := by decide
  usersRequired := by decide
  usersExist := by decide
  tokenRequired id := by
    show Option.map _ _ ≠ _
    rw [rackDb, token_singleton]
    split_ifs <;> simp

theorem rack_in_place : Consistent rackDb ∧ ∀ faults,
    InPlace rackDb
      (syncSystems sampleEnv faults (.parsed (generateYAML sampleEnv rackDb)) rackDb).2 := by
  have hcond : RoundTrips sampleEnv rackDb := by decide +kernel
  exact ⟨rackDb_consistent,
    (export_in_place_iff sampleEnv rackDb rackDb_consistent).mpr hcond⟩

/-- Two systems with one name and the same key. -/
def twinDb : ConfigDb where
  systems := [⟨"s1", "web", "10.0.0.1", "12345", ["u1"]⟩,
    ⟨"s2", "web", "10.0.0.11", "2345", ["u1"]⟩]
  nodup := by decide
  users := [⟨"u1", "ana@b.c"⟩]
  fingerprints := ∅

theorem twinDb_consistent : Consistent twinDb where
  userIds := by decide
  emails := by decide
  usersRequired := by decide
  usersExist := by decide
  tokenRequired id := by
    show Option.map _ ((∅ : GoMap String FingerprintRecord).lookup id) ≠ _
    simp

/-- **The port of an exported system changes**: the entry of the first system takes the second
    one. -/
theorem port_of_exported_system_changes :
    Consistent twinDb ∧ (twinDb.systems.map (·.identity)).Nodup ∧
      (syncSystems sampleEnv .none (.parsed (generateYAML sampleEnv twinDb)) twinDb).1 =
        .synced ∧
      (syncSystems sampleEnv .none
        (.parsed (generateYAML sampleEnv twinDb)) twinDb).2.systems.map (·.identity) =
          [("web", "10.0.0.1", "12345"), ("web", "10.0.0.11", "12345"),
            ("web", "10.0.0.11", "2345")] ∧
      ¬ InPlace twinDb
        (syncSystems sampleEnv .none (.parsed (generateYAML sampleEnv twinDb)) twinDb).2 := by
  refine ⟨twinDb_consistent, by decide, by decide +kernel, by decide +kernel, ?_⟩
  unfold InPlace
  decide +kernel

end Bantay.Config
