import Mathlib.Algebra.Order.BigOperators.Group.List
import Mathlib.Algebra.Order.Ring.Nat
import Mathlib.Data.List.Perm.Basic
import Bantay.Config.SyncSystems

/-!
# The Database after a Sync

What `SyncSystems` leaves in the database.  A stored system is settled once no entry can take it
any more: every entry settles one system, the one it updates or the one it creates, and the
systems that are left at the end are deleted.  So the systems after a sync are those that were
settled from the start, because the map of existing systems does not hold them, and one for each
entry.
-/

namespace Bantay.Config

open Bantay.Lib List ExistingSystems

/-! ## Systems that are left -/

section Existing

variable {existing : ExistingSystems} {db : ConfigDb} {key : String} {system record : SystemRecord}

theorem ExistingSystems.mem_ids {id : String} :
    id ∈ existing.ids ↔ ∃ key system, existing.lookup key = some system ∧ system.id = id := by
  constructor
  · intro h
    obtain ⟨entry, hent, rfl⟩ := mem_map.mp h
    exact ⟨entry.1, entry.2, AList.mem_lookup_iff.mpr hent, rfl⟩
  · rintro ⟨key, system, hlookup, rfl⟩
    exact mem_map.mpr ⟨⟨key, system⟩, AList.mem_lookup_iff.mp hlookup, rfl⟩

/-- The systems of the map are stored, each under its key. -/
structure Tracks (existing : ExistingSystems) (db : ConfigDb) : Prop where
  key : ∀ key system, existing.lookup key = some system → system.key = key
  mem : ∀ key system, existing.lookup key = some system → system ∈ db.systems

theorem tracks_existingSystemsMap (db : ConfigDb) : Tracks (existingSystemsMap db.systems) db := by
  constructor
  · intro key system h
    obtain ⟨record, _, hkey, rfl⟩ := GoMap.exists_of_lookup_index h
    exact hkey
  · intro key system h
    obtain ⟨record, hrec, _, rfl⟩ := GoMap.exists_of_lookup_index h
    exact hrec

theorem ConfigDb.eq_of_id (hsys : system ∈ db.systems) (hrec : record ∈ db.systems)
    (hid : system.id = record.id) : system = record :=
  inj_on_of_nodup_map db.nodup hsys hrec hid

theorem Tracks.ids_subset (h : Tracks existing db) : existing.ids ⊆ db.ids := by
  intro id hid
  obtain ⟨key, system, hlookup, rfl⟩ := mem_ids.mp hid
  exact mem_map_of_mem (h.mem key system hlookup)

theorem Tracks.notMem_ids_erase (h : Tracks existing db)
    (hlookup : existing.lookup key = some system) :
    system.id ∉ ExistingSystems.ids (existing.erase key) := by
  intro hid
  obtain ⟨key', record, herase, hid⟩ := mem_ids.mp hid
  obtain ⟨hkey, hrec⟩ := GoMap.of_lookup_erase herase
  have heq : record = system :=
    ConfigDb.eq_of_id (h.mem _ _ hrec) (h.mem _ _ hlookup) hid
  apply hkey
  rw [← h.key _ _ hrec, ← h.key _ _ hlookup, heq]

theorem mem_ids_erase_of_ne {id : String} (hlookup : existing.lookup key = some system)
    (hid : id ≠ system.id) : id ∈ ExistingSystems.ids (existing.erase key) ↔ id ∈ existing.ids := by
  rw [mem_ids, mem_ids]
  constructor
  · rintro ⟨key', record, herase, hrecId⟩
    exact ⟨key', record, (GoMap.of_lookup_erase herase).2, hrecId⟩
  · rintro ⟨key', record, hrec, hrecId⟩
    have hkey : key' ≠ key := by
      rintro rfl
      obtain rfl : system = record := Option.some.inj (hlookup.symm.trans hrec)
      exact hid hrecId.symm
    refine ⟨key', record, ?_, hrecId⟩
    rw [AList.lookup_erase_ne hkey]
    exact hrec

theorem ids_erase_subset : ExistingSystems.ids (existing.erase key) ⊆ existing.ids := by
  intro id hid
  obtain ⟨key', record, herase, hrecId⟩ := mem_ids.mp hid
  exact mem_ids.mpr ⟨key', record, (GoMap.of_lookup_erase herase).2, hrecId⟩

end Existing

/-! ## One entry -/

section Entry

variable {env : SyncEnv} {faults : EntryFaults} {entry : SystemConfig}
  {existing existing' : ExistingSystems} {db db' : ConfigDb} {system record : SystemRecord}

@[simp]
theorem updateFingerprintToken_systems (id token : String) :
    (db.updateFingerprintToken id token).systems = db.systems := by
  unfold ConfigDb.updateFingerprintToken
  split <;> rfl

@[simp]
theorem updateFingerprintToken_users (id token : String) :
    (db.updateFingerprintToken id token).users = db.users := by
  unfold ConfigDb.updateFingerprintToken
  split <;> rfl

/-- A round does nothing to the systems, updates the one left under the key of its entry, or
    creates one.  If it succeeds, the key is used up. -/
inductive EntryEffect (env : SyncEnv) (entry : SystemConfig) (existing : ExistingSystems)
    (db : ConfigDb) : ConfigDb × Except String ExistingSystems → Prop where
  | refused {err : String} : EntryEffect env entry existing db (db, .error err)
  | updated {db' : ConfigDb} {result : Except String ExistingSystems} (system : SystemRecord)
      (hlookup : existing.lookup entry.key = some system)
      (hsystems : db'.systems = (db.saveSystem system.id entry).systems)
      (husers : db'.users = db.users)
      (hresult : ∀ existing', result = .ok existing' → existing' = existing.erase entry.key) :
      EntryEffect env entry existing db (db', result)
  | created {db' : ConfigDb} {result : Except String ExistingSystems}
      (hlookup : existing.lookup entry.key = none)
      (hsystems : db'.systems = db.systems ++ [entry.record (env.newId db.ids)])
      (husers : db'.users = db.users)
      (hresult : ∀ existing', result = .ok existing' → existing' = existing.erase entry.key) :
      EntryEffect env entry existing db (db', result)

/-- **One round** of the loop over the configuration. -/
theorem syncEntry_effect (env : SyncEnv) (faults : EntryFaults) (entry : SystemConfig)
    (existing : ExistingSystems) (db : ConfigDb) :
    EntryEffect env entry existing db (syncEntry env faults entry existing db) := by
  unfold syncEntry
  cases hlookup : existing.lookup entry.key with
  | none =>
    show EntryEffect env entry existing db (createNew env faults entry existing db)
    unfold createNew
    split
    · exact .refused
    · split
      · exact .refused
      · split
        · exact .created hlookup rfl rfl fun _ h => nomatch h
        · refine .created hlookup rfl rfl ?_
          intro existing' h
          rw [GoMap.erase_of_lookup_none hlookup]
          exact (Except.ok.inj h).symm
  | some system =>
    show EntryEffect env entry existing db (updateExisting faults entry system existing db)
    unfold updateExisting
    split
    · exact .refused
    · show EntryEffect env entry existing db (if _ then _ else _)
      split_ifs
      · exact .updated system hlookup rfl rfl fun _ h => (Except.ok.inj h).symm
      · split
        · exact .updated system hlookup rfl rfl fun _ h => nomatch h
        · exact .updated system hlookup (updateFingerprintToken_systems _ _)
            (updateFingerprintToken_users _ _) fun _ h => (Except.ok.inj h).symm

theorem mem_saveSystem_of_ne {id : String} (hrec : record ∈ db.systems)
    (hid : record.id ≠ id) : record ∈ (db.saveSystem id entry).systems :=
  mem_map.mpr ⟨record, hrec, if_neg hid⟩

theorem ids_of_saveSystem {id : String}
    (hsystems : db'.systems = (db.saveSystem id entry).systems) : db'.ids = db.ids := by
  rw [ConfigDb.ids, hsystems]
  exact ConfigDb.map_update_ids db.systems id entry

section Synced

variable (hsync : syncEntry env faults entry existing db = (db', .ok existing'))
include hsync

theorem syncEntry_erases : existing' = existing.erase entry.key := by
  have heff := syncEntry_effect env faults entry existing db
  rw [hsync] at heff
  cases heff with
  | updated _ _ _ _ hresult => exact hresult existing' rfl
  | created _ _ _ hresult => exact hresult existing' rfl

theorem syncEntry_users : db'.users = db.users := by
  have heff := syncEntry_effect env faults entry existing db
  rw [hsync] at heff
  cases heff with
  | updated _ _ _ husers _ => exact husers
  | created _ _ husers _ => exact husers

theorem Tracks.syncEntry (h : Tracks existing db) : Tracks existing' db' := by
  have heff := syncEntry_effect env faults entry existing db
  obtain rfl := syncEntry_erases hsync
  rw [hsync] at heff
  refine ⟨fun key record herase => h.key key record (GoMap.of_lookup_erase herase).2, ?_⟩
  intro key record herase
  have hrec : record ∈ db.systems := h.mem key record (GoMap.of_lookup_erase herase).2
  cases heff with rw [hsystems]
  | updated system hlookup hsystems _ _ =>
    apply mem_saveSystem_of_ne hrec
    intro hid
    apply h.notMem_ids_erase hlookup
    rw [← hid]
    exact mem_ids.mpr ⟨key, record, herase, rfl⟩
  | created _ hsystems _ _ =>
    exact mem_append_left _ hrec

end Synced

/-! ## Settled systems -/

/-- The stored systems that are not left. -/
def settled (existing : ExistingSystems) (db : ConfigDb) : List SystemRecord :=
  db.systems.filter fun record => record.id ∉ existing.ids

theorem mem_settled : record ∈ settled existing db ↔
    record ∈ db.systems ∧ record.id ∉ existing.ids := by
  rw [settled, mem_filter, decide_eq_true_eq]

/-- An entry that takes a system adds it, updated, to those that are settled. -/
theorem settled_update (h : Tracks existing db) (hlookup : existing.lookup entry.key = some system)
    (hsystems : db'.systems = (db.saveSystem system.id entry).systems) :
    (settled (existing.erase entry.key) db').Perm (system.update entry :: settled existing db) := by
  obtain ⟨before, after, hsplit⟩ := append_of_mem (h.mem _ _ hlookup)
  have hnd := db.nodup
  rw [hsplit, map_append, map_cons, nodup_middle, nodup_cons] at hnd
  -- the other systems are not updated, and are left as before
  have hother : ∀ record ∈ before ++ after, record.id ≠ system.id := by
    intro record hrec heq
    apply hnd.1
    rw [← heq, ← map_append]
    exact mem_map_of_mem hrec
  have hsame : ∀ l : List SystemRecord, (∀ record ∈ l, record.id ≠ system.id) →
      (l.map fun record => if record.id = system.id then record.update entry else record).filter
          (fun record => record.id ∉ ids (existing.erase entry.key)) =
        l.filter fun record => record.id ∉ existing.ids := by
    intro l hl
    have hmap : (l.map fun record =>
        if record.id = system.id then record.update entry else record) = l := by
      conv_rhs => rw [← map_id l]
      apply map_congr_left
      intro record hrec
      exact if_neg (hl record hrec)
    rw [hmap]
    apply filter_congr
    intro record hrec
    simp only [mem_ids_erase_of_ne hlookup (hl record hrec)]
  have hbef := hsame before fun record hrec =>
    hother record (mem_append_left after hrec)
  have hafter := hsame after fun record hrec =>
    hother record (mem_append_right before hrec)
  have hleft : system.id ∈ existing.ids := mem_ids.mpr ⟨_, _, hlookup, rfl⟩
  have hsettled : system.id ∉ ids (existing.erase entry.key) :=
    h.notMem_ids_erase hlookup
  unfold settled
  rw [hsystems, ConfigDb.saveSystem]
  dsimp only
  rw [hsplit, map_append, map_cons, filter_append, filter_append, hbef, if_pos rfl, filter_cons,
    filter_cons, hafter]
  have hupd : (system.update entry).id = system.id := rfl
  simp only [hupd, hleft, hsettled, not_true_eq_false, not_false_eq_true, decide_true,
    decide_false, if_true, Bool.false_eq_true, if_false]
  exact perm_middle

theorem settled_create (h : Tracks existing db)
    (hsystems : db'.systems = db.systems ++ [entry.record (env.newId db.ids)]) :
    (settled existing db').Perm (entry.record (env.newId db.ids) :: settled existing db) := by
  have hnew : env.newId db.ids ∉ existing.ids :=
    fun hmem => env.newId_fresh db.ids (h.ids_subset hmem)
  have hfilter : [entry.record (env.newId db.ids)].filter
      (fun record => record.id ∉ existing.ids) = [entry.record (env.newId db.ids)] := by
    simp [SystemConfig.record, hnew]
  unfold settled
  rw [hsystems, filter_append, hfilter]
  exact perm_append_singleton _ _

def takeover (existing : ExistingSystems) (entry : SystemConfig) : Identity :=
  match existing.lookup entry.key with
  | some system => (entry.name, system.host, entry.portText)
  | none => entry.identity

theorem settled_syncEntry (h : Tracks existing db)
    (hsync : syncEntry env faults entry existing db = (db', .ok existing')) :
    ((settled existing' db').map (·.identity)).Perm
      (takeover existing entry :: (settled existing db).map (·.identity)) := by
  have heff := syncEntry_effect env faults entry existing db
  obtain rfl := syncEntry_erases hsync
  rw [hsync] at heff
  cases heff with
  | updated system hlookup hsystems _ _ =>
    have htakeover : takeover existing entry = (system.update entry).identity := by
      simp only [takeover, hlookup]
      rfl
    rw [htakeover]
    exact (settled_update h hlookup hsystems).map (·.identity)
  | created hlookup hsystems _ _ =>
    have htakeover : takeover existing entry =
        (entry.record (env.newId db.ids)).identity := by
      simp only [takeover, hlookup]
      rfl
    rw [htakeover, GoMap.erase_of_lookup_none hlookup]
    exact (settled_create h hsystems).map (·.identity)

theorem ids_subset_syncEntry : db.ids ⊆ (syncEntry env faults entry existing db).1.ids := by
  have heff := syncEntry_effect env faults entry existing db
  generalize syncEntry env faults entry existing db = result at heff ⊢
  cases heff with
  | refused => exact List.Subset.refl _
  | updated _ _ hsystems _ _ =>
    rw [ids_of_saveSystem hsystems]
    exact List.Subset.refl _
  | created _ hsystems _ _ =>
    rw [ConfigDb.ids, ConfigDb.ids, hsystems, map_append]
    exact subset_append_left _ _

theorem syncEntry_ids_of_found (hfound : existing.lookup entry.key ≠ none) :
    (syncEntry env faults entry existing db).1.ids = db.ids := by
  have heff := syncEntry_effect env faults entry existing db
  generalize syncEntry env faults entry existing db = result at heff ⊢
  cases heff with
  | refused => rfl
  | updated _ _ hsystems _ _ => exact ids_of_saveSystem hsystems
  | created hlookup _ _ _ => exact absurd hlookup hfound

theorem exists_syncEntry (env : SyncEnv) (i : Nat) (entry : SystemConfig)
    (existing : ExistingSystems) (db : ConfigDb) :
    ∃ db' existing', syncEntry env (SyncFaults.none.entry i) entry existing db =
      (db', .ok existing') := by
  unfold syncEntry
  cases existing.lookup entry.key with
  | none => exact ⟨_, _, rfl⟩
  | some system =>
    by_cases htoken : entry.token = ""
    · exact ⟨_, _, if_pos htoken⟩
    · exact ⟨_, _, if_neg htoken⟩

end Entry

/-! ## The loops -/

section Loop

variable {env : SyncEnv} {faults : Nat → EntryFaults} {i : Nat} {entries : List SystemConfig}
  {existing existing' : ExistingSystems} {db db' : ConfigDb}

theorem syncEntries_cons_ok {entry : SystemConfig}
    (hsync : syncEntries env faults i (entry :: entries) existing db = (db', .ok existing')) :
    ∃ db₁, syncEntry env (faults i) entry existing db = (db₁, .ok (existing.erase entry.key)) ∧
      syncEntries env faults (i + 1) entries (existing.erase entry.key) db₁ =
        (db', .ok existing') := by
  rw [syncEntries] at hsync
  cases hent : syncEntry env (faults i) entry existing db with
  | mk db₁ result =>
    cases result with simp only [hent] at hsync
    | error err =>
      cases hsync
    | ok existing₁ =>
      obtain rfl := syncEntry_erases hent
      exact ⟨db₁, rfl, hsync⟩

theorem syncEntries_users
    (hsync : syncEntries env faults i entries existing db = (db', .ok existing')) :
    db'.users = db.users := by
  induction entries generalizing i existing db with
  | nil =>
    cases hsync
    rfl
  | cons entry entries ih =>
    obtain ⟨db₁, hent, hrest⟩ := syncEntries_cons_ok hsync
    exact (ih hrest).trans (syncEntry_users hent)

/-- The identities with which the entries settle systems, one after the other. -/
def takeovers (existing : ExistingSystems) : List SystemConfig → List Identity
  | [] => []
  | entry :: entries =>
    takeover existing entry :: takeovers (existing.erase entry.key) entries

theorem length_takeovers : (takeovers existing entries).length = entries.length := by
  induction entries generalizing existing with
  | nil => rfl
  | cons entry entries ih => rw [takeovers, length_cons, length_cons, ih]

theorem key_ne_of_notMem {entry entry' : SystemConfig} (hnew : entry.key ∉ entries.map (·.key))
    (hent' : entry' ∈ entries) : entry'.key ≠ entry.key := by
  intro heq
  apply hnew
  rw [← heq]
  exact mem_map_of_mem hent'

theorem takeovers_of_nodup (hnd : (entries.map (·.key)).Nodup) :
    takeovers existing entries = entries.map (takeover existing) := by
  induction entries generalizing existing with
  | nil => rfl
  | cons entry entries ih =>
    rw [map_cons, nodup_cons] at hnd
    rw [takeovers, map_cons, ih hnd.2]
    congr 1
    apply map_congr_left
    intro entry' hent'
    simp only [takeover, AList.lookup_erase_ne (key_ne_of_notMem hnd.1 hent')]

theorem settled_syncEntries (h : Tracks existing db)
    (hsync : syncEntries env faults i entries existing db = (db', .ok existing')) :
    ((settled existing' db').map (·.identity)).Perm
      (takeovers existing entries ++ (settled existing db).map (·.identity)) := by
  induction entries generalizing i existing db with
  | nil =>
    cases hsync
    exact .refl _
  | cons entry entries ih =>
    obtain ⟨db₁, hent, hrest⟩ := syncEntries_cons_ok hsync
    have htail := ih (h.syncEntry hent) hrest
    have hhead := settled_syncEntry h hent
    exact htail.trans ((hhead.append_left _).trans perm_middle)

theorem syncEntries_left {key : String} {system : SystemRecord}
    (hsync : syncEntries env faults i entries existing db = (db', .ok existing'))
    (hleft : existing'.lookup key = some system) :
    existing.lookup key = some system ∧ key ∉ entries.map (·.key) := by
  induction entries generalizing i existing db with
  | nil =>
    cases hsync
    exact ⟨hleft, not_mem_nil⟩
  | cons entry entries ih =>
    obtain ⟨db₁, _, hrest⟩ := syncEntries_cons_ok hsync
    obtain ⟨herase, hkey⟩ := ih hrest
    obtain ⟨hne, hlookup⟩ := GoMap.of_lookup_erase herase
    refine ⟨hlookup, ?_⟩
    rw [map_cons, mem_cons, not_or]
    exact ⟨hne, hkey⟩

theorem deleteSystems_systems {faults : Nat → Option String} {ids : List String}
    (hdel : deleteSystems faults i ids db = (db', none)) :
    db'.systems = db.systems.filter fun record => record.id ∉ ids := by
  induction ids generalizing i db with
  | nil =>
    cases hdel
    simp
  | cons id ids ih =>
    rw [deleteSystems] at hdel
    split at hdel
    · cases hdel
    · rw [ih hdel, ConfigDb.deleteSystem, filter_filter]
      apply filter_congr
      intro record _
      rw [Bool.eq_iff_iff]
      simp [and_comm]

theorem deleteSystems_users {faults : Nat → Option String} {ids : List String} :
    (deleteSystems faults i ids db).1.users = db.users := by
  induction ids generalizing i db with
  | nil => rfl
  | cons id ids ih =>
    rw [deleteSystems]
    split
    · rfl
    · exact ih

theorem ids_subset_syncEntries : db.ids ⊆ (syncEntries env faults i entries existing db).1.ids := by
  induction entries generalizing i existing db with
  | nil => exact List.Subset.refl _
  | cons entry entries ih =>
    have hround : db.ids ⊆ (syncEntry env (faults i) entry existing db).1.ids :=
      ids_subset_syncEntry
    rw [syncEntries]
    split
    · next hent =>
      rwa [hent] at hround
    · next hent =>
      rw [hent] at hround
      exact List.Subset.trans hround ih

theorem syncEntries_ids_of_found (hnd : (entries.map (·.key)).Nodup)
    (hfound : ∀ entry ∈ entries, existing.lookup entry.key ≠ none) :
    (syncEntries env faults i entries existing db).1.ids = db.ids := by
  induction entries generalizing i existing db with
  | nil => rfl
  | cons entry entries ih =>
    rw [map_cons, nodup_cons] at hnd
    have hround : (syncEntry env (faults i) entry existing db).1.ids = db.ids :=
      syncEntry_ids_of_found (hfound entry mem_cons_self)
    rw [syncEntries]
    split
    · next hent =>
      rwa [hent] at hround
    · next hent =>
      rw [hent] at hround
      obtain rfl := syncEntry_erases hent
      rw [← hround]
      apply ih hnd.2
      intro entry' hent'
      -- its key has not been used up
      rw [AList.lookup_erase_ne (key_ne_of_notMem hnd.1 hent')]
      exact hfound entry' (mem_cons_of_mem entry hent')

theorem found_of_ids_subset
    (hsync : syncEntries env faults i entries existing db = (db', .ok existing'))
    (hids : db'.ids ⊆ db.ids) :
    (entries.map (·.key)).Nodup ∧ ∀ entry ∈ entries, existing.lookup entry.key ≠ none := by
  induction entries generalizing i existing db with
  | nil => exact ⟨nodup_nil, fun entry hent => nomatch hent⟩
  | cons entry entries ih =>
    obtain ⟨db₁, hent, hrest⟩ := syncEntries_cons_ok hsync
    have hlater : db₁.ids ⊆ db'.ids := by
      have hsubset : db₁.ids ⊆ (syncEntries env faults (i + 1) entries
        (existing.erase entry.key) db₁).1.ids := ids_subset_syncEntries
      rw [hrest] at hsubset
      exact hsubset
    have heff := syncEntry_effect env (faults i) entry existing db
    rw [hent] at heff
    cases heff with
    | updated system hlookup hsystems _ _ =>
      obtain ⟨hnd, hfound⟩ := ih hrest (ids_of_saveSystem hsystems ▸ hids)
      have hother : ∀ entry' ∈ entries,
          entry'.key ≠ entry.key ∧ existing.lookup entry'.key ≠ none := by
        intro entry' hent'
        cases herase : (existing.erase entry.key).lookup entry'.key with
        | none => exact absurd herase (hfound entry' hent')
        | some record =>
          obtain ⟨hne, hrec⟩ := GoMap.of_lookup_erase herase
          exact ⟨hne, by rw [hrec]; exact Option.some_ne_none record⟩
      constructor
      · rw [map_cons, nodup_cons]
        refine ⟨?_, hnd⟩
        intro hmem
        obtain ⟨entry', hent', heq⟩ := mem_map.mp hmem
        exact (hother entry' hent').1 heq
      · intro entry' hent'
        rcases mem_cons.mp hent' with rfl | hmem
        · rw [hlookup]
          exact Option.some_ne_none system
        · exact (hother entry' hmem).2
    | created _ hsystems _ _ =>
      -- the new system has a new id
      have hnew : env.newId db.ids ∈ db₁.ids := by
        rw [ConfigDb.ids, hsystems, map_append]
        exact mem_append_right _ mem_cons_self
      exact absurd (hids (hlater hnew)) (env.newId_fresh db.ids)

theorem exists_syncEntries (env : SyncEnv) (i : Nat) (entries : List SystemConfig)
    (existing : ExistingSystems) (db : ConfigDb) :
    ∃ db' existing', syncEntries env SyncFaults.none.entry i entries existing db =
      (db', .ok existing') := by
  induction entries generalizing i existing db with
  | nil => exact ⟨db, existing, rfl⟩
  | cons entry entries ih =>
    obtain ⟨db₁, existing₁, hent⟩ := exists_syncEntry env i entry existing db
    rw [syncEntries, hent]
    exact ih (i + 1) existing₁ db₁

theorem exists_deleteSystems (i : Nat) (ids : List String) (db : ConfigDb) :
    ∃ db', deleteSystems SyncFaults.none.delete i ids db = (db', none) := by
  induction ids generalizing i db with
  | nil => exact ⟨db, rfl⟩
  | cons id ids ih => exact ih (i + 1) (db.deleteSystem id)

end Loop

/-! ## A sync -/

section Sync

variable {env : SyncEnv} {faults : SyncFaults} {config : List SystemConfig} {db db' : ConfigDb}

theorem SyncFaults.mem_order {ids : List String} {id : String} :
    id ∈ faults.order ids ↔ id ∈ ids :=
  (faults.order_perm ids).mem_iff

/-- The entries of the config, with their defaults. -/
def configured (db : ConfigDb) (config : List SystemConfig) : List SystemConfig :=
  config.map (·.withDefaults db.users)

theorem syncSystems_synced (hsync : syncSystems env faults (.parsed config) db = (.synced, db')) :
    ∃ db₁ existing, syncEntries env faults.entry 0 (configured db config)
        (existingSystemsMap db.systems) db = (db₁, .ok existing) ∧
      db'.systems = settled existing db₁ ∧ db'.users = db.users ∧ config ≠ [] := by
  cases config with
  | nil => cases hsync
  | cons entry entries =>
    simp only [syncSystems] at hsync
    split at hsync
    · cases hsync
    · cases hsync
    · split at hsync
      · cases hsync
      · next db₁ existing hents =>
        split at hsync
        · cases hsync
        · next db₂ hdel =>
          cases hsync
          refine ⟨db₁, existing, hents, ?_, ?_, cons_ne_nil entry entries⟩
          · rw [deleteSystems_systems hdel]
            simp only [SyncFaults.mem_order]
            rfl
          · have husers : (deleteSystems faults.delete 0 (faults.order existing.ids) db₁).1.users =
                db₁.users := deleteSystems_users
            rw [hdel] at husers
            exact husers.trans (syncEntries_users hents)

theorem synced_systems (hsync : syncSystems env faults (.parsed config) db = (.synced, db')) :
    (db'.systems.map (·.identity)).Perm
      (takeovers (existingSystemsMap db.systems) (configured db config) ++
        (settled (existingSystemsMap db.systems) db).map (·.identity)) := by
  obtain ⟨db₁, existing, hents, hsystems, _⟩ := syncSystems_synced hsync
  rw [hsystems]
  exact settled_syncEntries (tracks_existingSystemsMap db) hents

theorem settled_existingSystemsMap_iff :
    settled (existingSystemsMap db.systems) db = [] ↔ (db.systems.map (·.key)).Nodup := by
  have htracks := tracks_existingSystemsMap db
  rw [settled, filter_eq_nil_iff]
  constructor
  · intro hleft
    -- every system is found under its own key
    have hfound : ∀ record ∈ db.systems,
        (existingSystemsMap db.systems).lookup record.key = some record := by
      intro record hrec
      have hid : record.id ∈ (existingSystemsMap db.systems).ids := by
        by_contra hnot
        exact hleft record hrec (decide_eq_true hnot)
      obtain ⟨key, system, hlookup, hsys⟩ := mem_ids.mp hid
      obtain rfl : system = record :=
        ConfigDb.eq_of_id (htracks.mem _ _ hlookup) hrec hsys
      rw [htracks.key _ _ hlookup]
      exact hlookup
    refine List.Nodup.map_on ?_ (List.Nodup.of_map _ db.nodup)
    intro record hrec record' hrec' hkey
    have hsome := hfound record hrec
    rw [hkey, hfound record' hrec'] at hsome
    exact (Option.some.inj hsome).symm
  · intro hnd record hrec hnot
    apply of_decide_eq_true hnot
    exact mem_ids.mpr
      ⟨record.key, record, GoMap.lookup_index_of_nodup hnd hrec, rfl⟩

/-- Another sync with the same config creates and deletes no system, whatever fails. -/
def Stable (env : SyncEnv) (config : List SystemConfig) (db : ConfigDb) : Prop :=
  ∀ faults, (syncSystems env faults (.parsed config) db).2.ids = db.ids

theorem exists_synced (env : SyncEnv) (hne : config ≠ []) (db : ConfigDb) :
    ∃ db', syncSystems env .none (.parsed config) db = (.synced, db') := by
  cases config with
  | nil => exact absurd rfl hne
  | cons entry entries =>
    obtain ⟨db₁, existing, hents⟩ := exists_syncEntries env 0
      (configured db (entry :: entries)) (existingSystemsMap db.systems) db
    obtain ⟨db₂, hdel⟩ := exists_deleteSystems 0 existing.ids db₁
    refine ⟨db₂, ?_⟩
    rw [configured] at hents
    have horder : SyncFaults.none.order existing.ids = existing.ids := rfl
    simp only [syncSystems, hents, horder, hdel]
    rfl

theorem keys_nodup_of_stable (hne : config ≠ []) (hstable : Stable env config db) :
    ((configured db config).map (·.key)).Nodup := by
  have htracks := tracks_existingSystemsMap db
  obtain ⟨db', hsync⟩ := exists_synced env hne db
  obtain ⟨db₁, existing, hents, hsystems, _⟩ := syncSystems_synced hsync
  have hids : db'.ids = db.ids := by
    have hafter := hstable .none
    rw [hsync] at hafter
    exact hafter
  refine (found_of_ids_subset hents ?_).1
  intro id hid
  by_cases hleft : id ∈ existing.ids
  · -- what is left was stored before
    obtain ⟨key, system, hlookup, rfl⟩ := mem_ids.mp hleft
    have hstored := (syncEntries_left hents hlookup).1
    exact htracks.ids_subset (mem_ids.mpr ⟨key, system, hstored, rfl⟩)
  · rw [← hids, ConfigDb.ids, hsystems]
    obtain ⟨record, hrec, rfl⟩ := mem_map.mp hid
    exact mem_map_of_mem (mem_settled.mpr ⟨hrec, hleft⟩)

theorem stable_of_keys (hnd : ((configured db config).map (·.key)).Nodup)
    (hkeys : ∀ key, key ∈ (configured db config).map (·.key) ↔ key ∈ db.systems.map (·.key)) :
    Stable env config db := by
  intro faults
  have hfound : ∀ entry ∈ configured db config,
      (existingSystemsMap db.systems).lookup entry.key ≠ none := by
    intro entry hent
    obtain ⟨record, hrec, hkey⟩ :=
      mem_map.mp ((hkeys entry.key).mp (mem_map_of_mem hent))
    rw [← hkey]
    exact GoMap.lookup_index_ne_none hrec
  have hids : (syncEntries env faults.entry 0 (configured db config)
      (existingSystemsMap db.systems) db).1.ids = db.ids :=
    syncEntries_ids_of_found hnd hfound
  cases config with
  | nil => rfl
  | cons entry entries =>
    simp only [syncSystems]
    split
    · rfl
    · rfl
    · split
      · next hents =>
        rw [configured, hents] at hids
        exact hids
      · next db₁ existing hents =>
        -- no system is left
        have hnone : existing.ids = [] := by
          apply eq_nil_iff_forall_not_mem.mpr
          intro id hid
          obtain ⟨key, system, hlookup, _⟩ := mem_ids.mp hid
          obtain ⟨hstored, hkey⟩ := syncEntries_left hents hlookup
          have htracks := tracks_existingSystemsMap db
          apply hkey
          apply (hkeys key).mpr
          rw [← htracks.key _ _ hstored]
          exact mem_map_of_mem (htracks.mem _ _ hstored)
        have horder : faults.order existing.ids = [] := by
          rw [hnone]
          exact (faults.order_perm []).eq_nil
        rw [configured, hents] at hids
        simp only [horder, deleteSystems]
        exact hids

theorem mem_ids_deleteSystems {faults : Nat → Option String} {i : Nat} {ids : List String}
    {id : String} (hid : id ∈ db.ids) (hnot : id ∉ ids) :
    id ∈ (deleteSystems faults i ids db).1.ids := by
  induction ids generalizing i db with
  | nil => exact hid
  | cons other ids ih =>
    rw [mem_cons, not_or] at hnot
    rw [deleteSystems]
    split
    · exact hid
    · refine ih ?_ hnot.2
      obtain ⟨record, hrec, rfl⟩ := mem_map.mp hid
      exact mem_map.mpr ⟨record, mem_filter.mpr ⟨hrec, decide_eq_true hnot.1⟩, rfl⟩

/-- **A sync never deletes a configured system**, whatever accesses to the database fail on the
    way. -/
theorem configured_systems_kept :
    (db.systems.filter fun record => record.key ∈ (configured db config).map (·.key)).map (·.id) ⊆
      (syncSystems env faults (.parsed config) db).2.ids := by
  intro id hid
  obtain ⟨record, hfound, rfl⟩ := mem_map.mp hid
  obtain ⟨hrec, hkey⟩ := mem_filter.mp hfound
  have hmem : record.id ∈ db.ids := mem_map_of_mem hrec
  cases config with
  | nil => exact hmem
  | cons entry entries =>
    have hloop : record.id ∈ (syncEntries env faults.entry 0 (configured db (entry :: entries))
      (existingSystemsMap db.systems) db).1.ids := ids_subset_syncEntries hmem
    have htracks := tracks_existingSystemsMap db
    simp only [syncSystems]
    split
    · exact hmem
    · exact hmem
    · split
      · next hents => rwa [configured, hents] at hloop
      · next db₁ existing hents =>
        have hnot : record.id ∉ existing.ids := by
          intro hleft
          obtain ⟨key, system, hlookup, hsys⟩ := mem_ids.mp hleft
          obtain ⟨hlookup, hnew⟩ := syncEntries_left hents hlookup
          obtain rfl := ConfigDb.eq_of_id (htracks.mem _ _ hlookup) hrec hsys
          rw [← htracks.key _ _ hlookup] at hnew
          exact hnew (of_decide_eq_true hkey)
        rw [configured, hents] at hloop
        have hkept : record.id ∈
            (deleteSystems faults.delete 0 (faults.order existing.ids) db₁).1.ids :=
          mem_ids_deleteSystems hloop (mt SyncFaults.mem_order.mp hnot)
        split
        · next hdel => rwa [hdel] at hkept
        · next hdel => rwa [hdel] at hkept

end Sync

/-! ## The condition -/

/-- An empty config, which is not synced, finds no systems; no key is used twice, in the config or
    in the database; and the stored systems that entries take have, taken together, the hosts of
    these entries. -/
structure Unambiguous (db : ConfigDb) (config : List SystemConfig) : Prop where
  nonempty : config = [] → db.systems = []
  entries : ((configured db config).map (·.key)).Nodup
  systems : (db.systems.map (·.key)).Nodup
  hosts : ((configured db config).map (takeover (existingSystemsMap db.systems))).Perm
    ((configured db config).map (·.identity))

/-- The systems are those of the config, with the default port where an entry has none. -/
def Reconciled (db db' : ConfigDb) (config : List SystemConfig) : Prop :=
  (db'.systems.map (·.identity)).Perm ((configured db config).map (·.identity))

section Condition

variable {env : SyncEnv} {faults : SyncFaults} {config : List SystemConfig} {db db' : ConfigDb}

theorem syncSystems_cons_ne_skipped {entry : SystemConfig} :
    (syncSystems env faults (.parsed (entry :: config)) db).1 ≠ .skipped := by
  simp only [syncSystems]
  split
  · nofun
  · nofun
  · split
    · nofun
    · split <;> nofun

theorem unambiguous_nil_iff : Unambiguous db [] ↔ db.systems = [] := by
  refine ⟨fun h => h.nonempty rfl, fun h => ⟨fun _ => h, nodup_nil, ?_, .refl _⟩⟩
  rw [h]
  exact nodup_nil

theorem synced_reconciled_iff
    (hsync : syncSystems env faults (.parsed config) db = (.synced, db')) :
    (Reconciled db db' config ∧ Stable env config db') ↔ Unambiguous db config := by
  have hsystems := synced_systems hsync
  obtain ⟨_, _, _, _, husers, hne⟩ := syncSystems_synced hsync
  have hconf : configured db' config = configured db config := by
    rw [configured, husers]
    rfl
  constructor
  · rintro ⟨hreco, hstable⟩
    have hents : ((configured db config).map (·.key)).Nodup := by
      rw [← hconf]
      exact keys_nodup_of_stable hne hstable
    have hperm := hsystems.symm.trans hreco
    have hsettled : settled (existingSystemsMap db.systems) db = [] := by
      have hlen := hperm.length_eq
      rw [length_append, length_takeovers, length_map, length_map] at hlen
      exact eq_nil_of_length_eq_zero (by omega)
    refine ⟨fun hnil => absurd hnil hne, hents, settled_existingSystemsMap_iff.mp hsettled, ?_⟩
    rw [hsettled, map_nil, append_nil, takeovers_of_nodup hents] at hperm
    exact hperm
  · intro h
    have hreco : Reconciled db db' config := by
      rw [settled_existingSystemsMap_iff.mpr h.systems, map_nil, append_nil,
        takeovers_of_nodup h.entries] at hsystems
      exact hsystems.trans h.hosts
    refine ⟨hreco, stable_of_keys (hconf ▸ h.entries) ?_⟩
    intro key
    -- the keys of both sides are those of their identities
    have hkeys : (db'.systems.map (·.key)).Perm ((configured db config).map (·.key)) := by
      have hmap := hreco.map Identity.key
      rw [map_map, map_map] at hmap
      exact hmap
    rw [hconf]
    exact hkeys.symm.mem_iff

end Condition

/-- **Reconciliation**: for every config and database, after a sync without an error the systems
    are, as a multiset of names, hosts and ports, those of the config, and another sync creates and
    deletes none, exactly if an empty config finds none, no key is used twice and the stored
    systems that entries take have the hosts of these entries. -/
theorem config_reconciled_iff (env : SyncEnv) (faults : SyncFaults) (config : List SystemConfig)
    (db db' : ConfigDb) (outcome : SyncOutcome)
    (hsync : syncSystems env faults (.parsed config) db = (outcome, db'))
    (hok : ∀ err, outcome ≠ .failed err) :
    (Reconciled db db' config ∧ Stable env config db') ↔ Unambiguous db config := by
  cases config with
  | nil =>
    -- nothing is read or written, now or another time
    cases hsync
    rw [unambiguous_nil_iff]
    refine ⟨fun h => ?_, fun h => ⟨?_, fun _ => rfl⟩⟩
    · exact map_eq_nil_iff.mp h.1.eq_nil
    · rw [Reconciled, h]
      exact .refl _
  | cons entry entries =>
    cases outcome with
    | failed err => exact absurd rfl (hok err)
    | synced => exact synced_reconciled_iff hsync
    | skipped => exact absurd (congrArg Prod.fst hsync) syncSystems_cons_ne_skipped

/-! ## Two systems with one key -/

/-- An id that is longer than all ids in use. -/
def freshId (ids : List String) : String :=
  String.ofList (List.replicate ((ids.map String.length).sum + 1) 'n')

theorem freshId_fresh (ids : List String) : freshId ids ∉ ids := by
  intro h
  have hle := le_sum_of_mem (mem_map_of_mem (f := String.length) h)
  rw [freshId, String.length_ofList, length_replicate] at hle
  omega

/-- A number in decimal digits. -/
def readPort (text : String) : UInt16 :=
  if text.toList.all Char.isDigit then .ofNat (Nat.ofDigitChars 10 text.toList 0) else 0

def sampleEnv : SyncEnv where
  newId := freshId
  newId_fresh := freshId_fresh
  newUUID id := "token-of-" ++ id
  toUint16 := readPort

/-- One system at 10.0.0.1 with the port 12345. -/
def webDb : ConfigDb where
  systems := [⟨"s1", "web", "10.0.0.1", "12345", ["u1"]⟩]
  nodup := List.nodup_singleton _
  users := [⟨"u1", "ana@b.c"⟩]
  fingerprints := ∅

/-- The system and another one, with the default port. -/
def plainConfig : List SystemConfig :=
  [⟨"web", "10.0.0.1", 12345, "", ["ana@b.c"]⟩, ⟨"db", "10.0.0.2", 0, "", []⟩]

theorem plain_config_reconciled :
    (syncSystems sampleEnv .none (.parsed plainConfig) webDb).1 = .synced ∧
      Reconciled webDb (syncSystems sampleEnv .none (.parsed plainConfig) webDb).2 plainConfig ∧
      Stable sampleEnv plainConfig (syncSystems sampleEnv .none (.parsed plainConfig) webDb).2 := by
  have hsynced : (syncSystems sampleEnv .none (.parsed plainConfig) webDb).1 = .synced := by
    decide +kernel
  have hcond : Unambiguous webDb plainConfig :=
    ⟨by decide, by decide +kernel, by decide +kernel, by decide +kernel⟩
  exact ⟨hsynced, (config_reconciled_iff sampleEnv .none plainConfig webDb _ .synced
    (Prod.ext hsynced rfl) fun _ => SyncOutcome.noConfusion).mpr hcond⟩

/-- A system at 10.0.0.11 with the port 2345: the key is the same. -/
def movedConfig : List SystemConfig := [⟨"web", "10.0.0.11", 2345, "", ["ana@b.c"]⟩]

/-- **The host of another system is kept**: the entry takes the stored system by its key and sets
    its port, and the next sync replaces the result. -/
theorem host_of_other_system_kept :
    (syncSystems sampleEnv .none (.parsed movedConfig) webDb).1 = .synced ∧
      (syncSystems sampleEnv .none (.parsed movedConfig) webDb).2.systems.map (·.identity) =
        [("web", "10.0.0.1", "2345")] ∧
      ¬ Reconciled webDb (syncSystems sampleEnv .none (.parsed movedConfig) webDb).2
        movedConfig ∧
      ¬ Stable sampleEnv movedConfig
        (syncSystems sampleEnv .none (.parsed movedConfig) webDb).2 := by
  refine ⟨by decide +kernel, by decide +kernel, ?_, ?_⟩
  · unfold Reconciled
    decide +kernel
  · intro hstable
    exact absurd (hstable .none) (by decide +kernel)

end Bantay.Config
