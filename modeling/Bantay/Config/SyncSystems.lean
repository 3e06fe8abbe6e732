import Mathlib.Data.List.Sort
import Bantay.Lib.GoMap

/-!
# Systems from the Config File

A model of `internal/hub/config/config.go`: `SyncSystems` brings the systems of the database in
line with those of `config.yml` when the hub starts, and `generateYAML` writes the systems of the
database as such a file.

Entries and stored systems are matched by a key, the name, the host and the port written one after
the other.  A stored system with the key of an entry is updated, an entry without one is created,
and stored systems that no entry has taken are deleted.

Ids are unique and a system has one fingerprint record at most.  Every access can fail, and what
was done before a failure stays.  The file is given by the values that the YAML library reads.
-/

namespace Bantay.Config

open Bantay.Lib

/-! ## Data -/

structure SystemConfig where
  name : String
  host : String
  port : UInt16
  token : String
  users : List String
deriving DecidableEq

/-- A record of the collection `systems`, without its status and info. -/
structure SystemRecord where
  id : String
  name : String
  host : String
  port : String
  users : List String
deriving DecidableEq

structure Account where
  id : String
  email : String

/-- A record of the collection `fingerprints`, without the system it belongs to. -/
structure FingerprintRecord where
  token : String
  fingerprint : String

/-- The collections that a sync uses. -/
structure ConfigDb where
  systems : List SystemRecord
  nodup : (systems.map (·.id)).Nodup
  users : List Account
  fingerprints : GoMap String FingerprintRecord

/-- What belongs to other packages. -/
structure SyncEnv where
  newId : List String → String
  newId_fresh : ∀ ids, newId ids ∉ ids
  newUUID : String → String
  toUint16 : String → UInt16

/-- The accesses to the database that fail for an entry, with their errors. -/
structure EntryFaults where
  /-- `FindCollectionByNameOrId` -/
  collection : Option String
  system : Option String
  token : Option String

structure SyncFaults where
  users : Option String
  systems : Option String
  entry : Nat → EntryFaults
  delete : Nat → Option String
  /-- the order in which the map of the systems that are left is iterated -/
  order : List String → List String
  order_perm : ∀ ids, (order ids).Perm ids

def SyncFaults.none : SyncFaults where
  users := .none
  systems := .none
  entry _ := ⟨.none, .none, .none⟩
  delete _ := .none
  order := id
  order_perm := .refl

inductive ConfigFile where
  | missing
  /-- it cannot be parsed -/
  | invalid (err : String)
  | parsed (systems : List SystemConfig)

inductive SyncOutcome where
  | skipped
  | failed (err : String)
  | synced
deriving DecidableEq

abbrev ExistingSystems := GoMap String SystemRecord

/-! ## Keys -/

/-- A system by the values that it is identified by. -/
abbrev Identity := String × String × String

def Identity.key (identity : Identity) : String := identity.1 ++ identity.2.1 ++ identity.2.2

def SystemRecord.identity (record : SystemRecord) : Identity :=
  (record.name, record.host, record.port)

def SystemRecord.key (record : SystemRecord) : String := record.identity.key

def SystemConfig.portText (entry : SystemConfig) : String := toString entry.port.toNat

def SystemConfig.identity (entry : SystemConfig) : Identity :=
  (entry.name, entry.host, entry.portText)

def SystemConfig.key (entry : SystemConfig) : String := entry.identity.key

/-- Of systems with one key the last is kept. -/
def existingSystemsMap (systems : List SystemRecord) : ExistingSystems :=
  GoMap.index SystemRecord.key id systems

/-! ## Defaults -/

def userEmailToID (users : List Account) : GoMap String String :=
  GoMap.index Account.email Account.id users

def defaultPort (port : UInt16) : UInt16 := if port = 0 then 45876 else port

/-- The first user if the entry has none, else those that are found by their emails. -/
def resolveUsers (users : List Account) (emails : List String) : List String :=
  match users, emails with
  | firstUser :: _, [] => [firstUser.id]
  | _, _ => emails.filterMap fun email => (userEmailToID users).lookup email

def SystemConfig.withDefaults (users : List Account) (entry : SystemConfig) : SystemConfig :=
  { entry with port := defaultPort entry.port, users := resolveUsers users entry.users }

/-! ## Writes -/

/-- The name, the users and the port are set, the host is not. -/
def SystemRecord.update (record : SystemRecord) (entry : SystemConfig) : SystemRecord :=
  { record with name := entry.name, port := entry.portText, users := entry.users }

def SystemConfig.record (entry : SystemConfig) (id : String) : SystemRecord :=
  ⟨id, entry.name, entry.host, entry.portText, entry.users⟩

namespace ConfigDb

def ids (db : ConfigDb) : List String := db.systems.map (·.id)

theorem map_update_ids (systems : List SystemRecord) (id : String) (entry : SystemConfig) :
    (systems.map fun record => if record.id = id then record.update entry else record).map (·.id) =
      systems.map (·.id) := by
  rw [List.map_map]
  apply List.map_congr_left
  intro record _
  show (if record.id = id then record.update entry else record).id = record.id
  split_ifs <;> rfl

def saveSystem (db : ConfigDb) (id : String) (entry : SystemConfig) : ConfigDb :=
  { db with
    systems := db.systems.map fun record =>
      if record.id = id then record.update entry else record
    nodup := by
      rw [map_update_ids]
      exact db.nodup }

def createSystem (env : SyncEnv) (db : ConfigDb) (entry : SystemConfig) : ConfigDb :=
  { db with
    systems := db.systems ++ [entry.record (env.newId db.ids)]
    nodup := by
      rw [List.map_append]
      exact List.nodup_append.mpr ⟨db.nodup, List.nodup_singleton _, by
        rintro id hid id' hid' rfl
        rw [List.map_singleton, List.mem_singleton] at hid'
        rw [hid'] at hid
        exact env.newId_fresh db.ids hid⟩ }

def deleteSystem (db : ConfigDb) (id : String) : ConfigDb :=
  { db with
    systems := db.systems.filter fun record => record.id ≠ id
    nodup := db.nodup.sublist (List.filter_sublist.map _)
    fingerprints := db.fingerprints.erase id }

def createFingerprintRecord (db : ConfigDb) (systemID token : String) : ConfigDb :=
  { db with fingerprints := db.fingerprints.insert systemID ⟨token, ""⟩ }

def updateFingerprintToken (db : ConfigDb) (systemID token : String) : ConfigDb :=
  match db.fingerprints.lookup systemID with
  | none => db.createFingerprintRecord systemID token
  | some record =>
    { db with fingerprints := db.fingerprints.insert systemID { record with token := token } }

end ConfigDb

/-! ## The sync -/

def updateExisting (faults : EntryFaults) (entry : SystemConfig) (system : SystemRecord)
    (existing : ExistingSystems) (db : ConfigDb) : ConfigDb × Except String ExistingSystems :=
  match faults.system with
  | some err => (db, .error err)
  | none =>
    let db := db.saveSystem system.id entry
    -- only update token if one is specified in config
    if entry.token = "" then
      (db, .ok (existing.erase entry.key))
    else
      match faults.token with
      | some err => (db, .error err)
      | none =>
        (db.updateFingerprintToken system.id entry.token, .ok (existing.erase entry.key))

def createNew (env : SyncEnv) (faults : EntryFaults) (entry : SystemConfig)
    (existing : ExistingSystems) (db : ConfigDb) : ConfigDb × Except String ExistingSystems :=
  match faults.collection with
  | some err => (db, .error ("failed to find systems collection: " ++ err))
  | none =>
    match faults.system with
    | some err => (db, .error ("failed to create new system: " ++ err))
    | none =>
      let newId := env.newId db.ids
      let db := db.createSystem env entry
      match faults.token with
      | some err => (db, .error err)
      | none =>
        let token := if entry.token = "" then env.newUUID newId else entry.token
        (db.createFingerprintRecord newId token, .ok existing)

def syncEntry (env : SyncEnv) (faults : EntryFaults) (entry : SystemConfig)
    (existing : ExistingSystems) (db : ConfigDb) : ConfigDb × Except String ExistingSystems :=
  match existing.lookup entry.key with
  | some system => updateExisting faults entry system existing db
  | none => createNew env faults entry existing db

/-- The loop over the entries, from position `i` on. -/
def syncEntries (env : SyncEnv) (faults : Nat → EntryFaults) (i : Nat) :
    List SystemConfig → ExistingSystems → ConfigDb → ConfigDb × Except String ExistingSystems
  | [], existing, db => (db, .ok existing)
  | entry :: entries, existing, db =>
    match syncEntry env (faults i) entry existing db with
    | (db, .error err) => (db, .error err)
    | (db, .ok existing) => syncEntries env faults (i + 1) entries existing db

/-- The loop over the systems that are left, from position `i` on. -/
def deleteSystems (faults : Nat → Option String) (i : Nat) :
    List String → ConfigDb → ConfigDb × Option String
  | [], db => (db, none)
  | id :: ids, db =>
    match faults i with
    | some err => (db, some err)
    | none => deleteSystems faults (i + 1) ids (db.deleteSystem id)

def ExistingSystems.ids (existing : ExistingSystems) : List String :=
  existing.entries.map fun entry => entry.2.id

def syncSystems (env : SyncEnv) (faults : SyncFaults) (file : ConfigFile) (db : ConfigDb) :
    SyncOutcome × ConfigDb :=
  match file with
  | .missing => (.skipped, db)
  | .invalid err => (.failed ("failed to parse config.yml: " ++ err), db)
  | .parsed [] => (.skipped, db)
  | .parsed (entry :: entries) =>
    match faults.users, faults.systems with
    | some err, _ => (.failed err, db)
    | none, some err => (.failed err, db)
    | none, none =>
      let config := (entry :: entries).map (·.withDefaults db.users)
      match syncEntries env faults.entry 0 config (existingSystemsMap db.systems) db with
      | (db, .error err) => (.failed err, db)
      | (db, .ok existing) =>
        match deleteSystems faults.delete 0 (faults.order existing.ids) db with
        | (db, some err) => (.failed err, db)
        | (db, none) => (.synced, db)

/-! ## The export -/

def getUserEmailMap (users : List Account) (userIDs : List String) : GoMap String String :=
  GoMap.index Account.id Account.email (users.filter fun user => user.id ∈ userIDs)

def exportSystem (env : SyncEnv) (userEmailMap : GoMap String String)
    (fingerprints : GoMap String FingerprintRecord) (system : SystemRecord) : SystemConfig where
  name := system.name
  host := system.host
  port := env.toUint16 system.port
  token := ((fingerprints.lookup system.id).map (·.token)).getD ""
  users := system.users.filterMap fun userID => userEmailMap.lookup userID

def generateYAML (env : SyncEnv) (db : ConfigDb) : List SystemConfig :=
  let systems := db.systems.insertionSort fun system system' => system.name ≤ system'.name
  let userEmailMap := getUserEmailMap db.users (systems.flatMap (·.users))
  systems.map (exportSystem env userEmailMap db.fingerprints)

end Bantay.Config
