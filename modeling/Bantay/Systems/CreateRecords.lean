import Bantay.Agent.DockerStats
import Bantay.Lib.FaultyProgram
import Mathlib.Data.Rat.Floor

/-!
# Saving the Records of a Poll

`createRecords` writes what one poll has brought in one transaction: the stats record, the rows of
the containers and their stats record, the rows of the services, the details row, and last the
system record.  Any statement may fail; the transaction is rolled back on an error or a panic.

`createSystemDetailsRecord` asks the result of its `Update` for the affected rows before it looks
at the error, and there is no result if the statement has failed.
-/

namespace Bantay.Systems

open Bantay.Lib
open Bantay.Agent (Docker.Stats Docker.DockerHealth)

namespace CreateRecords

/-! ## Rows -/

abbrev Container := Docker.Stats ℚ

structure Service where
  name : String
  state : UInt8
  sub : UInt8
  cpu : ℚ
  cpuPeak : ℚ
  mem : UInt64
  memPeak : UInt64

/-- What a poll has brought.  The stats, the info and the details are written as they are. -/
structure PollData (σ ι δ : Type) where
  stats : σ
  info : ι
  containers : List Container
  systemdServices : List Service
  details : Option δ

/-- A record of `system_stats` or `container_stats`. -/
structure StatsRow (σ : Type) where
  system : String
  stats : σ
  type : String

structure ContainerRow where
  system : String
  name : String
  image : String
  ports : String
  status : String
  health : Docker.DockerHealth
  cpu : ℚ
  memory : ℚ
  net : UInt64
  updated : ℤ

structure ServiceRow where
  system : String
  name : String
  state : UInt8
  sub : UInt8
  cpu : ℚ
  cpuPeak : ℚ
  memory : UInt64
  memPeak : UInt64
  updated : ℤ

structure DetailsRow (δ : Type) where
  system : String
  details : δ
  updated : ℤ

structure SystemRow (ι : Type) where
  status : String
  info : ι

structure Database (σ ι δ : Type) where
  systemStats : List (StatsRow σ)
  containers : String → Option ContainerRow
  containerStats : List (StatsRow (List Container))
  systemdServices : String → Option ServiceRow
  systemDetails : String → Option (DetailsRow δ)
  systems : String → Option (SystemRow ι)

/-- The times the statements are built at. -/
structure Clock where
  containers : ℤ
  services : ℤ
  details : ℤ

def fnv32a (bytes : List UInt8) : UInt32 :=
  bytes.foldl (fun hash byte => (hash ^^^ byte.toUInt32) * 16777619) 2166136261

def makeStableHashId (strings : List String) : String :=
  String.ofList (Nat.toDigits 16 (fnv32a (strings.flatMap fun s => s.toUTF8.toList)).toNat)

/-- Agents before the byte counters report megabytes. -/
def netBytes (container : Container) : UInt64 :=
  let bytes := container.bandwidth.1 + container.bandwidth.2
  if bytes = 0 then
    .ofNat ⌊(container.networkSent + container.networkRecv) * 1024 * 1024⌋₊
  else bytes

def containerRow (systemId : String) (updated : ℤ) (container : Container) : ContainerRow where
  system := systemId
  name := container.name
  image := container.image
  ports := container.ports
  status := container.status
  health := container.health
  cpu := container.cpu
  memory := container.mem
  net := netBytes container
  updated := updated

def serviceRow (systemId : String) (updated : ℤ) (service : Service) : ServiceRow where
  system := systemId
  name := service.name
  state := service.state
  sub := service.sub
  cpu := service.cpu
  cpuPeak := service.cpuPeak
  memory := service.mem
  memPeak := service.memPeak
  updated := updated

/-- `INSERT … ON CONFLICT(id) DO UPDATE` with several rows. -/
def upsert {ρ : Type} (table : String → Option ρ) (rows : List (String × ρ)) :
    String → Option ρ :=
  rows.foldl (fun table row => Function.update table row.1 (some row.2)) table

variable {σ ι δ : Type}

structure Poll (σ ι δ : Type) where
  systemId : String
  data : PollData σ ι δ
  clock : Clock

namespace Poll

variable (poll : Poll σ ι δ)

def statsRow : StatsRow σ := ⟨poll.systemId, poll.data.stats, "1m"⟩

def containerStatsRow : StatsRow (List Container) := ⟨poll.systemId, poll.data.containers, "1m"⟩

def containerRows : List (String × ContainerRow) :=
  poll.data.containers.map fun container =>
    (container.id, containerRow poll.systemId poll.clock.containers container)

def serviceRows : List (String × ServiceRow) :=
  poll.data.systemdServices.map fun service =>
    (makeStableHashId [poll.systemId, service.name],
      serviceRow poll.systemId poll.clock.services service)

def detailsRow (details : δ) : DetailsRow δ := ⟨poll.systemId, details, poll.clock.details⟩

/-- `data.Containers[0].Id != ""`: agents of earlier versions send no ids. -/
def hasContainerIds : Bool :=
  match poll.data.containers with
  | [] => false
  | container :: _ => container.id != ""

end Poll

def Database.withPoll (db : Database σ ι δ) (poll : Poll σ ι δ) : Database σ ι δ where
  systemStats := db.systemStats ++ [poll.statsRow]
  containers :=
    if poll.hasContainerIds then upsert db.containers poll.containerRows else db.containers
  containerStats :=
    if poll.data.containers = [] then db.containerStats
    else db.containerStats ++ [poll.containerStatsRow]
  systemdServices := upsert db.systemdServices poll.serviceRows
  systemDetails :=
    match poll.data.details with
    | none => db.systemDetails
    | some details =>
      Function.update db.systemDetails poll.systemId (some (poll.detailsRow details))
  systems :=
    Function.update db.systems poll.systemId
      ((db.systems poll.systemId).map fun _ => ⟨"up", poll.data.info⟩)

/-! ## The program -/

/-- The places at which the database may fail. -/
inductive DbCall where
  | findSystem | begin | findStatsCollection | saveStats | insertContainers
  | findContainerStatsCollection | saveContainerStats | insertServices
  | updateDetails | rowsAffected | insertDetails | saveSystem | commit | afterFuncs
  deriving DecidableEq

abbrev DbProgram (σ ι δ : Type) := Program (Database σ ι δ) DbCall

abbrev DbResult := Option DbCall

def andThen (first second : DbProgram σ ι δ DbResult) : DbProgram σ ι δ DbResult := do
  match ← first with
  | some err => return some err
  | none => second

variable (poll : Poll σ ι δ)

def saveStats : DbProgram σ ι δ DbResult := do
  if ← .call .findStatsCollection some then
    if ← .call .saveStats fun db =>
        some { db with systemStats := db.systemStats ++ [poll.statsRow] } then
      return none
    else return some .saveStats
  else return some .findStatsCollection

def createContainerRecords : DbProgram σ ι δ DbResult := do
  if ← .call .insertContainers fun db =>
      some { db with containers := upsert db.containers poll.containerRows } then
    return none
  else return some .insertContainers

def saveContainerStats : DbProgram σ ι δ DbResult := do
  if ← .call .findContainerStatsCollection some then
    if ← .call .saveContainerStats fun db =>
        some { db with containerStats := db.containerStats ++ [poll.containerStatsRow] } then
      return none
    else return some .saveContainerStats
  else return some .findContainerStatsCollection

def saveContainers : DbProgram σ ι δ DbResult :=
  if poll.data.containers = [] then pure none
  else if poll.hasContainerIds then andThen (createContainerRecords poll) (saveContainerStats poll)
  else saveContainerStats poll

def createSystemdStatsRecords : DbProgram σ ι δ DbResult := do
  if ← .call .insertServices fun db =>
      some { db with systemdServices := upsert db.systemdServices poll.serviceRows } then
    return none
  else return some .insertServices

def saveServices : DbProgram σ ι δ DbResult :=
  if poll.data.systemdServices = [] then pure none else createSystemdStatsRecords poll

def putDetails (details : δ) (db : Database σ ι δ) : Database σ ι δ :=
  let row := poll.detailsRow details
  { db with systemDetails := Function.update db.systemDetails poll.systemId (some row) }

/-- A failed `Update` has no result, and to ask it for the affected rows is a panic.  The rows
    count as none if the driver cannot tell. -/
def createSystemDetailsRecord (details : δ) : DbProgram σ ι δ DbResult := do
  if ← .call .updateDetails fun db =>
      some (if (db.systemDetails poll.systemId).isSome then putDetails poll details db else db) then
    if ← .call .rowsAffected fun db =>
        if (db.systemDetails poll.systemId).isSome then some db else none then
      return none
    else
      if ← .call .insertDetails fun db =>
          if (db.systemDetails poll.systemId).isSome then none
          else some (putDetails poll details db) then
        return none
      else return some .insertDetails
  else
    .panic

def saveDetails : DbProgram σ ι δ DbResult :=
  match poll.data.details with
  | none => pure none
  | some details => createSystemDetailsRecord poll details

def putSystem (db : Database σ ι δ) : Database σ ι δ :=
  let row := (db.systems poll.systemId).map fun _ => ⟨"up", poll.data.info⟩
  { db with systems := Function.update db.systems poll.systemId row }

def saveSystem : DbProgram σ ι δ DbResult := do
  if ← .call .saveSystem fun db => some (putSystem poll db) then return none
  else return some .saveSystem

def saveRows : DbProgram σ ι δ DbResult :=
  andThen (saveStats poll) (andThen (saveContainers poll) (saveServices poll))

def commit : DbProgram σ ι δ DbResult := do
  if ← .call .commit some then return none else return some .commit

/-- The functions that hooks have put off run once the transaction has ended, and may fail as
    well. -/
def runInTransaction (body : DbProgram σ ι δ DbResult) : DbProgram σ ι δ DbResult := do
  if ← .call .begin some then
    let err ← (andThen body commit).transaction
    if ← .call .afterFuncs some then return err else return some (err.getD .afterFuncs)
  else return some .begin

end CreateRecords

open CreateRecords in
def createRecords {σ ι δ : Type} (poll : Poll σ ι δ) : DbProgram σ ι δ DbResult := do
  if ← .call .findSystem fun db =>
      if (db.systems poll.systemId).isSome then some db else none then
    runInTransaction (andThen (saveRows poll) (andThen (saveDetails poll) (saveSystem poll)))
  else return some .findSystem

namespace CreateRecords

/-! ## Parts that succeed or return an error -/

section Parts

variable {σ ι δ : Type} {poll : Poll σ ι δ} {fails : DbCall → Bool} {db db' db'' : Database σ ι δ}
  {first second : DbProgram σ ι δ DbResult} {ok ok' : Prop}

/-- The part returns, without an error exactly if `ok`, and then with the database `db'`. -/
def Runs (fails : DbCall → Bool) (db : Database σ ι δ) (part : DbProgram σ ι δ DbResult)
    (ok : Prop) (db' : Database σ ι δ) : Prop :=
  Ends (fun _ => False) (fun err s => if err = none then ok ∧ s = db' else ¬ ok) part
    (.errors fails) db

theorem runs_pure : Runs fails db (pure none) True db := ⟨trivial, rfl⟩

theorem runs_andThen (hfirst : Runs fails db first ok db')
    (hsecond : ok → Runs fails db' second ok' db'') :
    Runs fails db (andThen first second) (ok ∧ ok') db'' := by
  unfold Runs andThen
  rw [ends_bind]
  refine hfirst.mono (fun _ => id) fun err s h => ?_
  cases err with
  | some err =>
    -- the second part does not run
    have hnot : ¬ ok := by simpa using h
    simp [hnot]
  | none =>
    obtain ⟨hok, rfl⟩ : ok ∧ s = db' := by simpa using h
    refine (hsecond hok).mono (fun _ => id) fun err' s' h' => ?_
    simpa [hok] using h'

theorem runs_call (site : DbCall) (effect : Database σ ι δ → Database σ ι δ) :
    Runs fails db (do
        if ← .call site fun db => some (effect db) then return none else return some site)
      (fails site = false) (effect db) := by
  unfold Runs
  rw [ends_call_ite_errors]
  cases hfails : fails site <;> simp

theorem runs_call_call (site site' : DbCall) (effect : Database σ ι δ → Database σ ι δ) :
    Runs fails db (do
        if ← .call site some then
          if ← .call site' fun db => some (effect db) then return none else return some site'
        else return some site)
      (fails site = false ∧ fails site' = false) (effect db) := by
  unfold Runs
  rw [ends_call_ite_errors, Option.elim_some, ends_call_ite_errors]
  cases hfails : fails site <;> cases hfails' : fails site' <;> simp

/-! ## The statements before the details -/

def RowsSucceed (poll : Poll σ ι δ) (fails : DbCall → Bool) : Prop :=
  (fails .findStatsCollection = false ∧ fails .saveStats = false) ∧
  (poll.data.containers ≠ [] →
    (poll.hasContainerIds → fails .insertContainers = false) ∧
      fails .findContainerStatsCollection = false ∧ fails .saveContainerStats = false) ∧
  (poll.data.systemdServices ≠ [] → fails .insertServices = false)

def withRows (poll : Poll σ ι δ) (db : Database σ ι δ) : Database σ ι δ :=
  { db.withPoll poll with systemDetails := db.systemDetails, systems := db.systems }

theorem Runs.congr (h : Runs fails db first ok db') (hok : ok ↔ ok') (hdb : db' = db'') :
    Runs fails db first ok' db'' := by
  rw [← hdb, ← propext hok]
  exact h

theorem hasContainerIds_of_nil (h : poll.data.containers = []) : poll.hasContainerIds = false := by
  simp [Poll.hasContainerIds, h]

theorem saveContainers_runs :
    Runs fails db (saveContainers poll)
      (poll.data.containers ≠ [] →
        (poll.hasContainerIds → fails .insertContainers = false) ∧
          fails .findContainerStatsCollection = false ∧ fails .saveContainerStats = false)
      { db with
        containers :=
          if poll.hasContainerIds then upsert db.containers poll.containerRows
          else db.containers
        containerStats :=
          if poll.data.containers = [] then db.containerStats
          else db.containerStats ++ [poll.containerStatsRow] } := by
  have hstats (db : Database σ ι δ) : Runs fails db (saveContainerStats poll) _ _ :=
    runs_call_call .findContainerStatsCollection .saveContainerStats _
  unfold saveContainers
  by_cases hnil : poll.data.containers = []
  · rw [if_pos hnil]
    refine runs_pure.congr (by simp [hnil]) ?_
    simp [hasContainerIds_of_nil hnil, hnil]
  by_cases hids : poll.hasContainerIds = true
  · rw [if_neg hnil, if_pos hids]
    refine (runs_andThen (runs_call .insertContainers _) fun _ => hstats _).congr ?_ ?_
    · simp [hnil, hids]
    · simp [hnil, hids]
  · -- an agent that sends no ids has no rows of its own for the containers
    rw [if_neg hnil, if_neg hids]
    refine (hstats db).congr ?_ ?_
    · simp [hnil, hids]
    · simp [hnil, hids]

theorem saveServices_runs :
    Runs fails db (saveServices poll)
      (poll.data.systemdServices ≠ [] → fails .insertServices = false)
      { db with systemdServices := upsert db.systemdServices poll.serviceRows } := by
  unfold saveServices
  split_ifs with hnil
  · refine runs_pure.congr (by simp [hnil]) ?_
    simp [Poll.serviceRows, hnil, upsert]
  · refine (runs_call .insertServices _).congr ?_ rfl
    simp [hnil]

theorem saveRows_runs : Runs fails db (saveRows poll) (RowsSucceed poll fails) (withRows poll db) :=
  runs_andThen (runs_call_call _ _ _) fun _ =>
    runs_andThen saveContainers_runs fun _ => saveServices_runs

/-! ## The details -/

def DetailsPanic (poll : Poll σ ι δ) (fails : DbCall → Bool) : Prop :=
  poll.data.details.isSome ∧ fails .updateDetails = true

/-- The details row is updated, or inserted if it is not there.  If the driver cannot tell the
    affected rows, the insertion conflicts. -/
def DetailsSucceed (poll : Poll σ ι δ) (fails : DbCall → Bool) (db : Database σ ι δ) : Prop :=
  poll.data.details.isSome →
    if (db.systemDetails poll.systemId).isSome then fails .rowsAffected = false
    else fails .insertDetails = false

def withDetails (poll : Poll σ ι δ) (db : Database σ ι δ) : Database σ ι δ :=
  match poll.data.details with
  | none => db
  | some details => putDetails poll details db

theorem saveDetails_runs (h : ¬ DetailsPanic poll fails) :
    Runs fails db (saveDetails poll) (DetailsSucceed poll fails db) (withDetails poll db) := by
  unfold saveDetails withDetails
  cases hdet : poll.data.details with
  | none => exact runs_pure.congr (by simp [DetailsSucceed, hdet]) rfl
  | some details =>
    have hupd : fails .updateDetails = false := by
      simpa [DetailsPanic, hdet] using h
    unfold Runs createSystemDetailsRecord
    simp only [ends_call_ite_errors, hupd, Bool.false_eq_true, if_false, Option.elim_some,
      ends_pure]
    by_cases hrow : (db.systemDetails poll.systemId).isSome
    · -- the row is there and was updated
      cases hrows : fails .rowsAffected <;> cases hinsert : fails .insertDetails <;>
        simp [hrow, DetailsSucceed, hdet, putDetails, hrows]
    · -- the update affects no row, whether the driver can tell or not
      cases hrows : fails .rowsAffected <;> cases hinsert : fails .insertDetails <;>
        simp [hrow, DetailsSucceed, hdet, hinsert]

theorem saveDetails_panics (h : DetailsPanic poll fails) {Q : DbResult → Database σ ι δ → Prop} :
    Ends (fun _ => True) Q (saveDetails poll) (.errors fails) db := by
  obtain ⟨hsome, hupd⟩ := h
  obtain ⟨details, hdet⟩ := Option.isSome_iff_exists.mp hsome
  unfold saveDetails
  rw [hdet]
  unfold createSystemDetailsRecord
  rw [ends_call_ite_errors, if_pos hupd, ends_panic]
  trivial

/-! ## The transaction -/

/-- The whole transaction, if the details do not make it panic. -/
theorem body_runs (h : RowsSucceed poll fails → ¬ DetailsPanic poll fails) :
    Runs fails db
      (andThen (andThen (saveRows poll) (andThen (saveDetails poll) (saveSystem poll))) commit)
      ((RowsSucceed poll fails ∧ DetailsSucceed poll fails db ∧ fails .saveSystem = false) ∧
        fails .commit = false)
      (db.withPoll poll) := by
  have hdb : putSystem poll (withDetails poll (withRows poll db)) = db.withPoll poll := by
    unfold withDetails Database.withPoll
    cases hdet : poll.data.details with
    | none => simp [putSystem, withRows, Database.withPoll]
    | some details => simp [putSystem, putDetails, withRows, Database.withPoll]
  have hsys (db : Database σ ι δ) : Runs fails db (saveSystem poll) _ _ :=
    runs_call .saveSystem (putSystem poll)
  have hcommit (db : Database σ ι δ) : Runs fails db commit _ _ := runs_call .commit id
  have hbody : Runs fails db (andThen (saveRows poll) (andThen (saveDetails poll)
      (saveSystem poll))) _ _ :=
    runs_andThen saveRows_runs fun hrows =>
      runs_andThen (saveDetails_runs (h hrows)) fun _ => hsys _
  exact (runs_andThen hbody fun _ => hcommit _).congr Iff.rfl hdb

/-- All rows of the poll are committed, or none and an error is returned. -/
def AllOrNothing (poll : Poll σ ι δ) (db : Database σ ι δ) (err : DbResult)
    (db' : Database σ ι δ) : Prop :=
  db' = db.withPoll poll ∨ db' = db ∧ err.isSome

/-- The functions that run after a transaction change nothing about its being all or nothing. -/
theorem runInTransaction_allOrNothing {body : DbProgram σ ι δ DbResult}
    (h : fails .begin = false → Runs fails db (andThen body commit) ok (db.withPoll poll)) :
    Ends (fun _ => False) (AllOrNothing poll db) (runInTransaction body) (.errors fails) db := by
  unfold runInTransaction
  rw [ends_call_ite_errors, Option.elim_some]
  split_ifs with hbegin
  · exact .inr ⟨rfl, rfl⟩
  rw [ends_bind, ends_transaction]
  refine (h (by simpa using hbegin)).mono (fun _ => id) fun err s hs => ?_
  rw [ends_call_ite_errors, Option.elim_some]
  cases err with
  | some err =>
    -- rolled back
    simp only [Option.isSome_some, if_true]
    split_ifs
    · exact .inr ⟨rfl, rfl⟩
    · exact .inr ⟨rfl, rfl⟩
  | none =>
    -- committed, also if a function after it returns an error
    obtain ⟨_, rfl⟩ : ok ∧ s = db.withPoll poll := by simpa using hs
    simp only [Option.isSome_none, Bool.false_eq_true, if_false]
    split_ifs
    · exact .inl rfl
    · exact .inl rfl

/-- A failed update of the details makes the transaction panic. -/
theorem runInTransaction_panics (hbegin : fails .begin = false) (hrows : RowsSucceed poll fails)
    (hpanic : DetailsPanic poll fails) :
    Ends (fun _ => True) (fun _ _ => False)
      (runInTransaction (andThen (saveRows poll) (andThen (saveDetails poll) (saveSystem poll))))
      (.errors fails) db := by
  unfold runInTransaction
  rw [ends_call_ite_errors, Option.elim_some, hbegin]
  rw [ends_bind, ends_transaction]
  unfold andThen
  simp only [ends_bind]
  refine saveRows_runs.mono (fun _ => False.elim) fun err s hs => ?_
  cases err with
  | some err => exact absurd hrows (by simpa using hs)
  | none =>
    rw [ends_bind]
    exact saveDetails_panics hpanic

end Parts

def PanicsAtDetails {σ ι δ : Type} (poll : Poll σ ι δ) (fails : DbCall → Bool)
    (db : Database σ ι δ) : Prop :=
  ((db.systems poll.systemId).isSome ∧ fails .findSystem = false ∧ fails .begin = false) ∧
    RowsSucceed poll fails ∧ DetailsPanic poll fails

end CreateRecords

open CreateRecords in
/-- **All rows of the poll or none and an error**, exactly unless the update of the details is
    reached and fails. -/
theorem createRecords_atomic_iff {σ ι δ : Type} (poll : Poll σ ι δ) (fails : DbCall → Bool)
    (db : Database σ ι δ) :
    (∃ err db', (createRecords poll).run (.errors fails) db = .returned err db' ∧
        AllOrNothing poll db err db') ↔
      ¬ PanicsAtDetails poll fails db := by
  have hends : (∃ err db', (createRecords poll).run (.errors fails) db = .returned err db' ∧
        AllOrNothing poll db err db') ↔
      Ends (fun _ => False) (AllOrNothing poll db) (createRecords poll) (.errors fails) db := by
    unfold Ends
    cases (createRecords poll).run (.errors fails) db with
    | stopped s => simp
    | returned err db' => simp
  rw [hends]
  unfold createRecords
  rw [ends_call_ite_errors]
  by_cases hfind : fails .findSystem = true
  · simp [hfind, PanicsAtDetails, AllOrNothing]
  by_cases hsys : (db.systems poll.systemId).isSome
  · rw [if_neg hfind, if_pos hsys, Option.elim_some]
    constructor
    · rintro h ⟨⟨_, _, hbegin⟩, hrows, hpanic⟩
      exact not_ends_of_ends_stopped (runInTransaction_panics hbegin hrows hpanic) h
    · intro h
      refine runInTransaction_allOrNothing fun hbegin => body_runs fun hrows hpanic => ?_
      exact h ⟨⟨hsys, by simpa using hfind, hbegin⟩, hrows, hpanic⟩
  · simp [hfind, hsys, PanicsAtDetails, AllOrNothing]

/-- A system with a details row, polled with details. -/
def CreateRecords.samplePoll : CreateRecords.Poll Unit Unit Unit where
  systemId := "s"
  data := ⟨(), (), [], [], some ()⟩
  clock := ⟨0, 0, 0⟩

def CreateRecords.sampleDatabase : CreateRecords.Database Unit Unit Unit where
  systemStats := []
  containers _ := none
  containerStats := []
  systemdServices _ := none
  systemDetails id := if id = "s" then some ⟨"s", (), 0⟩ else none
  systems id := if id = "s" then some ⟨"up", ()⟩ else none

open CreateRecords in
theorem createRecords_panics :
    (createRecords samplePoll).run (.errors fun site => site = .updateDetails) sampleDatabase =
        .stopped sampleDatabase ∧
      ¬ ∃ err db', (createRecords samplePoll).run (.errors fun site => site = .updateDetails)
          sampleDatabase = .returned err db' ∧ AllOrNothing samplePoll sampleDatabase err db' := by
  have hrun : (createRecords samplePoll).run (.errors fun site => site = .updateDetails)
      sampleDatabase = .stopped sampleDatabase := rfl
  refine ⟨hrun, ?_⟩
  rintro ⟨err, db', hret, _⟩
  cases hret

end Bantay.Systems
