import Bantay.Hub.UniversalToken
import Bantay.Lib.Pool

/-!
# Agents Connecting to the Hub

A step model of `internal/hub/agent_connect.go`.  A connection runs `agentConnect` and then
`verifyWsConn`; any number of connections run side by side and meet in the database.  Every
database read and write and every handshake message is one step, and a step can fail where
the program has an error to handle.

Connections and rows are numbered in the order of their creation.  `systems` holds the rows
that connections have created, with two fields that the program does not store: the token
and the fingerprint for which the system was created.
-/

namespace Bantay.Hub

open Bantay.Lib Function List

/-! ## Data -/

structure FingerprintRow where
  system : Nat
  token : String
  fingerprint : String

/-- `ws.FingerprintRecord`: a row as it was read, with its id. -/
structure FingerprintRecord where
  id : Nat
  systemId : Nat
  fingerprint : String
  token : String

structure FingerprintResponse where
  fingerprint : String
  hostname : String
  port : String
  name : String

structure SystemRow where
  id : Nat
  name : String
  host : String
  port : String
  users : List String
  token : String
  fingerprint : String

/-- The headers `X-Token`, `X-Beszel`, `CF-Connecting-IP` and `X-Forwarded-For`, and the remote
    address. -/
structure ConnectHeaders where
  token : String
  agentVersion : String
  connectingIP : String
  forwardedFor : String
  remoteAddr : String

/-- `agentConnectRequest`, after the lookup of the universal token. -/
structure AgentConnectRequest where
  headers : ConnectHeaders
  /-- `isUniversalToken`, with `userId` -/
  universal : Option String

def AgentConnectRequest.token (acr : AgentConnectRequest) : String := acr.headers.token

/-! ## Connections -/

inductive ConnectTask where
  | idle
  | looking (headers : ConnectHeaders)
  /-- at the query of `getFingerprintRecordsByToken` -/
  | fetching (acr : AgentConnectRequest)
  | upgrading (acr : AgentConnectRequest) (records : List FingerprintRecord)
  | challenging (acr : AgentConnectRequest) (records : List FingerprintRecord)
  | awaiting (acr : AgentConnectRequest) (records : List FingerprintRecord)
  /-- `SetFingerprint` is at `FindRecordById` -/
  | reading (acr : AgentConnectRequest) (record : FingerprintRecord)
    (response : FingerprintResponse)
  /-- `SetFingerprint` is at `SaveNoValidate`, with the row it read -/
  | updating (acr : AgentConnectRequest) (record : FingerprintRecord) (row : FingerprintRow)
      (response : FingerprintResponse)
  /-- `createSystem` is at `Save` -/
  | creatingSystem (acr : AgentConnectRequest) (response : FingerprintResponse)
  /-- `SetFingerprint` is at `SaveNoValidate`, with a new row -/
  | creatingFingerprint (acr : AgentConnectRequest) (systemId : Nat)
      (response : FingerprintResponse)
  /-- about to call `AddWebSocketSystem` -/
  | adding (acr : AgentConnectRequest) (systemId : Nat) (response : FingerprintResponse)
  | accepted (acr : AgentConnectRequest) (systemId : Nat) (response : FingerprintResponse)
  | refused (code : Nat) (message : String)
  /-- closed with an error after the upgrade; `none` is the error of a failed operation -/
  | closed (message : Option String)

structure ConnectConfig where
  /-- the user of a token in `universalTokenMap` -/
  ephemeralUser : String → Option String
  /-- the user of a token in `universal_tokens`, if it is not empty -/
  permanentUser : String → Option String
  /-- `semver.Parse` succeeds -/
  parseVersion : String → Bool
  trimSpace : String → String
  /-- the host that `net.SplitHostPort` finds, `none` on an error -/
  splitHost : String → Option String

/-- The user of an active universal token. -/
def ConnectConfig.universalUser (cfg : ConnectConfig) (token : String) : Option String :=
  (cfg.ephemeralUser token).or (cfg.permanentUser token)

/-- The user as `agentConnect` looks them up: after an error of the database the token is a
    regular one. -/
def ConnectConfig.lookUpUser (cfg : ConnectConfig) (token : String) (ok : Bool) : Option String :=
  (cfg.ephemeralUser token).or (if ok then cfg.permanentUser token else none)

structure ConnectState where
  fingerprints : Nat → Option FingerprintRow
  nextFingerprint : Nat
  /-- the rows that `createSystem` has saved -/
  systems : List SystemRow
  nextSystem : Nat
  conns : Nat → ConnectTask
  nextConn : Nat

namespace ConnectState

def setConn (s : ConnectState) (c : Nat) (task : ConnectTask) : ConnectState :=
  { s with conns := Function.update s.conns c task }

def saveRow (s : ConnectState) (id : Nat) (row : FingerprintRow) : ConnectState :=
  { s with fingerprints := Function.update s.fingerprints id (some row) }

def createRow (s : ConnectState) (row : FingerprintRow) : ConnectState :=
  { s.saveRow s.nextFingerprint row with nextFingerprint := s.nextFingerprint + 1 }

def addSystem (s : ConnectState) (row : SystemRow) : ConnectState :=
  { s with systems := s.systems ++ [row], nextSystem := s.nextSystem + 1 }

end ConnectState

/-! ## Pieces of the program -/

def validateAgentHeaders (headers : ConnectHeaders) : Bool :=
  headers.agentVersion ≠ "" ∧ validToken headers.token

def recordByToken (s : ConnectState) (token : String) (id : Nat) : Option FingerprintRecord :=
  match s.fingerprints id with
  | none => none
  | some row =>
    if row.token = token then some ⟨id, row.system, row.fingerprint, row.token⟩ else none

def getFingerprintRecordsByToken (s : ConnectState) (token : String) : List FingerprintRecord :=
  (List.range s.nextFingerprint).filterMap (recordByToken s token)

/-- The row after `SaveNoValidate`, with every field written. -/
def savedRow (loaded : FingerprintRow) (token fingerprint : String) : FingerprintRow :=
  { loaded with token := token, fingerprint := fingerprint }

/-- What `findOrCreateSystemForToken` goes on to do. -/
inductive SystemChoice where
  | found (record : FingerprintRecord)
  | setFingerprint (record : FingerprintRecord)
  | createSystem

/-- `createNewSystemForUniversalToken` up to its first write. -/
def createNewSystemForUniversalToken (acr : AgentConnectRequest) : Except String SystemChoice :=
  match acr.universal with
  | none => .error "invalid token"
  | some userId => if userId = "" then .error "invalid token" else .ok .createSystem

def handleNoRecords (acr : AgentConnectRequest) : Except String SystemChoice :=
  match acr.universal with
  | none => .error "no matching fingerprints"
  | some userId =>
    if userId = "" then .error "no matching fingerprints"
    else createNewSystemForUniversalToken acr

def handleSingleRecord (record : FingerprintRecord) (response : FingerprintResponse) :
    Except String SystemChoice :=
  if record.fingerprint = "" then
    -- first connect: trust the fingerprint that is presented
    .ok (.setFingerprint record)
  else if record.fingerprint ≠ response.fingerprint then
    .error "fingerprint mismatch"
  else
    .ok (.found record)

def handleMultipleRecordsOrUniversalToken (acr : AgentConnectRequest)
    (records : List FingerprintRecord) (response : FingerprintResponse) :
    Except String SystemChoice :=
  match records.find? (fun record => record.fingerprint = response.fingerprint) with
  | some record => .ok (.found record)
  | none =>
    if acr.universal.isSome then
      createNewSystemForUniversalToken acr
    else
      .error "fingerprint mismatch"

def findOrCreateSystemForToken (acr : AgentConnectRequest) (records : List FingerprintRecord)
    (response : FingerprintResponse) : Except String SystemChoice :=
  match records with
  | [] => handleNoRecords acr
  | [record] =>
    if acr.universal.isSome then
      handleMultipleRecordsOrUniversalToken acr [record] response
    else
      handleSingleRecord record response
  | records => handleMultipleRecordsOrUniversalToken acr records response

def getRealIP (cfg : ConnectConfig) (r : ConnectHeaders) : String :=
  if r.connectingIP ≠ "" then
    r.connectingIP
  else if r.forwardedFor ≠ "" then
    cfg.trimSpace ((r.forwardedFor.splitOn ",").headD "")
  else
    (cfg.splitHost r.remoteAddr).getD r.remoteAddr

def newSystemRow (cfg : ConnectConfig) (id : Nat) (acr : AgentConnectRequest)
    (response : FingerprintResponse) : SystemRow :=
  let remoteAddr := getRealIP cfg acr.headers
  let hostname := if response.hostname = "" then remoteAddr else response.hostname
  { id := id
    name := if response.name = "" then hostname else response.name
    host := remoteAddr
    port := if response.port = "" then "45876" else response.port
    users := [acr.universal.getD ""]
    token := acr.token
    fingerprint := response.fingerprint }

/-! ## Steps -/

inductive ConnectAction where
  | request (headers : ConnectHeaders)
  /-- the connection runs to the end of the operation it is at, which succeeds or fails -/
  | run (c : Nat) (ok : Bool)
  /-- the agent answers the challenge; `none` if the handshake fails -/
  | respond (c : Nat) (response : Option FingerprintResponse)

/-- The end of `agentConnect` up to the upgrade, with the records that were read. -/
def checkRecords (cfg : ConnectConfig) (acr : AgentConnectRequest)
    (records : List FingerprintRecord) : ConnectTask :=
  if records = [] ∧ acr.universal = none then
    .refused 401 "Invalid token"
  else if cfg.parseVersion acr.headers.agentVersion = false then
    .refused 401 "Invalid agent version"
  else
    .upgrading acr records

/-- The operation that connection `c` is at. -/
def runTask (cfg : ConnectConfig) (s : ConnectState) (c : Nat) (ok : Bool) :
    Option ConnectState :=
  match s.conns c with
  | .looking headers =>
    some (s.setConn c (.fetching ⟨headers, cfg.lookUpUser headers.token ok⟩))
  | .fetching acr =>
    -- a failed query leaves the slice empty
    let records := if ok then getFingerprintRecordsByToken s acr.token else []
    some (s.setConn c (checkRecords cfg acr records))
  | .upgrading acr records =>
    some (s.setConn c (if ok then .challenging acr records
      else .refused 500 "WebSocket upgrade failed"))
  | .challenging acr records =>
    some (s.setConn c (if ok then .awaiting acr records else .closed none))
  | .reading acr record response =>
    match ok, s.fingerprints record.id with
    | true, some row => some (s.setConn c (.updating acr record row response))
    | _, _ => some (s.setConn c (.closed none))
  | .updating acr record row response =>
    match ok, s.fingerprints record.id with
    | true, some _ =>
      some ((s.saveRow record.id
        (savedRow row record.token response.fingerprint)).setConn c
          (.adding acr record.systemId response))
    -- an update of a row that is gone changes nothing
    | true, none => some (s.setConn c (.adding acr record.systemId response))
    | false, _ => some (s.setConn c (.closed none))
  | .creatingSystem acr response =>
    if ok then
      some ((s.addSystem (newSystemRow cfg s.nextSystem acr response)).setConn c
        (.creatingFingerprint acr s.nextSystem response))
    else
      some (s.setConn c (.closed none))
  | .creatingFingerprint acr systemId response =>
    if ok then
      some ((s.createRow ⟨systemId, acr.token, response.fingerprint⟩).setConn c
        (.adding acr systemId response))
    else
      some (s.setConn c (.closed none))
  | .adding acr systemId response =>
    some (s.setConn c (if ok then .accepted acr systemId response
      else .closed none))
  | .idle | .awaiting _ _ | .accepted _ _ _ | .refused _ _ | .closed _ => none

def chooseTask (acr : AgentConnectRequest) (records : List FingerprintRecord)
    (response : FingerprintResponse) : ConnectTask :=
  match findOrCreateSystemForToken acr records response with
  | .error message => .closed (some message)
  | .ok (.found record) => .adding acr record.systemId response
  | .ok (.setFingerprint record) => .reading acr record response
  | .ok .createSystem => .creatingSystem acr response

def connectStep (cfg : ConnectConfig) (s : ConnectState) : ConnectAction → Option ConnectState
  | .request headers =>
    some ({ s with nextConn := s.nextConn + 1 }.setConn s.nextConn
      (if validateAgentHeaders headers then .looking headers else .refused 400 ""))
  | .run c ok => runTask cfg s c ok
  | .respond c response =>
    match s.conns c with
    | .awaiting acr records =>
      match response with
      | none => some (s.setConn c (.closed none))
      | some response => some (s.setConn c (chooseTask acr records response))
    | _ => none

/-! ## What `findOrCreateSystemForToken` chooses -/

section Choice

variable {acr : AgentConnectRequest} {records : List FingerprintRecord}
  {response : FingerprintResponse} {choice : SystemChoice} {record : FingerprintRecord}

theorem createNewSystemForUniversalToken_ok
    (h : createNewSystemForUniversalToken acr = .ok choice) :
    choice = .createSystem ∧ acr.universal ≠ none := by
  unfold createNewSystemForUniversalToken at h
  split at h
  · cases h
  · rename_i userId huniv
    split at h
    · cases h
    · exact ⟨(Except.ok.inj h).symm, by simp [huniv]⟩

theorem handleNoRecords_ok (h : handleNoRecords acr = .ok choice) :
    choice = .createSystem ∧ acr.universal ≠ none := by
  unfold handleNoRecords at h
  split at h
  · cases h
  · split at h
    · cases h
    · exact createNewSystemForUniversalToken_ok h

theorem handleMultipleRecordsOrUniversalToken_ok
    (h : handleMultipleRecordsOrUniversalToken acr records response = .ok choice) :
    (∃ record ∈ records, record.fingerprint = response.fingerprint ∧ choice = .found record) ∨
      (choice = .createSystem ∧ acr.universal ≠ none ∧
        ∀ record ∈ records, record.fingerprint ≠ response.fingerprint) := by
  unfold handleMultipleRecordsOrUniversalToken at h
  split at h
  · rename_i record hfind
    have hmatch := find?_some hfind
    exact .inl ⟨record, mem_of_find?_eq_some hfind, by simpa using hmatch,
      (Except.ok.inj h).symm⟩
  · rename_i hnone
    split at h
    · obtain ⟨hchoice, huniv⟩ := createNewSystemForUniversalToken_ok h
      refine .inr ⟨hchoice, huniv, ?_⟩
      intro record hmem
      simpa using find?_eq_none.mp hnone record hmem
    · cases h

/-- **A regular token with one record**: it is used if it has the fingerprint, which it takes if it
    has none. -/
theorem findOrCreateSystemForToken_single (huniv : acr.universal = none)
    (h : findOrCreateSystemForToken acr [record] response = .ok choice) :
    (record.fingerprint = "" ∧ choice = .setFingerprint record) ∨
      (record.fingerprint ≠ "" ∧ record.fingerprint = response.fingerprint ∧
        choice = .found record) := by
  simp only [findOrCreateSystemForToken, huniv, Option.isSome_none, Bool.false_eq_true,
    if_false] at h
  unfold handleSingleRecord at h
  split at h
  · rename_i hempty
    exact .inl ⟨hempty, (Except.ok.inj h).symm⟩
  · rename_i hset
    split at h
    · cases h
    · rename_i hmatch
      exact .inr ⟨hset, not_not.mp hmatch, (Except.ok.inj h).symm⟩

theorem findOrCreateSystemForToken_createSystem
    (h : findOrCreateSystemForToken acr records response = .ok .createSystem) :
    acr.universal ≠ none ∧ ∀ record ∈ records, record.fingerprint ≠ response.fingerprint := by
  have hmult : ∀ records', handleMultipleRecordsOrUniversalToken acr records' response =
      .ok .createSystem → acr.universal ≠ none ∧
        ∀ record ∈ records', record.fingerprint ≠ response.fingerprint := by
    intro records' h'
    rcases handleMultipleRecordsOrUniversalToken_ok h' with ⟨_, -, -, hchoice⟩ | ⟨-, hrest⟩
    · cases hchoice
    · exact hrest
  unfold findOrCreateSystemForToken at h
  split at h
  · exact ⟨(handleNoRecords_ok h).2, by simp⟩
  · split at h
    · exact hmult _ h
    · unfold handleSingleRecord at h
      split at h
      · cases h
      · split at h <;> cases h
  · exact hmult _ h

theorem findOrCreateSystemForToken_setFingerprint
    (h : findOrCreateSystemForToken acr records response = .ok (.setFingerprint record)) :
    acr.universal = none ∧ record ∈ records := by
  have hmult : ∀ records', handleMultipleRecordsOrUniversalToken acr records' response ≠
      .ok (.setFingerprint record) := by
    intro records' h'
    rcases handleMultipleRecordsOrUniversalToken_ok h' with ⟨_, -, -, hchoice⟩ | ⟨hchoice, -⟩
    · cases hchoice
    · cases hchoice
  unfold findOrCreateSystemForToken at h
  split at h
  · cases (handleNoRecords_ok h).1
  · split at h
    · exact absurd h (hmult _)
    · rename_i hregular
      unfold handleSingleRecord at h
      split at h
      · obtain rfl := SystemChoice.setFingerprint.inj (Except.ok.inj h)
        exact ⟨by simpa using hregular, mem_singleton_self _⟩
      · split at h <;> cases h
  · exact absurd h (hmult _)

end Choice

/-! ## The effects of a step -/

inductive Ended : ConnectTask → Prop where
  | refused (code message) : Ended (.refused code message)
  | closed (message) : Ended (.closed message)

/-- The tasks between which a connection moves without touching the database. -/
inductive Moves (cfg : ConnectConfig) (s : ConnectState) (c : Nat) :
    ConnectAction → ConnectTask → ConnectTask → Prop where
  | ended {a task task'} : Ended task' → task ≠ .idle →
      (∀ acr systemId response, task ≠ .creatingFingerprint acr systemId response) →
      Moves cfg s c a task task'
  | unsaved (acr systemId response) :
      Moves cfg s c (.run c false) (.creatingFingerprint acr systemId response) (.closed none)
  | looked {ok} (headers) :
      Moves cfg s c (.run c ok) (.looking headers)
        (.fetching ⟨headers, cfg.lookUpUser headers.token ok⟩)
  | fetched {ok} (acr records) :
      (ok = true ∧ records = getFingerprintRecordsByToken s acr.token) ∨ records = [] →
      (records = [] → acr.universal ≠ none) →
      Moves cfg s c (.run c ok) (.fetching acr) (.upgrading acr records)
  | upgraded {ok} (acr records) :
      Moves cfg s c (.run c ok) (.upgrading acr records) (.challenging acr records)
  | challenged {ok} (acr records) :
      Moves cfg s c (.run c ok) (.challenging acr records) (.awaiting acr records)
  | found {response} (acr records record) :
      findOrCreateSystemForToken acr records response = .ok (.found record) →
      Moves cfg s c (.respond c (some response)) (.awaiting acr records)
        (.adding acr record.systemId response)
  | trusted {response} (acr records record) :
      findOrCreateSystemForToken acr records response = .ok (.setFingerprint record) →
      Moves cfg s c (.respond c (some response)) (.awaiting acr records)
        (.reading acr record response)
  | creates {response} (acr records) :
      findOrCreateSystemForToken acr records response = .ok .createSystem →
      Moves cfg s c (.respond c (some response)) (.awaiting acr records)
        (.creatingSystem acr response)
  | lost {ok} (acr record row response) : s.fingerprints record.id = none →
      Moves cfg s c (.run c ok) (.updating acr record row response)
        (.adding acr record.systemId response)
  | read (acr record row response) : s.fingerprints record.id = some row →
      Moves cfg s c (.run c true) (.reading acr record response)
        (.updating acr record row response)
  | accepted {ok} (acr systemId response) :
      Moves cfg s c (.run c ok) (.adding acr systemId response)
        (.accepted acr systemId response)

/-- The cases of a step, with the state after it. -/
inductive ConnectEffect (cfg : ConnectConfig) (s : ConnectState) :
    ConnectAction → ConnectState → Prop where
  | requested (headers task') :
      task' = .looking headers ∨ Ended task' →
      ConnectEffect cfg s (.request headers)
        ({ s with nextConn := s.nextConn + 1 }.setConn s.nextConn task')
  | moved {a} (c task') : Moves cfg s c a (s.conns c) task' →
      ConnectEffect cfg s a (s.setConn c task')
  | updated (c acr record row stored response) :
      s.conns c = .updating acr record row response →
      s.fingerprints record.id = some stored →
      ConnectEffect cfg s (.run c true)
        ((s.saveRow record.id (savedRow row record.token response.fingerprint)).setConn c
          (.adding acr record.systemId response))
  | created (c acr response) :
      s.conns c = .creatingSystem acr response →
      ConnectEffect cfg s (.run c true)
        ((s.addSystem (newSystemRow cfg s.nextSystem acr response)).setConn c
          (.creatingFingerprint acr s.nextSystem response))
  | registered (c acr systemId response) :
      s.conns c = .creatingFingerprint acr systemId response →
      ConnectEffect cfg s (.run c true)
        ((s.createRow ⟨systemId, acr.token, response.fingerprint⟩).setConn c
          (.adding acr systemId response))

section Step

variable {cfg : ConnectConfig} {s s' : ConnectState} {a : ConnectAction} {c : Nat} {ok : Bool}
  {acr : AgentConnectRequest} {records : List FingerprintRecord} {record : FingerprintRecord}
  {response : FingerprintResponse} {task task' : ConnectTask} {token : String}

theorem checkRecords_moves
    (hrecs : (ok = true ∧ records = getFingerprintRecordsByToken s acr.token) ∨ records = []) :
    Moves cfg s c (.run c ok) (.fetching acr) (checkRecords cfg acr records) := by
  unfold checkRecords
  split
  · exact .ended (.refused _ _) (by simp) (by simp)
  · rename_i hfound
    split
    · exact .ended (.refused _ _) (by simp) (by simp)
    · refine .fetched acr records hrecs ?_
      intro hempty hnone
      exact hfound ⟨hempty, hnone⟩

theorem chooseTask_moves :
    Moves cfg s c (.respond c (some response)) (.awaiting acr records)
      (chooseTask acr records response) := by
  unfold chooseTask
  split
  · exact .ended (.closed _) (by simp) (by simp)
  · rename_i record hchoice
    exact .found acr records record hchoice
  · rename_i record hchoice
    exact .trusted acr records record hchoice
  · rename_i hchoice
    exact .creates acr records hchoice

/-- **Inversion of a step** of a connection. -/
theorem runTask_effect (h : runTask cfg s c ok = some s') : ConnectEffect cfg s (.run c ok) s' := by
  have moves : ∀ task task', s.conns c = task → Moves cfg s c (.run c ok) task task' →
      ConnectEffect cfg s (.run c ok) (s.setConn c task') := by
    intro task task' htask hmoves
    exact .moved c task' (htask ▸ hmoves)
  unfold runTask at h
  cases htask : s.conns c with simp only [htask] at h
  | idle | awaiting _ _ | accepted _ _ _ | refused _ _ | closed _ => cases h
  | looking headers =>
    cases h
    exact moves _ _ htask (.looked headers)
  | fetching acr =>
    cases h
    refine moves _ _ htask (checkRecords_moves ?_)
    cases ok with
    | true => exact .inl ⟨rfl, rfl⟩
    | false => exact .inr rfl
  | upgrading acr records =>
    cases h
    refine moves _ _ htask ?_
    split
    · exact .upgraded acr records
    · exact .ended (.refused _ _) (by simp) (by simp)
  | challenging acr records =>
    cases h
    refine moves _ _ htask ?_
    split
    · exact .challenged acr records
    · exact .ended (.closed _) (by simp) (by simp)
  | reading acr record response =>
    split at h
    · rename_i row hrow
      cases h
      exact moves _ _ htask (.read acr record row response hrow)
    · cases h
      exact moves _ _ htask (.ended (.closed _) (by simp) (by simp))
  | updating acr record row response =>
    split at h
    · rename_i stored hstored
      cases h
      exact .updated c acr record row stored response htask hstored
    · -- the row was deleted between the read and the save
      rename_i hgone
      cases h
      exact moves _ _ htask (.lost acr record row response hgone)
    · cases h
      exact moves _ _ htask (.ended (.closed _) (by simp) (by simp))
  | creatingSystem acr response =>
    split at h
    · rename_i hok
      cases h
      subst hok
      exact .created c acr response htask
    · cases h
      exact moves _ _ htask (.ended (.closed _) (by simp) (by simp))
  | creatingFingerprint acr systemId response =>
    split at h
    · rename_i hok
      cases h
      subst hok
      exact .registered c acr systemId response htask
    · -- the system stays behind without a fingerprint
      rename_i hfail
      cases h
      obtain rfl : ok = false := by simpa using hfail
      exact moves _ _ htask (.unsaved acr systemId response)
  | adding acr systemId response =>
    cases h
    refine moves _ _ htask ?_
    split
    · exact .accepted acr systemId response
    · exact .ended (.closed _) (by simp) (by simp)

/-- **Inversion of a step**: every step of the hub has one of the listed effects. -/
theorem connectStep_effect (h : connectStep cfg s a = some s') : ConnectEffect cfg s a s' := by
  cases a with
  | request headers =>
    cases h
    refine .requested headers _ ?_
    split
    · exact .inl rfl
    · exact .inr (.refused _ _)
  | run c ok => exact runTask_effect h
  | respond c response =>
    simp only [connectStep] at h
    split at h
    · rename_i acr records htask
      split at h
      · cases h
        exact .moved c _ (.ended (.closed _) (by simp [htask]) (by simp [htask]))
      · cases h
        refine .moved c _ ?_
        rw [htask]
        exact chooseTask_moves
    · cases h

/-! ## Records and tokens

A connection holds records of its own token only, and a write never changes the token of a
row.  So connections of one token do not interfere with the rows of another.
-/

def ReadFrom (s : ConnectState) (token : String) (record : FingerprintRecord) : Prop :=
  record.token = token ∧ ∃ row, s.fingerprints record.id = some row ∧ row.token = token

/-- Only the user of an active universal token is looked up. -/
def SoundUser (cfg : ConnectConfig) (acr : AgentConnectRequest) : Prop :=
  acr.universal ≠ none → cfg.universalUser acr.token ≠ none

theorem SoundUser.regular (h : SoundUser cfg acr) (hregular : cfg.universalUser acr.token = none) :
    acr.universal = none := by
  by_contra huniv
  exact h huniv hregular

theorem soundUser_lookUpUser (cfg : ConnectConfig) (headers : ConnectHeaders) (ok : Bool) :
    SoundUser cfg ⟨headers, cfg.lookUpUser headers.token ok⟩ := by
  intro huniv hnone
  rw [AgentConnectRequest.token, ConnectConfig.universalUser, Option.or_eq_none_iff] at hnone
  exact huniv (by cases ok <;> simp [ConnectConfig.lookUpUser, hnone])

def SoundTask (cfg : ConnectConfig) (s : ConnectState) : ConnectTask → Prop
  | .fetching acr => SoundUser cfg acr
  | .upgrading acr records | .challenging acr records | .awaiting acr records =>
    SoundUser cfg acr ∧ ∀ record ∈ records, ReadFrom s acr.token record
  | .reading acr record _ | .updating acr record _ _ =>
    acr.universal = none ∧ ReadFrom s acr.token record
  | .creatingSystem acr _ | .creatingFingerprint acr _ _ =>
    cfg.universalUser acr.token ≠ none
  | _ => True

structure Sound (cfg : ConnectConfig) (s : ConnectState) : Prop where
  numbered : ∀ id, s.nextFingerprint ≤ id → s.fingerprints id = none
  idle : ∀ c, s.nextConn ≤ c → s.conns c = .idle
  tasks : ∀ c, SoundTask cfg s (s.conns c)

def TokensKept (s s' : ConnectState) : Prop :=
  ∀ id row, s.fingerprints id = some row →
    ∃ row', s'.fingerprints id = some row' ∧ row'.token = row.token

theorem TokensKept.of_eq (h : s'.fingerprints = s.fingerprints) : TokensKept s s' := by
  intro id row hrow
  exact ⟨row, by rw [h, hrow], rfl⟩

theorem ReadFrom.mono (h : TokensKept s s') (hread : ReadFrom s token record) :
    ReadFrom s' token record := by
  obtain ⟨htoken, row, hrow, hrowToken⟩ := hread
  obtain ⟨row', hrow', hkept⟩ := h record.id row hrow
  exact ⟨htoken, row', hrow', hkept.trans hrowToken⟩

theorem SoundTask.mono (h : TokensKept s s') (hsound : SoundTask cfg s task) :
    SoundTask cfg s' task := by
  cases task with
  | upgrading acr records | challenging acr records | awaiting acr records =>
    exact ⟨hsound.1, fun record hmem => (hsound.2 record hmem).mono h⟩
  | reading acr record _ | updating acr record _ _ => exact ⟨hsound.1, hsound.2.mono h⟩
  | _ => exact hsound

theorem Ended.soundTask (h : Ended task) (cfg : ConnectConfig)
    (s : ConnectState) : SoundTask cfg s task := by
  cases h <;> trivial

theorem recordByToken_eq_some {id : Nat} :
    recordByToken s token id = some record ↔
      ∃ row, s.fingerprints id = some row ∧ row.token = token ∧
        record = ⟨id, row.system, row.fingerprint, row.token⟩ := by
  unfold recordByToken
  cases hrow : s.fingerprints id with
  | none => simp
  | some row => simp [eq_comm]

theorem mem_getFingerprintRecordsByToken :
    record ∈ getFingerprintRecordsByToken s token ↔
      ∃ id row, id < s.nextFingerprint ∧ s.fingerprints id = some row ∧ row.token = token ∧
        record = ⟨id, row.system, row.fingerprint, row.token⟩ := by
  simp only [getFingerprintRecordsByToken, mem_filterMap, mem_range,
    recordByToken_eq_some]
  constructor
  · rintro ⟨id, hid, row, hrow⟩
    exact ⟨id, row, hid, hrow⟩
  · rintro ⟨id, row, hid, hrow⟩
    exact ⟨id, hid, row, hrow⟩

theorem readFrom_of_mem (h : record ∈ getFingerprintRecordsByToken s token) :
    ReadFrom s token record := by
  obtain ⟨id, row, -, hrow, htoken, rfl⟩ := mem_getFingerprintRecordsByToken.mp h
  exact ⟨htoken, row, hrow, htoken⟩

theorem conns_setConn_self (c : Nat) (task : ConnectTask) : (s.setConn c task).conns c = task :=
  update_self _ _ _

theorem conns_setConn_of_ne {c c' : Nat} (task : ConnectTask) (h : c' ≠ c) :
    (s.setConn c task).conns c' = s.conns c' :=
  update_of_ne h _ _

theorem fingerprints_saveRow_self (id : Nat) (row : FingerprintRow) :
    (s.saveRow id row).fingerprints id = some row :=
  update_self _ _ _

theorem fingerprints_saveRow_of_ne {id id' : Nat} (row : FingerprintRow) (h : id' ≠ id) :
    (s.saveRow id row).fingerprints id' = s.fingerprints id' :=
  update_of_ne h _ _

theorem forall_conns_setConn {P : Nat → ConnectTask → Prop} (hself : P c task)
    (hother : ∀ c', c' ≠ c → P c' (s.conns c')) (c' : Nat) : P c' ((s.setConn c task).conns c') :=
  forall_update hself hother c'

theorem Moves.soundTask (hmoves : Moves cfg s c a task task') (h : SoundTask cfg s task) :
    SoundTask cfg s task' := by
  cases hmoves with
  | ended hended _ _ => exact hended.soundTask cfg s
  | unsaved | found | lost | accepted => trivial
  | looked headers => exact soundUser_lookUpUser cfg headers _
  | fetched acr records hread hfound =>
    refine ⟨h, ?_⟩
    intro record hmem
    rcases hread with ⟨-, rfl⟩ | rfl
    · exact readFrom_of_mem hmem
    · cases hmem
  | upgraded | challenged | read => exact h
  | trusted acr records record hchoice =>
    obtain ⟨huniv, hmem⟩ := findOrCreateSystemForToken_setFingerprint hchoice
    exact ⟨huniv, h.2 record hmem⟩
  | creates acr records hchoice => exact h.1 (findOrCreateSystemForToken_createSystem hchoice).1

theorem Moves.ne_idle (h : Moves cfg s c a task task') : task ≠ .idle := by
  cases h with
  | ended _ hrunning _ => exact hrunning
  | _ => nofun

theorem tokensKept_saveRow {id : Nat} {row row' : FingerprintRow}
    (hrow : s.fingerprints id = some row) (htoken : row'.token = row.token) :
    TokensKept s (s.saveRow id row') := by
  intro i r hr
  by_cases hi : i = id
  · subst hi
    obtain rfl : row = r := Option.some.inj (hrow.symm.trans hr)
    exact ⟨row', fingerprints_saveRow_self i row', htoken⟩
  · exact ⟨r, (fingerprints_saveRow_of_ne row' hi).trans hr, rfl⟩

theorem tokensKept_createRow {row : FingerprintRow}
    (hfresh : s.fingerprints s.nextFingerprint = none) : TokensKept s (s.createRow row) := by
  intro i r hr
  have hi : i ≠ s.nextFingerprint := by
    intro heq
    rw [heq, hfresh] at hr
    cases hr
  exact ⟨r, (fingerprints_saveRow_of_ne row hi).trans hr, rfl⟩

/-- **Tokens are stable**: a write sets the token that the row has already. -/
theorem ConnectEffect.tokensKept (heff : ConnectEffect cfg s a s') (hs : Sound cfg s) :
    TokensKept s s' := by
  cases heff with
  | requested headers task' _ => exact .of_eq rfl
  | moved c task' _ => exact .of_eq rfl
  | updated c acr record row stored response htask hstored =>
    have hsound := hs.tasks c
    rw [htask] at hsound
    obtain ⟨-, htoken, row₀, hrow₀, htoken₀⟩ := hsound
    obtain rfl : row₀ = stored := Option.some.inj (hrow₀.symm.trans hstored)
    have hsame : row₀.token = record.token := htoken₀.trans htoken.symm
    exact tokensKept_saveRow hstored hsame.symm
  | created c acr response htask => exact .of_eq rfl
  | registered c acr systemId response htask =>
    exact tokensKept_createRow (hs.numbered _ (Nat.le_refl _))

theorem Sound.setConn (hs : Sound cfg s) (s₁ : ConnectState) (hkept : TokensKept s s₁)
    (hconns : s₁.conns = s.conns) (hnext : s₁.nextConn = s.nextConn)
    (hnum : ∀ id, s₁.nextFingerprint ≤ id → s₁.fingerprints id = none)
    (hrunning : s.conns c ≠ .idle)
    (htask : SoundTask cfg s₁ task) : Sound cfg (s₁.setConn c task) where
  numbered := hnum
  idle := by
    intro c' hc'
    show update s₁.conns c task c' = .idle
    rw [hconns]
    exact numbered_update hs.idle hrunning c' (hnext ▸ hc')
  tasks := by
    apply forall_conns_setConn
    · exact htask
    · intro c' _
      rw [hconns]
      exact (hs.tasks c').mono hkept

/-- **One step** keeps what connections know of the database true. -/
theorem sound_step (hs : Sound cfg s) (h : connectStep cfg s a = some s') : Sound cfg s' := by
  have heff := connectStep_effect h
  have hkept := heff.tokensKept hs
  cases heff with
  | requested headers task' htask' =>
    refine ⟨hs.numbered, ?_, ?_⟩
    · exact numbered_spawn hs.idle
    · apply forall_conns_setConn
      · rcases htask' with rfl | hended
        · trivial
        · exact hended.soundTask cfg _
      · intro c _
        exact hs.tasks c
  | moved c task' hmoves =>
    exact hs.setConn s (.of_eq rfl) rfl rfl hs.numbered hmoves.ne_idle
      (hmoves.soundTask (hs.tasks c))
  | updated c acr record row stored response htask hstored =>
    refine hs.setConn (s.saveRow record.id _) hkept rfl rfl ?_ (by simp [htask]) trivial
    intro id hid
    have hne : id ≠ record.id := by
      intro heq
      rw [heq] at hid
      rw [hs.numbered record.id hid] at hstored
      cases hstored
    exact (fingerprints_saveRow_of_ne _ hne).trans (hs.numbered id hid)
  | created c acr response htask =>
    have hsound := hs.tasks c
    rw [htask] at hsound
    exact hs.setConn (s.addSystem _) hkept rfl rfl hs.numbered (by simp [htask]) hsound
  | registered c acr systemId response htask =>
    refine hs.setConn (s.createRow _) hkept rfl rfl ?_ (by simp [htask]) trivial
    intro id hid
    have hgt : s.nextFingerprint + 1 ≤ id := hid
    exact (fingerprints_saveRow_of_ne _ (Nat.ne_of_gt hgt)).trans
      (hs.numbered id (Nat.le_of_succ_le hgt))

/-- The hub before any connection, with any contents of the database. -/
structure Start (s : ConnectState) : Prop where
  numbered : ∀ id, s.nextFingerprint ≤ id → s.fingerprints id = none
  conns : s.conns = fun _ => .idle
  nextConn : s.nextConn = 0
  systems : s.systems = []

theorem Start.sound (h : Start s) (cfg : ConnectConfig) : Sound cfg s where
  numbered := h.numbered
  idle := by
    intro c _
    rw [h.conns]
  tasks := by
    intro c
    rw [h.conns]
    trivial

end Step

/-! ## Sample runs -/

def sampleConnectConfig : ConnectConfig where
  ephemeralUser token := if token = "universal" then some "user1" else none
  permanentUser _ := none
  parseVersion _ := true
  trimSpace := id
  splitHost _ := none

def sampleHub : ConnectState where
  fingerprints id := if id = 0 then some ⟨0, "token", ""⟩ else none
  nextFingerprint := 1
  systems := []
  nextSystem := 1
  conns _ := .idle
  nextConn := 0

theorem sampleHub_start : Start sampleHub where
  numbered := by
    intro id hid
    exact if_neg (Nat.ne_of_gt hid)
  conns := rfl
  nextConn := rfl
  systems := rfl

/-- Connection `c` up to the challenge. -/
def arriveRun (c : Nat) (token : String) : List ConnectAction :=
  [.request ⟨token, "1.0.0", "", "", "10.0.0.1"⟩, .run c true, .run c true, .run c true,
    .run c true]

/-- The agent on connection `c` presents a fingerprint. -/
def presentFingerprint (c : Nat) (fingerprint : String) : ConnectAction :=
  .respond c (some ⟨fingerprint, "", "", ""⟩)

/-! ## Rows and systems over a run -/

/-- **What agents cannot do**: no fingerprint row is lost or given another token, and systems are
    created for active universal tokens only. -/
theorem connections_keep_tokens {cfg : ConnectConfig} {s : ConnectState} (hstart : Start s)
    (as : List ConnectAction) :
    EveryState (connectStep cfg) (fun s' => TokensKept s s' ∧
      ∀ row ∈ s'.systems, cfg.universalUser row.token ≠ none) s as := by
  refine everyState_of_step (I := fun s' => Sound cfg s' ∧ TokensKept s s' ∧
      ∀ row ∈ s'.systems, cfg.universalUser row.token ≠ none) ?_ (fun _ hI => hI.2)
    ⟨hstart.sound cfg, .of_eq rfl, by simp [hstart.systems]⟩
  rintro t a t' ⟨hs, hkept, hsystems⟩ h
  have heff := connectStep_effect h
  refine ⟨sound_step hs h, ?_, ?_⟩
  · intro id row hrow
    obtain ⟨row₁, hrow₁, htoken₁⟩ := hkept id row hrow
    obtain ⟨row₂, hrow₂, htoken₂⟩ := heff.tokensKept hs id row₁ hrow₁
    exact ⟨row₂, hrow₂, htoken₂.trans htoken₁⟩
  · cases heff with
    | created c acr response htask =>
      have hsound := hs.tasks c
      rw [htask] at hsound
      exact forall_mem_append.mpr ⟨hsystems, forall_mem_singleton.mpr hsound⟩
    | requested | moved | updated | registered => exact hsystems

theorem sampleHub_keeps_tokens : Start sampleHub ∧
    EveryState (connectStep sampleConnectConfig) (fun s' => TokensKept sampleHub s' ∧
      ∀ row ∈ s'.systems, sampleConnectConfig.universalUser row.token ≠ none) sampleHub
        (arriveRun 0 "universal" ++ [presentFingerprint 0 "fp", .run 0 true]) :=
  ⟨sampleHub_start, connections_keep_tokens sampleHub_start _⟩

end Bantay.Hub
