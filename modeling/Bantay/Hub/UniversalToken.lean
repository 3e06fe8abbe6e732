import Mathlib.Data.List.Perm.Basic
import Bantay.Lib.Transition
import Bantay.Hub.ExpiryMap

/-!
# Universal Tokens

A model of `getUniversalToken` in `internal/hub/api.go` and of the part of `agentConnect` that
looks a token up.  An active token is either an entry of the in-memory map, for an hour, or a
record of the `universal_tokens` collection, until it is deleted.

Requests are handled one after another.  The orders in which Go ranges over the map and the
database scans the records, the generated UUID, and the failures of the database are inputs.
-/

namespace Bantay.Hub

open Bantay.Lib

/-! ## State -/

structure TokenState where
  now : Nat
  /-- `universalTokenMap`: the user of every ephemeral token -/
  tokenMap : ExpiryMap String String
  /-- the token of every user, with a unique index on `user` and a plain one on `token` -/
  records : AList (fun _ : String => String)

def TokenState.init : TokenState := ⟨0, .new, ∅⟩

/-- `e.Auth`: the record of the user that makes the request. -/
structure Auth where
  id : String
  id_ne : id ≠ ""
  isSuperuser : Bool

/-- The query parameters of the endpoint. -/
structure TokenQuery where
  token : String
  enable : String
  permanent : String

/-- What the environment decides during one request. -/
structure TokenEnv where
  uuid : String
  order : List String
  /-- `FindFirstRecordByFilter` reaches the database -/
  findOk : Bool
  /-- `Save` or `Delete` succeeds -/
  writeOk : Bool

/-- The body of a response with status 200. -/
structure TokenResponse where
  token : String
  active : Bool
  permanent : Bool

/-- How a request ends. -/
inductive TokenResult where
  | ok (response : TokenResponse)
  | forbidden (message : String)
  | saveError

/-! ## The endpoint -/

def hour : Nat := 3600000

section

variable (s : TokenState) (env : TokenEnv)

def TokenState.findByUser (userID : String) : Option String :=
  if env.findOk then s.records.lookup userID else none

/-- The error is dropped by both callers. -/
def deletePermanent (userID : String) : TokenState :=
  match s.findByUser env userID with
  | none => s
  | some _ => if env.writeOk then { s with records := s.records.erase userID } else s

/-- `none` is an error of `Save`.  A second record of the user is refused by the unique index. -/
def upsertPermanent (userID token : String) : Option TokenState :=
  match s.findByUser env userID with
  | some _ => if env.writeOk then some { s with records := s.records.insert userID token } else none
  | none =>
    if env.writeOk ∧ s.records.lookup userID = none then
      some { s with records := s.records.insert userID token }
    else
      none

def removeEphemeral (userID : String) : TokenState :=
  { s with tokenMap := (s.tokenMap.removebyValue env.order userID).2 }

def requestedToken (q : TokenQuery) (env : TokenEnv) : String :=
  if q.token = "" then env.uuid else q.token

def disableTokens (userID : String) (q : TokenQuery) (env : TokenEnv) : TokenResult × TokenState :=
  (.ok ⟨q.token, false, false⟩, deletePermanent (removeEphemeral s env userID) env userID)

def enableToken (userID : String) (q : TokenQuery) (env : TokenEnv) : TokenResult × TokenState :=
  let token := requestedToken q env
  if q.permanent = "1" then
    let s := removeEphemeral s env userID
    match upsertPermanent s env userID token with
    | none => (.saveError, s)
    | some s => (.ok ⟨token, true, true⟩, s)
  else
    let s := deletePermanent s env userID
    (.ok ⟨token, true, false⟩, { s with tokenMap := s.tokenMap.set s.now token userID hour })

/-- The end of `getUniversalToken`: the token is active if it belongs to the user. -/
def readEphemeral (userID token : String) : TokenResult × TokenState :=
  let (activeUser, tokenMap) := s.tokenMap.getOk s.now token
  (.ok ⟨token, decide (activeUser = some userID), false⟩, { s with tokenMap := tokenMap })

def readToken (userID : String) (q : TokenQuery) (env : TokenEnv) : TokenResult × TokenState :=
  match s.findByUser env userID with
  | some dbToken =>
    if q.token = "" ∨ q.token = dbToken then
      (.ok ⟨dbToken, true, true⟩, s)
    else
      (.ok ⟨q.token, false, false⟩, s)
  | none =>
    if q.token = "" then
      match s.tokenMap.getByValue s.now env.order userID with
      | (some token, tokenMap) => (.ok ⟨token, true, false⟩, { s with tokenMap := tokenMap })
      | (none, tokenMap) => readEphemeral { s with tokenMap := tokenMap } userID env.uuid
    else
      readEphemeral s userID q.token

def getUniversalToken (auth : Auth) (q : TokenQuery) (env : TokenEnv) : TokenResult × TokenState :=
  if auth.isSuperuser then
    (.forbidden "Superusers cannot use universal tokens", s)
  else if q.enable = "0" then
    disableTokens s auth.id q env
  else if q.enable = "1" then
    enableToken s auth.id q env
  else
    readToken s auth.id q env

end

/-! ## The lookup of `agentConnect` -/

/-- The records are scanned in the given order of users. -/
def TokenState.findByToken (s : TokenState) (scan : List String) (token : String) :
    Option String :=
  match scan.find? (fun user => s.records.lookup user = some token) with
  | none => none
  | some userID => if userID ≠ "" then some userID else none

/-- The check of the token in `validateAgentHeaders`; `len` counts bytes. -/
def validToken (token : String) : Bool :=
  token ≠ "" ∧ token.utf8ByteSize ≤ 64

/-- The user as whom `agentConnect` accepts a universal token, if it does. -/
def lookupUniversalToken (s : TokenState) (scan : List String) (findOk : Bool)
    (token : String) : Option String × TokenState :=
  if validToken token then
    match s.tokenMap.getOk s.now token with
    | (some userID, tokenMap) => (some userID, { s with tokenMap := tokenMap })
    | (none, tokenMap) =>
      (if findOk then s.findByToken scan token else none, { s with tokenMap := tokenMap })
  else
    (none, s)

/-! ## Steps -/

inductive TokenAction where
  | clock (ms : Nat)
  | cleanup (order : List String)
  | request (auth : Auth) (q : TokenQuery) (env : TokenEnv)
  | connect (token : String) (scan : List String) (findOk : Bool)

/-- An order in which the map or the records are gone through lists every key once. -/
def tokenStep (s : TokenState) : TokenAction → Option TokenState
  | .clock ms => some { s with now := s.now + ms }
  | .cleanup order =>
    if order.Perm s.tokenMap.store.keys then
      some { s with tokenMap := s.tokenMap.cleanup s.now order }
    else
      none
  | .request auth q env =>
    if env.order.Perm s.tokenMap.store.keys then
      some (getUniversalToken s auth q env).2
    else
      none
  | .connect token scan findOk =>
    if scan.Perm s.records.keys then
      some (lookupUniversalToken s scan findOk token).2
    else
      none

def Accepts (s : TokenState) (token userID : String) : Prop :=
  ∃ scan, scan.Perm s.records.keys ∧ (lookupUniversalToken s scan true token).1 = some userID

/-! ## What a connect sees -/

variable {s : TokenState} {token userID : String}

theorem findByToken_eq_some {scan : List String} (h : s.findByToken scan token = some userID) :
    s.records.lookup userID = some token ∧ userID ≠ "" := by
  unfold TokenState.findByToken at h
  split at h
  · cases h
  · rename_i user hfind
    have hlookup := List.find?_some hfind
    split at h
    · rename_i hne
      cases h
      exact ⟨by simpa using hlookup, hne⟩
    · cases h

theorem exists_scan_findByToken (hrec : s.records.lookup userID = some token) (hne : userID ≠ "") :
    ∃ scan, scan.Perm s.records.keys ∧ s.findByToken scan token = some userID := by
  have hmem : userID ∈ s.records.keys := by
    rw [← AList.mem_keys, ← AList.lookup_isSome, hrec]
    rfl
  refine ⟨userID :: s.records.keys.erase userID, ?_, ?_⟩
  · exact (List.perm_cons_erase hmem).symm
  · unfold TokenState.findByToken
    rw [List.find?_cons_of_pos (by simpa using hrec)]
    simp [hne]

/-- **Acceptance**: a live entry of the map decides; without one, a record of the token. -/
theorem accepts_iff :
    Accepts s token userID ↔
      validToken token = true ∧
        (s.tokenMap.live s.now token = some userID ∨
          (s.tokenMap.live s.now token = none ∧ s.records.lookup userID = some token ∧
            userID ≠ "")) := by
  have hlookup : ∀ scan, validToken token = true →
      (lookupUniversalToken s scan true token).1 =
        match s.tokenMap.live s.now token with
        | some user => some user
        | none => s.findByToken scan token := by
    intro scan hvalid
    have hget := ExpiryMap.getOk_fst s.tokenMap s.now token
    unfold lookupUniversalToken
    rw [if_pos hvalid, ← hget]
    split <;> rename_i heq <;> simp [heq]
  constructor
  · rintro ⟨scan, -, h⟩
    have hvalid : validToken token = true := by
      by_contra hinvalid
      simp [lookupUniversalToken, hinvalid] at h
    refine ⟨hvalid, ?_⟩
    rw [hlookup scan hvalid] at h
    cases hlive : s.tokenMap.live s.now token with rw [hlive] at h
    | some user =>
      exact .inl h
    | none =>
      exact .inr ⟨rfl, findByToken_eq_some h⟩
  · rintro ⟨hvalid, hlive | ⟨hlive, hrec, hne⟩⟩
    · refine ⟨s.records.keys, .refl _, ?_⟩
      rw [hlookup _ hvalid, hlive]
    · obtain ⟨scan, hperm, hfind⟩ := exists_scan_findByToken hrec hne
      refine ⟨scan, hperm, ?_⟩
      rw [hlookup _ hvalid, hlive]
      exact hfind

/-! ## What a request does -/

section Requests

variable (s : TokenState) (env : TokenEnv) (userID : String)

/-- The permanent record of the user is found and deleted. -/
def TokenEnv.deletes (env : TokenEnv) : Bool := env.findOk && env.writeOk

@[simp] theorem deletePermanent_now : (deletePermanent s env userID).now = s.now := by
  unfold deletePermanent
  split
  · rfl
  · split <;> rfl

@[simp] theorem deletePermanent_tokenMap :
    (deletePermanent s env userID).tokenMap = s.tokenMap := by
  unfold deletePermanent
  split
  · rfl
  · split <;> rfl

theorem deletePermanent_lookup (other : String) :
    (deletePermanent s env userID).records.lookup other =
      if other = userID ∧ env.deletes then none else s.records.lookup other := by
  unfold deletePermanent TokenState.findByUser TokenEnv.deletes
  cases hfind : env.findOk with
  | false => simp
  | true =>
    cases hrec : s.records.lookup userID with
    | none =>
      by_cases hother : other = userID
      · subst hother
        simp [hrec]
      · simp [hother]
    | some token =>
      cases hwrite : env.writeOk with
      | false => simp
      | true =>
        by_cases hother : other = userID
        · subst hother
          simp [AList.lookup_erase]
        · simp [hother, AList.lookup_erase_ne]

/-- The upsert writes: it does not fail, and adds no second record of the user. -/
def Saves : Prop :=
  env.writeOk = true ∧ (env.findOk = true ∨ s.records.lookup userID = none)

theorem upsertPermanent_eq_some_iff {s' : TokenState} {token : String} :
    upsertPermanent s env userID token = some s' ↔
      Saves s env userID ∧ { s with records := s.records.insert userID token } = s' := by
  unfold upsertPermanent TokenState.findByUser Saves
  cases hfind : env.findOk <;> cases hwrite : env.writeOk <;>
    cases hrec : s.records.lookup userID <;> simp

end Requests

theorem readToken_frame (s : TokenState) (userID : String) (q : TokenQuery) (env : TokenEnv) :
    (readToken s userID q env).2.now = s.now ∧
      (readToken s userID q env).2.records = s.records ∧
      ∀ token, (readToken s userID q env).2.tokenMap.live s.now token =
        s.tokenMap.live s.now token := by
  unfold readToken
  split
  · split <;> exact ⟨rfl, rfl, fun _ => rfl⟩
  · split
    · have hget : ∀ token, (s.tokenMap.getByValue s.now env.order userID).2.live s.now token =
          s.tokenMap.live s.now token := by
        intro token
        exact ExpiryMap.getByValue_live s.tokenMap s.now env.order userID token
      split
      · rename_i token tokenMap heq
        rw [heq] at hget
        exact ⟨rfl, rfl, hget⟩
      · rename_i tokenMap heq
        rw [heq] at hget
        refine ⟨rfl, rfl, ?_⟩
        intro token
        simp only [readEphemeral]
        rw [ExpiryMap.getOk_live tokenMap s.now]
        exact hget token
    · refine ⟨rfl, rfl, ?_⟩
      intro token
      exact ExpiryMap.getOk_live s.tokenMap s.now _ _

theorem lookupUniversalToken_frame (s : TokenState) (scan : List String) (findOk : Bool)
    (token : String) :
    (lookupUniversalToken s scan findOk token).2.now = s.now ∧
      (lookupUniversalToken s scan findOk token).2.records = s.records ∧
      ∀ other, (lookupUniversalToken s scan findOk token).2.tokenMap.live s.now other =
        s.tokenMap.live s.now other := by
  have hget : ∀ other, (s.tokenMap.getOk s.now token).2.live s.now other =
      s.tokenMap.live s.now other := by
    intro other
    exact ExpiryMap.getOk_live s.tokenMap s.now token other
  unfold lookupUniversalToken
  split
  · split
    · rename_i heq
      rw [heq] at hget
      exact ⟨rfl, rfl, hget⟩
    · rename_i heq
      rw [heq] at hget
      exact ⟨rfl, rfl, hget⟩
  · exact ⟨rfl, rfl, fun _ => rfl⟩

/-! ## The effects of a step -/

/-- Nothing goes but expired entries. -/
structure Unseen (s s' : TokenState) : Prop where
  now : s'.now = s.now
  records : s'.records = s.records
  live : ∀ token, s'.tokenMap.live s.now token = s.tokenMap.live s.now token

/-- A request that enables or disables tokens. -/
def Writes (auth : Auth) (q : TokenQuery) : Prop :=
  auth.isSuperuser = false ∧ (q.enable = "0" ∨ q.enable = "1")

/-- The cases of a step, with the state after it. -/
inductive TokenEffect (s : TokenState) : TokenAction → TokenState → Prop where
  | waited {ms} : TokenEffect s (.clock ms) { s with now := s.now + ms }
  | unseen {a s'} : (∀ auth q env, a = .request auth q env → ¬ Writes auth q) → Unseen s s' →
      TokenEffect s a s'
  | disabled {auth q env} : auth.isSuperuser = false → q.enable = "0" →
      TokenEffect s (.request auth q env)
        (deletePermanent (removeEphemeral s env auth.id) env auth.id)
  | ephemeral {auth q env} : auth.isSuperuser = false → q.enable = "1" → q.permanent ≠ "1" →
      TokenEffect s (.request auth q env)
        { deletePermanent s env auth.id with
          tokenMap := s.tokenMap.set s.now (requestedToken q env) auth.id hour }
  | permanent {auth q env s'} : auth.isSuperuser = false → q.enable = "1" → q.permanent = "1" →
      upsertPermanent (removeEphemeral s env auth.id) env auth.id (requestedToken q env) =
        some s' →
      TokenEffect s (.request auth q env) s'
  | saveError {auth q env} : auth.isSuperuser = false → q.enable = "1" → q.permanent = "1" →
      upsertPermanent (removeEphemeral s env auth.id) env auth.id (requestedToken q env) =
        none →
      TokenEffect s (.request auth q env) (removeEphemeral s env auth.id)

/-- The cases of a request, with what it does to the map and the records. -/
theorem getUniversalToken_effect (s : TokenState) (auth : Auth) (q : TokenQuery) (env : TokenEnv) :
    TokenEffect s (.request auth q env) (getUniversalToken s auth q env).2 := by
  unfold getUniversalToken
  split
  · rename_i hsuper
    refine .unseen ?_ ⟨rfl, rfl, fun _ => rfl⟩
    rintro auth' q' env' ⟨⟩ ⟨hnot, -⟩
    rw [hsuper] at hnot
    cases hnot
  · rename_i hsuper
    have hauth : auth.isSuperuser = false := by simpa using hsuper
    split
    · rename_i henable
      exact .disabled hauth henable
    · rename_i hnotDisable
      split
      · rename_i henable
        simp only [enableToken]
        split
        · rename_i hpermanent
          split
          · rename_i hsave
            exact .saveError hauth henable hpermanent hsave
          · rename_i s' hsave
            exact .permanent hauth henable hpermanent hsave
        · rename_i hpermanent
          have heff : TokenEffect s (.request auth q env) _ :=
            .ephemeral hauth henable hpermanent
          rw [← deletePermanent_tokenMap s env auth.id, ← deletePermanent_now s env auth.id]
            at heff
          exact heff
      · rename_i hnotEnable
        obtain ⟨hnow, hrecs, hlive⟩ := readToken_frame s auth.id q env
        refine .unseen ?_ ⟨hnow, hrecs, hlive⟩
        rintro auth' q' env' ⟨⟩ ⟨-, h | h⟩
        · exact hnotDisable h
        · exact hnotEnable h

/-- **Inversion of a step**: every step has one of the listed effects. -/
theorem tokenStep_effect {s s' : TokenState} {a : TokenAction} (h : tokenStep s a = some s') :
    TokenEffect s a s' := by
  cases a with simp only [tokenStep] at h
  | clock ms =>
    cases h
    exact .waited
  | cleanup order =>
    split at h
    · cases h
      refine .unseen (by simp) ⟨rfl, rfl, ?_⟩
      intro token
      exact ExpiryMap.cleanup_live s.tokenMap s.now order token
    · cases h
  | request auth q env =>
    split at h
    · cases h
      exact getUniversalToken_effect s auth q env
    · cases h
  | connect token scan findOk =>
    split at h
    · cases h
      obtain ⟨hnow, hrecs, hlive⟩ := lookupUniversalToken_frame s scan findOk token
      exact .unseen (by simp) ⟨hnow, hrecs, hlive⟩
    · cases h

end Bantay.Hub
