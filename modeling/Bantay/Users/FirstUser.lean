import Bantay.Users.AdminUsers

/-!
# The First User

A step model of `CreateFirstUser` in `internal/users/users.go`.  As long as there are no users,
anybody can create the first one, who is an admin and replaces the temporary superuser that
`internal/migrations/initial-settings.go` has set up.

Every read of the database and every write is one step, and requests interleave in any order.
The database refuses a second account with the same email.
-/

namespace Bantay.Users

open Bantay.Lib Function

/-! ## Data -/

def tempAdminEmail : String := "_@b.b"

structure Superuser where
  id : String
  email : String
  password : String

structure Credentials where
  email : String
  password : String

structure JsonResponse where
  status : Nat
  key : String
  text : String
deriving DecidableEq

def forbidden : JsonResponse := ⟨403, "err", "Forbidden"⟩

/-- The answer to a handler that panics, which the router recovers from. -/
def recovered : JsonResponse :=
  ⟨500, "message", "Something went wrong while processing your request."⟩

/-- Where a request is; a body that cannot be bound is the error. -/
inductive SetupTask where
  | unused
  /-- at `CountRecords` -/
  | counting (body : Except String Credentials)
  /-- at `FindAllRecords` -/
  | finding (body : Except String Credentials)
  /-- at `FindCollectionByNameOrId("users")`, with the superuser that was found -/
  | findingUsers (data : Credentials) (first : Superuser)
  /-- at `Save` of the user -/
  | savingUser (data : Credentials) (first : Superuser)
  /-- at `FindCollectionByNameOrId` for the superusers -/
  | findingSuperusers (data : Credentials) (first : Superuser)
  /-- at `Save` of the superuser -/
  | savingSuperuser (data : Credentials) (first : Superuser)
  /-- at `Delete` -/
  | deleting (first : Superuser)
  | done (response : JsonResponse)

structure SetupState where
  users : UserTable
  superusers : List Superuser
  tasks : Nat → SetupTask
  nextTask : Nat

/-! ## The handler -/

/-- `CreateFirstUser` with the superusers it has found. -/
def checkSuperusers (body : Except String Credentials) : List Superuser → SetupTask
  | [first] =>
    if first.email ≠ tempAdminEmail then
      .done forbidden
    else
      match body with
      | .error err => .done ⟨400, "err", err⟩
      | .ok data =>
        if data.email = "" ∨ data.password = "" then
          .done ⟨400, "err", "Bad request"⟩
        else
          .findingUsers data first
  | _ => .done forbidden

def Credentials.user (data : Credentials) : User := ⟨data.email, .admin, true, data.password⟩

namespace SetupState

def setTask (s : SetupState) (t : Nat) (task : SetupTask) : SetupState :=
  { s with tasks := Function.update s.tasks t task }

def spawn (s : SetupState) (task : SetupTask) : SetupState :=
  { s with
    tasks := Function.update s.tasks s.nextTask task
    nextTask := s.nextTask + 1 }

def acceptsUser (s : SetupState) (id email : String) : Bool :=
  s.users.entries.all fun entry => entry.1 ≠ id ∧ entry.2.email ≠ email

def acceptsSuperuser (s : SetupState) (id email : String) : Bool :=
  s.superusers.all fun superuser => superuser.id ≠ id ∧ superuser.email ≠ email

/-- `newId` is the id of a record it creates. -/
def runTask (s : SetupState) (t : Nat) (newId : String) (failure : Option String) :
    Option SetupState :=
  match s.tasks t with
  | .unused | .done _ => none
  | .counting body =>
    if failure ≠ none ∨ s.users.entries.length > 0 then
      some (s.setTask t (.done forbidden))
    else
      some (s.setTask t (.finding body))
  | .finding body =>
    if failure ≠ none then
      some (s.setTask t (.done forbidden))
    else
      some (s.setTask t (checkSuperusers body s.superusers))
  -- the error of a lookup is dropped: without a collection `NewRecord` panics
  | .findingUsers data first =>
    some (s.setTask t (if failure ≠ none then .done recovered else .savingUser data first))
  | .savingUser data first =>
    match failure with
    | some err => some (s.setTask t (.done ⟨500, "err", err⟩))
    | none =>
      if s.acceptsUser newId data.email then
        some ({ s with users := s.users.insert newId data.user }.setTask t
          (.findingSuperusers data first))
      else
        none
  | .findingSuperusers data first =>
    some (s.setTask t (if failure ≠ none then .done recovered else .savingSuperuser data first))
  | .savingSuperuser data first =>
    match failure with
    | some err => some (s.setTask t (.done ⟨500, "err", err⟩))
    | none =>
      if s.acceptsSuperuser newId data.email then
        some ({ s with superusers := ⟨newId, data.email, data.password⟩ :: s.superusers }.setTask t
          (.deleting first))
      else
        none
  | .deleting first =>
    match failure with
    | some err => some (s.setTask t (.done ⟨500, "err", err⟩))
    | none =>
      some ({ s with superusers := s.superusers.filter fun superuser => superuser.id ≠ first.id }
        |>.setTask t (.done ⟨200, "msg", "User created"⟩))

def fresh (temp : Superuser) : SetupState where
  users := ∅
  superusers := [temp]
  tasks _ := .unused
  nextTask := 0

end SetupState

inductive SetupAction where
  | createFirstUser (body : Except String Credentials)
  | run (t : Nat) (newId : String) (failure : Option String)

def setupStep (s : SetupState) : SetupAction → Option SetupState
  | .createFirstUser body => some (s.spawn (.counting body))
  | .run t newId failure => s.runTask t newId failure

/-! ## The property and the condition -/

def SetupState.created (temp : Superuser) (s : SetupState) : List Superuser :=
  s.superusers.filter fun superuser => superuser.id ≠ temp.id

/-- At most one admin account has been created, as a user and as a superuser. -/
def OneAdmin (temp : Superuser) (s : SetupState) : Prop :=
  countAdmins s.users ≤ 1 ∧ (s.created temp).length ≤ 1

/-- The request has found no users and is still to save its user. -/
def SetupTask.checked : SetupTask → Bool
  | .finding _ | .findingUsers _ _ | .savingUser _ _ => true
  | _ => false

/-- The request is at the save of its user. -/
def SetupTask.saves : SetupTask → Bool
  | .savingUser _ _ => true
  | _ => false

/-- A request saves its user while no other request is between its checks and its save. -/
def SetupGuard (s : SetupState) : SetupAction → Prop
  | .run t _ failure =>
    failure = none → (s.tasks t).saves = true →
      ∀ t' < s.nextTask, t' ≠ t → (s.tasks t').checked = false
  | .createFirstUser _ => True

instance (s : SetupState) (a : SetupAction) : Decidable (SetupGuard s a) := by
  unfold SetupGuard
  split <;> infer_instance

/-! ## Steps -/

theorem SetupState.setTask_self (s : SetupState) (t : Nat) (task : SetupTask) :
    (s.setTask t task).tasks t = task := by
  show update s.tasks t task t = task
  rw [update_self]

theorem SetupState.setTask_of_ne (s : SetupState) (task : SetupTask) {t t' : Nat}
    (h : t' ≠ t) : (s.setTask t task).tasks t' = s.tasks t' := by
  show update s.tasks t task t' = s.tasks t'
  rw [update_of_ne h]

section Steps

variable {temp : Superuser} {s s' : SetupState} {t : Nat} {newId : String}
  {failure : Option String}

/-- The request has saved its user and is still to save its superuser. -/
def SetupTask.owesSuperuser : SetupTask → Bool
  | .findingSuperusers _ _ | .savingSuperuser _ _ => true
  | _ => false

/-- A request is past its checks only while there are no users, and one at most is between its two
    saves. -/
structure SetupInv (temp : Superuser) (s : SetupState) : Prop where
  numbered : ∀ t, s.nextTask ≤ t → s.tasks t = .unused
  users : s.users.entries.length ≤ 1
  checked : ∀ t, (s.tasks t).checked = true → s.users = ∅
  empty : s.users = ∅ → s.created temp = [] ∧ ∀ t, (s.tasks t).owesSuperuser = false
  created : (s.created temp).length ≤ 1
  owes : ∀ t, (s.tasks t).owesSuperuser = true →
    s.created temp = [] ∧ ∀ t', t' ≠ t → (s.tasks t').owesSuperuser = false

theorem SetupInv.fresh : SetupInv temp (.fresh temp) where
  numbered _ _ := rfl
  users := Nat.zero_le 1
  checked _ h := nomatch h
  empty _ := ⟨by simp [SetupState.created, SetupState.fresh], fun _ => rfl⟩
  created := by simp [SetupState.created, SetupState.fresh]
  owes _ h := nomatch h

variable {task : SetupTask} {t' : Nat} {data : Credentials} {first : Superuser}

theorem owesSuperuser_update
    (htask : task.owesSuperuser = true → (s.tasks t).owesSuperuser = true)
    (h : (update s.tasks t task t').owesSuperuser = true) :
    (s.tasks t').owesSuperuser = true := by
  rw [update_apply] at h
  split at h
  case isTrue heq => exact heq ▸ htask h
  case isFalse => exact h

theorem not_owesSuperuser_update
    (htask : task.owesSuperuser = true → (s.tasks t).owesSuperuser = true)
    (h : (s.tasks t').owesSuperuser = false) :
    (update s.tasks t task t').owesSuperuser = false :=
  Bool.eq_false_iff.mpr fun howes => Bool.eq_false_iff.mp h (owesSuperuser_update htask howes)

theorem SetupInv.move (h : SetupInv temp s) {superusers : List Superuser} {nextTask : Nat}
    (hnum : ∀ t', nextTask ≤ t' → update s.tasks t task t' = .unused)
    (hsuperusers : superusers.Sublist s.superusers) (hchk : task.checked = true → s.users = ∅)
    (htask : task.owesSuperuser = true → (s.tasks t).owesSuperuser = true) :
    SetupInv temp ⟨s.users, superusers, update s.tasks t task, nextTask⟩ := by
  have hcre : (superusers.filter fun superuser => superuser.id ≠ temp.id).Sublist
      (s.created temp) := hsuperusers.filter _
  have hnone : s.created temp = [] →
      superusers.filter (fun superuser => superuser.id ≠ temp.id) = [] := by
    intro hnil
    rw [hnil] at hcre
    exact List.sublist_nil.mp hcre
  constructor
  · exact hnum
  · exact h.users
  · exact forall_update (P := fun _ (task : SetupTask) => task.checked = true → s.users = ∅)
      hchk fun t' _ => h.checked t'
  · intro hempty
    obtain ⟨hnil, howes⟩ := h.empty hempty
    exact ⟨hnone hnil, fun t' => not_owesSuperuser_update htask (howes t')⟩
  · exact Nat.le_trans hcre.length_le h.created
  · intro t' howes
    obtain ⟨hnil, hothers⟩ := h.owes t' (owesSuperuser_update htask howes)
    exact ⟨hnone hnil, fun t'' hne => not_owesSuperuser_update htask (hothers t'' hne)⟩

theorem SetupInv.saveUser (h : SetupInv temp s) (htask : s.tasks t = .savingUser data first)
    (hothers : ∀ t' < s.nextTask, t' ≠ t → (s.tasks t').checked = false) :
    SetupInv temp ({ s with users := s.users.insert newId data.user }.setTask t
      (.findingSuperusers data first)) := by
  have hused : s.tasks t ≠ .unused := by simp [htask]
  have hempty : s.users = ∅ := h.checked t (by rw [htask]; rfl)
  obtain ⟨hnil, howes⟩ := h.empty hempty
  have hents : (s.users.insert newId data.user).entries = [⟨newId, data.user⟩] := by
    rw [hempty]
    rfl
  constructor
  · exact numbered_update h.numbered hused
  · exact le_of_eq (congrArg List.length hents)
  · refine forall_update (P := fun _ (task : SetupTask) =>
      task.checked = true → s.users.insert newId data.user = ∅) (fun hchk => nomatch hchk) ?_
    intro t' hne hchk
    have hlt := lt_next_of h.numbered (P := (·.checked = true)) Bool.false_ne_true hchk
    rw [hothers t' hlt hne] at hchk
    cases hchk
  · -- there is a user now
    intro hnew
    have hnone : (s.users.insert newId data.user).entries = [] := congrArg AList.entries hnew
    cases hnone
  · exact h.created
  · intro t' howes'
    obtain rfl : t' = t := by
      by_contra hne
      rw [SetupState.setTask_of_ne _ _ hne, howes t'] at howes'
      cases howes'
    refine ⟨hnil, fun t'' hne => ?_⟩
    rw [SetupState.setTask_of_ne _ _ hne]
    exact howes t''

/-- The superuser is saved: no other request is about to do so. -/
theorem SetupInv.saveSuperuser (h : SetupInv temp s)
    (htask : s.tasks t = .savingSuperuser data first) (superuser : Superuser) :
    SetupInv temp ({ s with superusers := superuser :: s.superusers }.setTask t
      (.deleting first)) := by
  have hused : s.tasks t ≠ .unused := by simp [htask]
  have howes : (s.tasks t).owesSuperuser = true := by rw [htask]; rfl
  obtain ⟨hnil, hothers⟩ := h.owes t howes
  have hlen : ((superuser :: s.superusers).filter
      fun superuser => superuser.id ≠ temp.id).length ≤ 1 := by
    have hold : s.superusers.filter (fun superuser => superuser.id ≠ temp.id) = [] := hnil
    rw [List.filter_cons, hold]
    split_ifs <;> simp
  constructor
  · exact numbered_update h.numbered hused
  · exact h.users
  · exact forall_update (P := fun _ (task : SetupTask) => task.checked = true → s.users = ∅)
      (fun hchk => nomatch hchk) fun t' _ => h.checked t'
  · intro hempty
    rw [(h.empty hempty).2 t] at howes
    cases howes
  · exact hlen
  · intro t' howes'
    -- only this request owed one
    have hne : t' ≠ t := by
      rintro rfl
      rw [SetupState.setTask_self] at howes'
      cases howes'
    rw [SetupState.setTask_of_ne _ _ hne, hothers t' hne] at howes'
    cases howes'

theorem checkSuperusers_owes (body : Except String Credentials) (superusers : List Superuser) :
    (checkSuperusers body superusers).owesSuperuser = false := by
  unfold checkSuperusers
  split
  · split_ifs
    · rfl
    · split
      · rfl
      · split_ifs <;> rfl
  · rfl

/-- A request that meets the condition leaves one user and one admin at most. -/
theorem SetupInv.runTask (h : SetupInv temp s) (hguard : SetupGuard s (.run t newId failure))
    (hrun : s.runTask t newId failure = some s') : SetupInv temp s' := by
  unfold SetupState.runTask at hrun
  have hused : s.tasks t ≠ .unused := by
    intro hunused
    simp [hunused] at hrun
  have hmove : ∀ {task : SetupTask}, (task.checked = true → s.users = ∅) →
      (task.owesSuperuser = true → (s.tasks t).owesSuperuser = true) →
      SetupInv temp (s.setTask t task) := by
    intro task hchk htask
    exact h.move (numbered_update h.numbered hused) (List.Sublist.refl _) hchk htask
  have hdone : ∀ response, SetupInv temp (s.setTask t (.done response)) :=
    fun response => hmove (fun hchk => nomatch hchk) (fun howes => nomatch howes)
  cases htask : s.tasks t with (rw [htask] at hrun; dsimp only at hrun)
  | unused | done response => cases hrun
  | counting body =>
    split_ifs at hrun with hsome <;> cases hrun
    · exact hdone _
    · refine hmove (fun _ => ?_) (fun howes => nomatch howes)
      apply AList.ext
      apply List.eq_nil_of_length_eq_zero
      omega
  | finding body =>
    have hempty : s.users = ∅ := h.checked t (by rw [htask]; rfl)
    split_ifs at hrun <;> cases hrun
    · exact hdone _
    · refine hmove (fun _ => hempty) fun howes => ?_
      rw [checkSuperusers_owes] at howes
      cases howes
  | findingUsers data first =>
    have hempty : s.users = ∅ := h.checked t (by rw [htask]; rfl)
    split_ifs at hrun <;> cases hrun
    · exact hdone _
    · exact hmove (fun _ => hempty) (fun howes => nomatch howes)
  | findingSuperusers data first =>
    split_ifs at hrun <;> cases hrun
    · exact hdone _
    · exact hmove (fun hchk => nomatch hchk) fun _ => by rw [htask]; rfl
  | savingUser data first =>
    cases failure with
    | some err =>
      cases hrun
      exact hdone _
    | none =>
      simp only [Option.ite_none_right_eq_some, Option.some.injEq] at hrun
      rw [← hrun.2]
      exact h.saveUser htask (hguard rfl (by rw [htask]; rfl))
  | savingSuperuser data first =>
    cases failure with
    | some err =>
      cases hrun
      exact hdone _
    | none =>
      simp only [Option.ite_none_right_eq_some, Option.some.injEq] at hrun
      rw [← hrun.2]
      exact h.saveSuperuser htask _
  | deleting first =>
    cases failure with cases hrun
    | some err =>
      exact hdone _
    | none =>
      exact h.move (numbered_update h.numbered hused) List.filter_sublist
        (fun hchk => nomatch hchk) (fun howes => nomatch howes)

/-- **One step** under the condition keeps the setup to one request. -/
theorem setupStep_inv (s : SetupState) (a : SetupAction) (s' : SetupState) (h : SetupInv temp s)
    (hguard : SetupGuard s a) (hstep : setupStep s a = some s') : SetupInv temp s' := by
  cases a with
  | createFirstUser body =>
    cases hstep
    exact h.move (numbered_spawn h.numbered) (List.Sublist.refl _)
      (fun hchk => nomatch hchk) (fun howes => nomatch howes)
  | run t newId failure => exact h.runTask hguard hstep

theorem SetupInv.oneAdmin (h : SetupInv temp s) : OneAdmin temp s :=
  ⟨Nat.le_trans List.countP_le_length h.users, h.created⟩

end Steps

/-- **One admin is created**: from a fresh installation, if a request saves its user only while no
    other one is between its checks and its save, at most one admin account exists in every
    state. -/
theorem one_admin_created (temp : Superuser) (as : List SetupAction)
    (hguard : EveryStep setupStep SetupGuard (.fresh temp) as) :
    EveryState setupStep (OneAdmin temp) (.fresh temp) as :=
  everyState_of_invariant setupStep_inv (fun _ h => h.oneAdmin) .fresh hguard

/-! ## Two requests -/

def tempAdmin : Superuser := ⟨"temp", tempAdminEmail, "random"⟩

/-- Two requests, the second of them after the user of the first has been saved. -/
def requestsInTurn : List SetupAction :=
  [.createFirstUser (.ok ⟨"ana@b.c", "password1"⟩), .run 0 "" none, .run 0 "" none,
    .run 0 "" none, .run 0 "u1" none, .createFirstUser (.ok ⟨"eve@b.c", "password2"⟩),
    .run 1 "" none, .run 0 "" none, .run 0 "s1" none, .run 0 "" none]

theorem one_admin_created_in_turn :
    EveryStep setupStep SetupGuard (.fresh tempAdmin) requestsInTurn ∧
      EveryState setupStep (OneAdmin tempAdmin) (.fresh tempAdmin) requestsInTurn := by
  have hguard : EveryStep setupStep SetupGuard (.fresh tempAdmin) requestsInTurn := by
    decide +kernel
  exact ⟨hguard, one_admin_created tempAdmin requestsInTurn hguard⟩

/-- Both requests make their checks before either of them saves its user. -/
def requestsAtOnce : List SetupAction :=
  [.createFirstUser (.ok ⟨"ana@b.c", "password1"⟩),
    .createFirstUser (.ok ⟨"eve@b.c", "password2"⟩),
    .run 0 "" none, .run 1 "" none, .run 0 "" none, .run 1 "" none, .run 0 "" none,
    .run 1 "" none, .run 0 "u1" none, .run 1 "u2" none]

/-- **Two first users**: two requests at the same time create an admin each. -/
theorem two_first_users :
    ∃ s, exec setupStep (.fresh tempAdmin) requestsAtOnce = some s ∧
      (s.users.lookup "u1").map (·.role) = some .admin ∧
      (s.users.lookup "u2").map (·.role) = some .admin ∧ countAdmins s.users = 2 := by
  refine ⟨_, rfl, ?_, ?_, ?_⟩ <;> decide +kernel

/-! ## Requests that fail -/

/-- The storage calls of request `t`, each with the id of a new record and its error. -/
def callsOf (t : Nat) (calls : List (String × Option String)) : List SetupAction :=
  calls.map fun call => .run t call.1 call.2

/-- An answer that is an error leaves the users as they were. -/
def KeepsUsers (users users' : UserTable) (response : JsonResponse) : Prop :=
  response.status ≠ 200 → users' = users

section Failures

variable {s s' : SetupState} {t : Nat} {calls : List (String × Option String)}
  {response answer : JsonResponse} {data : Credentials} {first : Superuser}
  {body : Except String Credentials} (hdone : s'.tasks t = .done response)
include hdone

theorem refused_calls (k : Nat)
    (hexec : exec setupStep (s.setTask t (.done answer)) (callsOf t calls) = some s') :
    response = answer ∧ s'.users = s.users ∧ ∀ call ∈ calls.drop k, call.2 = none := by
  cases calls with
  | nil =>
    cases hexec
    rw [s.setTask_self] at hdone
    cases hdone
    simp [SetupState.setTask]
  | cons call calls =>
    obtain ⟨_, hrun, -⟩ := exec_cons_eq_some.mp hexec
    simp [setupStep, SetupState.runTask, s.setTask_self] at hrun

variable (hexec : exec setupStep s (callsOf t calls) = some s')
include hexec

theorem exists_call (htask : ∀ answer, s.tasks t ≠ .done answer := by simp [*]) :
    ∃ call rest u, calls = call :: rest ∧ s.runTask t call.1 call.2 = some u ∧
      exec setupStep u (callsOf t rest) = some s' := by
  cases calls with
  | nil =>
    cases hexec
    exact absurd hdone (htask response)
  | cons call rest =>
    obtain ⟨u, hrun, hrest⟩ := exec_cons_eq_some.mp hexec
    exact ⟨call, rest, u, rfl, hrun, hrest⟩

theorem deleting_calls (htask : s.tasks t = .deleting first) :
    s'.users = s.users ∧ (response.status = 200 ↔ ∀ call ∈ calls, call.2 = none) := by
  obtain ⟨⟨newId, failure⟩, rest, u, rfl, hrun, hrest⟩ := exists_call hdone hexec
  simp only [SetupState.runTask, htask] at hrun
  split at hrun <;> cases hrun
  · obtain ⟨rfl, husers, -⟩ := refused_calls hdone 0 hrest
    simp [husers]
  · obtain ⟨rfl, husers, hnone⟩ := refused_calls hdone 0 hrest
    simpa [husers] using hnone

theorem savingSuperuser_calls (htask : s.tasks t = .savingSuperuser data first) :
    s'.users = s.users ∧ (response.status = 200 ↔ ∀ call ∈ calls, call.2 = none) := by
  obtain ⟨⟨newId, failure⟩, rest, u, rfl, hrun, hrest⟩ := exists_call hdone hexec
  simp only [SetupState.runTask, htask] at hrun
  split at hrun
  · cases hrun
    obtain ⟨rfl, husers, -⟩ := refused_calls hdone 0 hrest
    simp [husers]
  · split at hrun <;> cases hrun
    simpa [SetupState.setTask] using deleting_calls hdone hrest (SetupState.setTask_self ..)

theorem findingSuperusers_calls (htask : s.tasks t = .findingSuperusers data first) :
    s'.users = s.users ∧ (response.status = 200 ↔ ∀ call ∈ calls, call.2 = none) := by
  obtain ⟨⟨newId, failure⟩, rest, u, rfl, hrun, hrest⟩ := exists_call hdone hexec
  simp only [SetupState.runTask, htask] at hrun
  split at hrun <;> cases hrun
  next hfail =>
    obtain ⟨rfl, husers, -⟩ := refused_calls hdone 0 hrest
    simp [husers, recovered, hfail]
  next hok =>
    simpa [SetupState.setTask, not_not.mp hok] using
      savingSuperuser_calls hdone hrest (SetupState.setTask_self ..)

theorem savingUser_calls (htask : s.tasks t = .savingUser data first) :
    KeepsUsers s.users s'.users response ↔ ∀ call ∈ calls.drop 1, call.2 = none := by
  obtain ⟨⟨newId, failure⟩, rest, u, rfl, hrun, hrest⟩ := exists_call hdone hexec
  simp only [SetupState.runTask, htask] at hrun
  split at hrun
  · cases hrun
    exact iff_of_true (fun _ => (refused_calls hdone 0 hrest).2.1) (refused_calls hdone 0 hrest).2.2
  · split at hrun <;> cases hrun
    next haccepts =>
    obtain ⟨husers, hstatus⟩ := findingSuperusers_calls hdone hrest (SetupState.setTask_self ..)
    -- the new user has an id of its own
    have hne : s'.users ≠ s.users := by
      intro heq
      have hnew : ⟨newId, data.user⟩ ∈ s.users.entries := by
        rw [← heq, husers]
        exact List.mem_cons_self
      simpa [SetupState.acceptsUser] using List.all_eq_true.mp haccepts _ hnew
    simp [KeepsUsers, hne, hstatus]

theorem findingUsers_calls (htask : s.tasks t = .findingUsers data first) :
    KeepsUsers s.users s'.users response ↔ ∀ call ∈ calls.drop 2, call.2 = none := by
  obtain ⟨⟨newId, failure⟩, rest, u, rfl, hrun, hrest⟩ := exists_call hdone hexec
  simp only [SetupState.runTask, htask] at hrun
  split at hrun <;> cases hrun
  · exact iff_of_true (fun _ => (refused_calls hdone 0 hrest).2.1) (refused_calls hdone 1 hrest).2.2
  · exact (savingUser_calls hdone hrest (SetupState.setTask_self ..) :)

theorem counting_calls (htask : s.tasks t = .counting body) :
    KeepsUsers s.users s'.users response ↔ ∀ call ∈ calls.drop 4, call.2 = none := by
  have hrefused : ∀ {u : SetupState} {answer k rest},
      exec setupStep (u.setTask t (.done answer)) (callsOf t rest) = some s' →
      u.users = s.users →
      (KeepsUsers s.users s'.users response ↔ ∀ call ∈ rest.drop k, call.2 = none) :=
    fun hrest hu => iff_of_true (fun _ => (refused_calls hdone 0 hrest).2.1.trans hu)
      (refused_calls hdone _ hrest).2.2
  obtain ⟨⟨_, failure⟩, rest, u, rfl, hrun, hrest⟩ := exists_call hdone hexec
  simp only [SetupState.runTask, htask] at hrun
  rw [List.drop_succ_cons]
  split at hrun <;> cases hrun
  · exact hrefused hrest rfl
  obtain ⟨⟨_, failure⟩, rest, u, rfl, hrun, hrest⟩ :=
    exists_call hdone hrest (by simp [s.setTask_self])
  simp only [SetupState.runTask, s.setTask_self] at hrun
  rw [List.drop_succ_cons]
  split at hrun <;> cases hrun
  · exact hrefused hrest rfl
  unfold checkSuperusers at hrest
  split at hrest
  · split at hrest
    · exact hrefused hrest rfl
    · split at hrest
      · exact hrefused hrest rfl
      · split at hrest
        · exact hrefused hrest rfl
        · exact (findingUsers_calls hdone hrest (SetupState.setTask_self ..) :)
  · exact hrefused hrest rfl

end Failures

/-- **A request that fails creates no user** exactly if no storage call after the fourth fails: the
    user is saved by then. -/
theorem failed_setup_keeps_users_iff (s s' : SetupState) (body : Except String Credentials)
    (calls : List (String × Option String)) (response : JsonResponse)
    (hexec : exec setupStep s (.createFirstUser body :: callsOf s.nextTask calls) = some s')
    (hdone : s'.tasks s.nextTask = .done response) :
    KeepsUsers s.users s'.users response ↔ ∀ call ∈ calls.drop 4, call.2 = none := by
  obtain ⟨_, hspawn, hrest⟩ := exec_cons_eq_some.mp hexec
  cases hspawn
  exact (counting_calls hdone hrest (update_self ..) :)

def setupRun (calls : List (String × Option String)) : List SetupAction :=
  .createFirstUser (.ok ⟨"ana@b.c", "password1"⟩) ::
    callsOf 0 (("", none) :: ("", none) :: ("", none) :: ("u1", none) :: calls)

theorem setup_keeps_users :
    ∃ s' response, exec setupStep (.fresh tempAdmin)
      (setupRun [("", none), ("s1", none), ("", none)]) = some s' ∧ s'.tasks 0 = .done response ∧
        KeepsUsers ∅ s'.users response := by
  refine ⟨_, _, rfl, rfl, (failed_setup_keeps_users_iff (.fresh tempAdmin) _
    (.ok ⟨"ana@b.c", "password1"⟩) [("", none), ("", none), ("", none), ("u1", none), ("", none),
      ("s1", none), ("", none)] _ rfl rfl).mpr ?_⟩
  decide

/-- **The user stays** though the request fails: the superuser could not be saved. -/
theorem failed_setup_creates_user :
    ∃ s' response, exec setupStep (.fresh tempAdmin)
      (setupRun [("", none), ("", some "disk full")]) = some s' ∧ s'.tasks 0 = .done response ∧
        ¬ KeepsUsers ∅ s'.users response := by
  refine ⟨_, ⟨500, "err", "disk full"⟩, rfl, rfl, ?_⟩
  intro hkeeps
  cases congrArg AList.entries (hkeeps (by decide))

end Bantay.Users
