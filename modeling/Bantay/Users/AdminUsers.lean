import Bantay.Lib.GoMap
import Bantay.Lib.Pool
import Bantay.Lib.Transition

/-!
# Users Managed by Admins

A step model of `updateUser` and `deleteUser` in `internal/hub/admin.go`.  Nobody changes their own
role or deletes their own account, and the last admin is neither demoted nor deleted: the requests
count the admins first.

The authentication of a request, every read of the database and every write is one step, and the
requests interleave in any order.  A save writes every field of the record.  The names of users are
not a field of the collection and are left out.
-/

namespace Bantay.Users

open Bantay.Lib

/-! ## Data -/

inductive Role where
  | empty
  | user
  | admin
  | readonly
deriving DecidableEq

/-- A record of the collection `users`, without its id. -/
structure User where
  email : String
  role : Role
  verified : Bool
  password : String
deriving DecidableEq

/-- The collection `users`, by the ids of its records. -/
abbrev UserTable := GoMap String User

structure UpdateUserRequest where
  email : Option String
  role : Option String
  verified : Option Bool
  password : Option String
deriving DecidableEq

/-- What a handler returns. -/
inductive Response where
  | ok (id : String) (user : User)
  | noContent
  | badRequest (message : String)
  | notFound (message : String)
  | internalServerError (message : String)
deriving DecidableEq

structure AdminConfig where
  trimSpace : String → String
  parseAddress : String → Bool

/-- What a request knows about the number of admins. -/
inductive AdminCheck where
  | skipped
  /-- `countAdmins` returned an error, which is ignored -/
  | failed
  | passed
deriving DecidableEq

inductive AdminTask where
  | unused
  /-- `updateUser` at `FindRecordById`; `none` is a body that cannot be bound -/
  | finding (auth id : String) (body : Option UpdateUserRequest)
  /-- `updateUser` at `countAdmins`, with the user as found and changed so far -/
  | counting (id : String) (rec : User) (role : Role) (req : UpdateUserRequest)
  /-- `updateUser` at `Save` -/
  | saving (id : String) (rec : User) (check : AdminCheck)
  /-- `deleteUser` at `FindRecordById` -/
  | findingToDelete (id : String)
  /-- `deleteUser` at `countAdmins` -/
  | countingToDelete (id : String)
  /-- `deleteUser` at `Delete` -/
  | deleting (id : String) (check : AdminCheck)
  | done (response : Response)
deriving DecidableEq

structure AdminState where
  users : UserTable
  tasks : Nat → AdminTask
  nextTask : Nat

/-! ## Handlers -/

def countAdmins (users : UserTable) : Nat := users.count fun entry => entry.2.role = .admin

def parseRole : String → Option Role
  | "admin" => some .admin
  | "readonly" => some .readonly
  | "" => some .empty
  | _ => none

/-- `updateUser` after the role. -/
def updateRest (id : String) (rec : User) (req : UpdateUserRequest) (check : AdminCheck) :
    AdminTask :=
  let rec' := { rec with verified := req.verified.getD rec.verified }
  match req.password with
  | none => .saving id rec' check
  | some password =>
    if password = "" then
      .saving id rec' check
    else if password.utf8ByteSize < 8 then
      .done (.badRequest "Password must be at least 8 characters.")
    else
      .saving id { rec' with password := password } check

def updateRole (auth id : String) (rec : User) (req : UpdateUserRequest) : AdminTask :=
  match req.role with
  | none => updateRest id rec req .skipped
  | some text =>
    match parseRole text with
    | none => .done (.badRequest "Role must be admin, readonly, or empty.")
    | some role =>
      if id = auth ∧ role ≠ rec.role then
        .done (.badRequest "You cannot change your own role. Ask another admin.")
      else if rec.role = .admin ∧ role ≠ .admin then
        -- prevent removing the last admin
        .counting id rec role req
      else
        updateRest id { rec with role := role } req .skipped

def updateFound (cfg : AdminConfig) (auth id : String) (found : User)
    (body : Option UpdateUserRequest) : AdminTask :=
  match body with
  | none => .done (.badRequest "Invalid request body.")
  | some req =>
    match req.email with
    | none => updateRole auth id found req
    | some email =>
      if cfg.parseAddress (cfg.trimSpace email) then
        updateRole auth id { found with email := cfg.trimSpace email } req
      else
        .done (.badRequest "Invalid email address.")

/-- `none` if the request is refused. -/
def lastAdminCheck (users : UserTable) (failure : Option String) : Option AdminCheck :=
  match failure with
  | some _ => some .failed
  | none => if countAdmins users ≤ 1 then none else some .passed

/-- Every field is written; a record that has been deleted is not. -/
def saveUser (users : UserTable) (id : String) (rec : User) : UserTable :=
  match users.lookup id with
  | none => users
  | some _ => users.insert id rec

namespace AdminState

def setTask (s : AdminState) (t : Nat) (task : AdminTask) : AdminState :=
  { s with tasks := Function.update s.tasks t task }

def spawn (s : AdminState) (task : AdminTask) : AdminState :=
  { s with
    tasks := Function.update s.tasks s.nextTask task
    nextTask := s.nextTask + 1 }

/-- `failure` is the error of the database, as `formatSaveError` formats it. -/
def runTask (cfg : AdminConfig) (s : AdminState) (t : Nat) (failure : Option String) :
    Option AdminState :=
  match s.tasks t with
  | .unused | .done _ => none
  | .finding auth id body =>
    match failure, s.users.lookup id with
    | none, some found => some (s.setTask t (updateFound cfg auth id found body))
    | _, _ => some (s.setTask t (.done (.notFound "User not found.")))
  | .counting id rec role req =>
    match lastAdminCheck s.users failure with
    | none => some (s.setTask t (.done (.badRequest "Cannot demote the last remaining admin.")))
    | some check =>
      some (s.setTask t (updateRest id { rec with role := role } req check))
  | .saving id rec _ =>
    match failure with
    | some message => some (s.setTask t (.done (.badRequest message)))
    | none =>
      some ({ s with users := saveUser s.users id rec }.setTask t (.done (.ok id rec)))
  | .findingToDelete id =>
    match failure, s.users.lookup id with
    | none, some found =>
      if found.role = .admin then
        some (s.setTask t (.countingToDelete id))
      else
        some (s.setTask t (.deleting id .skipped))
    | _, _ => some (s.setTask t (.done (.notFound "User not found.")))
  | .countingToDelete id =>
    match lastAdminCheck s.users failure with
    | none => some (s.setTask t (.done (.badRequest "Cannot delete the last remaining admin.")))
    | some check => some (s.setTask t (.deleting id check))
  | .deleting id _ =>
    match failure with
    | some _ => some (s.setTask t (.done (.internalServerError "Failed to delete user.")))
    | none => some ({ s with users := s.users.erase id }.setTask t (.done .noContent))

/-- `requireAdminRole` -/
def isAdmin (s : AdminState) (auth : String) : Bool :=
  (s.users.lookup auth).any fun user => user.role = .admin

def init (users : UserTable) : AdminState where
  users := users
  tasks _ := .unused
  nextTask := 0

end AdminState

def updateUser (auth id : String) (body : Option UpdateUserRequest) : AdminTask :=
  if id = "" then .done (.badRequest "Missing user id.") else .finding auth id body

def deleteUser (auth id : String) : AdminTask :=
  if id = "" then
    .done (.badRequest "Missing user id.")
  else if id = auth then
    .done (.badRequest "You cannot delete your own account.")
  else
    .findingToDelete id

inductive AdminAction where
  | updateUser (auth id : String) (body : Option UpdateUserRequest)
  | deleteUser (auth id : String)
  | run (t : Nat) (failure : Option String)

def adminStep (cfg : AdminConfig) (s : AdminState) : AdminAction → Option AdminState
  | .updateUser auth id body =>
    if s.isAdmin auth then some (s.spawn (updateUser auth id body)) else none
  | .deleteUser auth id => if s.isAdmin auth then some (s.spawn (deleteUser auth id)) else none
  | .run t failure => s.runTask cfg t failure

/-! ## The property and the condition -/

/-- The request has counted more than one admin and is still to write. -/
def AdminTask.counted : AdminTask → Bool
  | .saving _ _ check => check = .passed
  | .deleting _ check => check = .passed
  | _ => false

/-- The write of the request takes an admin away. -/
def AdminTask.removesAdmin (users : UserTable) : AdminTask → Bool
  | .saving id rec _ =>
    (users.lookup id).any fun stored => stored.role = .admin ∧ rec.role ≠ .admin
  | .deleting id _ => (users.lookup id).any fun stored => stored.role = .admin
  | _ => false

/-- A request takes an admin away only if it has counted, and no other one that has is still to
    write. -/
def AdminGuard (s : AdminState) : AdminAction → Prop
  | .run t failure =>
    failure = none → (s.tasks t).removesAdmin s.users = true →
      (s.tasks t).counted = true ∧
        ∀ t' < s.nextTask, t' ≠ t → (s.tasks t').counted = false
  | .updateUser _ _ _ | .deleteUser _ _ => True

instance (s : AdminState) (a : AdminAction) : Decidable (AdminGuard s a) := by
  unfold AdminGuard
  split <;> infer_instance

/-! ## Counting -/

section Count

variable {users : UserTable} {id : String} {rec : User}

theorem lastAdminCheck_passed {failure : Option String}
    (h : lastAdminCheck users failure = some .passed) : 2 ≤ countAdmins users := by
  unfold lastAdminCheck at h
  split at h
  · cases h
  · split at h
    · cases h
    · omega

theorem countAdmins_erase :
    countAdmins users ≤ countAdmins (users.erase id) +
      if (users.lookup id).any fun stored => stored.role = .admin then 1 else 0 := by
  cases hlookup : users.lookup id with
  | none =>
    rw [GoMap.erase_of_lookup_none hlookup]
    exact Nat.le_add_right _ _
  | some stored =>
    rw [countAdmins, GoMap.count_erase _ hlookup]
    exact le_rfl

theorem countAdmins_saveUser (check : AdminCheck) :
    countAdmins users ≤ countAdmins (saveUser users id rec) +
      if (AdminTask.saving id rec check).removesAdmin users then 1 else 0 := by
  cases hlookup : users.lookup id with
  | none =>
    rw [show saveUser users id rec = users by simp only [saveUser, hlookup]]
    exact Nat.le_add_right _ _
  | some stored =>
    have hbef := GoMap.count_erase (fun entry => entry.2.role = .admin) hlookup
    have hafter : GoMap.count _ (users.insert id rec) = _ :=
      GoMap.count_insert (fun entry => entry.2.role = .admin)
    simp only [countAdmins, saveUser, AdminTask.removesAdmin, hlookup, Option.any_some,
      decide_eq_true_eq] at hbef hafter ⊢
    rw [hbef, hafter]
    by_cases hstored : stored.role = .admin <;>
      by_cases hsaved : rec.role = .admin <;> simp [hstored, hsaved]

end Count

/-! ## Steps -/

section Steps

variable {cfg : AdminConfig} {s s' : AdminState} {t : Nat} {failure : Option String}
  {auth id : String} {found rec : User}

theorem updateRest_counted {req : UpdateUserRequest} {check : AdminCheck}
    (h : (updateRest id rec req check).counted = true) : check = .passed := by
  unfold updateRest at h
  split at h
  · exact of_decide_eq_true h
  · split_ifs at h
    · exact of_decide_eq_true h
    · cases h
    · exact of_decide_eq_true h

theorem updateRole_counted (req : UpdateUserRequest) :
    (updateRole auth id rec req).counted = false := by
  have hrest : ∀ rec', (updateRest id rec' req .skipped).counted = false := by
    intro rec'
    apply Bool.eq_false_iff.mpr
    intro h
    cases updateRest_counted h
  unfold updateRole
  split
  · exact hrest rec
  · split
    · rfl
    · split_ifs <;> first | rfl | exact hrest _

theorem updateFound_counted (body : Option UpdateUserRequest) :
    (updateFound cfg auth id found body).counted = false := by
  unfold updateFound
  split
  · rfl
  · split
    · exact updateRole_counted _
    · split_ifs
      · exact updateRole_counted _
      · rfl

/-- A request moves on, with a count of more than one admin only, or it writes and is done. -/
inductive TaskEffect (s : AdminState) (t : Nat) : Option String → AdminState → Prop where
  | move {failure : Option String} {task : AdminTask}
      (hcounted : task.counted = true → 2 ≤ countAdmins s.users) :
      TaskEffect s t failure (s.setTask t task)
  | write {users : UserTable} {response : Response}
      (hcount : countAdmins s.users ≤ countAdmins users +
        if (s.tasks t).removesAdmin s.users then 1 else 0) :
      TaskEffect s t none ({ s with users := users }.setTask t (.done response))

theorem TaskEffect.move_uncounted {task : AdminTask} (h : task.counted = false) :
    TaskEffect s t failure (s.setTask t task) :=
  .move (by simp [h])

theorem runTask_used (h : s.runTask cfg t failure = some s') : s.tasks t ≠ .unused := by
  intro hunused
  simp [AdminState.runTask, hunused] at h

/-- **Inversion of a step** of a request. -/
theorem runTask_effect (h : s.runTask cfg t failure = some s') : TaskEffect s t failure s' := by
  unfold AdminState.runTask at h
  cases htask : s.tasks t with simp only [htask] at h
  | unused | done response => cases h
  | finding auth id body =>
    split at h <;> cases h
    · exact .move_uncounted (updateFound_counted body)
    · exact .move_uncounted rfl
  | findingToDelete id =>
    split at h
    · split at h <;> cases h <;> exact .move_uncounted rfl
    · cases h
      exact .move_uncounted rfl
  | counting id rec role req | countingToDelete id =>
    split at h <;> cases h
    · exact .move_uncounted rfl
    · next check hcheck =>
      refine .move fun hcounted => lastAdminCheck_passed (hcheck.trans (congrArg some ?_))
      first
        | exact updateRest_counted hcounted
        | exact of_decide_eq_true hcounted
  | saving id rec check | deleting id check =>
    split at h <;> cases h
    · exact .move_uncounted rfl
    · refine .write ?_
      rw [htask]
      first
        | exact countAdmins_saveUser check
        | exact countAdmins_erase

end Steps

/-! ## Runs -/

section Runs

variable {cfg : AdminConfig} {s s' : AdminState} {t : Nat} {failure : Option String}

/-- A count that a request holds is not out of date: there is still more than one admin. -/
structure AdminInv (s : AdminState) : Prop where
  numbered : ∀ t, s.nextTask ≤ t → s.tasks t = .unused
  remains : 0 < countAdmins s.users
  counted : ∀ t, (s.tasks t).counted = true → 2 ≤ countAdmins s.users

theorem AdminInv.init {users : UserTable} (h : 0 < countAdmins users) :
    AdminInv (AdminState.init users) where
  numbered _ _ := rfl
  remains := h
  counted _ hcounted := nomatch hcounted

theorem AdminInv.spawn (h : AdminInv s) {task : AdminTask} (htask : task.counted = false) :
    AdminInv (s.spawn task) where
  numbered := numbered_spawn h.numbered
  remains := h.remains
  counted := by
    refine forall_update
      (P := fun _ (task : AdminTask) => task.counted = true → 2 ≤ countAdmins s.users) ?_ ?_
    · simp [htask]
    · exact fun t' _ => h.counted t'

/-- Only the request that takes an admin away has counted, so nobody relies on the number before. -/
theorem AdminInv.write (h : AdminInv s) (hused : s.tasks t ≠ .unused)
    (hguard : AdminGuard s (.run t none)) {users : UserTable} {response : Response}
    (hcount : countAdmins s.users ≤ countAdmins users +
      if (s.tasks t).removesAdmin s.users then 1 else 0) :
    AdminInv ({ s with users := users }.setTask t (.done response)) := by
  suffices h' : 0 < countAdmins users ∧
      ∀ t', t' ≠ t → (s.tasks t').counted = true → 2 ≤ countAdmins users from
    ⟨numbered_update h.numbered hused, h'.1, forall_update (P := fun _ (task : AdminTask) =>
      task.counted = true → 2 ≤ countAdmins users) nofun h'.2⟩
  by_cases hremoves : (s.tasks t).removesAdmin s.users = true
  · obtain ⟨hself, hothers⟩ := hguard rfl hremoves
    have htwo : 2 ≤ countAdmins s.users := h.counted t hself
    rw [if_pos hremoves] at hcount
    refine ⟨by omega, fun t' hne hcounted => ?_⟩
    -- a request that has counted is one of those the condition speaks of
    have hlt := lt_next_of h.numbered (P := (·.counted = true)) Bool.false_ne_true hcounted
    rw [hothers t' hlt hne] at hcounted
    cases hcounted
  · rw [if_neg hremoves, Nat.add_zero] at hcount
    exact ⟨Nat.lt_of_lt_of_le h.remains hcount,
      fun t' _ hcounted => Nat.le_trans (h.counted t' hcounted) hcount⟩

theorem AdminInv.runTask (h : AdminInv s) (hguard : AdminGuard s (.run t failure))
    (hrun : s.runTask cfg t failure = some s') : AdminInv s' := by
  have hused := runTask_used hrun
  cases runTask_effect hrun with
  | move hcounted =>
    refine ⟨numbered_update h.numbered hused, h.remains, ?_⟩
    exact forall_update
      (P := fun _ (task : AdminTask) => task.counted = true → 2 ≤ countAdmins s.users)
      hcounted fun t' _ => h.counted t'
  | write hcount => exact h.write hused hguard hcount

/-- **One step** under the condition keeps the counts that requests hold up to date. -/
theorem adminStep_inv (s : AdminState) (a : AdminAction) (s' : AdminState) (h : AdminInv s)
    (hguard : AdminGuard s a) (hstep : adminStep cfg s a = some s') : AdminInv s' := by
  cases a with
  | updateUser auth id body | deleteUser auth id =>
    simp only [adminStep, Option.ite_none_right_eq_some, Option.some.injEq] at hstep
    rw [← hstep.2]
    apply h.spawn
    simp only [updateUser, deleteUser]
    split_ifs <;> rfl
  | run t failure => exact h.runTask hguard hstep

end Runs

/-- **An admin remains** from every table of users with an admin, if a request takes an admin away
    only if it has counted the admins and no other request that has counted them is still to
    write. -/
theorem admin_remains (cfg : AdminConfig) (users : UserTable) (as : List AdminAction)
    (hadmin : 0 < countAdmins users)
    (hguard : EveryStep (adminStep cfg) AdminGuard (.init users) as) :
    EveryState (adminStep cfg) (fun s => 0 < countAdmins s.users) (.init users) as :=
  everyState_of_invariant adminStep_inv (fun _ h => h.remains) (.init hadmin) hguard

/-! ## Two admins -/

def plainConfig : AdminConfig where
  trimSpace := id
  parseAddress _ := true

/-- Two admins, and nobody else. -/
def twoAdmins : UserTable :=
  (AList.insert "ana" ⟨"ana@b.c", .admin, true, "password1"⟩ ∅).insert "ben"
    ⟨"ben@b.c", .admin, true, "password2"⟩

def demotion : UpdateUserRequest := ⟨none, some "", none, none⟩

/-- One demotes the other; the other's request comes later and is refused. -/
def demotionsInTurn : List AdminAction :=
  [.updateUser "ana" "ben" (some demotion), .updateUser "ben" "ana" (some demotion),
    .run 0 none, .run 0 none, .run 0 none, .run 1 none, .run 1 none]

theorem admin_remains_in_turn :
    EveryStep (adminStep plainConfig) AdminGuard (.init twoAdmins) demotionsInTurn ∧
      EveryState (adminStep plainConfig) (fun s => 0 < countAdmins s.users) (.init twoAdmins)
        demotionsInTurn := by
  have hguard : EveryStep (adminStep plainConfig) AdminGuard (.init twoAdmins)
      demotionsInTurn := by
    decide +kernel
  exact ⟨hguard, admin_remains plainConfig twoAdmins demotionsInTurn (by decide +kernel) hguard⟩

/-- Both requests count two admins before either of them saves. -/
def demotionsAtOnce : List AdminAction :=
  [.updateUser "ana" "ben" (some demotion), .updateUser "ben" "ana" (some demotion),
    .run 0 none, .run 1 none, .run 0 none, .run 1 none, .run 0 none, .run 1 none]

/-- **No admin is left**: two admins demote each other at the same time. -/
theorem admins_demote_each_other :
    0 < countAdmins twoAdmins ∧
      ∃ s, exec (adminStep plainConfig) (.init twoAdmins) demotionsAtOnce = some s ∧
        s.tasks 0 = .done (.ok "ben" ⟨"ben@b.c", .empty, true, "password2"⟩) ∧
        s.tasks 1 = .done (.ok "ana" ⟨"ana@b.c", .empty, true, "password1"⟩) ∧
        countAdmins s.users = 0 := by
  refine ⟨by decide +kernel, _, rfl, ?_, ?_, ?_⟩ <;> decide +kernel

end Bantay.Users
