import Bantay.Systems.SystemManager

/-!
# The Store of the System Manager, Operation by Operation

The steps of `SystemManager` treat `RemoveSystem` and `AddRecord` as one step each.  Here every
operation on the store, on a channel and on the database is a step of its own, so that calls can
meet each other and the updaters that they start and cancel.  A goroutine is the stack of the calls
that it still has to finish.  Memory is read and written with the operation before it.

The model follows one system, and what never touches the status or the store is left out, also the
closing of connections in `RemoveSystem`: fetches may fail and `OnClose` may run at any time.
-/

namespace Bantay.Systems

open Bantay.Lib

/-! ## Data -/

/-- The WebSocket connection of an object with its down channel. -/
inductive Connection where
  /-- `WsConn` is nil -/
  | absent
  | live
  /-- `OnClose` has run, and its goroutine waits for the agent to reconnect -/
  | closed
  /-- the goroutine of `OnClose` has sent on the down channel -/
  | signalled
deriving DecidableEq

structure SystemObject where
  status : Status
  wsConn : Connection
  /-- `cancel` has been called -/
  cancelled : Bool

/-- A call that a goroutine has to finish, at its next operation; `o` is the number of its `System`
    object. -/
inductive Frame where
  /-- `StartUpdater` before its first look at the status -/
  | starting (o : Nat)
  /-- `StartUpdater` at its `select` -/
  | select (o : Nat)
  /-- at the beginning of `update` -/
  | update (o : Nat) (caller : Caller)
  | fetch (o : Nat) (caller : Caller)
  /-- `createRecords` at `getRecord` -/
  | getRecord (o : Nat) (caller : Caller)
  /-- `createRecords` at its transaction -/
  | transaction (o : Nat) (caller : Caller)
  /-- at the beginning of `setDown` -/
  | setDown (o : Nat)
  /-- `setDown` at `getRecord` -/
  | downGetRecord (o : Nat)
  /-- `setDown` at its save -/
  | downSave
  | editSave (change : Change) (loaded : Status)
  /-- `onRecordAfterUpdateSuccess` at `systems.GetOk` -/
  | afterUpdate (newStatus : Status)
  /-- `RemoveSystem` at `systems.GetOk` -/
  | removeGet
  /-- `RemoveSystem` at `cancel` -/
  | cancel (o : Nat)
  /-- `RemoveSystem` at `systems.Remove` -/
  | remove
  /-- `AddRecord` at `systems.Has` -/
  | addRecord (status : Status) (wsConn : Connection)
  /-- `AddSystem` at `systems.Has` -/
  | addSystem (status : Status) (wsConn : Connection)
  /-- `AddSystem` at `systems.Set` -/
  | set (status : Status) (wsConn : Connection)
deriving DecidableEq

structure Goroutine where
  /-- the object whose `StartUpdater` it runs -/
  updater : Option Nat
  stack : List Frame

/-- The manager with the row of the system. -/
structure Store where
  stored : Status
  /-- the objects in the order in which they were put into the manager -/
  objects : Nat → SystemObject
  nextObject : Nat
  current : Option Nat

def Store.setObject (s : Store) (o : Nat) (object : SystemObject) : Store :=
  { s with objects := Function.update s.objects o object }

structure StoreState where
  store : Store
  goroutines : Nat → Goroutine
  nextGoroutine : Nat

/-! ## Operations -/

/-- The manager afterwards, the calls that take the place of the present one, and the goroutine it
    starts. -/
structure Outcome where
  store : Store
  frames : List Frame
  spawned : Option Goroutine

namespace Store

def goOn (s : Store) (frames : List Frame) : Option Outcome := some ⟨s, frames, none⟩

def done (s : Store) : Option Outcome := s.goOn []

end Store

/-- What `update` does after an error, by its caller. -/
def failedUpdate (o : Nat) : Caller → List Frame
  | .loop => [.setDown o]
  | .resume | .rotation => []

/-- `onRecordAfterUpdateSuccess`, alerts apart -/
def afterUpdate (s : Store) (newStatus : Status) : Option Outcome :=
  match s.current with
  | none =>
    match newStatus with
    | .paused => s.done
    | .pending | .up | .down => s.goOn [.addRecord newStatus .absent]
  | some o =>
    let s' := s.setObject o { s.objects o with status := newStatus }
    match newStatus with
    | .pending =>
      if (s.objects o).wsConn = .absent then
        s'.goOn [.addRecord .pending .absent]
      else
        -- resume monitoring on the existing connection
        some ⟨s', [], some ⟨none, [.update o .resume]⟩⟩
    | .paused | .up | .down => s'.done

/-- `ok` is the outcome of a fetch, a ping or an operation on the database. -/
def runFrame (cfg : ManagerConfig) (s : Store) (frame : Frame) (ok : Bool) : Option Outcome :=
  match frame with
  | .starting o =>
    if (s.objects o).status ≠ .paused ∧ (s.objects o).cancelled = false then
      s.goOn [.update o .loop, .select o]
    else
      s.goOn [.select o]
  | .select _ => none
  | .update o caller =>
    if (s.objects o).status = .paused then
      -- handlePaused
      if (s.objects o).wsConn = .live ∧ ok then s.done else s.goOn [.removeGet]
    else
      s.goOn [.fetch o caller]
  | .fetch o caller => s.goOn (if ok then [.getRecord o caller] else failedUpdate o caller)
  | .getRecord o caller =>
    if ok then
      s.goOn [.transaction o caller]
    else
      -- without a record the system is removed from the manager
      s.goOn (.removeGet :: failedUpdate o caller)
  | .transaction o caller =>
    if ok then
      { s with stored := .up }.goOn [.afterUpdate .up]
    else
      s.goOn (failedUpdate o caller)
  | .setDown o =>
    if (s.objects o).status = .down ∨ (s.objects o).status = .paused then
      s.done
    else
      s.goOn [.downGetRecord o]
  | .downGetRecord _ => s.goOn (if ok then [.downSave] else [.removeGet])
  | .downSave =>
    if ok then
      { s with stored := .down }.goOn [.afterUpdate .down]
    else
      s.done
  | .editSave change loaded =>
    if ok then
      { s with stored := change.status loaded }.goOn [.afterUpdate (change.status loaded)]
    else
      s.done
  | .afterUpdate newStatus => afterUpdate s newStatus
  | .removeGet =>
    match s.current with
    | none => s.done
    | some o => s.goOn [.cancel o]
  | .cancel o => (s.setObject o { s.objects o with cancelled := true }).goOn [.remove]
  | .remove => { s with current := none }.done
  | .addRecord status wsConn =>
    s.goOn (if s.current.isSome then [.removeGet, .addSystem status wsConn]
      else [.addSystem status wsConn])
  | .addSystem status wsConn =>
    if s.current.isSome then
      s.done
    else if cfg.host = "" then
      s.done
    else
      s.goOn [.set status wsConn]
  | .set status wsConn =>
    some ⟨{ s.setObject s.nextObject ⟨status, wsConn, false⟩ with
        nextObject := s.nextObject + 1
        current := some s.nextObject }, [],
      some ⟨some s.nextObject, [.starting s.nextObject]⟩⟩

/-! ## Steps -/

inductive StoreAction where
  | run (t : Nat) (ok : Bool)
  | tick (t : Nat)
  | connDown (t : Nat)
  | stop (t : Nat)
  /-- `OnClose` runs for the connection of an object -/
  | onClose (o : Nat)
  /-- the goroutine of `OnClose` sends on the down channel -/
  | signal (o : Nat)
  /-- `RemoveSystem` is called -/
  | removeSystem
  /-- `AddRecord` is called without an object -/
  | addRecord (status : Status)
  /-- an agent has been accepted, `AddWebSocketSystem` loads the record -/
  | connect
  | edit (change : Change)
  | rotate

namespace StoreState

def setStack (s : StoreState) (t : Nat) (stack : List Frame) : StoreState :=
  { s with goroutines :=
      Function.update s.goroutines t { s.goroutines t with stack := stack } }

def spawn (s : StoreState) (goroutine : Goroutine) : StoreState :=
  { s with
    goroutines := Function.update s.goroutines s.nextGoroutine goroutine
    nextGoroutine := s.nextGoroutine + 1 }

def finish (s : StoreState) (t : Nat) (rest : List Frame) (outcome : Outcome) : StoreState :=
  let s' := { s.setStack t (outcome.frames ++ rest) with store := outcome.store }
  match outcome.spawned with
  | none => s'
  | some goroutine => s'.spawn goroutine

def setConnection (s : StoreState) (o : Nat) (wsConn : Connection) : StoreState :=
  { s with store := s.store.setObject o { s.store.objects o with wsConn := wsConn } }

def connected (s : StoreState) : Option Nat :=
  s.store.current.filter fun o => (s.store.objects o).wsConn ≠ .absent

end StoreState

def storeStep (cfg : ManagerConfig) (s : StoreState) : StoreAction → Option StoreState
  | .run t ok =>
    match (s.goroutines t).stack with
    | [] => none
    | frame :: rest => (runFrame cfg s.store frame ok).map (s.finish t rest)
  | .tick t =>
    match (s.goroutines t).stack with
    | [.select o] => some (s.setStack t [.update o .loop, .select o])
    | _ => none
  | .connDown t =>
    match (s.goroutines t).stack with
    | [.select o] =>
      if (s.store.objects o).wsConn = .signalled then
        some ((s.setConnection o .absent).setStack t [.setDown o, .select o])
      else
        none
    | _ => none
  | .stop t =>
    match (s.goroutines t).stack with
    | [.select o] => if (s.store.objects o).cancelled then some (s.setStack t []) else none
    | _ => none
  | .onClose o =>
    if (s.store.objects o).wsConn = .live then some (s.setConnection o .closed) else none
  | .signal o =>
    if (s.store.objects o).wsConn = .closed then some (s.setConnection o .signalled) else none
  | .removeSystem => some (s.spawn ⟨none, [.removeGet]⟩)
  | .addRecord status => some (s.spawn ⟨none, [.addRecord status .absent]⟩)
  | .connect => some (s.spawn ⟨none, [.addRecord s.store.stored .live]⟩)
  | .edit change => some (s.spawn ⟨none, [.editSave change s.store.stored]⟩)
  | .rotate =>
    match s.connected with
    | some o => some (s.spawn ⟨none, [.setDown o, .removeGet]⟩)
    | none => some s

/-- The hub when `Initialize` has read the systems that are not paused. -/
def StoreState.init (stored : Status) : StoreState where
  store := ⟨stored, fun _ => ⟨.pending, .absent, true⟩, 0, none⟩
  goroutines t :=
    ⟨none, if t = 0 ∧ stored ≠ .paused then [.addSystem stored .absent] else []⟩
  nextGoroutine := 1

/-! ## What an operation does to the store -/

/-- Objects stay in the manager or out of it, and cancelled ones stay so. -/
structure Keeps (s s' : Store) : Prop where
  nextObject : s'.nextObject = s.nextObject
  current : s'.current = s.current
  cancelled : ∀ o, (s.objects o).cancelled = true → (s'.objects o).cancelled = true

namespace Keeps

variable {s s' : Store}

theorem refl (s : Store) : Keeps s s := ⟨rfl, rfl, fun _ h => h⟩

theorem save (status : Status) : Keeps s { s with stored := status } := ⟨rfl, rfl, fun _ h => h⟩

theorem setObject {o : Nat} {object : SystemObject}
    (hobject : (s.objects o).cancelled = true → object.cancelled = true) :
    Keeps s (s.setObject o object) where
  nextObject := rfl
  current := rfl
  cancelled := forall_update (P := fun o (object : SystemObject) =>
    (s.objects o).cancelled = true → object.cancelled = true) hobject (fun _ _ h => h)

end Keeps

/-- An operation that keeps the objects of the manager and starts no updater. -/
structure Outcome.Quiet (s : Store) (outcome : Outcome) : Prop where
  keeps : Keeps s outcome.store
  spawned : ∀ goroutine ∈ outcome.spawned, goroutine.updater = none

section Operations

variable {cfg : ManagerConfig} {s s' : Store} {frame : Frame} {ok : Bool} {outcome : Outcome}

theorem Keeps.goOn (h : Keeps s s') {frames : List Frame}
    (hrun : s'.goOn frames = some outcome) : outcome.Quiet s := by
  cases hrun
  exact ⟨h, fun _ hnone => by cases hnone⟩

theorem afterUpdate_quiet {newStatus : Status} (hrun : afterUpdate s newStatus = some outcome) :
    outcome.Quiet s := by
  unfold afterUpdate at hrun
  cases hcur : s.current with rw [hcur] at hrun
  | none =>
    cases newStatus with
    | paused | pending | up | down => exact (Keeps.refl s).goOn hrun
  | some o =>
    have hset : Keeps s (s.setObject o { s.objects o with status := newStatus }) :=
      .setObject fun h => h
    cases newStatus with
    | paused | up | down => exact hset.goOn hrun
    | pending =>
      dsimp only at hrun
      split at hrun
      · exact hset.goOn hrun
      · cases hrun
        refine ⟨hset, ?_⟩
        intro goroutine hspawn
        cases hspawn
        rfl

/-- All operations but those that remove and set the system are quiet. -/
theorem runFrame_quiet (hrem : frame ≠ .remove)
    (hset : ∀ status wsConn, frame ≠ .set status wsConn)
    (hrun : runFrame cfg s frame ok = some outcome) : outcome.Quiet s := by
  cases frame with simp only [runFrame] at hrun
  | select o => cases hrun
  | remove => exact absurd rfl hrem
  | set status wsConn => exact absurd rfl (hset status wsConn)
  | afterUpdate newStatus => exact afterUpdate_quiet hrun
  | cancel o => exact (Keeps.setObject fun _ => rfl).goOn hrun
  | fetch o caller | downGetRecord o | addRecord status wsConn => exact (Keeps.refl s).goOn hrun
  | transaction o caller | downSave | editSave change loaded =>
    cases ok with
    | true => exact (Keeps.save _).goOn hrun
    | false => exact (Keeps.refl s).goOn hrun
  | starting o | getRecord o caller | setDown o | removeGet =>
    split at hrun <;> exact (Keeps.refl s).goOn hrun
  | update o caller =>
    split at hrun
    · split at hrun <;> exact (Keeps.refl s).goOn hrun
    · exact (Keeps.refl s).goOn hrun
  | addSystem status wsConn =>
    split at hrun
    · exact (Keeps.refl s).goOn hrun
    · split at hrun <;> exact (Keeps.refl s).goOn hrun

end Operations

end Bantay.Systems
