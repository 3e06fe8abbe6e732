import Bantay.Systems.PollData

/-!
# The Stats that an Update Saves

`update` decodes the response of the agent into the data of its `System` object and hands a pointer
to that data on to `createRecords`, which builds the stats record from it in its transaction.  The
fetches of realtime clients decode into the same data, and so does the update that a resumed system
starts beside its updater.  A fetch over SSH also empties the data first.
-/

namespace Bantay.Systems

open Bantay.Lib

/-! ## Saved records -/

/-- The object whose stats the goroutine is about to save, between its decode and its save. -/
def Task.saves : Task → Option Nat
  | .reading o _ | .writing o _ => some o
  | _ => none

theorem afterFetch_saves : AfterFetch Task.saves where
  polled task h := by
    cases task with
    | reading o caller => cases h
    | writing o caller => cases h
    | unused | done | starting _ | waiting _ | updating _ _ | fetching _ _ | settingDown _ _
    | downReading _ _ | downWriting _ _ | saved _ _ _ | removing | editing _ _ | edited _
    | connecting _ | restoring _ => rfl
  reading _ _ _ h := (Option.some.inj h).symm
  writing _ _ _ h := h
  -- a record that has been saved is not to be saved again
  saved _ _ _ h := by cases h

structure StatsRecord (φ ν : Type) where
  /-- what is stored: `data` of `createRecords` at the time of the save -/
  stats : Data φ ν
  response : Payload φ ν

section Saves

variable {φ ν : Type}

def PollState.savedStats (s : PollState φ ν) : PollAction φ ν → Option (StatsRecord φ ν)
  | .manager (.run t true) =>
    match s.manager.tasks t with
    | .writing o _ => some ⟨s.data o, s.fetched t⟩
    | _ => none
  | _ => none

def SavesOwnResponse (s : PollState φ ν) (a : PollAction φ ν) : Prop :=
  ∀ record ∈ s.savedStats a, record.stats.Holds record.response

/-! ## The condition -/

/-- No other update is between its decode and its save when a response is decoded into an object or
    a session empties it, and an update's own response leaves out nothing that it is merged into. -/
def DecodeGuard (s : PollState φ ν) : PollAction φ ν → Prop
  | .fetch t result =>
    ∀ o ∈ (s.manager.tasks t).fetchObject,
      NoOther Task.saves s.manager o (some t) ∧ result.Covers (s.data o)
  | .session o | .view o _ => NoOther Task.saves s.manager o none
  | .manager _ => True

instance [Fintype φ] (s : PollState φ ν) (a : PollAction φ ν) : Decidable (DecodeGuard s a) :=
  match a with
  | .fetch .. | .session _ | .view .. | .manager _ => by unfold DecodeGuard; infer_instance

/-! ## Runs -/

variable {cfg : ManagerConfig} {s s' : PollState φ ν}

/-- **One step** under the condition keeps payloads in their objects until they are saved. -/
theorem holdsPayload_step {a : PollAction φ ν} (h : HoldsPayload Task.saves s)
    (hG : DecodeGuard s a) (hstep : pollStep cfg s a = some s') : HoldsPayload Task.saves s' := by
  cases a with
  | manager a => exact h.manager afterFetch_saves hstep
  | fetch t result =>
    -- a response that covers the data stands alone in it
    refine h.fetch afterFetch_saves ?_ ?_ hstep
    · exact fun o ho => (hG o ho).1
    · exact fun o ho => (hG o ho).2
  | session o | view o result =>
    cases hstep
    exact h.write afterFetch_saves hG _

theorem HoldsPayload.savesOwnResponse (h : HoldsPayload Task.saves s) (a : PollAction φ ν) :
    SavesOwnResponse s a := by
  intro record hrec
  unfold PollState.savedStats at hrec
  split at hrec
  · next t =>
    split at hrec
    · next o caller htask =>
      cases hrec
      -- the update is still between its decode and its save
      have hsaves : (s.manager.tasks t).saves = some o := by
        rw [htask]
        rfl
      exact h.payload t o hsaves
    · cases hrec
  · cases hrec

/-- **Updates save the response to their own request**, if no other update is between its decode
    and its save whenever a response is decoded into the object or a session empties it, and the
    response of an update is not merged into what it leaves out. -/
theorem updates_save_own_response (cfg : ManagerConfig) (stored : Status)
    (as : List (PollAction φ ν))
    (hG : EveryStep (pollStep cfg) DecodeGuard (.init stored) as) :
    EveryStep (pollStep cfg) SavesOwnResponse (.init stored) as := by
  apply everyStep_of_invariant (I := HoldsPayload Task.saves)
  · intro s a s' h hguard hstep
    exact holdsPayload_step h hguard hstep
  · exact fun s a h _ => h.savesOwnResponse a
  · exact HoldsPayload.init stored
  · exact hG

end Saves

/-- The updater of the system is started and decodes its first response. -/
def firstFetch : List (PollAction Bool Nat) :=
  [.manager (.run 0 true), .manager (.run 1 true), .manager (.run 1 true),
    .fetch 1 (.replaced (twoFields 90 (some 7)))]

/-- A realtime client watches the system between two polls. -/
def watchedPolls : List (PollAction Bool Nat) :=
  firstFetch ++ finishPoll 1 ++
  [.session 0, .view 0 (.merged (twoFields 50 (some 7))), .manager (.tick 1),
    .manager (.run 1 true),
    .fetch 1 (.merged (twoFields 10 (some 8)))] ++ finishPoll 1

theorem watched_polls_save_own_response :
    EveryStep (pollStep ⟨"web"⟩) DecodeGuard (.init .up) watchedPolls ∧
    EveryStep (pollStep ⟨"web"⟩) SavesOwnResponse (.init .up) watchedPolls := by
  have hguard : EveryStep (pollStep ⟨"web"⟩) DecodeGuard (.init .up) watchedPolls := by
    decide +kernel
  exact ⟨hguard, updates_save_own_response _ _ _ hguard⟩

/-- **A realtime response is saved**: it is decoded into the object while an update loads the
    record, and the second field of the update's response is gone. -/
theorem realtime_response_is_saved :
    ∃ s : PollState Bool Nat,
      exec (pollStep ⟨"web"⟩) (.init .up)
        (firstFetch ++ [.manager (.run 1 true), .view 0 (.replaced (twoFields 50 none))]) =
          some s ∧
      s.savedStats (.manager (.run 1 true)) =
        some ⟨.ofPayload (twoFields 50 none), twoFields 90 (some 7)⟩ ∧
      (pollStep ⟨"web"⟩ s (.manager (.run 1 true))).isSome ∧
      ¬ SavesOwnResponse s (.manager (.run 1 true)) := by
  refine ⟨_, rfl, rfl, rfl, ?_⟩
  intro h
  have hfields : (twoFields 50 none).fields = (twoFields 90 (some 7)).fields := (h _ rfl).1
  have hfirst : (some 50 : Option Nat) = some 90 := congrFun hfields false
  cases hfirst

end Bantay.Systems
