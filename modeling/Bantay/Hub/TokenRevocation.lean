import Bantay.Hub.UniversalToken

/-!
# Disabling Universal Tokens

`enable=0` is meant to disable the ephemeral and the permanent tokens of the user.  The map may
hold several tokens of one user, and `RemovebyValue` removes the first entry it meets; the error of
`deletePermanent` is dropped.

`Revoked` is the state in which no token of the user is left.  Every step but an enable request of
the user keeps it, and only it makes later connects fail.
-/

namespace Bantay.Hub

open Bantay.Lib

/-! ## The property -/

def Enables (userID : String) (a : TokenAction) : Prop :=
  ∃ auth q env, a = .request auth q env ∧ auth.id = userID ∧ auth.isSuperuser = false ∧
    q.enable = "1"

/-- Until the user enables a token again, no connect is accepted on their behalf. -/
def NeverAccepted (s : TokenState) (userID : String) : Prop :=
  ∀ as t, exec tokenStep s as = some t → (∀ a ∈ as, ¬ Enables userID a) →
    ∀ token, ¬ Accepts t token userID

/-! ## The condition on a disable request -/

/-- Each live entry of the user is the first of theirs in the map, and a record that a connect can
    name is found and deleted. -/
structure DisableGuard (s : TokenState) (userID : String) (env : TokenEnv) : Prop where
  ephemeral : ∀ token, validToken token = true → s.tokenMap.live s.now token = some userID →
    env.order.find? (s.tokenMap.holds userID) = some token
  permanent : ∀ token, validToken token = true → s.records.lookup userID = some token →
    env.deletes = true

/-! ## A user without tokens -/

/-- The user has neither a live entry nor a record, of tokens that a connect can name. -/
structure Revoked (s : TokenState) (userID : String) : Prop where
  ephemeral : ∀ token, validToken token = true → s.tokenMap.live s.now token ≠ some userID
  permanent : ∀ token, validToken token = true → s.records.lookup userID ≠ some token

variable {userID : String} {s : TokenState}

theorem Revoked.not_accepts (h : Revoked s userID) (token : String) : ¬ Accepts s token userID := by
  rw [accepts_iff]
  rintro ⟨hvalid, hlive | ⟨-, hrec, -⟩⟩
  · exact h.ephemeral token hvalid hlive
  · exact h.permanent token hvalid hrec

theorem removeEphemeral_live_of {env : TokenEnv} {remover token userID : String}
    (h : (removeEphemeral s env remover).tokenMap.live s.now token = some userID) :
    s.tokenMap.live s.now token = some userID := by
  unfold removeEphemeral at h
  rw [ExpiryMap.removebyValue_live] at h
  split at h
  · cases h
  · exact h

theorem Revoked.removeEphemeral (h : Revoked s userID)
    (env : TokenEnv) (remover : String) : Revoked (removeEphemeral s env remover) userID where
  ephemeral token hvalid hlive := h.ephemeral token hvalid (removeEphemeral_live_of hlive)
  permanent := h.permanent

theorem Revoked.deletePermanent (h : Revoked s userID)
    (env : TokenEnv) (remover : String) : Revoked (deletePermanent s env remover) userID where
  ephemeral := by
    rw [deletePermanent_now, deletePermanent_tokenMap]
    exact h.ephemeral
  permanent token hvalid hrec := by
    rw [deletePermanent_lookup] at hrec
    split at hrec
    · cases hrec
    · exact h.permanent token hvalid hrec

/-- **One step**: only an enable request of the user gives them a token again. -/
theorem revoked_step {s s' : TokenState} {a : TokenAction} (hs : Revoked s userID)
    (ha : ¬ Enables userID a) (h : tokenStep s a = some s') : Revoked s' userID := by
  cases tokenStep_effect h with
  | waited =>
    refine ⟨?_, hs.permanent⟩
    intro token hvalid hlive
    exact hs.ephemeral token hvalid (ExpiryMap.live_of_later (Nat.le_add_right _ _) hlive)
  | unseen _ hunseen =>
    refine ⟨?_, ?_⟩
    · intro token hvalid
      rw [hunseen.now, hunseen.live]
      exact hs.ephemeral token hvalid
    · rw [hunseen.records]
      exact hs.permanent
  | disabled _ _ => exact (hs.removeEphemeral _ _).deletePermanent _ _
  | @ephemeral auth q env hauth henable _ =>
    have hother : userID ≠ auth.id := by
      intro heq
      exact ha ⟨auth, q, env, rfl, heq.symm, hauth, henable⟩
    refine ⟨?_, (hs.deletePermanent env auth.id).permanent⟩
    intro token hvalid hlive
    rw [deletePermanent_now] at hlive
    by_cases htoken : token = requestedToken q env
    · subst htoken
      rw [ExpiryMap.live_set_self] at hlive
      exact hother (Option.some.inj hlive).symm
    · rw [ExpiryMap.live_set_of_ne _ htoken] at hlive
      exact hs.ephemeral token hvalid hlive
  | @permanent auth q env _ hauth henable _ hupsert =>
    have hother : userID ≠ auth.id := by
      intro heq
      exact ha ⟨auth, q, env, rfl, heq.symm, hauth, henable⟩
    obtain ⟨-, rfl⟩ := (upsertPermanent_eq_some_iff _ _ _).mp hupsert
    refine ⟨(hs.removeEphemeral env auth.id).ephemeral, ?_⟩
    intro token hvalid hrec
    rw [AList.lookup_insert_ne hother] at hrec
    exact hs.permanent token hvalid hrec
  | saveError _ _ _ _ => exact hs.removeEphemeral _ _

theorem revoked_exec {s t : TokenState} {as : List TokenAction}
    (hs : Revoked s userID) (has : ∀ a ∈ as, ¬ Enables userID a)
    (hrun : exec tokenStep s as = some t) : Revoked t userID := by
  apply exec_invariant (I := fun s => Revoked s userID) (G := fun _ a => ¬ Enables userID a)
  · intro s a s' hrevoked hnot h
    exact revoked_step hrevoked hnot h
  · exact hs
  · exact everyStep_of_forall_mem has
  · exact hrun

theorem exists_clock_live_eq_none (s : TokenState) (token : String) :
    ∃ ms, s.tokenMap.live (s.now + ms) token = none := by
  unfold ExpiryMap.live
  cases hv : s.tokenMap.store.lookup token with
  | none => exact ⟨0, rfl⟩
  | some v =>
    refine ⟨v.expires + 1, ?_⟩
    have hexp : v.expires < s.now + (v.expires + 1) := by omega
    simp only [if_pos hexp]

/-- **No way around**: whatever token is left to the user is accepted at some time. -/
theorem neverAccepted_iff_revoked (hne : userID ≠ "") :
    NeverAccepted s userID ↔ Revoked s userID := by
  constructor
  · intro h
    refine ⟨?_, ?_⟩
    · intro token hvalid hlive
      refine h [] s rfl (by simp) token ?_
      exact accepts_iff.mpr ⟨hvalid, .inl hlive⟩
    · -- wait for the entry that hides the record to expire
      intro token hvalid hrec
      obtain ⟨ms, hexp⟩ := exists_clock_live_eq_none s token
      have hnone : ∀ a ∈ [TokenAction.clock ms], ¬ Enables userID a := by
        intro a ha henables
        obtain ⟨auth, q, env, heq, -⟩ := henables
        rw [List.mem_singleton] at ha
        rw [ha] at heq
        cases heq
      refine h [.clock ms] { s with now := s.now + ms } rfl hnone token ?_
      exact accepts_iff.mpr ⟨hvalid, .inr ⟨hexp, hrec, hne⟩⟩
  · intro h as t hrun has token
    exact (revoked_exec h has hrun).not_accepts token

/-! ## One disable request -/

theorem disabled_revoked_iff {env : TokenEnv} :
    Revoked (deletePermanent (removeEphemeral s env userID) env userID) userID ↔
      DisableGuard s userID env := by
  constructor
  · intro h
    refine ⟨?_, ?_⟩
    · intro token hvalid hlive
      by_contra hfirst
      apply h.ephemeral token hvalid
      rw [deletePermanent_now, deletePermanent_tokenMap]
      unfold removeEphemeral
      rw [ExpiryMap.removebyValue_live, if_neg hfirst]
      exact hlive
    · intro token hvalid hrec
      by_contra hkept
      apply h.permanent token hvalid
      rw [deletePermanent_lookup, if_neg (fun hand => hkept hand.2)]
      exact hrec
  · intro h
    refine ⟨?_, ?_⟩
    · intro token hvalid hlive
      rw [deletePermanent_now, deletePermanent_tokenMap] at hlive
      have hbef : s.tokenMap.live s.now token = some userID := removeEphemeral_live_of hlive
      have hfirst := h.ephemeral token hvalid hbef
      unfold removeEphemeral at hlive
      rw [ExpiryMap.removebyValue_live, if_pos hfirst] at hlive
      cases hlive
    · intro token hvalid hrec
      rw [deletePermanent_lookup] at hrec
      split at hrec
      · cases hrec
      · rename_i hkept
        exact hkept ⟨rfl, h.permanent token hvalid hrec⟩

/-- **Disabling**: until the user enables a token again, no agent connects on their behalf with a
    universal token, exactly if the request found at most the one entry it removes live and deleted
    the record. -/
theorem disable_revokes_iff (s s' : TokenState) (auth : Auth) (q : TokenQuery) (env : TokenEnv)
    (hauth : auth.isSuperuser = false) (hdisable : q.enable = "0")
    (h : tokenStep s (.request auth q env) = some s') :
    NeverAccepted s' auth.id ↔ DisableGuard s auth.id env := by
  have heq : s' = deletePermanent (removeEphemeral s env auth.id) env auth.id := by
    simp only [tokenStep] at h
    split at h
    · cases h
      simp [getUniversalToken, hauth, hdisable, disableTokens]
    · cases h
  rw [neverAccepted_iff_revoked auth.id_ne, heq]
  exact disabled_revoked_iff

/-! ## Concrete requests -/

def sampleUser : Auth := ⟨"user1", by decide, false⟩

def enableSample (token : String) (order : List String) : TokenAction :=
  .request sampleUser ⟨token, "1", ""⟩ ⟨"uuid", order, true, true⟩

def disableSample (order : List String) : TokenAction :=
  .request sampleUser ⟨"", "0", ""⟩ ⟨"uuid", order, true, true⟩

theorem disable_only_token_revokes_iff :
    ∃ s s', exec tokenStep .init [enableSample "a" []] = some s ∧
      tokenStep s (disableSample ["a"]) = some s' ∧
      (NeverAccepted s' "user1" ↔ DisableGuard s "user1" ⟨"uuid", ["a"], true, true⟩) :=
  ⟨_, _, rfl, rfl, disable_revokes_iff _ _ sampleUser _ _ rfl rfl rfl⟩

/-- The disable request removes the entry of `a`, and an agent that connects with `b` is
    accepted. -/
theorem disable_keeps_second_token :
    ∃ s, exec tokenStep .init
        [enableSample "a" [], enableSample "b" ["a"], disableSample ["a", "b"]] = some s ∧
      Accepts s "b" "user1" := by
  refine ⟨_, rfl, ?_⟩
  exact ⟨[], by decide, by decide⟩

end Bantay.Hub
