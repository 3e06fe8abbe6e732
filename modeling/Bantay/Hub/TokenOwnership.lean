import Bantay.Hub.TokenRevocation

/-!
# Who Owns a Universal Token

A universal token decides to which user an agent's system is assigned.  Tokens are chosen
by the caller: `Set` overwrites the entry of another user, and the records of the database
may name one token twice.  This module settles along which runs every token stays with its
user until the user replaces or disables it, or it expires.
-/

namespace Bantay.Hub

open Bantay.Lib

/-! ## The property -/

/-- Every connect with the token is accepted on behalf of the user. -/
def Assigned (s : TokenState) (token userID : String) : Prop :=
  Accepts s token userID ∧ ∀ other, Accepts s token other → other = userID

def WritesAs (userID : String) (a : TokenAction) : Prop :=
  ∃ auth q env, a = .request auth q env ∧ auth.id = userID ∧ Writes auth q

/-- The entry of the token expires, and the user has no record of the token that goes on. -/
def ExpiresIn (s : TokenState) (a : TokenAction) (token userID : String) : Prop :=
  ∃ ms, a = .clock ms ∧ s.tokenMap.live s.now token ≠ none ∧
    s.tokenMap.live (s.now + ms) token = none ∧ s.records.lookup userID ≠ some token

/-- The step takes no token from its user, their own request and the expiry apart. -/
def KeepsOwners (s : TokenState) (a : TokenAction) : Prop :=
  ∀ s' token userID, tokenStep s a = some s' → Assigned s token userID →
    ¬ WritesAs userID a → ¬ ExpiresIn s a token userID → Assigned s' token userID

/-! ## The condition on the steps -/

/-- The user enables the token, and a permanent one is saved. -/
def EnablesFor (s : TokenState) (a : TokenAction) (token userID : String) : Prop :=
  ∃ auth q env, a = .request auth q env ∧ auth.isSuperuser = false ∧ q.enable = "1" ∧
    auth.id = userID ∧ requestedToken q env = token ∧ (q.permanent = "1" → Saves s env userID)

/-- A token is enabled only if it is not assigned to another user. -/
def OwnerGuard (s : TokenState) (a : TokenAction) : Prop :=
  ∀ token userID other, EnablesFor s a token userID → Assigned s token other → other = userID

/-! ## Holders -/

/-- The user has a live entry or a record of the token. -/
def Holds (s : TokenState) (token userID : String) : Prop :=
  s.tokenMap.live s.now token = some userID ∨ s.records.lookup userID = some token

/-- Every token that can be accepted has one holder. -/
structure OneHolder (s : TokenState) : Prop where
  unique : ∀ token userID other, validToken token = true → Holds s token userID →
    Holds s token other → other = userID
  named : ∀ token userID, Holds s token userID → userID ≠ ""

variable {s s' : TokenState} {token userID remover : String} {a : TokenAction}

theorem Holds.of_accepts (h : Accepts s token userID) : Holds s token userID :=
  (accepts_iff.mp h).2.imp id fun hrecord => hrecord.2.1

theorem assigned_of_live (hvalid : validToken token = true)
    (hlive : s.tokenMap.live s.now token = some userID) : Assigned s token userID := by
  refine ⟨accepts_iff.mpr ⟨hvalid, .inl hlive⟩, ?_⟩
  intro other hacc
  rcases (accepts_iff.mp hacc).2 with hother | ⟨hnone, -⟩
  · rw [hlive] at hother
    exact (Option.some.inj hother).symm
  · rw [hlive] at hnone
    cases hnone

/-- The one holder of a token is the user that it is assigned to. -/
theorem OneHolder.assigned (h : OneHolder s) (hvalid : validToken token = true)
    (hholds : Holds s token userID) : Assigned s token userID := by
  refine ⟨?_, fun other hacc => h.unique _ _ _ hvalid hholds (.of_accepts hacc)⟩
  cases hlive : s.tokenMap.live s.now token with
  | some user =>
    rw [← h.unique _ _ _ hvalid hholds (.inl hlive)]
    exact accepts_iff.mpr ⟨hvalid, .inl hlive⟩
  | none =>
    have hrecord := hholds.resolve_left (by rw [hlive]; nofun)
    exact accepts_iff.mpr ⟨hvalid, .inr ⟨hlive, hrecord, h.named _ _ hholds⟩⟩

theorem OneHolder.init : OneHolder .init where
  unique _ _ _ _ h := by rcases h with h | h <;> cases h
  named _ _ h := by rcases h with h | h <;> cases h

/-! ## One step -/

theorem Holds.of_removeEphemeral {env : TokenEnv}
    (h : Holds (removeEphemeral s env remover) token userID) : Holds s token userID := by
  refine h.imp (fun hlive => ?_) id
  have hafter := (ExpiryMap.removebyValue_live s.tokenMap s.now env.order remover token).symm.trans
    hlive
  split at hafter
  · cases hafter
  · exact hafter

theorem Holds.removeEphemeral (h : Holds s token userID) (hne : userID ≠ remover)
    (env : TokenEnv) : Holds (removeEphemeral s env remover) token userID :=
  h.imp (ExpiryMap.removebyValue_live_of_ne s.tokenMap hne) id

theorem Holds.of_deletePermanent {env : TokenEnv}
    (h : Holds (deletePermanent s env remover) token userID) : Holds s token userID := by
  unfold Holds at h
  rw [deletePermanent_tokenMap, deletePermanent_now, deletePermanent_lookup] at h
  refine h.imp id fun hrecord => ?_
  split at hrecord
  · cases hrecord
  · exact hrecord

theorem Holds.deletePermanent (h : Holds s token userID) (hne : userID ≠ remover)
    (env : TokenEnv) : Holds (deletePermanent s env remover) token userID := by
  unfold Holds
  rw [deletePermanent_tokenMap, deletePermanent_now, deletePermanent_lookup,
    if_neg fun hand => hne hand.1]
  exact h

/-- **New holders**: who holds a token after a step has held it before or has enabled it. -/
theorem TokenEffect.holds_before (heff : TokenEffect s a s') (h : Holds s' token userID) :
    Holds s token userID ∨ EnablesFor s a token userID := by
  cases heff with
  | waited => exact .inl (h.imp (ExpiryMap.live_of_later (Nat.le_add_right _ _)) id)
  | unseen _ hunseen =>
    unfold Holds at h
    rw [hunseen.now, hunseen.live, hunseen.records] at h
    exact .inl h
  | disabled _ _ => exact .inl h.of_deletePermanent.of_removeEphemeral
  | @ephemeral auth q env hauth henable hperm =>
    by_cases htoken : token = requestedToken q env
    · subst htoken
      rcases h with hlive | hrecord
      · -- the entry that has been set is the user's
        rw [deletePermanent_now, ExpiryMap.live_set_self] at hlive
        exact .inr ⟨auth, q, env, rfl, hauth, henable, Option.some.inj hlive, rfl,
          fun hp => absurd hp hperm⟩
      · have hdeleted : Holds (deletePermanent s env auth.id) _ userID := .inr hrecord
        exact .inl hdeleted.of_deletePermanent
    · left
      have hdeleted : Holds (deletePermanent s env auth.id) token userID := by
        refine h.imp (fun hlive => ?_) id
        rw [ExpiryMap.live_set_of_ne _ htoken] at hlive
        rwa [deletePermanent_tokenMap]
      exact hdeleted.of_deletePermanent
  | @permanent auth q env _ hauth henable hperm hupsert =>
    obtain ⟨hsaves, rfl⟩ := (upsertPermanent_eq_some_iff _ _ _).mp hupsert
    rcases h with hlive | hrecord
    · have hremoved : Holds (removeEphemeral s env auth.id) token userID := .inl hlive
      exact .inl hremoved.of_removeEphemeral
    · by_cases huser : userID = auth.id
      · subst huser
        rw [AList.lookup_insert] at hrecord
        exact .inr ⟨auth, q, env, rfl, hauth, henable, rfl, Option.some.inj hrecord,
          fun _ => hsaves⟩
      · rw [AList.lookup_insert_ne huser] at hrecord
        exact .inl (.inr hrecord)
  | saveError _ _ _ _ => exact .inl h.of_removeEphemeral

theorem ne_of_not_writesAs {auth : Auth} {q : TokenQuery} {env : TokenEnv}
    (h : ¬ WritesAs userID (.request auth q env)) (hwrites : Writes auth q) :
    userID ≠ auth.id := by
  intro heq
  exact h ⟨auth, q, env, rfl, heq.symm, hwrites⟩

/-- **Holders are kept** by the requests of others, unless these enable the token. -/
theorem TokenEffect.holds_after (heff : TokenEffect s a s') (h : Holds s token userID)
    (hown : ¬ WritesAs userID a) (hexpires : ¬ ExpiresIn s a token userID)
    (henables : ∀ other, EnablesFor s a token other → userID = other) : Holds s' token userID := by
  cases heff with
  | @waited ms =>
    rcases h with hlive | hrecord
    · cases hthen : s.tokenMap.live (s.now + ms) token with
      | some user =>
        have hbef := ExpiryMap.live_of_later (Nat.le_add_right s.now ms) hthen
        rw [hlive] at hbef
        exact .inl (hthen.trans hbef.symm)
      | none =>
        -- what does not expire is in the database
        by_contra hnot
        exact hexpires ⟨ms, rfl, by rw [hlive]; nofun, hthen, fun hrecord => hnot (.inr hrecord)⟩
    · exact .inr hrecord
  | unseen _ hunseen =>
    unfold Holds
    rw [hunseen.now, hunseen.live, hunseen.records]
    exact h
  | disabled hauth henable =>
    have hne := ne_of_not_writesAs hown ⟨hauth, .inl henable⟩
    exact (h.removeEphemeral hne _).deletePermanent hne _
  | @ephemeral auth q env hauth henable hperm =>
    have hne := ne_of_not_writesAs hown ⟨hauth, .inr henable⟩
    have htoken : token ≠ requestedToken q env := by
      intro heq
      exact hne (henables _ ⟨auth, q, env, rfl, hauth, henable, rfl, heq.symm,
        fun hp => absurd hp hperm⟩)
    refine (h.deletePermanent hne env).imp (fun hlive => ?_) id
    rw [deletePermanent_tokenMap] at hlive
    exact (ExpiryMap.live_set_of_ne _ htoken).trans hlive
  | @permanent auth q env _ hauth henable hperm hupsert =>
    have hne := ne_of_not_writesAs hown ⟨hauth, .inr henable⟩
    obtain ⟨-, rfl⟩ := (upsertPermanent_eq_some_iff _ _ _).mp hupsert
    refine (h.removeEphemeral hne env).imp id fun hrecord => ?_
    exact (AList.lookup_insert_ne hne).trans hrecord
  | saveError hauth henable _ _ =>
    exact h.removeEphemeral (ne_of_not_writesAs hown ⟨hauth, .inr henable⟩) _

/-- **One step** under the condition leaves every token with one holder. -/
theorem OneHolder.step (h : OneHolder s) (hG : OwnerGuard s a) (hstep : tokenStep s a = some s') :
    OneHolder s' := by
  have heff := tokenStep_effect hstep
  refine ⟨fun token userID other hvalid huser hother => ?_, fun token userID hholds => ?_⟩
  · rcases heff.holds_before huser with huser | henables
    · rcases heff.holds_before hother with hother | henables
      · exact h.unique token userID other hvalid huser hother
      · exact (hG token other userID henables (h.assigned hvalid huser)).symm
    · rcases heff.holds_before hother with hother | henables'
      · exact hG token userID other henables (h.assigned hvalid hother)
      · -- a request enables a token for its own user
        obtain ⟨auth, q, env, rfl, -, -, rfl, -⟩ := henables
        obtain ⟨auth', q', env', heq, -, -, rfl, -⟩ := henables'
        cases heq
        rfl
  · rcases heff.holds_before hholds with hbef | henables
    · exact h.named token userID hbef
    · obtain ⟨auth, q, env, -, -, -, rfl, -⟩ := henables
      exact auth.id_ne

theorem OneHolder.keepsOwners (h : OneHolder s) (hG : OwnerGuard s a) : KeepsOwners s a := by
  intro s' token userID hstep hasgn hown hexpires
  refine (h.step hG hstep).assigned (accepts_iff.mp hasgn.1).1 ?_
  refine (tokenStep_effect hstep).holds_after (.of_accepts hasgn.1) hown hexpires ?_
  exact fun other henables => hG token other userID henables hasgn

/-! ## Runs -/

/-- **Owners are kept** in every run in which no request enables a token that is assigned to
    another user. -/
theorem owners_kept_when_owner_guarded (as : List TokenAction)
    (hG : EveryStep tokenStep OwnerGuard .init as) :
    EveryStep tokenStep KeepsOwners .init as :=
  everyStep_of_invariant (I := OneHolder) (fun _ _ _ h hguard => h.step hguard)
    (fun _ _ h hguard => h.keepsOwners hguard) .init hG

def otherUser : Auth := ⟨"user2", by decide, false⟩

def enableOther (token : String) (order : List String) : TokenAction :=
  .request otherUser ⟨token, "1", ""⟩ ⟨"uuid", order, true, true⟩

theorem OwnerGuard.request {auth : Auth} {q : TokenQuery} {env : TokenEnv}
    (h : ∀ other, Holds s (requestedToken q env) other → other = auth.id) :
    OwnerGuard s (.request auth q env) := by
  rintro _ _ other ⟨auth', q', env', heq, -, -, rfl, rfl, -⟩ hasgn
  cases heq
  exact h other (.of_accepts hasgn.1)

/-- Two users enable different tokens, and both expire. -/
theorem two_tokens_owners_kept :
    ∃ t, exec tokenStep .init
        [enableSample "a" [], enableOther "b" ["a"], .clock (hour + 1)] = some t ∧
      EveryStep tokenStep KeepsOwners .init
        [enableSample "a" [], enableOther "b" ["a"], .clock (hour + 1)] := by
  refine ⟨_, rfl, ?_⟩
  apply owners_kept_when_owner_guarded
  refine ⟨.request fun other h => ?_, ?_⟩
  · rcases h with h | h <;> cases h
  · rintro _ ⟨⟩
    refine ⟨.request fun other h => ?_, ?_⟩
    · rcases h with h | h <;> cases h
    · rintro _ ⟨⟩
      refine ⟨?_, fun _ _ => trivial⟩
      rintro _ _ _ ⟨_, _, _, heq, -⟩
      cases heq

/-- The other user enables the token of the sample user, and its agent is assigned to them. -/
theorem enable_takes_token_of_other_user :
    ∃ s s', exec tokenStep .init [enableSample "a" []] = some s ∧
      tokenStep s (enableOther "a" ["a"]) = some s' ∧
      Assigned s "a" "user1" ∧ Assigned s' "a" "user2" :=
  ⟨_, _, rfl, rfl, assigned_of_live (by decide) (by decide),
    assigned_of_live (by decide) (by decide)⟩

end Bantay.Hub
