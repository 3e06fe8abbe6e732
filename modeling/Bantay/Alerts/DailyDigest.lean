import Bantay.Lib.Pool
import Bantay.Lib.Transition

/-!
# The Daily Digest and its Settings

A step model of the row of parameters with the id `bantay_settings`.  It has two writers:
- `maybeSendDailyDigest` of `internal/alerts/digest.go`, called by one goroutine once a minute,
  loads the row, sends the digest if it is due, and saves the row with the date
- `updateSMTP` of `internal/hub/admin.go` loads the row for the date, and saves it with the
  settings of its request

Both load and save the whole row; a load, a save and the sending of a digest are one step each.
The text and the recipients of a digest are left out, and the mail server settings, which are in
`MailSettings`.  On a day without active alerts or recipients nothing is sent, and the date is
saved all the same.
-/

namespace Bantay.Alerts

open Bantay.Lib

/-! ## Data -/

/-- The fields of the row that a request of an admin sets. -/
structure DigestSettings where
  alertRecipientUserIds : List String
  alertRecipientEmails : List String
  dailyDigestEnabled : Bool
  dailyDigestHour : Int
deriving DecidableEq

structure BantayAlertParams extends DigestSettings where
  dailyDigestLastSent : String
deriving DecidableEq

def BantayAlertParams.zero : BantayAlertParams := ⟨⟨[], [], false, 0⟩, ""⟩

/-- `time.Now()` in local time. -/
structure LocalTime where
  day : Nat
  hour : Nat

structure RecipientsRequest where
  alertRecipientUserIds : List String
  alertRecipientEmails : List String
  dailyDigestEnabled : Bool
  dailyDigestHour : Int
deriving DecidableEq

structure DigestConfig where
  format : Nat → String
  trimSpace : String → String
  toLower : String → String
  parseAddress : String → Bool

/-- The outcome of a load, of a save or of `sendDailyDigest`. -/
inductive DigestOutcome where
  /-- there was no error; a digest was mailed -/
  | done
  /-- there was no error, but there was nothing to send or nobody to send it to -/
  | nothing
  | failed
deriving DecidableEq

def DigestOutcome.ok : DigestOutcome → Bool
  | .done | .nothing => true
  | .failed => false

/-- Where `maybeSendDailyDigest` is. -/
inductive DigestTask where
  | idle
  | checking (params : BantayAlertParams)
  /-- at `sendDailyDigest` -/
  | sending (params : BantayAlertParams) (today : Nat)
  /-- at `SaveBantayAlertParams` -/
  | saving (params : BantayAlertParams) (today : Nat)
deriving DecidableEq

/-- Where a request of an admin is. -/
inductive RecipientsTask where
  | unused
  /-- at `FindRecordsByIds` -/
  | validating (req : RecipientsRequest)
  /-- at `LoadBantayAlertParams` -/
  | loading (settings : DigestSettings)
  /-- at `SaveBantayAlertParams`, with the date it has loaded -/
  | saving (settings : DigestSettings) (lastSent : String)
  | done (error : Option String)
deriving DecidableEq

structure DigestState where
  /-- `none` if there is no row -/
  row : Option BantayAlertParams
  now : LocalTime
  digest : DigestTask
  requests : Nat → RecipientsTask
  nextRequest : Nat
  lastSaved : DigestSettings
  lastDigest : String
  /-- history: the days on which a digest was mailed, the last one first -/
  sent : List Nat

/-! ## Validation of recipients -/

/-- The loop over `req.AlertRecipientEmails`, with the keys seen before. -/
def cleanEmails (cfg : DigestConfig) (seenEmail : List String) :
    List String → Except String (List String)
  | [] => .ok []
  | raw :: rest =>
    let addr := cfg.trimSpace raw
    if addr = "" then
      cleanEmails cfg seenEmail rest
    else if cfg.parseAddress addr = false then
      .error ("Invalid recipient email address: " ++ addr)
    else if cfg.toLower addr ∈ seenEmail then
      cleanEmails cfg seenEmail rest
    else
      (cleanEmails cfg (cfg.toLower addr :: seenEmail) rest).map (addr :: ·)

/-- The validation of `updateSMTP` up to the check of the hour; `none` is an error of the query. -/
def validate (cfg : DigestConfig) (req : RecipientsRequest) (found : Option (List String)) :
    Except String DigestSettings :=
  match req.alertRecipientUserIds, found with
  | _ :: _, none => .error "Failed to validate recipient users."
  | ids, found =>
    let cleanIds := ids.filter fun id => id ∈ found.getD []
    if cleanIds.length ≠ ids.length then
      .error "One or more recipient users were not found."
    else
      match cleanEmails cfg [] req.alertRecipientEmails with
      | .error message => .error message
      | .ok emails =>
        if req.dailyDigestHour < 0 ∨ req.dailyDigestHour > 23 then
          .error "Daily digest hour must be between 0 and 23."
        else
          .ok ⟨cleanIds, emails, req.dailyDigestEnabled, req.dailyDigestHour⟩

/-! ## Loads and saves -/

namespace DigestState

def stored (s : DigestState) : BantayAlertParams := s.row.getD .zero

/-- An error of the query is the zero value. -/
def loadBantayAlertParams (s : DigestState) (ok : Bool) : BantayAlertParams :=
  if ok then s.stored else .zero

def setRequest (s : DigestState) (t : Nat) (task : RecipientsTask) : DigestState :=
  { s with requests := Function.update s.requests t task }

/-- The next step of `maybeSendDailyDigest`, with the outcome of its load, digest or save. -/
def runDigest (cfg : DigestConfig) (s : DigestState) (outcome : DigestOutcome) : DigestState :=
  match s.digest with
  | .idle => { s with digest := .checking (s.loadBantayAlertParams outcome.ok) }
  | .checking params =>
    if params.dailyDigestEnabled = false then
      { s with digest := .idle }
    else if (s.now.hour : Int) ≠ params.dailyDigestHour then
      { s with digest := .idle }
    else if params.dailyDigestLastSent = cfg.format s.now.day then
      { s with digest := .idle }
    else
      { s with digest := .sending params s.now.day }
  | .sending params today =>
    match outcome with
    | .done =>
      { s with
        digest := .saving params today
        lastDigest := cfg.format today
        sent := today :: s.sent }
    | .nothing => { s with digest := .saving params today }
    | .failed => { s with digest := .idle }
  | .saving params today =>
    if outcome.ok then
      { s with
        digest := .idle
        row := some { params with dailyDigestLastSent := cfg.format today } }
    else
      { s with digest := .idle }

/-- The next step of request `t`; `found` are the ids that its query finds. -/
def runRequest (cfg : DigestConfig) (s : DigestState) (t : Nat) (found : Option (List String))
    (ok : Bool) : Option DigestState :=
  match s.requests t with
  | .unused | .done _ => none
  | .validating req =>
    match validate cfg req found with
    | .error message => some (s.setRequest t (.done (some message)))
    | .ok settings => some (s.setRequest t (.loading settings))
  | .loading settings =>
    some (s.setRequest t (.saving settings (s.loadBantayAlertParams ok).dailyDigestLastSent))
  | .saving settings lastSent =>
    if ok then
      some ({ s with row := some ⟨settings, lastSent⟩, lastSaved := settings }.setRequest t
        (.done none))
    else
      some (s.setRequest t (.done (some "Failed to save alert recipients.")))

def init (row : Option BantayAlertParams) (now : LocalTime) : DigestState where
  row := row
  now := now
  digest := .idle
  requests _ := .unused
  nextRequest := 0
  lastSaved := (row.getD .zero).toDigestSettings
  lastDigest := (row.getD .zero).dailyDigestLastSent
  sent := []

end DigestState

inductive DigestAction where
  | wait (now : LocalTime)
  /-- the goroutine of the digest takes its next step; an idle one has a tick -/
  | digest (outcome : DigestOutcome)
  | updateSMTP (req : RecipientsRequest)
  | run (t : Nat) (found : Option (List String)) (ok : Bool)

def digestStep (cfg : DigestConfig) (s : DigestState) : DigestAction → Option DigestState
  | .wait now => if s.now.day ≤ now.day then some { s with now := now } else none
  | .digest outcome => some (s.runDigest cfg outcome)
  | .updateSMTP req =>
    some { s with
      requests := Function.update s.requests s.nextRequest (.validating req)
      nextRequest := s.nextRequest + 1 }
  | .run t found ok => s.runRequest cfg t found ok

/-! ## The property and the condition -/

def RecipientsTask.finished : RecipientsTask → Bool
  | .unused | .done _ => true
  | _ => false

/-- All ticks and all requests have finished. -/
def DigestState.Finished (s : DigestState) : Prop :=
  s.digest = .idle ∧ ∀ t, (s.requests t).finished = true

/-- The row has the settings that were saved last and the date of the last digest. -/
def DigestState.UpToDate (s : DigestState) : Prop :=
  s.stored.toDigestSettings = s.lastSaved ∧ s.stored.dailyDigestLastSent = s.lastDigest

def DigestKept (s : DigestState) : Prop :=
  (s.Finished → s.UpToDate) ∧ s.sent.Nodup

/-- A digest that is due has something to send, and its save does not fail; a save finds what was
    loaded of the fields that it does not set. -/
def DigestGuard (s : DigestState) : DigestAction → Prop
  | .digest outcome =>
    match s.digest with
    | .sending _ _ => outcome ≠ .nothing
    | .saving params _ =>
      outcome.ok = true ∧ s.stored.toDigestSettings = params.toDigestSettings
    | .idle | .checking _ => True
  | .run t _ ok =>
    match s.requests t with
    | .saving _ lastSent => ok = true → s.stored.dailyDigestLastSent = lastSent
    | .unused | .validating _ | .loading _ | .done _ => True
  | .wait _ | .updateSMTP _ => True

instance (s : DigestState) (a : DigestAction) : Decidable (DigestGuard s a) := by
  unfold DigestGuard
  split
  · split <;> infer_instance
  · split <;> infer_instance
  · infer_instance
  · infer_instance

/-! ## Steps -/

section Steps

variable {cfg : DigestConfig} {s s' : DigestState}

/-- The row has the date of the last digest, unless that digest is still to be saved. -/
def DatePending (cfg : DigestConfig) (s : DigestState) : Prop :=
  match s.digest with
  | .saving _ today => s.lastDigest = cfg.format today
  | .checking params =>
    s.stored.dailyDigestLastSent = s.lastDigest ∧
      (params.dailyDigestEnabled = true → params.dailyDigestLastSent = s.lastDigest)
  | .sending _ today =>
    s.stored.dailyDigestLastSent = s.lastDigest ∧ today ≤ s.now.day ∧ ∀ day ∈ s.sent, day < today
  | .idle => s.stored.dailyDigestLastSent = s.lastDigest

/-- Digests are of later and later days, and the date kept is that of the last one. -/
structure DigestInv (cfg : DigestConfig) (s : DigestState) : Prop where
  settings : s.stored.toDigestSettings = s.lastSaved
  date : DatePending cfg s
  sorted : s.sent.Pairwise (· > ·)
  last : ∀ today ∈ s.sent.head?, s.lastDigest = cfg.format today ∧ today ≤ s.now.day

theorem DigestInv.init (row : Option BantayAlertParams) (now : LocalTime) :
    DigestInv cfg (.init row now) where
  settings := rfl
  date := rfl
  sorted := .nil
  last _ h := nomatch h

section

variable (h : DigestInv cfg s)
include h

theorem DigestInv.lt_of_date_ne (hdate : s.lastDigest ≠ cfg.format s.now.day) :
    ∀ day ∈ s.sent, day < s.now.day := by
  have hsorted := h.sorted
  have hlast := h.last
  cases hsent : s.sent with
  | nil => exact fun day hday => nomatch hday
  | cons today earlier =>
    rw [hsent] at hsorted hlast
    obtain ⟨hformat, hle⟩ := hlast today rfl
    have hne : today ≠ s.now.day := by
      rintro rfl
      exact hdate hformat
    have hlt : today < s.now.day := Nat.lt_of_le_of_ne hle hne
    intro day hday
    rcases List.mem_cons.mp hday with rfl | hearl
    · exact hlt
    · exact Nat.lt_trans (List.rel_of_pairwise_cons hsorted hearl) hlt

theorem DigestInv.of_same_digest (hset : s'.stored.toDigestSettings = s'.lastSaved)
    (hstored : s'.stored.dailyDigestLastSent = s.stored.dailyDigestLastSent)
    (hdigest : s'.digest = s.digest) (hlast : s'.lastDigest = s.lastDigest)
    (hsent : s'.sent = s.sent) (hnow : s.now.day ≤ s'.now.day) : DigestInv cfg s' := by
  refine ⟨hset, ?_, ?_, ?_⟩
  · have hdate := h.date
    unfold DatePending at hdate ⊢
    rw [hdigest, hlast, hsent, hstored]
    cases hs : s.digest with
    | idle => rwa [hs] at hdate
    | checking params => rwa [hs] at hdate
    | saving params today => rwa [hs] at hdate
    | sending params today =>
      rw [hs] at hdate
      exact ⟨hdate.1, Nat.le_trans hdate.2.1 hnow, hdate.2.2⟩
  · rw [hsent]
    exact h.sorted
  · intro today htoday
    rw [hsent] at htoday
    obtain ⟨hformat, hle⟩ := h.last today htoday
    rw [hlast]
    exact ⟨hformat, Nat.le_trans hle hnow⟩

theorem DigestInv.idle (hstored : s.stored.dailyDigestLastSent = s.lastDigest) :
    DigestInv cfg { s with digest := .idle } :=
  ⟨h.settings, hstored, h.sorted, h.last⟩

/-- A digest that meets the condition keeps the settings and the date. -/
theorem DigestInv.runDigest {outcome : DigestOutcome}
    (hguard : DigestGuard s (.digest outcome)) : DigestInv cfg (s.runDigest cfg outcome) := by
  have hdate := h.date
  unfold DatePending at hdate
  unfold DigestState.runDigest
  unfold DigestGuard at hguard
  cases hdigest : s.digest with
  | idle =>
    rw [hdigest] at hdate
    refine ⟨h.settings, ⟨hdate, ?_⟩, h.sorted, h.last⟩
    intro henabled
    unfold DigestState.loadBantayAlertParams at henabled ⊢
    split_ifs at henabled ⊢
    · exact hdate
    · cases henabled
  | checking params =>
    rw [hdigest] at hdate
    obtain ⟨hstored, hparams⟩ := hdate
    show DigestInv cfg (if _ then _ else _)
    split_ifs with henabled _ htoday
    · exact h.idle hstored
    · exact h.idle hstored
    · exact h.idle hstored
    · -- the date that was loaded is the one of the last digest
      have hlast : s.lastDigest ≠ cfg.format s.now.day := by
        rw [← hparams (Bool.not_eq_false _ ▸ henabled)]
        exact htoday
      exact ⟨h.settings, ⟨hstored, Nat.le_refl _, h.lt_of_date_ne hlast⟩, h.sorted, h.last⟩
  | sending params today =>
    rw [hdigest] at hdate hguard
    obtain ⟨hstored, hle, hlt⟩ := hdate
    cases outcome with
    | done =>
      refine ⟨h.settings, rfl, List.pairwise_cons.mpr ⟨hlt, h.sorted⟩, ?_⟩
      intro day hday
      obtain rfl : today = day := Option.some.inj hday
      exact ⟨rfl, hle⟩
    | nothing => exact absurd rfl hguard
    | failed => exact h.idle hstored
  | saving params today =>
    rw [hdigest] at hdate hguard
    obtain ⟨hok, hset⟩ := hguard
    dsimp only
    rw [if_pos hok]
    refine ⟨?_, hdate.symm, h.sorted, h.last⟩
    exact hset.symm.trans h.settings

/-- A request for the settings that meets the condition keeps the date. -/
theorem DigestInv.runRequest {t : Nat} {found : Option (List String)}
    {ok : Bool} (hguard : DigestGuard s (.run t found ok))
    (hrun : s.runRequest cfg t found ok = some s') : DigestInv cfg s' := by
  have hmove : ∀ task, DigestInv cfg (s.setRequest t task) :=
    fun task => h.of_same_digest h.settings rfl rfl rfl rfl (Nat.le_refl _)
  unfold DigestState.runRequest at hrun
  unfold DigestGuard at hguard
  cases htask : s.requests t with
  | unused => simp [htask] at hrun
  | done error => simp [htask] at hrun
  | validating req =>
    simp only [htask] at hrun
    split at hrun
    · cases hrun
      exact hmove _
    · cases hrun
      exact hmove _
  | loading settings =>
    simp only [htask] at hrun
    cases hrun
    exact hmove _
  | saving settings lastSent =>
    simp only [htask] at hrun hguard
    split_ifs at hrun with hok
    · cases hrun
      exact h.of_same_digest rfl (hguard hok).symm rfl rfl rfl (Nat.le_refl _)
    · cases hrun
      exact hmove _

end

/-- **One step** under the condition keeps digests a day apart. -/
theorem digestStep_inv (s : DigestState) (a : DigestAction) (s' : DigestState) (h : DigestInv cfg s)
    (hguard : DigestGuard s a) (hstep : digestStep cfg s a = some s') : DigestInv cfg s' := by
  cases a with
  | wait now =>
    simp only [digestStep, Option.ite_none_right_eq_some, Option.some.injEq] at hstep
    rw [← hstep.2]
    exact h.of_same_digest h.settings rfl rfl rfl rfl hstep.1
  | digest outcome =>
    cases hstep
    exact h.runDigest hguard
  | updateSMTP req =>
    cases hstep
    exact h.of_same_digest h.settings rfl rfl rfl rfl (Nat.le_refl _)
  | run t found ok => exact h.runRequest hguard hstep

theorem DigestInv.kept (h : DigestInv cfg s) : DigestKept s := by
  refine ⟨?_, h.sorted.imp (fun hlt => Nat.ne_of_gt hlt)⟩
  rintro ⟨hidle, _⟩
  have hdate := h.date
  rw [DatePending, hidle] at hdate
  exact ⟨h.settings, hdate⟩

end Steps

/-- **Settings and date are kept**: if a digest that is due has something to send and is saved over
    the settings it has loaded, and a request over the date it has loaded, then once all have
    finished the row has the latest settings and the date of the last digest, and no day has two
    digests. -/
theorem settings_and_date_kept (cfg : DigestConfig) (row : Option BantayAlertParams)
    (now : LocalTime) (as : List DigestAction)
    (hguard : EveryStep (digestStep cfg) DigestGuard (.init row now) as) :
    EveryState (digestStep cfg) DigestKept (.init row now) as :=
  everyState_of_invariant digestStep_inv (fun _ h => h.kept) (.init row now) hguard

/-! ## A save while a digest is sent -/

def plainDigestConfig : DigestConfig where
  format day := if day = 0 then "2026-01-01" else "2026-01-02"
  trimSpace := id
  toLower := id
  parseAddress _ := true

/-- A digest at seven o'clock for one user, none sent yet. -/
def digestAtSeven : BantayAlertParams := ⟨⟨["ana"], [], true, 7⟩, ""⟩

/-- Another user is to have the digest. -/
def changeRecipient : RecipientsRequest := ⟨["ben"], [], true, 7⟩

/-- The request is answered before the tick. -/
def saveBeforeDigest : List DigestAction :=
  [.updateSMTP changeRecipient, .run 0 (some ["ben"]) true, .run 0 none true, .run 0 none true,
    .digest .done, .digest .done, .digest .done, .digest .done, .digest .done, .digest .done]

theorem settings_and_date_kept_in_turn :
    EveryStep (digestStep plainDigestConfig) DigestGuard (.init (some digestAtSeven) ⟨0, 7⟩)
        saveBeforeDigest ∧
      EveryState (digestStep plainDigestConfig) DigestKept (.init (some digestAtSeven) ⟨0, 7⟩)
        saveBeforeDigest := by
  have hguard : EveryStep (digestStep plainDigestConfig) DigestGuard
      (.init (some digestAtSeven) ⟨0, 7⟩) saveBeforeDigest := by
    decide +kernel
  exact ⟨hguard, settings_and_date_kept plainDigestConfig (some digestAtSeven) ⟨0, 7⟩
    saveBeforeDigest hguard⟩

/-- The request loads and saves while the digest is sent. -/
def saveDuringDigest : List DigestAction :=
  [.digest .done, .digest .done, .updateSMTP changeRecipient, .run 0 (some ["ben"]) true,
    .run 0 none true, .run 0 none true, .digest .done, .digest .done]

/-- The digest is sent and saved between the load and the save of the request; then comes another
    tick. -/
def digestDuringSave : List DigestAction :=
  [.updateSMTP changeRecipient, .run 0 (some ["ben"]) true, .run 0 none true,
    .digest .done, .digest .done, .digest .done, .digest .done, .run 0 none true,
    .digest .done, .digest .done, .digest .done, .digest .done]

/-- **Either writer undoes the other**: the new recipient is lost, or the date, and the digest is
    sent twice. -/
theorem writers_undo_each_other :
    (∃ s, exec (digestStep plainDigestConfig) (.init (some digestAtSeven) ⟨0, 7⟩)
        saveDuringDigest = some s ∧ s.digest = .idle ∧ s.requests 0 = .done none ∧
        s.lastSaved.alertRecipientUserIds = ["ben"] ∧
        s.stored.alertRecipientUserIds = ["ana"]) ∧
      ∃ s, exec (digestStep plainDigestConfig) (.init (some digestAtSeven) ⟨0, 7⟩)
        digestDuringSave = some s ∧ s.digest = .idle ∧ s.requests 0 = .done none ∧
        s.sent = [0, 0] := by
  refine ⟨⟨_, rfl, ?_⟩, _, rfl, ?_⟩ <;> decide +kernel

end Bantay.Alerts
