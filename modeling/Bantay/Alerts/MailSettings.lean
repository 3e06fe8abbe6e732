import Bantay.Alerts.DailyDigest

/-!
# The Update of the Mail Settings

A whole call of `updateSMTP` of `internal/hub/admin.go` on both stores that it writes: the mail
settings of the app, and the row of parameters with the recipients and the digest.  The mail
settings are saved before the recipients are checked.
-/

namespace Bantay.Alerts

/-- The fields of the app's settings that `updateSMTP` sets. -/
structure MailSettings where
  enabled : Bool
  host : String
  port : Int
  username : String
  password : String
  authMethod : String
  tls : Bool
  localName : String
  senderName : String
  senderAddress : String
deriving DecidableEq

structure SmtpUpdateRequest extends MailSettings, RecipientsRequest

structure MailStore where
  settings : MailSettings
  /-- `none` if there is no row -/
  row : Option BantayAlertParams
deriving DecidableEq

/-- The outcomes of the storage calls; `true` is one without an error. -/
structure StorageOutcomes where
  clone : Bool
  save : Bool
  /-- the ids that `FindRecordsByIds` finds -/
  found : Option (List String)
  load : Bool
  saveParams : Bool

namespace SmtpUpdateRequest

/-- The settings to be saved: an empty password or sender keeps the stored one. -/
def apply (cfg : DigestConfig) (req : SmtpUpdateRequest) (old : MailSettings) : MailSettings :=
  { req.toMailSettings with
    host := cfg.trimSpace req.host
    password := if req.password ≠ "" then req.password else old.password
    senderName := if req.senderName ≠ "" then req.senderName else old.senderName
    senderAddress := if req.senderAddress ≠ "" then req.senderAddress else old.senderAddress }

def SenderValid (cfg : DigestConfig) (req : SmtpUpdateRequest) : Prop :=
  req.senderAddress = "" ∨ cfg.parseAddress req.senderAddress = true
deriving Decidable

end SmtpUpdateRequest

/-- `updateSMTP`; `none` is a body that cannot be bound. -/
def updateSMTP (cfg : DigestConfig) (out : StorageOutcomes) (body : Option SmtpUpdateRequest)
    (s : MailStore) : Except String Unit × MailStore :=
  match body with
  | none => (.error "Invalid request body.", s)
  | some req =>
    if ¬ req.SenderValid cfg then
      (.error "Invalid sender email address.", s)
    else if out.clone = false then
      (.error "Failed to clone settings.", s)
    else if out.save = false then
      (.error "Failed to save SMTP settings.", s)
    else
      let s := { s with settings := req.apply cfg s.settings }
      match validate cfg req.toRecipientsRequest out.found with
      | .error message => (.error message, s)
      | .ok settings =>
        let existing := if out.load then s.row.getD .zero else .zero
        if out.saveParams = false then
          (.error "Failed to save alert recipients.", s)
        else
          (.ok (), { s with row := some ⟨settings, existing.dailyDigestLastSent⟩ })

/-! ## What the checks ask for -/

/-- All users are found, all addresses are well formed, and the hour is one of a day. -/
def RecipientsRequest.Valid (cfg : DigestConfig) (req : RecipientsRequest)
    (found : Option (List String)) : Prop :=
  (req.alertRecipientUserIds = [] ∨
      ∃ users, found = some users ∧ ∀ id ∈ req.alertRecipientUserIds, id ∈ users) ∧
    (∀ raw ∈ req.alertRecipientEmails,
      cfg.trimSpace raw = "" ∨ cfg.parseAddress (cfg.trimSpace raw) = true) ∧
    0 ≤ req.dailyDigestHour ∧ req.dailyDigestHour ≤ 23

theorem cleanEmails_ok_iff (cfg : DigestConfig) (seenEmail raws : List String) :
    (∃ emails, cleanEmails cfg seenEmail raws = .ok emails) ↔
      ∀ raw ∈ raws, cfg.trimSpace raw = "" ∨ cfg.parseAddress (cfg.trimSpace raw) = true := by
  induction raws generalizing seenEmail with
  | nil => simp [cleanEmails]
  | cons raw rest ih =>
    simp only [cleanEmails, List.forall_mem_cons]
    split_ifs with hblank hparse
    · simp [hblank, ih]
    · simp [hblank, hparse]
    · simp [hparse, ih]
    · -- a new address: the rest is checked with its key
      have hok := ih (cfg.toLower (cfg.trimSpace raw) :: seenEmail)
      cases hrest : cleanEmails cfg (cfg.toLower (cfg.trimSpace raw) :: seenEmail) rest <;>
        simp_all [Except.map]

theorem exists_ite_error_eq_ok {p : Prop} [Decidable p] {message : String}
    {result : Except String DigestSettings} :
    (∃ settings, (if p then .error message else result) = .ok settings) ↔
      ¬ p ∧ ∃ settings, result = .ok settings := by
  split_ifs with hp <;> simp [hp]

/-- `validate` accepts exactly the valid requests. -/
theorem validate_ok_iff (cfg : DigestConfig) (req : RecipientsRequest)
    (found : Option (List String)) :
    (∃ settings, validate cfg req found = .ok settings) ↔ req.Valid cfg found := by
  rw [RecipientsRequest.Valid, ← cleanEmails_ok_iff cfg []]
  obtain ⟨ids, raws, enabled, hour⟩ := req
  have hhour : ¬ (hour < 0 ∨ hour > 23) ↔ 0 ≤ hour ∧ hour ≤ 23 := by omega
  simp only [validate, ← hhour]
  cases cleanEmails cfg [] raws <;> rcases ids with _ | ⟨id, ids⟩ <;> cases found <;>
    simp [-ite_not, -List.length_cons, exists_ite_error_eq_ok]

/-! ## Failed updates -/

/-- **What a failed update leaves behind**: an error leaves both stores as they were exactly if the
    mail settings were not saved, did not change, or neither the checks nor the second save
    fails. -/
theorem failed_update_keeps_stores_iff (cfg : DigestConfig) (out : StorageOutcomes)
    (body : Option SmtpUpdateRequest) (s : MailStore) :
    (∀ message, (updateSMTP cfg out body s).1 = .error message →
        (updateSMTP cfg out body s).2 = s) ↔
      ∀ req, body = some req → req.SenderValid cfg → out.clone = true → out.save = true →
        req.apply cfg s.settings ≠ s.settings →
          req.toRecipientsRequest.Valid cfg out.found ∧ out.saveParams = true := by
  obtain ⟨clone, save, found, load, saveParams⟩ := out
  obtain ⟨settings, row⟩ := s
  cases body with
  | none => simp [updateSMTP]
  | some req =>
    simp only [updateSMTP, ← validate_ok_iff, Option.some.injEq, forall_eq']
    by_cases hsender : req.SenderValid cfg
    · cases clone with
      | false => simp [hsender]
      | true =>
        cases save with
        | false => simp [hsender]
        | true =>
          -- from here on the mail settings are the new ones
          cases validate cfg req.toRecipientsRequest found with
          | error message => simp [hsender]
          | ok recipients => cases saveParams <;> simp [hsender]
    · simp [hsender]

/-- A request that changes the port, with an hour that no day has. -/
def portRequest : SmtpUpdateRequest :=
  ⟨⟨true, "mail", 587, "", "", "", true, "", "Hub", "hub@example.com"⟩, ⟨[], [], true, 24⟩⟩

/-- **A refused request changes the mail settings.** -/
theorem rejected_update_changes_mail_settings :
    let cfg : DigestConfig := ⟨fun _ => "", id, id, fun _ => true⟩
    let s : MailStore := ⟨{ portRequest.toMailSettings with port := 25 }, none⟩
    updateSMTP cfg ⟨true, true, none, true, true⟩ (some portRequest) s =
      (.error "Daily digest hour must be between 0 and 23.", ⟨portRequest.toMailSettings, none⟩) ∧
    portRequest.toMailSettings ≠ s.settings := by
  decide

end Bantay.Alerts
