import MarketingOS.Base.Grouping
import MarketingOS.Base.StableSort
import MarketingOS.Models.Rows

/-!
# Notification digest

The sweep that sends each opted-in user one e-mail about the warnings and critical notifications
since the last one. A batch is taken by age from everything not yet e-mailed; who of it may be
e-mailed is decided afterwards. Rows of the same age are taken in the order of the table.
-/
namespace MarketingOS.NotificationEmail

/-! ## Rows -/

/-- `NotificationLevel` -/
inductive NotificationLevel where
  | info
  | warning
  | critical
deriving DecidableEq

instance : Enumeration NotificationLevel where
  members := [.info, .warning, .critical]
  value
    | .info => "info"
    | .warning => "warning"
    | .critical => "critical"
  named a := by cases a <;> decide

/-- `Notification` -/
structure Notification where
  id : Uuid
  userId : Uuid
  clientId : Option Uuid
  level : String
  title : String
  body : Option String
  createdAt : Timestamp
  emailedAt : Option Timestamp
deriving DecidableEq

/-- The table of notifications. -/
structure Notifications where
  rows : List Notification
  /-- The identifier is the primary key. -/
  distinct : (rows.map Notification.id).Nodup

/-- `NotificationPreference` -/
structure NotificationPreference where
  userId : Uuid
  emailEnabled : Bool
  mutedClientIds : List String
deriving DecidableEq

/-- The users and their preferences. -/
structure Directory where
  users : List User
  preferences : List NotificationPreference
  /-- The identifier is the primary key. -/
  usersDistinct : (users.map User.id).Nodup
  /-- `user_id` is unique. -/
  preferencesDistinct : (preferences.map NotificationPreference.userId).Nodup

/-! ## Repositories -/

/-- A row is not yet e-mailed and worth an e-mail. -/
def pendingEmail (n : Notification) : Bool :=
  n.emailedAt = none ∧
    n.level ∈ [Enumeration.value NotificationLevel.warning,
      Enumeration.value NotificationLevel.critical]

/-- The rows that are not yet e-mailed, the oldest first. -/
def queue (table : Notifications) : List Notification :=
  StableSort.sortBy Notification.createdAt (table.rows.filter pendingEmail)

/-- `list_pending_email` -/
def listPendingEmail (table : Notifications) (limit : Nat) : List Notification :=
  (queue table).take limit

/-- `list_for_users` -/
def listForUsers (directory : Directory) (userIds : List Uuid) : List NotificationPreference :=
  directory.preferences.filter fun pref => userIds.contains pref.userId

/-! ## The e-mail -/

/-- `html.escape` of a character; the last two are the quotation mark and the apostrophe. -/
def escapeChar (c : Char) : List Char :=
  if c = '&' then "&amp;".toList
  else if c = '<' then "&lt;".toList
  else if c = '>' then "&gt;".toList
  else if c.toNat = 0x22 then "&quot;".toList
  else if c.toNat = 0x27 then "&#x27;".toList
  else [c]

/-- `html.escape` -/
def escape (text : String) : String := String.ofList (text.toList.flatMap escapeChar)

/-- The arguments of `send_transactional_email`. -/
structure Email where
  recipient : String × String
  subject : String
  htmlContent : String

/-- `BrevoClient` -/
structure BrevoClient where
  isConfigured : Bool
  /-- `send_transactional_email` returns. -/
  sends : Email → Bool
  /-- A client that is not configured raises. -/
  unconfigured : isConfigured = false → ∀ email, sends email = false

/-- A user with the notifications of one e-mail. -/
structure Digest where
  user : User
  items : List Notification

/-- The line of one notification. -/
def digestRow (n : Notification) : String :=
  "<li><strong>" ++ escape n.title ++ "</strong>" ++
    (if n.body.getD "" = "" then "" else " — " ++ escape (n.body.getD "")) ++ "</li>"

/-- `_send_digest`, up to the call of the client. -/
def Digest.email (digest : Digest) : Email where
  recipient := (digest.user.email, digest.user.name)
  subject := s!"InWork MarketingOS — {digest.items.length} new notification(s)"
  htmlContent := s!"<p>You have {digest.items.length} new notification(s):</p><ul>" ++
    "".intercalate (digest.items.map digestRow) ++ "</ul>"

/-! ## The sweep -/

/-- The client of a notification is not muted. -/
def unmuted (pref : NotificationPreference) (n : Notification) : Bool :=
  n.clientId.all fun client => Uuid.print client ∉ pref.mutedClientIds

/-- `n.emailed_at = now`, for each of some rows. -/
def Notifications.mark (now : Timestamp) (items : List Notification) (table : Notifications) :
    Notifications where
  rows := table.rows.map fun n =>
    { n with emailedAt := if (items.map Notification.id).contains n.id then some now else n.emailedAt }
  distinct := by
    rw [List.map_map]
    exact table.distinct

/-- What a sweep leaves and the e-mails it has sent. -/
structure Swept where
  table : Notifications
  sent : List Digest

/-- One user's turn of the loop. -/
def sweepUser (brevo : BrevoClient) (prefs : Dict Uuid NotificationPreference)
    (users : Dict Uuid User) (clock : Uuid → Timestamp) (done : Swept)
    (entry : Uuid × List Notification) : Swept :=
  match prefs.get entry.1, users.get entry.1 with
  | some pref, some user =>
    if pref.emailEnabled = false then done
    else
      let eligible := entry.2.filter (unmuted pref)
      if eligible = [] then done
      else if brevo.sends (Digest.email ⟨user, eligible⟩) then
        ⟨done.table.mark (clock entry.1) eligible, done.sent ++ [⟨user, eligible⟩]⟩
      else done
  | _, _ => done

/-- Add a notification to those of its user. -/
def append (items : Option (List Notification)) (n : Notification) : List Notification :=
  items.getD [] ++ [n]

/-- `send_pending_emails`, with the time at which each user's e-mail is sent. -/
def sendPendingEmails (brevo : BrevoClient) (directory : Directory) (clock : Uuid → Timestamp)
    (table : Notifications) (limit : Nat) : Swept :=
  if brevo.isConfigured = false then ⟨table, []⟩
  else
    let pending := listPendingEmail table limit
    if pending = [] then ⟨table, []⟩
    else
      let byUser := pending.foldl (Grouping.file Notification.userId append) Dict.empty
      let userIds := byUser.entries.map Prod.fst
      let prefs :=
        Dict.ofList ((listForUsers directory userIds).map fun pref => (pref.userId, pref))
      let users := Dict.ofList ((directory.users.filter fun user =>
        userIds.contains user.id ∧ user.isActive).map fun user => (user.id, user))
      byUser.entries.foldl (sweepUser brevo prefs users clock) ⟨table, []⟩

/-- Sweeps one after another. -/
def sweeps (brevo : BrevoClient) (directory : Directory) (limit : Nat) :
    List (Uuid → Timestamp) → Notifications → Swept
  | [], table => ⟨table, []⟩
  | clock :: clocks, table =>
    let first := sendPendingEmails brevo directory clock table limit
    let others := sweeps brevo directory limit clocks first.table
    ⟨others.table, first.sent ++ others.sent⟩

end MarketingOS.NotificationEmail
