import MarketingOS.Base.Machine
import MarketingOS.Models.ReportEmailLog

/-!
# Report e-mail service

Any number of `send_daily_report` runs for one client and one report date, one step at a time: the
sweep of several scheduler processes and manual triggers make them, each on a session of its own.
A run looks the log row up, prepares the report, calls the mail provider and writes the row, and
it may crash between any two of these. Nothing is locked, and nothing is committed before the row.
-/
namespace MarketingOS.ReportEmailService

/-- `_MAX_ATTEMPTS` -/
def maxAttempts : Nat := 3

/-- `_FAILED_RETRY_COOLDOWN` -/
def failedRetryCooldown : Timestamp := 3600 * second

/-- The columns `_write_log` sets. -/
structure LogFields where
  status : ReportEmailStatus
  recipients : List (String × String)
  error : Option String
  attempts : Nat
  brevoMessageId : Option String
  sentAt : Option Timestamp
deriving DecidableEq

/-- `[email for _, email in recipients] or None` -/
def recipientEmails (recipients : List (String × String)) : Option (List String) :=
  match recipients with
  | [] => none
  | _ => some (recipients.map Prod.snd)

/-- A new row of some columns. -/
def LogFields.row (fields : LogFields) (now : Timestamp) : ReportEmailLog where
  status := fields.status
  recipientCount := fields.recipients.length
  recipientEmails := recipientEmails fields.recipients
  brevoMessageId := fields.brevoMessageId
  error := fields.error
  attemptCount := fields.attempts
  sentAt := fields.sentAt
  updatedAt := now

/-- The value of a column after a commit: a session sends the columns it changed from what it
read, and another column keeps what is stored. -/
def changed {α : Type} [DecidableEq α] (read set stored : α) : α :=
  if set = read then stored else set

/-- The stored row after the commit of a session that read a row and set columns of it. -/
def overwrite (read : ReportEmailLog) (fields : LogFields) (now : Timestamp)
    (stored : ReportEmailLog) : ReportEmailLog :=
  let set := fields.row read.updatedAt
  if set = read then stored
  else
    { status := changed read.status set.status stored.status
      recipientCount := changed read.recipientCount set.recipientCount stored.recipientCount
      recipientEmails := changed read.recipientEmails set.recipientEmails stored.recipientEmails
      brevoMessageId := changed read.brevoMessageId set.brevoMessageId stored.brevoMessageId
      error := changed read.error set.error stored.error
      attemptCount := changed read.attemptCount set.attemptCount stored.attemptCount
      sentAt := changed read.sentAt set.sentAt stored.sentAt
      updatedAt := now }

/-- Whether a run returns the row it found: it is delivered, or it failed a short time ago. -/
def settled (now : Timestamp) (existing : ReportEmailLog) : Bool :=
  match existing.status with
  | .sent => true
  | .failed => now - existing.updatedAt < failedRetryCooldown
  | _ => false

/-- What a run finds before it calls the provider. -/
structure Preparation where
  /-- `_resolve_recipients` — names and addresses. -/
  recipients : List (String × String)
  /-- `BrevoClient.is_configured` -/
  configured : Bool
  /-- The report is built; otherwise the text of the exception. -/
  built : Except String Unit

/-- The columns to write when the report is not to be sent. -/
def prepare (p : Preparation) : Option LogFields :=
  if p.recipients = [] then some ⟨.skippedNoRecipients, [], none, 0, none, none⟩
  else if !p.configured then some ⟨.skippedNotConfigured, [], none, 0, none, none⟩
  else
    match p.built with
    | .error message => some ⟨.failed, p.recipients, some (clip 500 message), 0, none, none⟩
    | .ok () => none

/-- How a call of the provider ends, and whether the provider has accepted the report although
the call raised. -/
inductive Reply where
  /-- The message identifier of the accepted report. -/
  | delivered (messageId : String)
  /-- `BrevoSendError` -/
  | sendError (message : String) (retryable accepted : Bool)
  /-- Another exception, such as an answer that is not JSON. -/
  | otherError (accepted : Bool)

/-- Whether the provider has accepted the report. -/
def Reply.accepted : Reply → Bool
  | .delivered _ => true
  | .sendError _ _ accepted => accepted
  | .otherError accepted => accepted

/-- How far one run has come. -/
inductive Run where
  | idle
  | lookedUp (existing : Option ReportEmailLog)
  /-- The report is built and the provider is to be called. -/
  | sending (existing : Option ReportEmailLog) (recipients : List (String × String))
    (attempt : Nat)
  /-- `_write_log` is called and nothing is committed. -/
  | recording (existing : Option ReportEmailLog) (fields : LogFields)
  | returned (log : ReportEmailLog)
  /-- An exception or a crash has ended the run. -/
  | ended

/-- Where a run stands after a call of the provider: it records, calls again or ends. -/
def called (existing : Option ReportEmailLog) (recipients : List (String × String))
    (attempt : Nat) (now : Timestamp) : Reply → Run
  | .delivered messageId =>
    .recording existing ⟨.sent, recipients, none, attempt, some messageId, some now⟩
  | .sendError message retryable _ =>
    if !retryable ∨ attempt = maxAttempts then
      .recording existing ⟨.failed, recipients, some (clip 500 message), attempt, none, none⟩
    else .sending existing recipients (attempt + 1)
  | .otherError _ => .ended

/-- The row committed of the client and the date, how far every run is, and how many reports the
provider has accepted. -/
structure World where
  log : Option ReportEmailLog
  runs : List Run
  accepted : Nat

/-- The world after a run has moved. -/
def World.move (w : World) (r : Nat) (run : Run) : World := { w with runs := w.runs.set r run }

/-- One step of one run. -/
inductive Label where
  | lookUp (r : Nat) (now : Timestamp)
  | prepare (r : Nat) (p : Preparation)
  | call (r : Nat) (now : Timestamp) (reply : Reply)
  /-- `_write_log` — insert or update, and commit. -/
  | writeLog (r : Nat) (now : Timestamp)
  | crash (r : Nat)

/-- Where a run stands after its look at the row. -/
def lookedUp (now : Timestamp) : Option ReportEmailLog → Run
  | none => .lookedUp none
  | some existing => if settled now existing then .returned existing else .lookedUp (some existing)

/-- The row and the run after `_write_log`: an insert that meets a row another run inserted is
rolled back, and the run returns that row. -/
def writeLog (existing : Option ReportEmailLog) (fields : LogFields) (now : Timestamp) :
    Option ReportEmailLog → Option ReportEmailLog × Run
  | none =>
    match existing with
    | none => (some (fields.row now), .returned (fields.row now))
    | some _ => (none, .ended)
  | some stored =>
    match existing with
    | none => (some stored, .returned stored)
    | some read =>
      (some (overwrite read fields now stored), .returned (overwrite read fields now stored))

/-- The step function. -/
def next (w : World) : Label → Option World
  | .lookUp r now =>
    match w.runs[r]? with
    | some .idle => some (w.move r (lookedUp now w.log))
    | _ => none
  | .prepare r p =>
    match w.runs[r]? with
    | some (.lookedUp existing) =>
      match prepare p with
      | some fields => some (w.move r (.recording existing fields))
      | none => some (w.move r (.sending existing p.recipients 1))
    | _ => none
  | .call r now reply =>
    match w.runs[r]? with
    | some (.sending existing recipients attempt) =>
      some { w.move r (called existing recipients attempt now reply) with
        accepted := w.accepted + if reply.accepted then 1 else 0 }
    | _ => none
  | .writeLog r now =>
    match w.runs[r]? with
    | some (.recording existing fields) =>
      some { w.move r (writeLog existing fields now w.log).2 with
        log := (writeLog existing fields now w.log).1 }
    | _ => none
  | .crash r =>
    match w.runs[r]? with
    | some (.lookedUp _) | some (.sending _ _ _) | some (.recording _ _) => some (w.move r .ended)
    | _ => none

/-- The runs, before any of them has begun. -/
def machine : Machine World Label where
  start w := w.accepted = 0 ∧ ∀ run ∈ w.runs, run = .idle
  next := next

end MarketingOS.ReportEmailService
