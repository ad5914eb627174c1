import MarketingOS.Models.Enums
import MarketingOS.Models.Values

/-!
# Delivery records of the daily report

The row of one client and one report date. The unique constraint on the two columns makes it one
row at most.
-/
namespace MarketingOS

/-- `ReportEmailStatus` -/
inductive ReportEmailStatus where
  | sent
  | failed
  | skippedNoRecipients
  | skippedNotConfigured
deriving DecidableEq, Repr

instance : Enumeration ReportEmailStatus where
  members := [.sent, .failed, .skippedNoRecipients, .skippedNotConfigured]
  value
    | .sent => "sent"
    | .failed => "failed"
    | .skippedNoRecipients => "skipped_no_recipients"
    | .skippedNotConfigured => "skipped_not_configured"
  named a := by cases a <;> decide

/-- `ReportEmailLog` -/
structure ReportEmailLog where
  status : ReportEmailStatus
  recipientCount : Nat
  recipientEmails : Option (List String)
  brevoMessageId : Option String
  error : Option String
  attemptCount : Nat
  sentAt : Option Timestamp
  updatedAt : Timestamp
deriving DecidableEq

end MarketingOS
