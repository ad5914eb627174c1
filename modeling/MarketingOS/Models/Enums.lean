import MarketingOS.Base.Json

/-!
# Enumerations

The closed sets of values the tables store, each under the name the source gives it. A value
is stored as its name, and a name outside the set stands for no value.
-/
namespace MarketingOS

/-- `UserRole` — what an account may do globally. -/
inductive UserRole where
  | admin
  | manager
  | user
deriving DecidableEq, Repr

instance : Enumeration UserRole where
  members := [.admin, .manager, .user]
  value
    | .admin => "admin"
    | .manager => "manager"
    | .user => "user"
  named a := by cases a <;> decide

/-- `ClientCapability` — a per-client responsibility of an assigned user. -/
inductive ClientCapability where
  | manageIntegrations
  | reviewResults
  | reviewCreatives
  | manageCalendar
  | manageCompliance
  | manageCampaigns
  | admin
deriving DecidableEq, Repr

instance : Enumeration ClientCapability where
  members := [.manageIntegrations, .reviewResults, .reviewCreatives, .manageCalendar,
    .manageCompliance, .manageCampaigns, .admin]
  value
    | .manageIntegrations => "manage_integrations"
    | .reviewResults => "review_results"
    | .reviewCreatives => "review_creatives"
    | .manageCalendar => "manage_calendar"
    | .manageCompliance => "manage_compliance"
    | .manageCampaigns => "manage_campaigns"
    | .admin => "admin"
  named a := by cases a <;> decide

/-- `ClientStatus` — account state of a client. -/
inductive ClientStatus where
  | draft
  | active
  | inactive
  | paused
  | onboarding
  | archived
deriving DecidableEq, Repr

instance : Enumeration ClientStatus where
  members := [.draft, .active, .inactive, .paused, .onboarding, .archived]
  value
    | .draft => "draft"
    | .active => "active"
    | .inactive => "inactive"
    | .paused => "paused"
    | .onboarding => "onboarding"
    | .archived => "archived"
  named a := by cases a <;> decide

/-- `TaskStatus` — column of the task board. -/
inductive TaskStatus where
  | todo
  | inProgress
  | blocked
  | done
deriving DecidableEq, Repr

instance : Enumeration TaskStatus where
  members := [.todo, .inProgress, .blocked, .done]
  value
    | .todo => "todo"
    | .inProgress => "in_progress"
    | .blocked => "blocked"
    | .done => "done"
  named a := by cases a <;> decide

/-- `TaskPriority`. -/
inductive TaskPriority where
  | low
  | medium
  | high
  | urgent
deriving DecidableEq, Repr

instance : Enumeration TaskPriority where
  members := [.low, .medium, .high, .urgent]
  value
    | .low => "low"
    | .medium => "medium"
    | .high => "high"
    | .urgent => "urgent"
  named a := by cases a <;> decide

/-- `TaskCategory`. -/
inductive TaskCategory where
  | strategy
  | creative
  | ads
  | content
  | analytics
  | compliance
  | admin
deriving DecidableEq, Repr

instance : Enumeration TaskCategory where
  members := [.strategy, .creative, .ads, .content, .analytics, .compliance, .admin]
  value
    | .strategy => "strategy"
    | .creative => "creative"
    | .ads => "ads"
    | .content => "content"
    | .analytics => "analytics"
    | .compliance => "compliance"
    | .admin => "admin"
  named a := by cases a <;> decide

/-- `ProposalStatus` — lifecycle of a change proposal. -/
inductive ProposalStatus where
  | draft
  | pendingApproval
  | executing
  | completed
  | failed
  | cancelled
  | expired
deriving DecidableEq, Repr

instance : Enumeration ProposalStatus where
  members := [.draft, .pendingApproval, .executing, .completed, .failed, .cancelled, .expired]
  value
    | .draft => "draft"
    | .pendingApproval => "pending_approval"
    | .executing => "executing"
    | .completed => "completed"
    | .failed => "failed"
    | .cancelled => "cancelled"
    | .expired => "expired"
  named a := by cases a <;> decide

/-- `ProposedOperationStatus`. -/
inductive ProposedOperationStatus where
  | pending
  | executed
  | failed
  | skipped
deriving DecidableEq, Repr

instance : Enumeration ProposedOperationStatus where
  members := [.pending, .executed, .failed, .skipped]
  value
    | .pending => "pending"
    | .executed => "executed"
    | .failed => "failed"
    | .skipped => "skipped"
  named a := by cases a <;> decide

/-- `ProposedOperationType`. -/
inductive ProposedOperationType where
  | create
  | update
  | delete
  | assign
  | unassign
deriving DecidableEq, Repr

instance : Enumeration ProposedOperationType where
  members := [.create, .update, .delete, .assign, .unassign]
  value
    | .create => "create"
    | .update => "update"
    | .delete => "delete"
    | .assign => "assign"
    | .unassign => "unassign"
  named a := by cases a <;> decide

/-- `IntelJobType`. -/
inductive IntelJobType where
  | fullBuild
  | incremental
deriving DecidableEq, Repr

instance : Enumeration IntelJobType where
  members := [.fullBuild, .incremental]
  value
    | .fullBuild => "full_build"
    | .incremental => "incremental"
  named a := by cases a <;> decide

/-- `IntelJobStatus`. -/
inductive IntelJobStatus where
  | queued
  | running
  | succeeded
  | failed
  | dead
deriving DecidableEq, Repr

instance : Enumeration IntelJobStatus where
  members := [.queued, .running, .succeeded, .failed, .dead]
  value
    | .queued => "queued"
    | .running => "running"
    | .succeeded => "succeeded"
    | .failed => "failed"
    | .dead => "dead"
  named a := by cases a <;> decide

/-- `EventType`. -/
inductive EventType where
  | campaign
  | email
  | ad
  | review
  | content
  | meeting
deriving DecidableEq, Repr

instance : Enumeration EventType where
  members := [.campaign, .email, .ad, .review, .content, .meeting]
  value
    | .campaign => "campaign"
    | .email => "email"
    | .ad => "ad"
    | .review => "review"
    | .content => "content"
    | .meeting => "meeting"
  named a := by cases a <;> decide

/-- `EventStage` — production lifecycle of a calendar item. -/
inductive EventStage where
  | draft
  | scheduled
  | published
  | archived
deriving DecidableEq, Repr

instance : Enumeration EventStage where
  members := [.draft, .scheduled, .published, .archived]
  value
    | .draft => "draft"
    | .scheduled => "scheduled"
    | .published => "published"
    | .archived => "archived"
  named a := by cases a <;> decide

/-- `ApprovalStatus` — the client's decision on a calendar item. -/
inductive ApprovalStatus where
  | approved
  | pending
  | changesRequested
  | rejected
deriving DecidableEq, Repr

instance : Enumeration ApprovalStatus where
  members := [.approved, .pending, .changesRequested, .rejected]
  value
    | .approved => "approved"
    | .pending => "pending"
    | .changesRequested => "changes_requested"
    | .rejected => "rejected"
  named a := by cases a <;> decide

/-- `SocialPlatform` — content and analytics bucket. -/
inductive SocialPlatform where
  | instagram
  | facebook
  | youtube
  | tiktok
  | linkedin
  | google
  | googleLsa
  | ga4
  | seo
  | influencer
  | ghl
  | other
  | x
  | pinterest
  | email
deriving DecidableEq, Repr

instance : Enumeration SocialPlatform where
  members := [.instagram, .facebook, .youtube, .tiktok, .linkedin, .google, .googleLsa, .ga4,
    .seo, .influencer, .ghl, .other, .x, .pinterest, .email]
  value
    | .instagram => "instagram"
    | .facebook => "facebook"
    | .youtube => "youtube"
    | .tiktok => "tiktok"
    | .linkedin => "linkedin"
    | .google => "google"
    | .googleLsa => "google_lsa"
    | .ga4 => "ga4"
    | .seo => "seo"
    | .influencer => "influencer"
    | .ghl => "ghl"
    | .other => "other"
    | .x => "x"
    | .pinterest => "pinterest"
    | .email => "email"
  named a := by cases a <;> decide

end MarketingOS
