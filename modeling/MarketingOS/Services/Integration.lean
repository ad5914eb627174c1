import MarketingOS.Base.Machine
import MarketingOS.Models.Integration

/-!
# Integration service

Connecting, syncing and disconnecting the providers of a client, and the sweep of the scheduler.
Every operation reads the row of its client and provider and writes that row only. What a provider
answers, the clock and whether the fetched rows pass their schema come with the operation.
-/
namespace MarketingOS.IntegrationService

/-! ## Providers -/

/-- `_META_KEYS` -/
def metaKeys : List IntegrationKey := [.metaAds]

/-- `_GOOGLE_KEYS` -/
def googleKeys : List IntegrationKey := [.googleAds, .googleLsa, .ga4, .searchConsole]

/-- `_LINKEDIN_KEYS` -/
def linkedinKeys : List IntegrationKey := [.linkedin]

/-- `_REAL_KEYS` -/
def realKeys : List IntegrationKey := metaKeys ++ googleKeys ++ linkedinKeys

/-- An exception during a sync, with its text. -/
inductive SyncError where
  /-- `ProviderAuthError` -/
  | auth (message : String)
  /-- Another `AppError`. -/
  | app (message : String)
  /-- Any other exception. -/
  | other (message : String)
deriving DecidableEq

/-- `str(exc)` -/
def SyncError.message : SyncError → String
  | .auth message => message
  | .app message => message
  | .other message => message

/-- What the outside answers during one sync. -/
structure Attempt where
  now : Timestamp
  /-- The renewed access token and its lifetime in seconds, if there is one in the answer. -/
  renewed : Except SyncError (Option (String × Option Int))
  /-- The insights of the provider. -/
  fetched : Except SyncError Unit
  /-- Every fetched row passes its schema; otherwise the exception of the first that does not. -/
  stored : Except SyncError Unit

/-- `_expiry` -/
def expiry (now : Timestamp) (expiresIn : Option Int) : Option Timestamp :=
  match expiresIn with
  | none => none
  | some seconds => if seconds = 0 then none else some (now + seconds * second)

/-- A token is fresh until a margin before it expires. -/
def fresh (i : Integration) (now margin : Timestamp) : Bool :=
  match i.tokenExpiresAt with
  | none => true
  | some expires => now + margin < expires

/-- The row after an answer to a renewal; a missing token keeps the stored one. -/
def renew (i : Integration) (now : Timestamp) (answer : Option (String × Option Int)) :
    Integration :=
  match answer with
  | none => i
  | some (token, expiresIn) =>
    if token = "" then i
    else { i with
      accessTokenEncrypted := some token
      tokenExpiresAt := expiry now expiresIn }

/-- `_meta_access_token` — an `AppError` of the renewal leaves the stored token in use. -/
def metaAccessToken (a : Attempt) (i : Integration) : Except SyncError Integration :=
  if fresh i a.now (7 * 86400 * second) then .ok i
  else
    match a.renewed with
    | .error (.other message) => .error (.other message)
    | .error _ => .ok i
    | .ok answer => .ok (renew i a.now answer)

/-- `_linkedin_access_token` and `_google_access_token`. -/
def refreshedAccessToken (a : Attempt) (i : Integration) : Except SyncError Integration :=
  if fresh i a.now (60 * second) ∨ i.refreshTokenEncrypted.getD "" = "" then .ok i
  else a.renewed.map (renew i a.now)

/-- `_fetch_insights` — the row with the token it used, and the exception if there was one. -/
def fetchInsights (a : Attempt) (i : Integration) : Integration × Except SyncError Unit :=
  match if i.key ∈ metaKeys then metaAccessToken a i else refreshedAccessToken a i with
  | .error e => (i, .error e)
  | .ok i => (i, a.fetched)

/-! ## Operations on one row -/

/-- The message of `_require_real`. -/
def notReal (key : IntegrationKey) : String :=
  "Real OAuth is not yet available for '" ++ Enumeration.value key ++
    "'. Use the connect endpoint for that provider until its client is built."

/-- What came of a sync. -/
inductive SyncOutcome where
  /-- A guard raised before the provider was called. -/
  | refused (message : String)
  /-- The provider was called, and the call raised. -/
  | failed (error : SyncError)
  /-- The provider answered, and a row of its answer was not accepted. -/
  | unstored (error : SyncError)
  | synced
deriving DecidableEq

/-- The status a failed sync leaves. -/
def failureStatus : SyncError → IntegrationStatus
  | .auth _ => .needsReauth
  | _ => .error

/-- `sync` on the row of a client and a provider. -/
def syncRow (a : Attempt) (i : Integration) : SyncOutcome × Integration :=
  if i.key ∉ realKeys then
    (.refused (notReal i.key), i)
  else if i.status ≠ .connected ∨ !i.hasToken then
    (.refused "Integration is not connected — run OAuth first.", i)
  else if (i.key ∈ metaKeys ∨ i.key ∈ googleKeys) ∧ !i.hasAccount then
    (.refused "No account is bound yet — finish account selection before syncing.", i)
  else
    match fetchInsights a i with
    | (i, .error e) =>
      (.failed e, { i with
        status := failureStatus e
        lastError := some (clip 1000 e.message) })
    | (i, .ok ()) =>
      match a.stored with
      | .error e => (.unstored e, i)
      | .ok () =>
        (.synced, { i with
          status := .connected
          lastSyncAt := some a.now
          lastError := none })

/-- `str(exc)` of a sync that raised. -/
def SyncOutcome.raised : SyncOutcome → Option String
  | .refused message => some message
  | .failed e => some e.message
  | .unstored e => some e.message
  | .synced => none

/-- `_try_sync_after_connect` — a connection that stands although its first sync raised. -/
def trySyncAfterConnect (a : Attempt) (i : Integration) : Integration :=
  match syncRow a i with
  | (outcome, i) =>
    match outcome.raised with
    | none => i
    | some message => { i with
        status := .connected
        lastError := some (clip 1000
          ("Connected, but the first automatic sync failed: " ++ message)) }

/-- `connect` — the placeholder without tokens. -/
def connectRow (accountLabel externalAccountId scopes : Option String) (now : Timestamp)
    (i : Integration) : Integration :=
  { i with
    status := .connected
    accountLabel
    externalAccountId
    scopes
    lastSyncAt := some now
    lastError := none }

/-- `disconnect` -/
def disconnectRow (i : Integration) : Integration :=
  { i with
    status := .disconnected
    accessTokenEncrypted := none
    refreshTokenEncrypted := none
    tokenExpiresAt := none }

/-- What a consent gives: tokens, scopes, and the account bound with it. -/
structure Consent where
  accessToken : String
  refreshToken : Option String
  expiresIn : Option Int
  scopes : String
  /-- The account and its label, when one is bound. -/
  account : Option (Option String × Option String)
  /-- Accounts are left to pick from. -/
  pending : Bool
  unpicked : pending = true → account = none
  loginCustomerId : Option String

/-- `_complete_meta`, `_complete_google` and `_complete_linkedin` on the row. -/
def completeRow (c : Consent) (now : Timestamp) (i : Integration) : Integration :=
  let account := c.account.getD (none, none)
  { i with
    status := .connected
    accessTokenEncrypted := some c.accessToken
    refreshTokenEncrypted :=
      if i.key ∈ metaKeys then none
      else if c.refreshToken.getD "" ≠ "" then c.refreshToken
      else if i.key ∈ googleKeys then i.refreshTokenEncrypted
      else none
    tokenExpiresAt := expiry now c.expiresIn
    scopes := some c.scopes
    externalAccountId := account.1
    accountLabel := account.2
    loginCustomerId :=
      if i.key = .googleAds ∧ c.account.isSome then c.loginCustomerId else i.loginCustomerId
    lastError := none }

/-- `oauth_complete` on the row: without accounts to pick from, a first sync follows. -/
def oauthCompleteRow (c : Consent) (a : Attempt) (i : Integration) : Integration :=
  if c.pending then completeRow c a.now i else trySyncAfterConnect a (completeRow c a.now i)

/-- `select_account` on the row; the account is missing when listing the accounts raised or the
one asked for is not among them. -/
def selectRow (account : Option (Option String × Option String)) (loginCustomerId : Option String)
    (a : Attempt) (i : Integration) : Integration :=
  if i.key ∉ metaKeys ∧ i.key ∉ googleKeys then i
  else if i.status ≠ .connected ∨ !i.hasToken then i
  else
    match if i.key ∈ metaKeys then .ok i else refreshedAccessToken a i with
    | .error _ => i
    | .ok i =>
      match account with
      | none => i
      | some (externalAccountId, accountLabel) =>
        trySyncAfterConnect a { i with
          externalAccountId
          accountLabel
          loginCustomerId :=
            if i.key = .googleAds then loginCustomerId else i.loginCustomerId }

/-! ## Operations on the table -/

/-- `_upsert` -/
def upsert (rows : List Integration) (clientId : Uuid) (key : IntegrationKey) : List Integration :=
  if Table.has Integration.name rows (clientId, key) then rows else rows ++ [.new clientId key]

/-- Rewrite the row of a client and a provider. -/
def onRow (clientId : Uuid) (key : IntegrationKey) (change : Integration → Integration)
    (rows : List Integration) : List Integration :=
  Table.modify Integration.name (clientId, key) change rows

/-- `sync` -/
def sync (clientId : Uuid) (key : IntegrationKey) (a : Attempt) (rows : List Integration) :
    SyncOutcome × List Integration :=
  match Table.get Integration.name rows (clientId, key) with
  | none =>
    if key ∈ realKeys then (.refused "Integration not configured.", rows)
    else (.refused (notReal key), rows)
  | some i => ((syncRow a i).1, onRow clientId key (fun i => (syncRow a i).2) rows)

/-- The providers of a client the sweep syncs: those its listing shows as connected. -/
def connectedKeys (rows : List Integration) (clientId : Uuid) : List IntegrationKey :=
  (Enumeration.members (α := IntegrationKey)).filter fun key =>
    (Table.get Integration.name rows (clientId, key)).map Integration.status = some .connected ∧
      key ∈ realKeys

/-- `_one` of the sweep — sync what the listing shows, one provider after another. -/
def sweepClient (attempt : IntegrationKey → Attempt) (clientId : Uuid) (rows : List Integration) :
    List Integration :=
  (connectedKeys rows clientId).foldl
    (fun rows key => (sync clientId key (attempt key) rows).2) rows

/-- `sync_integrations_sweep` over the active clients. -/
def sweep (active : List Uuid) (attempt : Uuid → IntegrationKey → Attempt)
    (rows : List Integration) : List Integration :=
  active.foldl (fun rows clientId => sweepClient (attempt clientId) clientId rows) rows

/-- One committed operation. -/
inductive Label where
  | connect (clientId : Uuid) (key : IntegrationKey)
    (accountLabel externalAccountId scopes : Option String) (now : Timestamp)
  | disconnect (clientId : Uuid) (key : IntegrationKey)
  | oauthStart (clientId : Uuid) (key : IntegrationKey)
  | oauthComplete (clientId : Uuid) (key : IntegrationKey) (consent : Consent) (a : Attempt)
  | selectAccount (clientId : Uuid) (key : IntegrationKey)
    (account : Option (Option String × Option String)) (loginCustomerId : Option String)
    (a : Attempt)
  | sync (clientId : Uuid) (key : IntegrationKey) (a : Attempt)
  | sweep (active : List Uuid) (attempt : Uuid → IntegrationKey → Attempt)

/-- The table after one operation; nothing when it raises before it writes. -/
def next (rows : List Integration) : Label → Option (List Integration)
  | .connect clientId key accountLabel externalAccountId scopes now =>
    some (onRow clientId key (connectRow accountLabel externalAccountId scopes now)
      (upsert rows clientId key))
  | .disconnect clientId key =>
    if Table.has Integration.name rows (clientId, key) then
      some (onRow clientId key disconnectRow rows)
    else none
  | .oauthStart clientId key =>
    if key ∈ realKeys then
      some (onRow clientId key (fun i => { i with status := .pending }) (upsert rows clientId key))
    else none
  | .oauthComplete clientId key consent a =>
    if key ∈ realKeys ∧ consent.accessToken ≠ "" then
      some (onRow clientId key (oauthCompleteRow consent a) (upsert rows clientId key))
    else none
  | .selectAccount clientId key account loginCustomerId a =>
    some (onRow clientId key (selectRow account loginCustomerId a) rows)
  | .sync clientId key a => some (IntegrationService.sync clientId key a rows).2
  | .sweep active attempt =>
    if active.Nodup then some (IntegrationService.sweep active attempt rows) else none

/-- The operations, from tables with one row for each client and provider. -/
def machine : Machine (List Integration) Label where
  start rows := (rows.map Integration.name).Nodup
  next := next

end MarketingOS.IntegrationService
