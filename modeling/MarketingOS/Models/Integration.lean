import MarketingOS.Base.Table
import MarketingOS.Models.Enums
import MarketingOS.Models.Values

/-!
# Integrations

One connector row for each client and provider. The token columns hold a token or its ciphertext
alike: nothing here depends on which.
-/
namespace MarketingOS

/-- `IntegrationKey`. -/
inductive IntegrationKey where
  | ga4
  | searchConsole
  | googleAds
  | googleLsa
  | metaAds
  | linkedin
  | ghl
deriving DecidableEq, Repr

instance : Enumeration IntegrationKey where
  members := [.ga4, .searchConsole, .googleAds, .googleLsa, .metaAds, .linkedin, .ghl]
  value
    | .ga4 => "ga4"
    | .searchConsole => "search_console"
    | .googleAds => "google_ads"
    | .googleLsa => "google_lsa"
    | .metaAds => "meta"
    | .linkedin => "linkedin"
    | .ghl => "ghl"
  named a := by cases a <;> decide

/-- `IntegrationStatus`. -/
inductive IntegrationStatus where
  | connected
  | disconnected
  | error
  | pending
  /-- The grant itself is dead, as opposed to `error`, which is worth retrying. -/
  | needsReauth
deriving DecidableEq, Repr

/-- `Integration`. -/
structure Integration where
  clientId : Uuid
  key : IntegrationKey
  status : IntegrationStatus
  accountLabel : Option String
  externalAccountId : Option String
  loginCustomerId : Option String
  scopes : Option String
  accessTokenEncrypted : Option String
  refreshTokenEncrypted : Option String
  tokenExpiresAt : Option Timestamp
  lastSyncAt : Option Timestamp
  lastError : Option String
deriving DecidableEq

namespace Integration

/-- A row is named by its client and its provider: `UniqueConstraint("client_id", "key")`. -/
def name (i : Integration) : Uuid × IntegrationKey := (i.clientId, i.key)

/-- A new row, with the defaults of its columns. -/
def new (clientId : Uuid) (key : IntegrationKey) : Integration :=
  ⟨clientId, key, .disconnected, none, none, none, none, none, none, none, none, none⟩

/-- `bool(integration.access_token_encrypted)` -/
def hasToken (i : Integration) : Bool := i.accessTokenEncrypted.getD "" ≠ ""

/-- `bool(integration.external_account_id)` -/
def hasAccount (i : Integration) : Bool := i.externalAccountId.getD "" ≠ ""

end Integration

end MarketingOS
