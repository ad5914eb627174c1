import MarketingOS.Integrations.DailyPulls

/-!
# Syncs against the providers

A sync with the answers to its requests: the renewal of the access token where it is due, and then
the daily pull of the provider of the row.
-/
namespace MarketingOS.IntegrationService

open Integrations (Answer DailyFacts DataPull DataRequest JsonTables Numerals Entries)

variable {ν φ : Type}

/-- What the outside answers during one sync, request by request. -/
structure Answers (ν φ : Type) where
  now : Timestamp
  dates : Integrations.Dates
  metaApiVersion : String
  /-- The text of the `OverflowError` of a lifetime that leaves the calendar. -/
  overflow : Int → Option String
  /-- The answer to the renewal of the token. -/
  token : Answer ν
  /-- The answers to the requests for daily facts. -/
  data : DataRequest → Answer ν
  /-- Every row passes its schema and is ingested; otherwise the first exception. -/
  stored : List (DailyFacts φ) → Except SyncError Unit

variable (tables : JsonTables ν) (numerals : Numerals ν φ) (answers : Answers ν φ)

/-! ## Renewal -/

/-- The seconds of `_expiry`. -/
def lifetime (expiresIn : JsonValue ν) : Except SyncError (Option Int) :=
  if tables.truthy expiresIn then do
    let seconds ← Integrations.orRaise (numerals.int expiresIn)
    match answers.overflow seconds with
    | some text => .error (.other text)
    | none => .ok (some seconds)
  else .ok none

/-- The token and the lifetime of a payload; a false token keeps the stored one. -/
def granted (payload : Entries ν) : Except SyncError (Option (String × Option Int)) :=
  let access := JsonValue.get payload "access_token"
  if tables.truthy access then
    match access with
    | .str token => do
      let expiresIn ← lifetime tables numerals answers (JsonValue.get payload "expires_in")
      return some (token, expiresIn)
    | value => .error (tables.noAttribute value "encode")
  else .ok none

/-- `exchange_long_lived` and `refresh_access_token` of the client of a provider. -/
def readToken (key : IntegrationKey) : Answer ν → Except SyncError (Entries ν) :=
  if key ∈ metaKeys then Integrations.metaToken tables
  else if key ∈ linkedinKeys then Integrations.linkedinToken tables
  else Integrations.googleToken tables

/-- What a renewal comes to. -/
def renewal (key : IntegrationKey) : Except SyncError (Option (String × Option Int)) :=
  readToken tables key answers.token >>= granted tables numerals answers

/-! ## Pulls -/

/-- What the client of a provider makes of the answer to a request. -/
def readData : DataRequest → Answer ν → Except SyncError (Entries ν)
  | .metaPage _ => Integrations.Meta.readPage tables
  | .adsDaily | .adsCallConversions | .adsPhoneCalls => Integrations.googleAdsRequest tables
  | .lsaCampaigns | .lsaLeads => Integrations.lsaRequest tables
  | .ga4Report => Integrations.ga4Request tables
  | .searchAnalytics => Integrations.searchConsoleRequest tables
  | .adAnalytics => Integrations.linkedinRequest tables

/-- The account of the Meta client. -/
def metaAccess (i : Integration) : Integrations.Meta.Access where
  version := answers.metaApiVersion
  accessToken := i.accessTokenEncrypted.getD ""
  adAccountId := i.externalAccountId.getD ""

/-- The pull of `_fetch_insights` for a row that holds the token it uses. -/
def dailyPull (i : Integration) : DataPull ν (List (DailyFacts φ)) :=
  match i.key with
  | .metaAds => Integrations.metaPull tables numerals answers.dates (metaAccess answers i)
  | .linkedin => Integrations.linkedinPull tables numerals answers.dates
  | .googleAds => Integrations.googleAdsPull tables numerals answers.dates
  | .googleLsa => Integrations.lsaPull tables numerals answers.dates
  | .ga4 => Integrations.ga4Pull tables numerals answers.dates
  | .searchConsole => Integrations.searchConsolePull tables numerals answers.dates
  | .ghl => .done (.error (.app ("Sync is not implemented for '" ++ Enumeration.value i.key ++
      "'.")))

/-- The answer to a request, as the client of its provider reads it. -/
def readAnswer (request : DataRequest) : Except SyncError (Entries ν) :=
  readData tables request (answers.data request)

/-- The rows of a pull. -/
def insights (i : Integration) : Except SyncError (List (DailyFacts φ)) :=
  (dailyPull tables numerals answers i).run (readAnswer tables answers)

/-! ## Syncs -/

/-- What the token step of a sync is told. -/
def tokenAttempt (key : IntegrationKey) : Attempt where
  now := answers.now
  renewed := renewal tables numerals answers key
  fetched := .ok ()
  stored := .ok ()

/-- The row with the token a sync goes on with. -/
def accessToken (i : Integration) : Except SyncError Integration :=
  if i.key ∈ metaKeys then metaAccessToken (tokenAttempt tables numerals answers i.key) i
  else refreshedAccessToken (tokenAttempt tables numerals answers i.key) i

/-- The rows of the pull with the token of the token step. -/
def pulled (i : Integration) : Except SyncError (List (DailyFacts φ)) :=
  accessToken tables numerals answers i >>= insights tables numerals answers

/-- The answers as a sync of a row sees them. -/
def attempt (i : Integration) : Attempt where
  now := answers.now
  renewed := renewal tables numerals answers i.key
  fetched := (pulled tables numerals answers i).map fun _ => ()
  stored := pulled tables numerals answers i >>= answers.stored

/-- `sync`, with the answers to its requests. -/
def syncAnswered (i : Integration) : SyncOutcome × Integration :=
  syncRow (attempt tables numerals answers i) i

end MarketingOS.IntegrationService
