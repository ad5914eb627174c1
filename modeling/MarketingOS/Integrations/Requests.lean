import MarketingOS.Integrations.Meta

/-!
# Requests of the provider clients

What each client makes of the answer to one of its requests: a payload, a rejection of the
credentials or another error. The clients translate by hand, each in its own words; what they share
is one definition with the words as parameters.
-/
namespace MarketingOS.Integrations

open IntegrationService (SyncError)

variable {ν : Type} (tables : JsonTables ν)

/-- The payload of an answer. -/
abbrev Entries (ν : Type) : Type := List (String × JsonValue ν)

/-- One request of a client: the answer is refused or its payload returned. -/
def exchange (service : String) (refused : Response ν → Entries ν → Bool)
    (rejection : Response ν → Entries ν → SyncError) : Answer ν → Except SyncError (Entries ν)
  | .unreachable text => .error (.app ("Could not reach " ++ service ++ ": " ++ text))
  | .raised text => .error (.other text)
  | .response resp => do
    let payload ← safeJson resp
    if refused resp payload then .error (rejection resp payload) else .ok payload

/-- `resp.status_code >= 400 or "error" in payload` -/
def isError (resp : Response ν) (payload : Entries ν) : Bool :=
  400 ≤ resp.statusCode || holdsKey payload "error"

/-- `resp.status_code in (401, 403)` -/
def isUnauthorized (resp : Response ν) : Bool := resp.statusCode = 401 || resp.statusCode = 403

/-! ## Data requests -/

/-- A rejection with `(payload.get("error") or \x7b\x7d).get("message") or resp.text[:200]`. -/
def errorMessageRejection (service : String) (resp : Response ν) (payload : Entries ν) :
    SyncError :=
  match tables.entries (tables.orElse (JsonValue.get payload "error") (.dict [])) with
  | .error exc => exc
  | .ok error => .app (service ++ " rejected the request: " ++
      orResponseText tables (JsonValue.get error "message") resp)

/-- `Ga4Client._request` -/
def ga4Request : Answer ν → Except SyncError (Entries ν) :=
  exchange "Google Analytics" isError (errorMessageRejection tables "Google Analytics")

/-- `SearchConsoleClient._request` -/
def searchConsoleRequest : Answer ν → Except SyncError (Entries ν) :=
  exchange "Search Console" isError (errorMessageRejection tables "Search Console")

/-- The message of both Google Ads clients: that of an error object, or the text. -/
def adsMessage (resp : Response ν) (payload : Entries ν) : String :=
  match JsonValue.get payload "error" with
  | .dict error => tables.format (JsonValue.get error "message")
  | _ => clip 200 resp.text

/-- `LsaClient._request` -/
def lsaRequest : Answer ν → Except SyncError (Entries ν) :=
  exchange "Google Ads" isError fun resp payload =>
    .app ("Google Ads rejected the request: " ++ adsMessage tables resp payload)

/-- `GoogleAdsClient._request` -/
def googleAdsRequest : Answer ν → Except SyncError (Entries ν) :=
  exchange "Google Ads" isError fun resp payload =>
    let message := adsMessage tables resp payload
    if isUnauthorized resp then .auth ("Google Ads rejected our credentials: " ++ message)
    else .app ("Google Ads rejected the request: " ++ message)

/-- `LinkedInClient._request` -/
def linkedinRequest : Answer ν → Except SyncError (Entries ν) :=
  exchange "LinkedIn"
    (fun resp payload => isError resp payload || holdsKey payload "serviceErrorCode")
    fun resp payload =>
      let message := orResponseText tables (JsonValue.get payload "message") resp
      if isUnauthorized resp then .auth ("LinkedIn rejected our credentials: " ++ message)
      else .app ("LinkedIn rejected the request: " ++ message)

/-! ## Token requests -/

/-- `_post` of the Google and LinkedIn OAuth clients. -/
def tokenRequest (service : String) : Answer ν → Except SyncError (Entries ν) :=
  exchange service isError fun resp payload =>
    -- Any failure on the token endpoint is taken for a rejected grant.
    .auth (service ++ " rejected the token request: " ++ orResponseText tables
      (tables.orElse (JsonValue.get payload "error_description") (JsonValue.get payload "error"))
      resp)

/-- `GoogleOAuthClient._post` -/
def googleToken : Answer ν → Except SyncError (Entries ν) := tokenRequest tables "Google"

/-- `LinkedInOAuthClient._post` -/
def linkedinToken : Answer ν → Except SyncError (Entries ν) := tokenRequest tables "LinkedIn"

/-- `MetaOAuthClient._get` -/
def metaToken : Answer ν → Except SyncError (Entries ν) :=
  exchange "Meta" isError (errorMessageRejection tables "Meta")

/-- A page of Meta's client is read in the same way. -/
theorem readPage_eq_exchange (answer : Answer ν) :
    Meta.readPage tables answer = exchange "Meta" isError (Meta.rejection tables) answer := by
  cases answer with
  | unreachable text => rfl
  | raised text => rfl
  | response resp =>
    simp only [Meta.readPage, exchange, isError, Bool.or_eq_true, decide_eq_true_eq]

end MarketingOS.Integrations
