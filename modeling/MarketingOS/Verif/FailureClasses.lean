import MarketingOS.Services.ProviderSync
import MarketingOS.Verif.IntegrationRetry
import MarketingOS.Verif.PullFailures

/-!
# Classes of provider failures

A failed sync leaves a status that tells a dead grant from a failure worth retrying. Each client
translates the answers of its provider by hand; here the translations are compared with one table
of failures. A token endpoint of Google or LinkedIn rejects the grant with every error it answers,
whatever its status, and Meta's renewal is never the reason a sync fails.
-/
namespace MarketingOS.IntegrationService

open Integrations
open Integrations.Meta (IsAppError)

variable {ν φ : Type}

/-! ## The table of failures -/

/-- The entries of a body that is an object. -/
def body (resp : Response ν) : Entries ν :=
  match resp.json with
  | .ok (.dict entries) => entries
  | _ => []

/-- The body of a response is JSON, or its reader says that it is not. -/
def Readable (resp : Response ν) : Prop := ∀ text, resp.json ≠ .error (some text)

/-- An error: its status, or an error member of its body. -/
def Erroneous (resp : Response ν) : Prop := 400 ≤ resp.statusCode ∨ holdsKey (body resp) "error"

/-- The statuses of dead credentials. -/
def Unauthorized (resp : Response ν) : Prop := resp.statusCode = 401 ∨ resp.statusCode = 403

/-- Meta's word for dead credentials, whatever the status. -/
def OAuthException (resp : Response ν) : Prop :=
  ∃ error, JsonValue.get (body resp) "error" = .dict error ∧
    JsonValue.get error "type" = .str "OAuthException"

/-- The status a failed token request leaves. -/
inductive TokenVerdict : Answer ν → IntegrationStatus → Prop
  | unreachable (text : String) : TokenVerdict (.unreachable text) .error
  | raised (text : String) : TokenVerdict (.raised text) .error
  | refused {resp : Response ν} (readable : Readable resp) (erroneous : Erroneous resp) :
      TokenVerdict (.response resp) .needsReauth

/-- The error of a body is an object or false. -/
def ErrorReadable (tables : JsonTables ν) (resp : Response ν) : Prop :=
  tables.truthy (JsonValue.get (body resp) "error") = true →
    ∃ error, JsonValue.get (body resp) "error" = .dict error

/-- A failed renewal that Meta's client reports. -/
inductive RenewalFails (tables : JsonTables ν) : Answer ν → Prop
  | unreachable (text : String) : RenewalFails tables (.unreachable text)
  | refused {resp : Response ν} (readable : Readable resp) (erroneous : Erroneous resp)
      (object : ErrorReadable tables resp) : RenewalFails tables (.response resp)

/-- A data request is refused. -/
def Refused (request : DataRequest) (resp : Response ν) : Prop :=
  Erroneous resp ∨ request = .adAnalytics ∧ holdsKey (body resp) "serviceErrorCode"

/-- A data request is refused for its credentials. -/
def Rejected (request : DataRequest) (resp : Response ν) : Prop :=
  Unauthorized resp ∨ (∃ page, request = .metaPage page) ∧ OAuthException resp

/-- The client of a request reads the status of a refusal, and what else it reads is in order. -/
def ReadsStatus (tables : JsonTables ν) (resp : Response ν) : DataRequest → Prop
  | .metaPage _ => ErrorReadable tables resp
  | .adsDaily | .adsCallConversions | .adsPhoneCalls | .adAnalytics => True
  | .lsaCampaigns | .lsaLeads | .ga4Report | .searchAnalytics => False

/-- The status a failed data request leaves. -/
inductive DataVerdict (tables : JsonTables ν) (request : DataRequest) :
    Answer ν → IntegrationStatus → Prop
  | unreachable (text : String) : DataVerdict tables request (.unreachable text) .error
  | raised (text : String) : DataVerdict tables request (.raised text) .error
  | rejected {resp : Response ν} (readable : Readable resp) (rejected : Rejected request resp)
      (reads : ReadsStatus tables resp request) :
      DataVerdict tables request (.response resp) .needsReauth
  | refused {resp : Response ν} (refused : Refused request resp)
      (allowed : ¬Rejected request resp) : DataVerdict tables request (.response resp) .error

/-! ## Reading answers -/

section Reading

variable (tables : JsonTables ν)

/-- Reading an answer raises an exception that leaves a status. -/
def RaisesTo (result : Except SyncError (Entries ν)) (status : IntegrationStatus) : Prop :=
  ∃ exc, result = .error exc ∧ failureStatus exc = status

/-- An exception that is no `AppError` leaves the error status. -/
theorem failureStatus_other {exc : SyncError} (unexpected : ¬IsAppError exc) :
    failureStatus exc = .error := by
  cases exc with
  | auth message => exact absurd trivial unexpected
  | app message => exact absurd trivial unexpected
  | other message => rfl

/-- The status of dead credentials is left by a rejection of the credentials only. -/
theorem failureStatus_eq_needsReauth {exc : SyncError} (left : failureStatus exc = .needsReauth) :
    ∃ message, exc = .auth message := by
  cases exc with
  | auth message => exact ⟨message, rfl⟩
  | app message => cases left
  | other message => cases left

/-- A readable body is read with its entries. -/
theorem safeJson_readable {resp : Response ν} (readable : Readable resp) :
    ∃ payload, safeJson resp = .ok payload ∧
      ∀ key ≠ "data", payload.lookup key = (body resp).lookup key := by
  have other (value : JsonValue ν) (key : String) (differs : key ≠ "data") :
      List.lookup key [("data", value)] = none := by
    rw [List.lookup_cons, beq_false_of_ne differs]
    rfl
  obtain ⟨statusCode, json, text⟩ := resp
  cases json with
  | error reason =>
    cases reason with
    | none => exact ⟨[], rfl, fun _ _ => rfl⟩
    | some raised => exact absurd rfl (readable raised)
  | ok value =>
    cases value with
    | dict entries => exact ⟨entries, rfl, fun _ _ => rfl⟩
    | _ => exact ⟨_, rfl, fun key differs => other _ key differs⟩

/-- An error is what the clients take for one. -/
theorem isError_iff {resp : Response ν} {payload : Entries ν}
    (entries : ∀ key ≠ "data", payload.lookup key = (body resp).lookup key) :
    isError resp payload = true ↔ Erroneous resp := by
  rw [isError, Erroneous, Bool.or_eq_true, decide_eq_true_eq, holdsKey, holdsKey,
    entries "error" (by decide)]

/-- A field of a payload is the field of the body. -/
theorem get_body {resp : Response ν} {payload : Entries ν} {key : String} (differs : key ≠ "data")
    (entries : ∀ key ≠ "data", payload.lookup key = (body resp).lookup key) :
    JsonValue.get payload key = JsonValue.get (body resp) key := by
  rw [JsonValue.get, JsonValue.get, entries key differs]

/-- Statuses of dead credentials, as the clients find them. -/
theorem isUnauthorized_iff {resp : Response ν} :
    isUnauthorized resp = true ↔ Unauthorized resp := by
  rw [isUnauthorized, Unauthorized, Bool.or_eq_true, decide_eq_true_eq, decide_eq_true_eq]

variable {service : String} {refused : Response ν → Entries ν → Bool}
  {rejection : Response ν → Entries ν → SyncError}

/-- A refused response raises its rejection. -/
theorem exchange_refused {resp : Response ν} {payload : Entries ν}
    (read : safeJson resp = .ok payload) (isRefused : refused resp payload = true) :
    exchange service refused rejection (.response resp) = .error (rejection resp payload) := by
  rw [exchange, read]
  exact if_pos isRefused

/-- A reader that raises raises no `AppError`. -/
theorem safeJson_unexpected (resp : Response ν) :
    RaisesOnly (fun exc => ¬IsAppError exc) (safeJson resp) := by
  unfold safeJson
  split
  · exact raisesOnly_ok _
  · exact raisesOnly_ok _
  · exact raisesOnly_ok _
  · exact raisesOnly_error id

/-- An exchange that raises a rejection of the credentials does so for a refused response. -/
theorem exchange_auth {answer : Answer ν} {message : String}
    (raised : exchange service refused rejection answer = .error (.auth message)) :
    ∃ resp payload, answer = .response resp ∧ safeJson resp = .ok payload ∧
      refused resp payload = true ∧ rejection resp payload = .auth message := by
  cases answer with
  | unreachable text => cases raised
  | raised text => cases raised
  | response resp =>
    rw [exchange] at raised
    cases read : safeJson resp with
    | error exc =>
      rw [read] at raised
      cases raised
      exact absurd trivial (safeJson_unexpected resp _ read)
    | ok payload =>
      rw [read] at raised
      by_cases isRefused : refused resp payload = true
      · exact ⟨resp, payload, rfl, read, isRefused,
          Except.error.inj ((if_pos isRefused).symm.trans raised)⟩
      · cases (if_neg isRefused).symm.trans raised

/-- A payload that is read comes from a readable body. -/
theorem readable_of_safeJson {resp : Response ν} {payload : Entries ν}
    (read : safeJson resp = .ok payload) : Readable resp := by
  intro text raises
  rw [safeJson, raises] at read
  cases read

/-- The entries of a payload are those of the body. -/
theorem entries_of_safeJson {resp : Response ν} {payload : Entries ν}
    (read : safeJson resp = .ok payload) :
    ∀ key ≠ "data", payload.lookup key = (body resp).lookup key := by
  obtain ⟨_, same, entries⟩ := safeJson_readable (readable_of_safeJson read)
  cases same.symm.trans read
  exact entries

/-! ## Requests -/

/-- What the token clients of Google and LinkedIn raise. -/
theorem tokenRequest_verdict {answer : Answer ν} {status : IntegrationStatus}
    (verdict : TokenVerdict answer status) :
    RaisesTo (tokenRequest tables service answer) status := by
  cases verdict with
  | unreachable text => exact ⟨_, rfl, rfl⟩
  | raised text => exact ⟨_, rfl, rfl⟩
  | refused readable erroneous =>
    obtain ⟨payload, read, entries⟩ := safeJson_readable readable
    exact ⟨_, exchange_refused read ((isError_iff entries).mpr erroneous), rfl⟩

/-- Only a refused token request rejects the grant. -/
theorem tokenRequest_auth {answer : Answer ν} {message : String}
    (raised : tokenRequest tables service answer = .error (.auth message)) :
    TokenVerdict answer .needsReauth := by
  obtain ⟨resp, payload, rfl, read, isRefused, -⟩ := exchange_auth raised
  exact .refused (readable_of_safeJson read)
    ((isError_iff (entries_of_safeJson read)).mp isRefused)

/-- The error of a payload, looked into. -/
theorem entries_error {resp : Response ν} {payload : Entries ν}
    (entries : ∀ key ≠ "data", payload.lookup key = (body resp).lookup key)
    (object : ErrorReadable tables resp) :
    ∃ error, tables.entries (tables.orElse (JsonValue.get payload "error") (.dict [])) =
      .ok error := by
  rw [get_body (by decide) entries, JsonTables.orElse]
  by_cases truth : tables.truthy (JsonValue.get (body resp) "error") = true
  · obtain ⟨error, field⟩ := object truth
    rw [if_pos truth, field]
    exact ⟨error, rfl⟩
  · rw [if_neg truth]
    exact ⟨[], rfl⟩

/-- A rejection that quotes the error is no rejection of credentials. -/
theorem failureStatus_errorMessage (resp : Response ν) (payload : Entries ν) :
    failureStatus (errorMessageRejection tables service resp payload) = .error := by
  rw [errorMessageRejection]
  split
  · rename_i exc failing
    exact failureStatus_other (Meta.entries_unexpected tables _ exc failing)
  · rfl

/-- A renewal that Meta's client reports raises an `AppError`. -/
theorem metaToken_fails {answer : Answer ν} (fails : RenewalFails tables answer) :
    ∃ exc, metaToken tables answer = .error exc ∧ IsAppError exc := by
  cases fails with
  | unreachable text => exact ⟨_, rfl, trivial⟩
  | refused readable erroneous object =>
    obtain ⟨payload, read, entries⟩ := safeJson_readable readable
    obtain ⟨error, found⟩ := entries_error tables entries object
    refine ⟨_, exchange_refused read ((isError_iff entries).mpr erroneous), ?_⟩
    rw [errorMessageRejection, found]
    exact trivial

/-- Meta's renewal rejects no credentials. -/
theorem metaToken_not_auth {answer : Answer ν} {message : String} :
    metaToken tables answer ≠ .error (.auth message) := by
  intro raised
  obtain ⟨resp, payload, rfl, read, isRefused, rejection⟩ := exchange_auth raised
  have error : failureStatus (errorMessageRejection tables "Meta" resp payload) = .error :=
    failureStatus_errorMessage tables resp payload
  rw [rejection] at error
  cases error

/-- An exception leaves one of two statuses. -/
theorem failureStatus_or (exc : SyncError) :
    failureStatus exc = .needsReauth ∨ failureStatus exc = .error := by
  cases exc with
  | auth message => exact .inl rfl
  | app message => exact .inr rfl
  | other message => exact .inr rfl

/-- A text is a given text. -/
theorem isText_iff {text : String} {value : JsonValue ν} :
    Meta.isText text value = true ↔ value = .str text := by
  cases value with
  | str other => simp [Meta.isText]
  | _ => simp [Meta.isText]

/-- A rejection of Meta's client is one of the credentials when it can read the error and the error
says so. -/
theorem metaRejection_iff {resp : Response ν} {payload : Entries ν} {page : Meta.Request}
    (entries : ∀ key ≠ "data", payload.lookup key = (body resp).lookup key) :
    failureStatus (Meta.rejection tables resp payload) = .needsReauth ↔
      ErrorReadable tables resp ∧ Rejected (.metaPage page) resp := by
  have same : JsonValue.get payload "error" = JsonValue.get (body resp) "error" :=
    get_body (by decide) entries
  have status : resp.statusCode ∈ [401, 403] ↔ Unauthorized resp := by simp [Unauthorized]
  have decided (error : Entries ν) :
      failureStatus (let message := orResponseText tables (JsonValue.get error "message") resp
        if Meta.isText "OAuthException" (JsonValue.get error "type") ∨ resp.statusCode ∈ [401, 403]
        then .auth ("Meta rejected our credentials: " ++ message)
        else .app ("Meta request failed: " ++ message)) = .needsReauth ↔
      JsonValue.get error "type" = .str "OAuthException" ∨ Unauthorized resp := by
    rw [← status, ← isText_iff]
    dsimp only
    split <;> simp_all [failureStatus]
  unfold Meta.rejection JsonTables.orElse
  rw [same]
  by_cases truth : tables.truthy (JsonValue.get (body resp) "error") = true
  · rw [if_pos truth]
    cases field : JsonValue.get (body resp) "error" with
    | dict error =>
      refine (decided error).trans ?_
      constructor
      · rintro (type | unauthorized)
        · exact ⟨fun _ => ⟨error, field⟩, .inr ⟨⟨page, rfl⟩, error, field, type⟩⟩
        · exact ⟨fun _ => ⟨error, field⟩, .inl unauthorized⟩
      · rintro ⟨-, unauthorized | ⟨-, found, isError, type⟩⟩
        · exact .inr unauthorized
        · cases field.symm.trans isError
          exact .inl type
    | _ =>
      constructor
      · intro wrong
        cases wrong
      · rintro ⟨object, -⟩
        obtain ⟨error, isError⟩ := object truth
        cases field.symm.trans isError
  · rw [if_neg truth]
    refine (decided []).trans ?_
    constructor
    · rintro (type | unauthorized)
      · cases type
      · exact ⟨fun true => absurd true truth, .inl unauthorized⟩
    · rintro ⟨-, unauthorized | ⟨-, error, isError, type⟩⟩
      · exact .inr unauthorized
      · rw [isError] at truth
        cases error with
        | nil => cases type
        | cons entry rest => exact absurd rfl truth

/-- A rejection of the other clients that read the status. -/
theorem statusRejection_iff {resp : Response ν} {request : DataRequest} {auth app : String}
    (other : ∀ page, request ≠ .metaPage page) :
    failureStatus (if isUnauthorized resp then .auth auth else .app app) = .needsReauth ↔
      Rejected request resp := by
  have rejected : Rejected request resp ↔ Unauthorized resp := by
    constructor
    · rintro (unauthorized | ⟨⟨page, isPage⟩, -⟩)
      · exact unauthorized
      · exact absurd isPage (other page)
    · exact .inl
  rw [rejected, ← isUnauthorized_iff]
  split <;> simp_all [failureStatus]

/-- A client that tells the answers to a request apart. -/
structure Translates (request : DataRequest) (refused : Response ν → Entries ν → Bool)
    (rejection : Response ν → Entries ν → SyncError) : Prop where
  refused : ∀ {resp : Response ν} {payload : Entries ν},
    (∀ key ≠ "data", payload.lookup key = (body resp).lookup key) →
      (refused resp payload = true ↔ Refused request resp)
  rejects : ∀ {resp : Response ν} {payload : Entries ν},
    (∀ key ≠ "data", payload.lookup key = (body resp).lookup key) →
      failureStatus (rejection resp payload) = .needsReauth → Rejected request resp
  rejected : ∀ {resp : Response ν} {payload : Entries ν},
    (∀ key ≠ "data", payload.lookup key = (body resp).lookup key) →
      ReadsStatus tables resp request → Rejected request resp →
      failureStatus (rejection resp payload) = .needsReauth

/-- A client that takes errors for refusals. -/
theorem refused_isError {request : DataRequest} (other : request ≠ .adAnalytics)
    {resp : Response ν} {payload : Entries ν}
    (entries : ∀ key ≠ "data", payload.lookup key = (body resp).lookup key) :
    isError resp payload = true ↔ Refused request resp := by
  rw [isError_iff entries, Refused]
  exact ⟨.inl, Or.rec id fun wrong => absurd wrong.1 other⟩

/-- A client that does not read the status of a refusal. -/
theorem Translates.ofMessage {request : DataRequest} (other : request ≠ .adAnalytics)
    (unread : ∀ resp : Response ν, ¬ReadsStatus tables resp request)
    (message : ∀ (resp : Response ν) payload, failureStatus (rejection resp payload) = .error) :
    Translates tables request isError rejection where
  refused := refused_isError other
  rejects {resp payload} _ left := by
    rw [message resp payload] at left
    cases left
  rejected {resp payload} _ reads := absurd reads (unread resp)

/-- A client that reads the status of a refusal. -/
theorem Translates.ofStatus {request : DataRequest} (other : ∀ page, request ≠ .metaPage page)
    (isRefused : ∀ {resp : Response ν} {payload : Entries ν},
      (∀ key ≠ "data", payload.lookup key = (body resp).lookup key) →
        (refused resp payload = true ↔ Refused request resp))
    (auth app : Response ν → Entries ν → String) :
    Translates tables request refused fun resp payload =>
      if isUnauthorized resp then .auth (auth resp payload) else .app (app resp payload) where
  refused := isRefused
  rejects _ := (statusRejection_iff other).mp
  rejected _ _ := (statusRejection_iff other).mpr

/-- The Google Ads client reads the status of a refusal. -/
theorem translates_googleAds {request : DataRequest} (other : request ≠ .adAnalytics)
    (noPage : ∀ page, request ≠ .metaPage page)
    (ads : readData tables request = googleAdsRequest tables) :
    ∃ service refused rejection, readData tables request = exchange service refused rejection ∧
      Translates tables request refused rejection :=
  ⟨_, _, _, ads, .ofStatus tables noPage (refused_isError other) _ _⟩

/-- The client of every request tells its answers apart. -/
theorem readData_translates (request : DataRequest) :
    ∃ service refused rejection, readData tables request = exchange service refused rejection ∧
      Translates tables request refused rejection := by
  cases request with
  | metaPage page =>
    refine ⟨_, _, _, funext (readPage_eq_exchange tables), ⟨refused_isError (by simp), ?_, ?_⟩⟩
    · intro resp payload entries left
      exact ((metaRejection_iff tables entries).mp left).2
    · intro resp payload entries reads rejected
      exact (metaRejection_iff tables entries).mpr ⟨reads, rejected⟩
  | adsDaily => exact translates_googleAds tables (by simp) (by simp) rfl
  | adsCallConversions => exact translates_googleAds tables (by simp) (by simp) rfl
  | adsPhoneCalls => exact translates_googleAds tables (by simp) (by simp) rfl
  | lsaCampaigns => exact ⟨_, _, _, rfl, .ofMessage tables (by simp) (fun _ => id) fun _ _ => rfl⟩
  | lsaLeads => exact ⟨_, _, _, rfl, .ofMessage tables (by simp) (fun _ => id) fun _ _ => rfl⟩
  | ga4Report =>
    exact ⟨_, _, _, rfl, .ofMessage tables (by simp) (fun _ => id)
      (failureStatus_errorMessage tables)⟩
  | searchAnalytics =>
    exact ⟨_, _, _, rfl, .ofMessage tables (by simp) (fun _ => id)
      (failureStatus_errorMessage tables)⟩
  | adAnalytics =>
    refine ⟨_, _, _, rfl, .ofStatus tables (by simp) ?_ _ _⟩
    intro resp payload entries
    rw [Bool.or_eq_true, isError_iff entries, holdsKey, entries "serviceErrorCode" (by decide),
      Refused, holdsKey]
    exact or_congr Iff.rfl ⟨fun found => ⟨rfl, found⟩, And.right⟩

/-- A rejection is a refusal. -/
theorem refused_of_rejected {request : DataRequest} {resp : Response ν}
    (rejected : Rejected request resp) : Refused request resp := by
  obtain (unauthorized | forbidden) | ⟨-, error, isError, -⟩ := rejected
  · exact .inl (.inl (by omega))
  · exact .inl (.inl (by omega))
  · refine .inl (.inr ?_)
    rw [JsonValue.get] at isError
    rw [holdsKey]
    cases found : (body resp).lookup "error" with
    | none =>
      rw [found] at isError
      cases isError
    | some value => rfl

/-- A failed data request raises an exception that leaves the status of its verdict. -/
theorem readData_verdict {request : DataRequest} {answer : Answer ν} {status : IntegrationStatus}
    (verdict : DataVerdict tables request answer status) :
    RaisesTo (readData tables request answer) status := by
  obtain ⟨service, refuses, rejection, client, translates⟩ := readData_translates tables request
  rw [client]
  cases verdict with
  | unreachable text => exact ⟨_, rfl, rfl⟩
  | raised text => exact ⟨_, rfl, rfl⟩
  | rejected readable rejected reads =>
    obtain ⟨payload, read, entries⟩ := safeJson_readable readable
    have isRefused := (translates.refused entries).mpr (refused_of_rejected rejected)
    exact ⟨_, exchange_refused read isRefused, translates.rejected entries reads rejected⟩
  | refused refused allowed =>
    rename_i resp
    cases read : safeJson resp with
    | error exc =>
      refine ⟨exc, by rw [exchange, read]; rfl, ?_⟩
      exact failureStatus_other (safeJson_unexpected resp exc read)
    | ok payload =>
      have entries := entries_of_safeJson read
      refine ⟨_, exchange_refused read ((translates.refused entries).mpr refused), ?_⟩
      obtain rejects | error := failureStatus_or (rejection resp payload)
      · exact absurd (translates.rejects entries rejects) allowed
      · exact error

/-- Only a rejected data request rejects the credentials. -/
theorem readData_auth {request : DataRequest} {answer : Answer ν} {message : String}
    (raised : readData tables request answer = .error (.auth message)) :
    ∃ resp, answer = .response resp ∧ Rejected request resp := by
  obtain ⟨service, refuses, rejection, client, translates⟩ := readData_translates tables request
  rw [client] at raised
  obtain ⟨resp, payload, rfl, read, -, rejects⟩ := exchange_auth raised
  refine ⟨resp, rfl, translates.rejects (entries_of_safeJson read) ?_⟩
  rw [rejects]
  rfl

end Reading

/-! ## Syncs -/

section Syncs

variable (tables : JsonTables ν) (numerals : Numerals ν φ) (answers : Answers ν φ)

/-- A row that a sync takes to its provider. -/
structure Syncable (i : Integration) : Prop where
  real : i.key ∈ realKeys
  connected : i.status = .connected
  token : i.hasToken = true
  account : i.key ∈ metaKeys ∨ i.key ∈ googleKeys → i.hasAccount = true

/-- A failed sync commits a status. -/
def Commits (result : SyncOutcome × Integration) (status : IntegrationStatus) : Prop :=
  (∃ exc, result.1 = .failed exc) ∧ result.2.status = status

/-- The token of a row is renewed at a token endpoint. -/
structure Refreshes (i : Integration) : Prop where
  endpoint : i.key ∉ metaKeys
  due : fresh i answers.now (60 * second) = false
  held : i.refreshTokenEncrypted.getD "" ≠ ""

/-- A sync asks for daily facts with the token of its token step. -/
def Requests (i : Integration) (request : DataRequest) : Prop :=
  ∃ renewed, accessToken tables numerals answers i = .ok renewed ∧
    (dailyPull tables numerals answers renewed).Reaches (readAnswer tables answers) request

/-- The failures of a sync by the status they leave. -/
structure Classified (i : Integration) : Prop where
  /-- A failed refresh. -/
  refresh : Refreshes answers i → ∀ status, TokenVerdict answers.token status →
    Commits (syncAnswered tables numerals answers i) status
  /-- A failed renewal leaves the stored token in use. -/
  renewal : i.key ∈ metaKeys → RenewalFails tables answers.token →
    accessToken tables numerals answers i = .ok i
  /-- A failed data request. -/
  data : ∀ request status, Requests tables numerals answers i request →
    DataVerdict tables request (answers.data request) status →
      Commits (syncAnswered tables numerals answers i) status
  /-- Nothing else asks for a reconnect. -/
  reconnect : (syncAnswered tables numerals answers i).2.status = .needsReauth →
    Refreshes answers i ∧ TokenVerdict answers.token .needsReauth ∨
      ∃ request resp, Requests tables numerals answers i request ∧
        answers.data request = .response resp ∧ Rejected request resp

/-- What a sync leaves after a provider call that raises. -/
def failedRow (i : Integration) (exc : SyncError) : Integration :=
  { i with status := failureStatus exc, lastError := some (clip 1000 exc.message) }

/-- The provider call of a sync. -/
theorem fetchInsights_attempt (i : Integration) :
    fetchInsights (attempt tables numerals answers i) i =
      match accessToken tables numerals answers i with
      | .error exc => (i, .error exc)
      | .ok renewed => (renewed, (insights tables numerals answers renewed).map fun _ => ()) := by
  have found : (if i.key ∈ metaKeys then metaAccessToken (attempt tables numerals answers i) i
      else refreshedAccessToken (attempt tables numerals answers i) i) =
      accessToken tables numerals answers i := rfl
  unfold fetchInsights
  rw [found]
  cases token : accessToken tables numerals answers i with
  | error exc => rfl
  | ok renewed =>
    have pulls : pulled tables numerals answers i = insights tables numerals answers renewed := by
      rw [pulled, token]
      rfl
    change (renewed, (pulled tables numerals answers i).map fun _ => ()) = _
    rw [pulls]

/-- A sync past its guards. -/
theorem syncAnswered_eq {i : Integration} (syncable : Syncable i) :
    syncAnswered tables numerals answers i =
      match fetchInsights (attempt tables numerals answers i) i with
      | (called, .error exc) => (.failed exc, failedRow called exc)
      | (called, .ok ()) =>
        match (attempt tables numerals answers i).stored with
        | .error exc => (.unstored exc, called)
        | .ok () =>
          (.synced, { called with
            status := .connected
            lastSyncAt := some answers.now
            lastError := none }) := by
  have admitted : ¬(i.status ≠ .connected ∨ (!i.hasToken) = true) := by
    simp [syncable.connected, syncable.token]
  have bound : ¬((i.key ∈ metaKeys ∨ i.key ∈ googleKeys) ∧ (!i.hasAccount) = true) := by
    rintro ⟨needs, missing⟩
    rw [syncable.account needs] at missing
    cases missing
  unfold syncAnswered syncRow
  rw [if_neg (not_not_intro syncable.real), if_neg admitted, if_neg bound]
  rfl

/-- A token step that raises fails the sync. -/
theorem syncAnswered_token {i : Integration} {exc : SyncError} (syncable : Syncable i)
    (raised : accessToken tables numerals answers i = .error exc) :
    syncAnswered tables numerals answers i = (.failed exc, failedRow i exc) := by
  rw [syncAnswered_eq tables numerals answers syncable, fetchInsights_attempt, raised]

/-- A pull that raises fails the sync. -/
theorem syncAnswered_pull {i renewed : Integration} {exc : SyncError} (syncable : Syncable i)
    (token : accessToken tables numerals answers i = .ok renewed)
    (raised : insights tables numerals answers renewed = .error exc) :
    syncAnswered tables numerals answers i = (.failed exc, failedRow renewed exc) := by
  rw [syncAnswered_eq tables numerals answers syncable, fetchInsights_attempt, token]
  dsimp only
  rw [raised]
  rfl

/-- The token step keeps the key and the status of a row. -/
theorem accessToken_guards {i renewed : Integration}
    (token : accessToken tables numerals answers i = .ok renewed) : SameGuards i renewed := by
  unfold accessToken at token
  split at token
  · exact metaAccessToken_guards token
  · exact refreshedAccessToken_guards token

/-- A payload of a token endpoint raises Python's exceptions only. -/
theorem granted_unexpected (payload : Entries ν) :
    Unexpected (granted tables numerals answers payload) := by
  unfold granted
  dsimp only
  split
  · split
    · refine raisesOnly_bind ?_ fun _ => raisesOnly_ok _
      unfold lifetime
      split
      · refine raisesOnly_bind (Meta.number_unexpected _) fun seconds => ?_
        split
        · exact raisesOnly_error id
        · exact raisesOnly_ok _
      · exact raisesOnly_ok _
    · exact raisesOnly_error id
  · exact raisesOnly_ok _

/-- The token endpoints of Google and LinkedIn. -/
theorem readToken_endpoint {key : IntegrationKey} (endpoint : key ∉ metaKeys) :
    ∃ service, readToken tables key = tokenRequest tables service := by
  unfold readToken
  rw [if_neg endpoint]
  split
  · exact ⟨"LinkedIn", rfl⟩
  · exact ⟨"Google", rfl⟩

/-- A refresh decides the token step. -/
theorem accessToken_refresh {i : Integration} (refreshes : Refreshes answers i) :
    accessToken tables numerals answers i =
      (renewal tables numerals answers i.key).map (renew i answers.now) := by
  have due : ¬(fresh i answers.now (60 * second) = true ∨
      i.refreshTokenEncrypted.getD "" = "") := by
    rintro (isFresh | missing)
    · rw [refreshes.due] at isFresh
      cases isFresh
    · exact refreshes.held missing
  rw [accessToken, if_neg refreshes.endpoint, refreshedAccessToken, tokenAttempt]
  exact if_neg due

/-- A refresh that fails fails the sync. -/
theorem refresh_commits {i : Integration} {status : IntegrationStatus} (syncable : Syncable i)
    (refreshes : Refreshes answers i) (verdict : TokenVerdict answers.token status) :
    Commits (syncAnswered tables numerals answers i) status := by
  obtain ⟨service, client⟩ := readToken_endpoint tables refreshes.endpoint
  have refused : RaisesTo (tokenRequest tables service answers.token) status :=
    tokenRequest_verdict tables verdict
  obtain ⟨exc, raised, rfl⟩ := refused
  have token : accessToken tables numerals answers i = .error exc := by
    rw [accessToken_refresh tables numerals answers refreshes, renewal, client, raised]
    rfl
  rw [syncAnswered_token tables numerals answers syncable token]
  exact ⟨⟨exc, rfl⟩, rfl⟩

/-- A renewal that fails is passed over. -/
theorem renewal_passed_over {i : Integration} (isMeta : i.key ∈ metaKeys)
    (fails : RenewalFails tables answers.token) :
    accessToken tables numerals answers i = .ok i := by
  obtain ⟨exc, raised, isApp⟩ := metaToken_fails tables fails
  have renewed : renewal tables numerals answers i.key = .error exc := by
    rw [renewal, readToken, if_pos isMeta, raised]
    rfl
  rw [accessToken, if_pos isMeta, metaAccessToken, tokenAttempt]
  dsimp only
  rw [renewed]
  cases exc with
  | auth message => exact ite_self _
  | app message => exact ite_self _
  | other message => exact absurd isApp id

/-- A data request that fails fails the sync. -/
theorem data_commits {i : Integration} {request : DataRequest} {status : IntegrationStatus}
    (syncable : Syncable i) (requests : Requests tables numerals answers i request)
    (verdict : DataVerdict tables request (answers.data request) status) :
    Commits (syncAnswered tables numerals answers i) status := by
  obtain ⟨renewed, token, reached⟩ := requests
  obtain ⟨exc, raised, rfl⟩ := readData_verdict tables verdict
  have fails : insights tables numerals answers renewed = .error exc :=
    Pull.run_of_reaches reached raised
  rw [syncAnswered_pull tables numerals answers syncable token fails]
  exact ⟨⟨exc, rfl⟩, rfl⟩

/-- A renewal that rejects the grant is a refused token request. -/
theorem renewal_auth {key : IntegrationKey} {message : String} (endpoint : key ∉ metaKeys)
    (raised : renewal tables numerals answers key = .error (.auth message)) :
    TokenVerdict answers.token .needsReauth := by
  obtain ⟨service, client⟩ := readToken_endpoint tables endpoint
  rw [renewal, client] at raised
  cases read : tokenRequest tables service answers.token with
  | error exc =>
    rw [read] at raised
    cases raised
    exact tokenRequest_auth tables read
  | ok payload =>
    rw [read] at raised
    exact absurd trivial (granted_unexpected tables numerals answers payload _ raised)

/-- A token step that rejects the credentials is a refused refresh. -/
theorem accessToken_auth {i : Integration} {message : String}
    (raised : accessToken tables numerals answers i = .error (.auth message)) :
    Refreshes answers i ∧ TokenVerdict answers.token .needsReauth := by
  by_cases isMeta : i.key ∈ metaKeys
  · rw [accessToken, if_pos isMeta, metaAccessToken] at raised
    split at raised
    · cases raised
    · split at raised <;> cases raised
  · by_cases due : fresh i answers.now (60 * second) = true ∨
        i.refreshTokenEncrypted.getD "" = ""
    · have kept : accessToken tables numerals answers i = .ok i := by
        rw [accessToken, if_neg isMeta, refreshedAccessToken, tokenAttempt]
        exact if_pos due
      cases kept.symm.trans raised
    · have refreshes : Refreshes answers i :=
        ⟨isMeta, Bool.eq_false_iff.mpr fun isFresh => due (.inl isFresh), fun missing =>
          due (.inr missing)⟩
      rw [accessToken_refresh tables numerals answers refreshes] at raised
      cases renewed : renewal tables numerals answers i.key with
      | error exc =>
        rw [renewed] at raised
        cases raised
        exact ⟨refreshes, renewal_auth tables numerals answers isMeta renewed⟩
      | ok token =>
        rw [renewed] at raised
        cases raised

/-- The pull of a row with a real provider raises Python's exceptions only. -/
theorem dailyPull_unexpected {i : Integration} (real : i.key ∈ realKeys) :
    UnexpectedPull (dailyPull tables numerals answers i) := by
  unfold dailyPull
  cases key : i.key with
  | metaAds => exact metaPull_unexpected tables numerals answers.dates _
  | linkedin => exact linkedinPull_unexpected tables numerals answers.dates
  | googleAds => exact googleAdsPull_unexpected tables numerals answers.dates
  | googleLsa => exact lsaPull_unexpected tables numerals answers.dates
  | ga4 =>
    exact rowsPull_unexpected tables (ga4Normalize_unexpected tables numerals answers.dates) _
  | searchConsole =>
    exact rowsPull_unexpected tables
      (searchConsoleNormalize_unexpected tables numerals answers.dates) _
  | ghl =>
    rw [key] at real
    exact absurd real (by decide)

/-- A pull that rejects the credentials has a rejected request. -/
theorem insights_auth {i renewed : Integration} {message : String} (syncable : Syncable i)
    (token : accessToken tables numerals answers i = .ok renewed)
    (raised : insights tables numerals answers renewed = .error (.auth message)) :
    ∃ request resp, Requests tables numerals answers i request ∧
      answers.data request = .response resp ∧ Rejected request resp := by
  have sameKey : renewed.key = i.key :=
    congrArg Prod.snd (accessToken_guards tables numerals answers token).named
  have real : renewed.key ∈ realKeys := by
    rw [sameKey]
    exact syncable.real
  obtain unexpected | ⟨request, reached, read⟩ :=
    Pull.run_error (dailyPull_unexpected tables numerals answers real) raised
  · exact absurd trivial unexpected
  · obtain ⟨resp, answer, rejected⟩ := readData_auth tables read
    exact ⟨request, resp, ⟨renewed, token, reached⟩, answer, rejected⟩

/-- What asks for a reconnect. -/
theorem reconnect_reason {i : Integration} (syncable : Syncable i)
    (left : (syncAnswered tables numerals answers i).2.status = .needsReauth) :
    Refreshes answers i ∧ TokenVerdict answers.token .needsReauth ∨
      ∃ request resp, Requests tables numerals answers i request ∧
        answers.data request = .response resp ∧ Rejected request resp := by
  cases token : accessToken tables numerals answers i with
  | error exc =>
    rw [syncAnswered_token tables numerals answers syncable token] at left
    obtain ⟨message, rfl⟩ := failureStatus_eq_needsReauth left
    exact .inl (accessToken_auth tables numerals answers token)
  | ok renewed =>
    cases pull : insights tables numerals answers renewed with
    | error exc =>
      rw [syncAnswered_pull tables numerals answers syncable token pull] at left
      obtain ⟨message, rfl⟩ := failureStatus_eq_needsReauth left
      exact .inr (insights_auth tables numerals answers syncable token pull)
    | ok rows =>
      have status := (accessToken_guards tables numerals answers token).status
      rw [syncable.connected] at status
      rw [syncAnswered_eq tables numerals answers syncable, fetchInsights_attempt, token] at left
      dsimp only at left
      rw [pull] at left
      dsimp only [Except.map] at left
      split at left
      · cases status.symm.trans left
      · cases left

/-- Failures are classified the same way in every client: a refused refresh and rejected credentials
ask for a reconnect, every other failure is an error worth retrying. -/
theorem syncAnswered_classified (i : Integration) (syncable : Syncable i) :
    Classified tables numerals answers i where
  refresh := fun refreshes _ verdict =>
    refresh_commits tables numerals answers syncable refreshes verdict
  renewal := renewal_passed_over tables numerals answers
  data := fun _ _ requests verdict => data_commits tables numerals answers syncable requests verdict
  reconnect := reconnect_reason tables numerals answers syncable

end Syncs

/-! ## Sample syncs -/

/-- A row of Google Analytics whose token has expired. -/
def expiredRow : Integration where
  clientId := 2
  key := .ga4
  status := .connected
  accountLabel := none
  externalAccountId := some "properties/1"
  loginCustomerId := none
  scopes := none
  accessTokenEncrypted := some "token"
  refreshTokenEncrypted := some "refresh"
  tokenExpiresAt := some 0
  lastSyncAt := none
  lastError := none

/-- A token endpoint that is down for the moment. -/
def endpointDown : Answers Unit Int where
  now := 0
  dates := ⟨Meta.plainCalendar, fun _ => none, fun _ => none⟩
  metaApiVersion := "v20.0"
  overflow _ := none
  token := .response ⟨503, .error none, "Service Unavailable"⟩
  data _ := .unreachable "timed out"
  stored _ := .ok ()

/-- The failures of the sample sync are classified, and it is refused. -/
theorem expired_row_classified :
    Commits (syncAnswered Meta.plainTables Meta.plainNumerals endpointDown expiredRow)
      .needsReauth := by
  have syncable : Syncable expiredRow := ⟨by decide, rfl, rfl, fun _ => rfl⟩
  refine (syncAnswered_classified Meta.plainTables Meta.plainNumerals endpointDown expiredRow
    syncable).refresh ⟨by decide, rfl, by decide⟩ .needsReauth ?_
  exact .refused nofun (.inl (by decide))

/-- A token endpoint that answers 503 is taken for a dead grant. -/
theorem unavailable_endpoint_needs_reauth :
    endpointDown.token = .response ⟨503, .error none, "Service Unavailable"⟩ ∧
      (syncAnswered Meta.plainTables Meta.plainNumerals endpointDown expiredRow).2.status =
        .needsReauth :=
  ⟨rfl, rfl⟩

end MarketingOS.IntegrationService
