import MarketingOS.Core.Security
import MarketingOS.Services.Client

/-!
# Sign-in

Logins, logouts and the check of a request's token. A login stores a session row beside the token
it mints; the check wants both, and deleting the row revokes the token.
-/
namespace MarketingOS

/-- `raise AuthError(message)`. -/
def unauthorized {α : Type} (message : String) : Outcome α :=
  .error (.app ⟨.unauthorized, message⟩)

/-- `UserSession`. -/
structure UserSession where
  id : Uuid
  userId : Uuid
  tokenHash : String
  userAgent : Option String
  ipAddress : Option String
  expiresAt : Timestamp
deriving DecidableEq

/-- A `User` row with the columns only authentication reads or writes. -/
structure Account where
  user : User
  passwordHash : String
  lastLoginAt : Option Timestamp
deriving DecidableEq

/-- The identifier of an account's user. -/
def Account.id (account : Account) : Uuid := account.user.id

/-- The rows authentication works on. -/
structure AuthTables where
  accounts : List Account
  sessions : List UserSession
deriving DecidableEq

namespace AuthTables

/-- `UserRepository.get(user_id)` -/
def getAccount (t : AuthTables) (userId : Uuid) : Option Account :=
  Table.get Account.id t.accounts userId

/-- `UserRepository.get_by_email` -/
def getByEmail (t : AuthTables) (lowered : String) : Option Account :=
  t.accounts.find? fun account => decide (account.user.email = lowered)

/-- `SessionRepository.get_by_token_hash` -/
def getByTokenHash (t : AuthTables) (tokenHash : String) : Option UserSession :=
  Table.get UserSession.tokenHash t.sessions tokenHash

/-- `SessionRepository.delete_by_token_hash` -/
def deleteByTokenHash (t : AuthTables) (tokenHash : String) : AuthTables :=
  match t.getByTokenHash tokenHash with
  | none => t
  | some session => { t with sessions := Table.remove UserSession.id session.id t.sessions }

/-- `SessionRepository.purge_expired` -/
def purgeExpired (t : AuthTables) (now : Timestamp) : AuthTables :=
  { t with sessions := t.sessions.filter fun session => !decide (session.expiresAt < now) }

end AuthTables

/-- A login request, with what the service reads while it answers it. -/
structure LoginCall where
  email : String
  password : String
  userAgent : Option String
  ip : Option String
  /-- What `enforce_rate_limit` does. -/
  enforced : Outcome Unit
  /-- `uuid.uuid4()` for the token. -/
  tokenId : Uuid
  rowId : Uuid
  /-- The clock as the session's expiry is set. -/
  sessionAt : Timestamp
  /-- The clock as `last_login_at` is set. -/
  loginAt : Timestamp
  /-- The clock as the token is minted. -/
  mintedAt : Timestamp
  /-- The clock of the database as the user's row is written. -/
  writtenAt : Timestamp

namespace AuthService

variable (security : Security)

/-- The session row a login adds. -/
def newSession (call : LoginCall) (userId : Uuid) : UserSession :=
  { id := call.rowId
    userId
    tokenHash := security.tokenIdHash call.tokenId.hex
    userAgent := call.userAgent
    ipAddress := call.ip
    expiresAt := call.sessionAt + timedeltaMinutes security.accessTokenExpireMinutes }

/-- The account as a login leaves it. -/
def signedIn (call : LoginCall) (account : Account) : Account :=
  if account.lastLoginAt = some call.loginAt then account
  else
    { account with
      lastLoginAt := some call.loginAt
      user := { account.user with updatedAt := call.writtenAt } }

/-- Whether `sessions` takes a row: its keys are new and its address fits. -/
def Admits (t : AuthTables) (session : UserSession) : Prop :=
  Table.has UserSession.id t.sessions session.id = false ∧
    Table.has UserSession.tokenHash t.sessions session.tokenHash = false ∧
    fits 64 session.ipAddress = true

instance (t : AuthTables) (session : UserSession) : Decidable (Admits t session) := by
  unfold Admits; infer_instance

/-- `login` -/
def login (t : AuthTables) (call : LoginCall) : Outcome (AuthTables × User × String) := do
  call.enforced
  let user := t.getByEmail (security.lower call.email)
  let passwordHash := (user.map Account.passwordHash).getD security.dummyPasswordHash
  let passwordOk := security.verifyPassword call.password passwordHash
  match user with
  | none => unauthorized "Invalid email or password."
  | some account =>
    if passwordOk = false then unauthorized "Invalid email or password."
    else if account.user.isActive = false then unauthorized "This account is disabled."
    else
      let session := newSession security call account.id
      let token :=
        security.createAccessToken account.id none (some call.tokenId.hex) call.mintedAt
      if Admits t session then
        .ok (⟨Table.modify Account.id account.id (signedIn call) t.accounts,
          t.sessions ++ [session]⟩, (signedIn call account).user, token)
      else raised .dbapiError

/-- `logout` -/
def logout (t : AuthTables) (token : String) (now : Timestamp) : AuthTables :=
  match security.decodeToken token false now with
  | .error _ => t
  | .ok payload =>
    match payload.jti with
    | none => t
    | some jti => t.deleteByTokenHash (security.tokenIdHash jti)

/-- `SchedulerService.purge_expired_sessions` -/
def purgeExpiredSessions (t : AuthTables) (now : Timestamp) : AuthTables := t.purgeExpired now

/-- `UserService.update_user`, on an account. -/
def updateUser (t : AuthTables) (userId : Uuid) (data : UserUpdate) (now : Timestamp) :
    Outcome AuthTables :=
  match t.getAccount userId with
  | none => notFound "User not found."
  | some _ =>
    .ok { t with
      accounts := Table.modify Account.id userId
        (fun account =>
          { account with user := User.touch now account.user (data.apply account.user) })
        t.accounts }

end AuthService

/-- Whether a token names a session that is gone; a token without a `jti` names none. -/
def sessionGone (security : Security) (t : AuthTables) (payload : Claims) : Bool :=
  payload.jti.any fun jti => (t.getByTokenHash (security.tokenIdHash jti)).isNone

/-- `get_current_user` -/
def getCurrentUser (security : Security) (t : AuthTables) (credentials : Option String)
    (now : Timestamp) : Outcome User :=
  match credentials with
  | none => unauthorized "Authentication required."
  | some token =>
    match security.decodeToken token true now with
    | .error .expiredSignature => unauthorized "Token has expired."
    | .error .other => unauthorized "Invalid authentication token."
    | .ok payload =>
      if payload.type ≠ some tokenTypeAccess then unauthorized "Invalid token type."
      else if sessionGone security t payload then unauthorized "Session has been revoked."
      else
        match (Uuid.parse (payload.sub.getD "")).bind t.getAccount with
        | none => unauthorized "User no longer exists or is inactive."
        | some account =>
          if account.user.isActive then .ok account.user
          else unauthorized "User no longer exists or is inactive."

end MarketingOS
