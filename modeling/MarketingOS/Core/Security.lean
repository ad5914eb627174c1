import MarketingOS.Models.Values

/-!
# Access tokens

The signed access tokens a login hands out, and the hash their identifiers are stored under. The
JWT library, the digest and the password check are parameters; a token is any string.
-/
namespace MarketingOS

/-- The claims of a token, as far as they are read; its times are whole seconds. -/
structure Claims where
  sub : Option String
  type : Option String
  iat : Option Int
  exp : Option Int
  jti : Option String
deriving DecidableEq

/-- Whether a token is past its `exp` at an instant; a token without one never is. -/
def Claims.Expired (claims : Claims) (now : Timestamp) : Prop :=
  ∃ exp ∈ claims.exp, exp * second ≤ now

/-- Whether a token was issued after an instant. -/
def Claims.Immature (claims : Claims) (now : Timestamp) : Prop :=
  ∃ iat ∈ claims.iat, now < iat * second

instance (claims : Claims) (now : Timestamp) : Decidable (claims.Expired now) := by
  unfold Claims.Expired; infer_instance

instance (claims : Claims) (now : Timestamp) : Decidable (claims.Immature now) := by
  unfold Claims.Immature; infer_instance

/-- `jwt.PyJWTError` -/
inductive JwtError where
  | expiredSignature
  | other
deriving DecidableEq

/-- The JWT library, under the key and the algorithm of the settings. -/
structure Jwt where
  /-- `jwt.encode(payload, secret_key, algorithm=algorithm)` -/
  encode : Claims → String
  /-- The claims a string carries under a signature that the key verifies. -/
  signed : String → Option Claims
  /-- `jwt.decode(token, secret_key, algorithms=[algorithm], options={"verify_exp": verify_exp})` -/
  decode : String → Bool → Timestamp → Except JwtError Claims
  /-- An encoded token carries its claims. -/
  signed_encode : ∀ claims, signed (encode claims) = some claims
  /-- A string is decoded to the claims it carries, unless its times refuse it. -/
  decode_ok_iff : ∀ token verifyExp now claims, decode token verifyExp now = .ok claims ↔
    signed token = some claims ∧ ¬claims.Immature now ∧ (verifyExp = true → ¬claims.Expired now)

/-- What authentication rests on. -/
structure Security where
  jwt : Jwt
  /-- `access_token_expire_minutes` -/
  accessTokenExpireMinutes : Int
  /-- `hashlib.sha256(text.encode("utf-8")).hexdigest()` -/
  sha256 : String → String
  /-- Texts of one digest are one text. -/
  sha256_injective : Function.Injective sha256
  /-- `verify_password` -/
  verifyPassword : String → String → Bool
  /-- `_DUMMY_PASSWORD_HASH` -/
  dummyPasswordHash : String
  /-- `str.lower` -/
  lower : String → String

/-- `timedelta(minutes=minutes)` -/
def timedeltaMinutes (minutes : Int) : Timestamp := minutes * 60 * second

/-- `TOKEN_TYPE_ACCESS` -/
def tokenTypeAccess : String := "access"

namespace Security

variable (security : Security)

/-- The payload of `create_access_token`, with its times cut to seconds as they are encoded. -/
def accessClaims (subject : Uuid) (expiresMinutes : Option Int) (jti : Option String)
    (now : Timestamp) : Claims :=
  let minutes :=
    if expiresMinutes.getD 0 = 0 then security.accessTokenExpireMinutes else expiresMinutes.getD 0
  { sub := some (Uuid.print subject)
    type := some tokenTypeAccess
    iat := some (now / second)
    exp := some ((now + timedeltaMinutes minutes) / second)
    jti }

/-- `create_access_token` -/
def createAccessToken (subject : Uuid) (expiresMinutes : Option Int) (jti : Option String)
    (now : Timestamp) : String :=
  security.jwt.encode (security.accessClaims subject expiresMinutes jti now)

/-- `token_id_hash` -/
def tokenIdHash (jti : String) : String := security.sha256 jti

/-- `decode_token` -/
def decodeToken (token : String) (verifyExp : Bool) (now : Timestamp) : Except JwtError Claims :=
  security.jwt.decode token verifyExp now

end Security

/-- `id.hex` -/
def Uuid.hex (id : Uuid) : String := String.ofList (Digits.write 16 32 id.toNat)

/-- An instant is not before the second it is cut to. -/
theorem second_floor_le (now : Timestamp) : now / second * second ≤ now :=
  Int.ediv_mul_le now (by decide)

end MarketingOS
