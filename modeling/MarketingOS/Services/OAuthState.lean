import MarketingOS.Base.Base64
import MarketingOS.Base.Fields
import MarketingOS.Core.Exceptions
import MarketingOS.Models.Integration

/-!
# OAuth states

The signed `state` texts that tie a provider's redirect to the flow that began it: those of a
client's connector, and those of the agency-wide GHL connector, under one key.
-/
namespace MarketingOS.OAuthState

/-- What the states rest on. -/
structure StateKeys where
  /-- `hmac.new(secret, raw.encode(), hashlib.sha256).hexdigest()` -/
  hexdigest : String → String
  /-- A digest is written in hexadecimal digits. -/
  hexadecimal : ∀ raw, ∀ c ∈ (hexdigest raw).toList, (Digits.digitValue c).isSome
  /-- `int(text)`; nothing for a `ValueError`. -/
  int : String → Option Int
  /-- A second of the clock is read as it was written. -/
  int_second : ∀ n : Int, n.natAbs ≤ 2 ^ 63 → int (toString n) = some n

/-- `int(time.time())` — a second of a 64-bit clock. -/
structure Second where
  value : Int
  /-- The second is within the clock. -/
  within : value.natAbs ≤ 2 ^ 63

/-- `base64.urlsafe_b64encode(text.encode()).decode()` -/
def urlsafeB64encode (text : String) : String :=
  String.ofList (Base64.encode text.toUTF8.data.toList)

/-- `base64.urlsafe_b64decode(state.encode()).decode()`; nothing for an exception. -/
def urlsafeB64decode (state : String) : Option String :=
  (Base64.decode state.toList).bind fun bytes => String.fromUTF8? ⟨bytes.toArray⟩

variable (keys : StateKeys)

/-- `_hmac` -/
def hmac (raw : String) : String := String.ofList ((keys.hexdigest raw).toList.take 32)

/-- What `_sign_state` signs. -/
def stateRaw (clientId : Uuid) (key : IntegrationKey) (now : Second) : String :=
  Uuid.print clientId ++ ":" ++ Enumeration.value key ++ ":" ++ toString now.value

/-- What `_sign_agency_state` signs. -/
def agencyRaw (now : Second) : String := "ghl-agency" ++ ":" ++ toString now.value

/-- A text with its signature. -/
def signed (raw : String) : String := raw ++ ":" ++ hmac keys raw

/-- `_sign_agency_state` -/
def signAgencyState (now : Second) : String := urlsafeB64encode (signed keys (agencyRaw now))

/-- A printed identifier holds no colon. -/
theorem colon_notMem_print (id : Uuid) : ':' ∉ (Uuid.print id).toList := by
  intro inside
  have clean : ':' ∉ Digits.write 16 32 id.toNat := fun member =>
    absurd (Digits.digitValue_of_mem_write (by decide) (by decide) member) (by decide)
  rw [Uuid.print, String.toList_ofList, Uuid.hyphenated] at inside
  have part {n m : Nat} : ':' ∉ ((Digits.write 16 32 id.toNat).drop n).take m := fun member =>
    clean (List.mem_of_mem_drop (List.mem_of_mem_take member))
  have front : ':' ∉ (Digits.write 16 32 id.toNat).take 8 := fun member =>
    clean (List.mem_of_mem_take member)
  have back : ':' ∉ (Digits.write 16 32 id.toNat).drop 20 := fun member =>
    clean (List.mem_of_mem_drop member)
  simp [front, back, part] at inside

end MarketingOS.OAuthState
