import MarketingOS.Services.OAuthState

/-!
# What OAuth states are accepted

A state is accepted for a client and a provider exactly when it carries what was signed for them,
not too long ago. The two kinds of state share a key, and neither is accepted for the other.
-/
namespace MarketingOS.OAuthState

/-- A call of a sign function. -/
inductive Issue where
  /-- `_sign_state` -/
  | client (clientId : Uuid) (key : IntegrationKey) (time : Second)
  /-- `_sign_agency_state` -/
  | agency (time : Second)

/-- What a call signs. -/
def Issue.raw : Issue → String
  | .client clientId key time => stateRaw clientId key time
  | .agency time => agencyRaw time

/-- A state carries no signature but of what was signed. -/
def Unforged (keys : StateKeys) (issued : List Issue) (state : String) : Prop :=
  ∀ raw, urlsafeB64decode state = some (signed keys raw) → ∃ issue ∈ issued, issue.raw = raw

variable (keys : StateKeys)

/-- A decimal number, after a sign or without one. -/
def sampleInt (text : String) : Option Int :=
  if '-' ∈ text.toList then some (-(Nat.ofDigitChars 10 (text.toList.drop 1) 0 : Nat))
  else some (Nat.ofDigitChars 10 text.toList 0 : Nat)

/-- A written number is read back. -/
theorem sampleInt_toString (n : Int) : sampleInt (toString n) = some n := by
  have unsigned (m : Nat) : '-' ∉ Nat.toDigits 10 m := fun inside =>
    absurd (Nat.isDigit_of_mem_toDigits (by decide) (by decide) inside) (by decide)
  rw [show toString n = n.repr from rfl, Int.repr_eq_if, sampleInt]
  split
  case isTrue positive =>
    rw [Nat.toList_repr, if_neg (unsigned _), Nat.ofDigitChars_ten_toDigits]
    simp only [Option.some.injEq]
    omega
  case isFalse negative =>
    rw [String.toList_append, Nat.toList_repr, if_pos (List.mem_append_left _ (by decide))]
    simp only [show "-".toList = ['-'] from rfl, List.singleton_append, List.drop_succ_cons,
      List.drop_zero, Nat.ofDigitChars_ten_toDigits, Option.some.injEq]
    omega

/-- A client. -/
def sampleClient : Uuid := 0x7c9e6679742540de944be07fc1f90ae7

/-- When the flow begins. -/
def sampleBegin : Second := ⟨1700000000, by decide⟩

end MarketingOS.OAuthState
