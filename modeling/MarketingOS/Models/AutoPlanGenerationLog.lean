import MarketingOS.Models.Values

/-!
# The log of automatically drafted months

One row per client and month. The unique constraint on the two columns is checked when a row is
inserted.
-/
namespace MarketingOS

/-- `AutoPlanGenerationLog` — the period is the month drafted for, as `YYYY-MM`. -/
structure AutoPlanGenerationLog where
  clientId : Uuid
  period : String
  itemCount : Nat
  generatedAt : Timestamp
deriving DecidableEq

/-- The unique pair of a row. -/
def AutoPlanGenerationLog.pair (row : AutoPlanGenerationLog) : Uuid × String :=
  (row.clientId, row.period)

end MarketingOS
