import MarketingOS.Models.Values

/-!
# What the code reads from outside the database

Settings, the time zone database, clocks and fresh identifiers. They are arguments of the
modelled functions, so that a statement holds for every value of them.
-/
namespace MarketingOS

/-- What does not change while the application runs. -/
structure Environment where
  /-- `get_settings().intelligence.enabled`. -/
  intelligenceEnabled : Bool
  /-- `zoneinfo.available_timezones()`. -/
  availableTimezones : List String
deriving DecidableEq

/-- What one operation reads: the clock, and the identifiers `uuid4` gives the rows it adds. -/
structure Tick where
  now : Timestamp
  rowId : Uuid
  jobId : Uuid
  auditId : Uuid
deriving DecidableEq

end MarketingOS
