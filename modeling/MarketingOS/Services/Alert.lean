import Mathlib.Data.Rat.Defs
import MarketingOS.Base.Dict
import MarketingOS.Base.Machine
import MarketingOS.Core.Exceptions
import MarketingOS.Models.Values

/-!
# Alert service

The watchdog compares the numbers of a client's campaigns with their targets and reconciles the
client's alerts with what it finds; people acknowledge and resolve alerts in between. `F` are the
floats of the source. Alerts are numbered in the order they are opened.
-/
namespace MarketingOS.AlertService

/-- What the service does with floats, and what the database does with them. -/
structure Floats (F : Type) where
  /-- `float(value)` of a column, and a literal. -/
  ofDecimal : ℚ → F
  /-- `float(value)` of a number. -/
  ofInt : Int → F
  /-- `left / right` of two integers. -/
  quotient : Int → Int → F
  sub : F → F → F
  mul : F → F → F
  div : F → F → F
  lt : F → F → Bool
  le : F → F → Bool
  /-- `round(value, 2)` -/
  round2 : F → F
  /-- `format(value, ".2f")` for 2 digits. -/
  format : Nat → F → String
  /-- A column of 14 digits, 4 of them after the point, holds the value. -/
  fits : F → Bool

/-- `AlertKind` -/
inductive Kind where
  | alert
  | opportunity
deriving DecidableEq

/-- `AlertSeverity` -/
inductive Severity where
  | low
  | medium
  | high
deriving DecidableEq

/-- `AlertStatus` -/
inductive Status where
  | opened
  | acknowledged
  | resolved
deriving DecidableEq

/-- `Campaign`, as the watchdog reads it. -/
structure Campaign where
  id : Uuid
  clientId : Uuid
  name : String
  budgetUsd : ℚ
  targetCpl : Option ℚ
  targetCtr : Option ℚ
  impressions : Int
  clicks : Int
  leads : Int
  spend : ℚ
  revenue : ℚ
deriving DecidableEq

/-- The campaigns, oldest first; the id is the primary key. -/
structure Campaigns where
  rows : List Campaign
  distinct : (rows.map Campaign.id).Nodup

/-- One entry of `_findings_for`. -/
structure Finding (F : Type) where
  campaignId : Uuid
  kind : Kind
  severity : Severity
  title : String
  detail : String
  metric : String
  threshold : F
  actual : F
  recKey : String
deriving DecidableEq

/-- `Alert` -/
structure Alert (F : Type) where
  id : Nat
  clientId : Uuid
  campaignId : Option Uuid
  kind : Kind
  severity : Severity
  status : Status
  title : String
  detail : Option String
  metric : Option String
  threshold : Option F
  actual : Option F
  recKey : Option String
  acknowledgedBy : Option Uuid
  resolvedBy : Option Uuid
deriving DecidableEq

variable {F : Type} (fl : Floats F)

/-! ## Findings -/

/-- `_severity_for` -/
def severityFor (overshoot : F) : Severity :=
  if fl.le (fl.ofDecimal (1 / 2)) overshoot then .high
  else if fl.le (fl.ofDecimal (1 / 5)) overshoot then .medium
  else .low

/-- A column that is not null and not zero. -/
def nonzero (value : Option ℚ) : Option ℚ := value.filter (· ≠ 0)

/-- CPL over target. -/
def cplFinding (c : Campaign) : Option (Finding F) :=
  (nonzero c.targetCpl).bind fun target =>
    if c.leads = 0 then none
    else
      let cpl := fl.div (fl.ofDecimal c.spend) (fl.ofInt c.leads)
      let target := fl.ofDecimal target
      if fl.lt target cpl then
        let overshoot := fl.div (fl.sub cpl target) target
        some {
          campaignId := c.id
          kind := .alert
          severity := severityFor fl overshoot
          title := c.name ++ ": CPL above target"
          detail := "Cost per lead is $" ++ fl.format 2 cpl ++ " vs the $" ++ fl.format 2 target ++
            " target (" ++ fl.format 0 (fl.mul overshoot (fl.ofInt 100)) ++
            "% over). Review targeting or creative."
          metric := "cpl"
          threshold := target
          actual := fl.round2 cpl
          recKey := "cpl:" ++ Uuid.print c.id }
      else none

/-- CTR under target. -/
def ctrFinding (c : Campaign) : Option (Finding F) :=
  (nonzero c.targetCtr).bind fun target =>
    if c.impressions = 0 then none
    else
      let ctr := fl.mul (fl.quotient c.clicks c.impressions) (fl.ofInt 100)
      let target := fl.ofDecimal target
      if fl.lt ctr target then
        some {
          campaignId := c.id
          kind := .alert
          severity := severityFor fl (fl.div (fl.sub target ctr) target)
          title := c.name ++ ": CTR below target"
          detail := "Click-through rate is " ++ fl.format 2 ctr ++ "% vs the " ++
            fl.format 2 target ++ "% target. Consider refreshing the creative or headline."
          metric := "ctr"
          threshold := target
          actual := fl.round2 ctr
          recKey := "ctr:" ++ Uuid.print c.id }
      else none

/-- Budget pace. -/
def budgetFinding (c : Campaign) : Option (Finding F) :=
  if c.budgetUsd = 0 then none
  else
    let spend := fl.ofDecimal c.spend
    let budget := fl.ofDecimal c.budgetUsd
    if fl.le (fl.mul budget (fl.ofDecimal (9 / 10))) spend then
      let isOver := fl.le budget spend
      some {
        campaignId := c.id
        kind := .alert
        severity := if isOver then .high else .medium
        title := c.name ++ ": budget " ++ if isOver then "exceeded" else "nearly spent"
        detail := "Spend $" ++ fl.format 2 spend ++ " of $" ++ fl.format 2 budget ++ " budget."
        metric := "budget"
        threshold := budget
        actual := fl.round2 spend
        recKey := "budget:" ++ Uuid.print c.id }
    else none

/-- Strong ROAS. -/
def roasFinding (c : Campaign) : Option (Finding F) :=
  if c.spend = 0 then none
  else
    let roas := fl.div (fl.ofDecimal c.revenue) (fl.ofDecimal c.spend)
    if fl.le (fl.ofInt 3) roas then
      some {
        campaignId := c.id
        kind := .opportunity
        severity := .medium
        title := c.name ++ ": strong ROAS — consider scaling"
        detail := "Return on ad spend is " ++ fl.format 1 roas ++
          "x. Increasing budget here may capture more of the same return."
        metric := "roas"
        threshold := fl.ofInt 3
        actual := fl.round2 roas
        recKey := "roas:" ++ Uuid.print c.id }
    else none

/-- `_findings_for` -/
def findingsFor (c : Campaign) : List (Finding F) :=
  [cplFinding fl c, ctrFinding fl c, budgetFinding fl c, roasFinding fl c].filterMap id

/-- The row of a finding fits its columns. -/
def Finding.Fits (f : Finding F) : Prop :=
  f.title.length ≤ 200 ∧ fl.fits f.threshold = true ∧ fl.fits f.actual = true

instance (f : Finding F) : Decidable (f.Fits fl) := inferInstanceAs (Decidable (_ ∧ _ ∧ _))

/-! ## Alerts -/

namespace Alert

/-- Open or acknowledged. -/
def Live (a : Alert F) : Prop := a.status = .opened ∨ a.status = .acknowledged

instance (a : Alert F) : Decidable a.Live := inferInstanceAs (Decidable (_ ∨ _))

/-- `a.rec_key`, when it is true. -/
def key (a : Alert F) : Option String := a.recKey.filter (· ≠ "")

/-- What a finding sets on the alert it is found under. -/
def update (f : Finding F) (a : Alert F) : Alert F :=
  { a with
    severity := f.severity
    title := f.title
    detail := some f.detail
    metric := some f.metric
    threshold := some f.threshold
    actual := some f.actual
    kind := f.kind }

/-- An alert that no finding is found for. -/
def close (a : Alert F) : Alert F := { a with status := .resolved }

end Alert

/-- The alert a finding opens. -/
def Finding.alert (f : Finding F) (clientId : Uuid) (id : Nat) : Alert F where
  id := id
  clientId := clientId
  campaignId := some f.campaignId
  kind := f.kind
  severity := f.severity
  status := .opened
  title := f.title
  detail := some f.detail
  metric := some f.metric
  threshold := some f.threshold
  actual := some f.actual
  recKey := some f.recKey
  acknowledgedBy := none
  resolvedBy := none

/-- The tables, and the number of the next alert. -/
structure World (F : Type) where
  campaigns : Campaigns
  alerts : List (Alert F)
  nextId : Nat

namespace World

variable (s : World F) (clientId : Uuid)

/-- `CampaignRepository.list_for_client`, newest first. -/
def campaignsOf : List Campaign :=
  (s.campaigns.rows.filter fun c => decide (c.clientId = clientId)).reverse

/-- The findings of an evaluation. -/
def findings : List (Finding F) := (s.campaignsOf clientId).flatMap (findingsFor fl)

/-- `AlertRepository.live_for_client` -/
def liveForClient : List (Alert F) :=
  s.alerts.filter fun a => decide (a.clientId = clientId ∧ a.Live)

/-- `live`: the alert under each key. -/
def live : Dict String Nat :=
  Dict.ofList ((s.liveForClient clientId).filterMap fun a => a.key.map fun k => (k, a.id))

/-- `AlertService.get_alert` -/
def getAlert (alertId : Nat) : Outcome (Alert F) :=
  match s.alerts.find? fun a => decide (a.id = alertId ∧ a.clientId = clientId) with
  | some a => .ok a
  | none => notFound "Alert not found."

/-- `AlertService.acknowledge` -/
def acknowledge (alertId : Nat) (actorId : Uuid) : Outcome (World F) := do
  let _ ← s.getAlert clientId alertId
  return { s with
    alerts := Table.modify Alert.id alertId
      (fun a => { a with status := .acknowledged, acknowledgedBy := some actorId }) s.alerts }

/-- `AlertService.resolve` -/
def resolve (alertId : Nat) (actorId : Uuid) : Outcome (World F) := do
  let _ ← s.getAlert clientId alertId
  return { s with
    alerts := Table.modify Alert.id alertId
      (fun a => { a with status := .resolved, resolvedBy := some actorId }) s.alerts }

end World

/-! ## Evaluation -/

/-- The variables of the loop over the findings. -/
structure Pass (F : Type) where
  alerts : List (Alert F)
  nextId : Nat
  opened : Nat
  updated : Nat

/-- One turn of the loop over the findings. -/
def Pass.take (clientId : Uuid) (live : Dict String Nat) (p : Pass F) (f : Finding F) : Pass F :=
  match live.get f.recKey with
  | some existing =>
    { p with
      alerts := Table.modify Alert.id existing (Alert.update f) p.alerts
      updated := p.updated + 1 }
  | none =>
    { p with
      alerts := p.alerts ++ [f.alert clientId p.nextId]
      nextId := p.nextId + 1
      opened := p.opened + 1 }

/-- One turn of the loop over the live alerts. -/
def autoResolve (findings : List (Finding F)) (rows : List (Alert F) × Nat)
    (entry : String × Nat) : List (Alert F) × Nat :=
  if findings.any fun f => decide (f.recKey = entry.1) then rows
  else (Table.modify Alert.id entry.2 Alert.close rows.1, rows.2 + 1)

/-- `AlertEvaluateResult` -/
structure EvaluateResult (F : Type) where
  evaluatedCampaigns : Nat
  opened : Nat
  updated : Nat
  autoResolved : Nat
  alerts : List (Alert F)
deriving DecidableEq

/-- `AlertService.evaluate`; the commit fails when a row does not fit. -/
def World.evaluate (s : World F) (clientId : Uuid) : Outcome (World F × EvaluateResult F) :=
  let live := s.live clientId
  let findings := s.findings fl clientId
  let pass := findings.foldl (Pass.take clientId live) ⟨s.alerts, s.nextId, 0, 0⟩
  let (alerts, autoResolved) := live.entries.foldl (autoResolve findings) (pass.alerts, 0)
  if ∀ f ∈ findings, f.Fits fl then
    .ok ({ s with alerts, nextId := pass.nextId },
      { evaluatedCampaigns := (s.campaignsOf clientId).length
        opened := pass.opened
        updated := pass.updated
        autoResolved := autoResolved
        alerts := (alerts.filter fun a =>
          decide (a.clientId = clientId ∧ a.status = .opened)).reverse })
  else .error (.other .dbapiError)

/-! ## Runs -/

/-- What happens to the tables. -/
inductive Step where
  | evaluate (clientId : Uuid)
  | acknowledge (clientId : Uuid) (alertId : Nat) (actorId : Uuid)
  | resolve (clientId : Uuid) (alertId : Nat) (actorId : Uuid)
  /-- Campaigns are written elsewhere; the alerts of a deleted one are deleted with it. -/
  | edit (campaigns : Campaigns)

/-- The tables after a step that may fail. -/
def World.kept (s : World F) : Outcome (World F) → World F
  | .ok s' => s'
  | .error _ => s

/-- The service over its runs, from no alerts. -/
def machine : Machine (World F) Step where
  start s := s.alerts = []
  next s
    | .evaluate clientId => some (s.kept ((s.evaluate fl clientId).map Prod.fst))
    | .acknowledge clientId alertId actorId =>
      some (s.kept (s.acknowledge clientId alertId actorId))
    | .resolve clientId alertId actorId => some (s.kept (s.resolve clientId alertId actorId))
    | .edit campaigns =>
      some { s with
        campaigns
        alerts := s.alerts.filter fun a =>
          a.campaignId.all fun id => campaigns.rows.any fun c => decide (c.id = id) }

end MarketingOS.AlertService
