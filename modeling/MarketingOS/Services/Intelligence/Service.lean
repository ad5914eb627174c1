import MarketingOS.Services.Intelligence.Orchestrator

/-!
# Intelligence service

An admin activates or dismisses a directive of any version, and the profile of the directive gets
its capability flags anew. Builds and resolutions are the transactions on the intelligence tables.
-/
namespace MarketingOS.Intelligence

/-- `get_owned` -/
def getOwned (directives : List ClientDirective) (clientId directiveId : Uuid) :
    Option ClientDirective :=
  directives.find? fun d => decide (d.id = directiveId ∧ d.clientId = clientId)

/-- The flags `_recompute_capability_flags` finds for a profile. -/
def recomputedFlags (directives : List ClientDirective) (profileId : Uuid) : Flags :=
  (((activeForProfile directives profileId).filter fun d => d.status = .active).map
    ClientDirective.flags).foldl foldFlags .empty

/-- A directive after an admin's decision. -/
def ClientDirective.resolved (activate : Bool) (d : ClientDirective) : ClientDirective :=
  { d with status := if activate then .active else .superseded }

/-- `resolve_directive`; nothing when the client has no such directive. -/
def resolveDirective (clientId directiveId : Uuid) (activate : Bool) (store : Store) :
    Option Store :=
  (getOwned store.directives clientId directiveId).map fun directive =>
    let directives :=
      Table.modify ClientDirective.id directive.id (ClientDirective.resolved activate)
        store.directives
    { store with
      directives
      profiles := Table.modify ClientProfile.id directive.profileId
        (fun p => { p with capabilityFlags := recomputedFlags directives directive.profileId })
        store.profiles }

/-- One transaction on the intelligence tables. -/
inductive Label where
  | build (run : BuildRun)
  | resolve (clientId directiveId : Uuid) (activate : Bool)

/-- Builds and resolutions as transactions in stages. -/
def transactions (tables : TextTables) (kit : Toolkit) : Transaction Store Draft Label where
  draft _ store := .start store
  stages
    | .build run => buildStages tables kit run
    | .resolve clientId directiveId activate =>
      [fun d => (resolveDirective clientId directiveId activate d.store).map fun store =>
        { d with store }]
  finish := Draft.store

/-- No profile, no directive and no source yet. -/
def Store.Blank (store : Store) : Prop :=
  (∀ client, store.current client = none) ∧ store.profiles = [] ∧ store.directives = [] ∧
    store.sources = []

/-- Whole builds and resolutions, from a blank store. -/
def machine (tables : TextTables) (kit : Toolkit) : Machine Store Label :=
  (transactions tables kit).atomic Store.Blank

/-- Builds and resolutions stage by stage, any of which may fail anywhere. -/
def sessions (tables : TextTables) (kit : Toolkit) :
    Machine (Transaction.Session Store Draft) (Transaction.Move Label) :=
  (transactions tables kit).sessions Store.Blank

end MarketingOS.Intelligence
