import MarketingOS.Services.Onboarding

/-!
# Compliance register

The register is additive, and its entries are what the pipeline compiles into directives. Every
change of an entry leaves a build of the client in the same transaction, and so does a sync, which
changes nothing and does not wait.
-/
namespace MarketingOS

/-- `ComplianceEntryCreate` -/
structure ComplianceEntryCreate where
  kind : ComplianceKind
  text : BoundedText 1 maxText

/-- `ComplianceEntryUpdate` -/
structure ComplianceEntryUpdate where
  kind : Patch ComplianceKind
  text : Patch (BoundedText 1 maxText)
  isActive : Patch Bool

namespace ComplianceService

open OnboardingService

/-- `get_entry` -/
def getEntry (record : ClientRecord) (entryId : Uuid) : Outcome RegisterEntry :=
  match Table.get RegisterEntry.id record.complianceEntries entryId with
  | none => notFound "Compliance entry not found."
  | some entry => .ok entry

/-- A write to the register and the build it leaves: `_enqueue_rebuild` and the commit. -/
def saveRegister (env : Environment) (tick : Tick) (debounceSeconds : Int) (t : OnboardingTables)
    (record : ClientRecord) (write : List RegisterEntry → List RegisterEntry) :
    Outcome ClientRecord × OnboardingTables :=
  saveClient env tick (.other .dbapiError) .incremental (some ["compliance"]) debounceSeconds
    (fun row => { row with complianceEntries := write row.complianceEntries }) t record

/-- `create_entry` -/
def createEntry (env : Environment) (tick : Tick) (t : OnboardingTables) (record : ClientRecord)
    (data : ComplianceEntryCreate) : Outcome RegisterEntry × OnboardingTables :=
  let entry : RegisterEntry := ⟨tick.rowId, ⟨data.kind, strip data.text.val, true⟩⟩
  let (saved, t) := saveRegister env tick 5 t record fun entries => entries ++ [entry]
  (saved.map fun _ => entry, t)

/-- The assignments of `update_entry`; a field sent as null is not applied. -/
def ComplianceEntryUpdate.apply (data : ComplianceEntryUpdate) (row : RegisterEntry) :
    RegisterEntry :=
  { row with entry := {
      kind := data.kind.read.getD row.entry.kind
      text := (data.text.read.map fun text => strip text.val).getD row.entry.text
      isActive := data.isActive.read.getD row.entry.isActive } }

/-- `update_entry` — leaves a build also when nothing is sent. -/
def updateEntry (env : Environment) (tick : Tick) (t : OnboardingTables) (record : ClientRecord)
    (entryId : Uuid) (data : ComplianceEntryUpdate) : Outcome RegisterEntry × OnboardingTables :=
  match getEntry record entryId with
  | .error exc => (.error exc, t)
  | .ok entry =>
    let (saved, t) := saveRegister env tick 5 t record
      (Table.modify RegisterEntry.id entryId (ComplianceEntryUpdate.apply data))
    (saved.map fun _ => ComplianceEntryUpdate.apply data entry, t)

/-- `delete_entry` -/
def deleteEntry (env : Environment) (tick : Tick) (t : OnboardingTables) (record : ClientRecord)
    (entryId : Uuid) : Outcome Unit × OnboardingTables :=
  match getEntry record entryId with
  | .error exc => (.error exc, t)
  | .ok _ =>
    let (saved, t) := saveRegister env tick 5 t record (Table.remove RegisterEntry.id entryId)
    (saved.map fun _ => (), t)

/-- `sync` — the status it answers with is left out. -/
def sync (env : Environment) (tick : Tick) (t : OnboardingTables) (record : ClientRecord) :
    Outcome Unit × OnboardingTables :=
  let (saved, t) := saveRegister env tick 0 t record id
  (saved.map fun _ => (), t)

end ComplianceService

end MarketingOS
