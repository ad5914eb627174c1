import MarketingOS.Services.Integration

/-! # Syncing again after a failure

A sync and the sweep take connected integrations only, and a provider call that raises leaves
another status, so the first failure of an integration is the last time its provider is called
until somebody gives consent again. Here every retry of one integration is followed to the status
it leaves. -/
namespace MarketingOS.IntegrationService

/-! ## One row -/

/-- A row under a name with a stored token and a bound account. -/
structure Held (name : Uuid × IntegrationKey) (i : Integration) : Prop where
  named : i.name = name
  token : i.hasToken
  account : i.hasAccount

/-- A provider that answers: a renewal, the insights, and rows that pass their schema. -/
structure Attempt.Answers (a : Attempt) : Prop where
  renews : ∃ answer, a.renewed = .ok answer
  fetches : a.fetched = .ok ()
  stores : a.stored = .ok ()

/-- A provider call that raises nothing. -/
def CallSucceeds (a : Attempt) (i : Integration) : Prop := (fetchInsights a i).2 = .ok ()

/-- What a provider call leaves of the columns the guards read. -/
structure SameGuards (i i' : Integration) : Prop where
  named : i'.name = i.name
  status : i'.status = i.status
  token : i.hasToken → i'.hasToken
  account : i'.hasAccount = i.hasAccount

/-- A row has the guards it has. -/
theorem SameGuards.refl (i : Integration) : SameGuards i i := ⟨rfl, rfl, id, rfl⟩

/-- A renewal keeps the guards. -/
theorem renew_guards (i : Integration) (now : Timestamp) (answer : Option (String × Option Int)) :
    SameGuards i (renew i now answer) := by
  rcases answer with _ | ⟨token, expiresIn⟩
  · exact .refl i
  · by_cases missing : token = ""
    · simpa [renew, missing] using SameGuards.refl i
    · have renewed : renew i now (some (token, expiresIn)) = { i with
          accessTokenEncrypted := some token
          tokenExpiresAt := expiry now expiresIn } := by
        simp [renew, missing]
      rw [renewed]
      refine ⟨rfl, rfl, fun _ => ?_, rfl⟩
      simp [Integration.hasToken, missing]

/-- The Meta token is found without touching the guards. -/
theorem metaAccessToken_guards {a : Attempt} {i i' : Integration}
    (found : metaAccessToken a i = .ok i') : SameGuards i i' := by
  unfold metaAccessToken at found
  split at found
  · cases found
    exact .refl i
  · split at found
    · cases found
    · cases found
      exact .refl i
    · cases found
      exact renew_guards i a.now _

/-- The other tokens are found without touching the guards. -/
theorem refreshedAccessToken_guards {a : Attempt} {i i' : Integration}
    (found : refreshedAccessToken a i = .ok i') : SameGuards i i' := by
  unfold refreshedAccessToken at found
  split at found
  · cases found
    exact .refl i
  · cases renewed : a.renewed with
    | error e =>
      rw [renewed] at found
      cases found
    | ok answer =>
      rw [renewed] at found
      cases found
      exact renew_guards i a.now answer

/-- A provider call keeps the guards. -/
theorem fetchInsights_guards (a : Attempt) (i : Integration) :
    SameGuards i (fetchInsights a i).1 := by
  unfold fetchInsights
  split
  · exact .refl i
  · rename_i i' found
    split at found
    · exact metaAccessToken_guards found
    · exact refreshedAccessToken_guards found

/-- A provider that answers makes the call succeed. -/
theorem callSucceeds_of_answers {a : Attempt} (answers : a.Answers) (i : Integration) :
    CallSucceeds a i := by
  obtain ⟨answer, renews⟩ := answers.renews
  have metaFound : ∃ i', metaAccessToken a i = .ok i' := by
    unfold metaAccessToken
    rw [renews]
    split
    · exact ⟨i, rfl⟩
    · exact ⟨renew i a.now answer, rfl⟩
  have found : ∃ i', refreshedAccessToken a i = .ok i' := by
    unfold refreshedAccessToken
    rw [renews]
    split
    · exact ⟨i, rfl⟩
    · exact ⟨renew i a.now answer, rfl⟩
  obtain ⟨metaRow, metaFound⟩ := metaFound
  obtain ⟨row, found⟩ := found
  unfold CallSucceeds fetchInsights
  rw [metaFound, found]
  split <;> rename_i same <;> split at same <;> first | exact answers.fetches | cases same

/-- A sync of a row that is not connected is refused before the provider is called. -/
theorem syncRow_of_not_connected (a : Attempt) {i : Integration} (down : i.status ≠ .connected) :
    ∃ message, syncRow a i = (.refused message, i) := by
  unfold syncRow
  by_cases real : i.key ∈ realKeys
  · simp only [real, not_true_eq_false, ↓reduceIte, down, not_false_eq_true, ne_eq, true_or]
    exact ⟨_, rfl⟩
  · simp only [real, not_false_eq_true, ↓reduceIte]
    exact ⟨_, rfl⟩

/-- A sync of a row that a sweep does not list leaves it as it was. -/
theorem syncRow_of_not_listed (a : Attempt) {i : Integration}
    (unlisted : i.status = .connected → i.key ∉ realKeys) : (syncRow a i).2 = i := by
  by_cases up : i.status = .connected
  · simp [syncRow, unlisted up]
  · obtain ⟨message, refused⟩ := syncRow_of_not_connected a up
    rw [refused]

/-- What a sync that calls the provider leaves. -/
inductive SyncCall (a : Attempt) (i : Integration) : SyncOutcome × Integration → Prop where
  | failed {called : Integration} {e : SyncError}
    (fetched : fetchInsights a i = (called, .error e)) :
    SyncCall a i (.failed e, { called with
      status := failureStatus e
      lastError := some (clip 1000 e.message) })
  | unstored {called : Integration} {e : SyncError} (fetched : fetchInsights a i = (called, .ok ()))
    (stored : a.stored = .error e) : SyncCall a i (.unstored e, called)
  | synced {called : Integration} (fetched : fetchInsights a i = (called, .ok ()))
    (stored : a.stored = .ok ()) :
    SyncCall a i (.synced, { called with
      status := .connected
      lastSyncAt := some a.now
      lastError := none })

/-- A sync of a held and connected row calls the provider. -/
theorem syncRow_of_connected (a : Attempt) {i : Integration} {name : Uuid × IntegrationKey}
    (held : Held name i) (real : i.key ∈ realKeys) (up : i.status = .connected) :
    SyncCall a i (syncRow a i) := by
  have admitted : ¬(i.status ≠ .connected ∨ (!i.hasToken) = true) := by
    simp [up, held.token]
  have bound : ¬((i.key ∈ metaKeys ∨ i.key ∈ googleKeys) ∧ (!i.hasAccount) = true) := by
    simp [held.account]
  unfold syncRow
  rw [if_neg (not_not_intro real), if_neg admitted, if_neg bound]
  split
  · rename_i fetched
    exact .failed fetched
  · rename_i fetched
    split
    · rename_i stored
      exact .unstored fetched stored
    · rename_i stored
      exact .synced fetched stored

/-- The status of a failed sync is not the one the guards ask for. -/
theorem failureStatus_ne_connected (e : SyncError) : failureStatus e ≠ .connected := by
  cases e <;> simp [failureStatus]

/-- A sync keeps the name, the token and the account of a row. -/
theorem syncRow_held (a : Attempt) {i : Integration} {name : Uuid × IntegrationKey}
    (real : i.key ∈ realKeys) (held : Held name i) : Held name (syncRow a i).2 := by
  by_cases up : i.status = .connected
  · have guards := fetchInsights_guards a i
    have kept : Held name (fetchInsights a i).1 :=
      ⟨guards.named.trans held.named, guards.token held.token, guards.account.trans held.account⟩
    generalize left : syncRow a i = result
    have call := syncRow_of_connected a held real up
    rw [left] at call
    cases call with
    | failed fetched =>
      rw [fetched] at kept
      exact ⟨kept.named, kept.token, kept.account⟩
    | unstored fetched stored =>
      rw [fetched] at kept
      exact kept
    | synced fetched stored =>
      rw [fetched] at kept
      exact ⟨kept.named, kept.token, kept.account⟩
  · obtain ⟨message, refused⟩ := syncRow_of_not_connected a up
    rw [refused]
    exact held

/-- A sync leaves a row connected exactly when it was and the provider call succeeds. -/
theorem syncRow_connected_iff (a : Attempt) {i : Integration} {name : Uuid × IntegrationKey}
    (real : i.key ∈ realKeys) (held : Held name i) :
    (syncRow a i).2.status = .connected ↔ i.status = .connected ∧ CallSucceeds a i := by
  by_cases up : i.status = .connected
  · have guards := fetchInsights_guards a i
    generalize left : syncRow a i = result
    have call := syncRow_of_connected a held real up
    rw [left] at call
    cases call with
    | failed fetched => simp [CallSucceeds, fetched, failureStatus_ne_connected]
    | unstored fetched stored =>
      rw [fetched] at guards
      simpa [CallSucceeds, fetched, up] using guards.status.trans up
    | synced fetched stored => simp [CallSucceeds, fetched, up]
  · obtain ⟨message, refused⟩ := syncRow_of_not_connected a up
    simp [refused, up]

/-- A sync of a held and connected row whose provider answers records the sync. -/
theorem syncRow_answered {a : Attempt} {i : Integration} {name : Uuid × IntegrationKey}
    (real : i.key ∈ realKeys) (held : Held name i) (up : i.status = .connected)
    (answers : a.Answers) :
    (syncRow a i).1 = .synced ∧ (syncRow a i).2.status = .connected ∧
      (syncRow a i).2.lastSyncAt = some a.now := by
  have succeeded := callSucceeds_of_answers answers i
  generalize left : syncRow a i = result
  have call := syncRow_of_connected a held real up
  rw [left] at call
  cases call with
  | failed fetched =>
    rw [CallSucceeds, fetched] at succeeded
    cases succeeded
  | unstored fetched stored =>
    rw [answers.stores] at stored
    cases stored
  | synced fetched stored => exact ⟨rfl, rfl, rfl⟩

/-! ## The table -/

/-- A sync keeps the name of every row. -/
theorem syncRow_name (a : Attempt) (i : Integration) : (syncRow a i).2.name = i.name := by
  have named := (fetchInsights_guards a i).named
  unfold syncRow
  split
  · rfl
  · split
    · rfl
    · split
      · rfl
      · split <;> rename_i fetched <;> rw [fetched] at named
        · exact named
        · split
          · exact named
          · exact named

/-- A lookup after a sync finds the row found before, synced when it is the one synced. -/
theorem get_sync (clientId : Uuid) (key : IntegrationKey) (a : Attempt) (rows : List Integration)
    (name : Uuid × IntegrationKey) :
    Table.get Integration.name (sync clientId key a rows).2 name =
      (Table.get Integration.name rows name).map fun i =>
        if (clientId, key) = name then (syncRow a i).2 else i := by
  unfold sync
  cases found : Table.get Integration.name rows (clientId, key) with
  | none =>
    have untouched : (if key ∈ realKeys then
        (SyncOutcome.refused "Integration not configured.", rows)
        else (.refused (notReal key), rows)).2 = rows := by
      split <;> rfl
    simp only [untouched]
    by_cases same : (clientId, key) = name
    · subst same
      simp [found]
    · simp [same]
  | some i =>
    by_cases same : (clientId, key) = name
    · subst same
      simp only [onRow, ↓reduceIte]
      exact Table.get_modify_same fun row named => (syncRow_name a row).trans named
    · simp only [onRow, same, ↓reduceIte, Option.map_id']
      exact Table.get_modify_other (fun row named => (syncRow_name a row).trans named)
        (Ne.symm same)

/-- Syncing some providers of a client, each once, syncs each row at most once. -/
theorem get_foldl_sync (clientId : Uuid) (attempt : IntegrationKey → Attempt)
    (name : Uuid × IntegrationKey) (keys : List IntegrationKey) (once : keys.Nodup)
    (rows : List Integration) :
    Table.get Integration.name
        (keys.foldl (fun rows key => (sync clientId key (attempt key) rows).2) rows) name =
      (Table.get Integration.name rows name).map fun i =>
        if clientId = name.1 ∧ name.2 ∈ keys then (syncRow (attempt name.2) i).2 else i := by
  induction keys generalizing rows with
  | nil => simp
  | cons key keys ih =>
    obtain ⟨fresh, rest⟩ := List.nodup_cons.mp once
    rw [List.foldl_cons, ih rest, get_sync, Option.map_map]
    congr 1
    funext i
    obtain ⟨client, provider⟩ := name
    by_cases same : provider = key
    · subst same
      by_cases own : clientId = client <;> simp [fresh, own]
    · simp [same, Ne.symm same]

/-- A client's turn of the sweep syncs the rows of the client: a row it does not list is one a
sync refuses. -/
theorem get_sweepClient (attempt : IntegrationKey → Attempt) (clientId : Uuid)
    (rows : List Integration) (name : Uuid × IntegrationKey) :
    Table.get Integration.name (sweepClient attempt clientId rows) name =
      (Table.get Integration.name rows name).map fun i =>
        if clientId = name.1 then (syncRow (attempt name.2) i).2 else i := by
  have once : (connectedKeys rows clientId).Nodup := by
    apply List.Nodup.filter
    decide
  rw [sweepClient, get_foldl_sync clientId attempt name _ once]
  cases found : Table.get Integration.name rows name with
  | none => rfl
  | some i =>
    have named : i.name = name := Table.get_key found
    simp only [Option.map_some, Option.some.injEq]
    by_cases own : clientId = name.1
    · subst own
      by_cases listed : i.status = .connected ∧ name.2 ∈ realKeys
      · have member : name.2 ∈ connectedKeys rows name.1 := by
          simp only [connectedKeys, List.mem_filter]
          refine ⟨by cases name.2 <;> decide, ?_⟩
          simp [found, listed]
        simp [member]
      · rw [syncRow_of_not_listed (attempt name.2) fun up real => listed ⟨up, by simpa [← named]⟩]
        simp
    · simp [own]

/-- The sweep syncs the rows of the active clients. -/
theorem get_sweep (active : List Uuid) (once : active.Nodup)
    (attempt : Uuid → IntegrationKey → Attempt) (rows : List Integration)
    (name : Uuid × IntegrationKey) :
    Table.get Integration.name (sweep active attempt rows) name =
      (Table.get Integration.name rows name).map fun i =>
        if name.1 ∈ active then (syncRow (attempt name.1 name.2) i).2 else i := by
  unfold sweep
  induction active generalizing rows with
  | nil => simp
  | cons clientId active ih =>
    obtain ⟨fresh, rest⟩ := List.nodup_cons.mp once
    rw [List.foldl_cons, ih rest, get_sweepClient, Option.map_map]
    congr 1
    funext i
    by_cases own : clientId = name.1
    · subst own
      simp [fresh]
    · simp [own, Ne.symm own]

/-! ## Runs -/

/-- The name of the row an operation on one integration is for. -/
def Label.target : Label → Option (Uuid × IntegrationKey)
  | .connect clientId key _ _ _ _ => some (clientId, key)
  | .disconnect clientId key => some (clientId, key)
  | .oauthStart clientId key => some (clientId, key)
  | .oauthComplete clientId key _ _ => some (clientId, key)
  | .selectAccount clientId key _ _ _ => some (clientId, key)
  | .sync clientId key _ => some (clientId, key)
  | .sweep _ _ => none

/-- The operations of the retries of an integration: a sync, a sweep, a start of a consent, and
every operation of another integration. -/
def Retrying (name : Uuid × IntegrationKey) : Machine.Guard (List Integration) Label
  | _, .sync _ _ _ => True
  | _, .sweep _ _ => True
  | _, .oauthStart _ _ => True
  | _, label => label.target ≠ some name

/-- The operations that leave an integration connected: no consent of it is started, and no
provider call for it raises. -/
def Undisturbed (name : Uuid × IntegrationKey) : Machine.Guard (List Integration) Label
  | rows, .sync clientId key a =>
    (clientId, key) = name → ∀ i, Table.get Integration.name rows name = some i → CallSucceeds a i
  | rows, .sweep active attempt =>
    name.1 ∈ active →
      ∀ i, Table.get Integration.name rows name = some i → CallSucceeds (attempt name.1 name.2) i
  | _, label => label.target ≠ some name

/-- The next sync of an integration, and the next sweep over its client, call a provider that
answers and leave the integration connected and synced. -/
structure Recovers (name : Uuid × IntegrationKey) (rows : List Integration) : Prop where
  sync : ∀ a : Attempt, a.Answers → (sync name.1 name.2 a rows).1 = .synced ∧
    ∃ i, Table.get Integration.name (IntegrationService.sync name.1 name.2 a rows).2 name = some i ∧
      i.status = .connected ∧ i.lastSyncAt = some a.now
  sweep : ∀ active attempt, active.Nodup → name.1 ∈ active → (attempt name.1 name.2).Answers →
    ∃ i, Table.get Integration.name (IntegrationService.sweep active attempt rows) name = some i ∧
      i.status = .connected ∧ i.lastSyncAt = some (attempt name.1 name.2).now

/-- A held integration recovers exactly when it is connected. -/
theorem recovers_iff_connected {rows : List Integration} {name : Uuid × IntegrationKey}
    {i : Integration} (found : Table.get Integration.name rows name = some i)
    (real : i.key ∈ realKeys) (held : Held name i) :
    Recovers name rows ↔ i.status = .connected := by
  constructor
  · intro recovers
    have answers : Attempt.Answers ⟨0, .ok none, .ok (), .ok ()⟩ := ⟨⟨none, rfl⟩, rfl, rfl⟩
    obtain ⟨-, i', found', up, -⟩ := recovers.sync _ answers
    rw [get_sync, found] at found'
    obtain rfl := Option.some.inj found'
    simp only [↓reduceIte] at up
    exact ((syncRow_connected_iff _ real held).mp up).1
  · intro up
    constructor
    · intro a answers
      obtain ⟨synced, stays, recorded⟩ := syncRow_answered real held up answers
      refine ⟨?_, (syncRow a i).2, ?_, stays, recorded⟩
      · simp only [IntegrationService.sync, found, synced]
      · rw [get_sync, found]
        simp
    · intro active attempt once inside answers
      obtain ⟨-, stays, recorded⟩ := syncRow_answered real held up answers
      refine ⟨(syncRow (attempt name.1 name.2) i).2, ?_, stays, recorded⟩
      rw [get_sweep active once, found]
      simp [inside]

/-- A first sync after a consent keeps the name of a row. -/
theorem trySyncAfterConnect_name (a : Attempt) (i : Integration) :
    (trySyncAfterConnect a i).name = i.name := by
  unfold trySyncAfterConnect
  simp only
  split
  · exact syncRow_name a i
  · exact syncRow_name a i

/-- A completed consent keeps the name of a row. -/
theorem oauthCompleteRow_name (c : Consent) (a : Attempt) (i : Integration) :
    (oauthCompleteRow c a i).name = i.name := by
  unfold oauthCompleteRow
  split
  · rfl
  · exact trySyncAfterConnect_name a _

/-- The selection of an account keeps the name of a row. -/
theorem selectRow_name (account : Option (Option String × Option String))
    (loginCustomerId : Option String) (a : Attempt) (i : Integration) :
    (selectRow account loginCustomerId a i).name = i.name := by
  unfold selectRow
  split
  · rfl
  · split
    · rfl
    · split
      · rfl
      · rename_i i' found
        have named : i'.name = i.name := by
          split at found
          · cases found
            rfl
          · exact (refreshedAccessToken_guards found).named
        split
        · exact named
        · exact (trySyncAfterConnect_name a _).trans named

/-- An operation on another integration does not change a row. -/
theorem get_onRow_other {clientId : Uuid} {key : IntegrationKey} {name : Uuid × IntegrationKey}
    {change : Integration → Integration} {rows : List Integration}
    (apart : (clientId, key) ≠ name)
    (keeps : ∀ i, i.name = (clientId, key) → (change i).name = (clientId, key)) :
    Table.get Integration.name (onRow clientId key change rows) name =
      Table.get Integration.name rows name :=
  Table.get_modify_other keeps (Ne.symm apart)

/-- A row that is added when it is missing hides no row that was there. -/
theorem get_upsert {rows : List Integration} {name : Uuid × IntegrationKey} {i : Integration}
    (found : Table.get Integration.name rows name = some i) (clientId : Uuid)
    (key : IntegrationKey) :
    Table.get Integration.name (upsert rows clientId key) name = some i := by
  unfold upsert
  split
  · exact found
  · simp only [Table.get] at found ⊢
    simp [List.find?_append, found]

/-- What one operation of a retry leaves of an integration. -/
structure Retried (name : Uuid × IntegrationKey) (rows : List Integration) (label : Label)
    (i i' : Integration) : Prop where
  held : Held name i'
  connected : i'.status = .connected ↔ i.status = .connected ∧ Undisturbed name rows label

/-- An operation that leaves the row alone is one that does not disturb it. -/
theorem Retried.untouched {name : Uuid × IntegrationKey} {rows : List Integration} {label : Label}
    {i : Integration} (held : Held name i) (calm : Undisturbed name rows label) :
    Retried name rows label i i :=
  ⟨held, (and_iff_left calm).symm⟩

/-- An operation on another integration leaves the row where it was. -/
theorem retried_elsewhere {rows rows' : List Integration} {name : Uuid × IntegrationKey}
    {label : Label} {i : Integration} (held : Held name i) (calm : Undisturbed name rows label)
    (same : Table.get Integration.name rows' name = some i) :
    ∃ i', Table.get Integration.name rows' name = some i' ∧ Retried name rows label i i' :=
  ⟨i, same, .untouched held calm⟩

/-- A sync of an integration leaves it retried when a success of its call is what the operation
needs to be undisturbed. -/
theorem retried_by_sync (a : Attempt) {rows rows' : List Integration}
    {name : Uuid × IntegrationKey} {label : Label} {i : Integration}
    (found : Table.get Integration.name rows name = some i) (real : i.key ∈ realKeys)
    (held : Held name i)
    (calm : Undisturbed name rows label ↔
      ∀ i, Table.get Integration.name rows name = some i → CallSucceeds a i)
    (left : Table.get Integration.name rows' name = some (syncRow a i).2) :
    ∃ i', Table.get Integration.name rows' name = some i' ∧ Retried name rows label i i' := by
  refine ⟨(syncRow a i).2, left, syncRow_held a real held, ?_⟩
  rw [syncRow_connected_iff a real held, calm]
  constructor
  · rintro ⟨up, succeeds⟩
    refine ⟨up, fun j foundJ => ?_⟩
    obtain rfl := Option.some.inj (found.symm.trans foundJ)
    exact succeeds
  · rintro ⟨up, succeeds⟩
    exact ⟨up, succeeds i found⟩

/-- The step lemma: after an operation of a retry, an integration is connected exactly when it
was and the operation did not disturb it. -/
theorem next_retried {rows rows' : List Integration} {name : Uuid × IntegrationKey}
    {label : Label} {i : Integration} (meets : Retrying name rows label)
    (taken : machine.next rows label = some rows')
    (found : Table.get Integration.name rows name = some i) (real : i.key ∈ realKeys)
    (held : Held name i) :
    ∃ i', Table.get Integration.name rows' name = some i' ∧ Retried name rows label i i' := by
  cases label with
  | connect clientId key accountLabel externalAccountId scopes now =>
    have apart : (clientId, key) ≠ name := fun same => meets (congrArg some same)
    obtain rfl := Option.some.inj taken
    refine retried_elsewhere held ?_ ((get_onRow_other apart ?_).trans (get_upsert found _ _))
    · exact meets
    · exact fun _ named => named
  | disconnect clientId key =>
    have apart : (clientId, key) ≠ name := fun same => meets (congrArg some same)
    simp only [machine, next, Option.ite_none_right_eq_some, Option.some.injEq] at taken
    obtain ⟨-, rfl⟩ := taken
    refine retried_elsewhere held ?_ ((get_onRow_other apart ?_).trans found)
    · exact meets
    · exact fun _ named => named
  | oauthStart clientId key =>
    simp only [machine, next, Option.ite_none_right_eq_some, Option.some.injEq] at taken
    obtain ⟨-, rfl⟩ := taken
    have kept := get_upsert found clientId key
    by_cases same : (clientId, key) = name
    · refine ⟨{ i with status := .pending }, ?_, ⟨held.named, held.token, held.account⟩, ?_⟩
      · rw [same.symm] at kept ⊢
        refine (Table.get_modify_same fun _ named => ?_).trans (congrArg _ kept)
        exact named
      · simp [Undisturbed, Label.target, same]
    · refine retried_elsewhere held ?_ ((get_onRow_other same ?_).trans kept)
      · exact fun own => same (Option.some.inj own)
      · exact fun _ named => named
  | oauthComplete clientId key consent a =>
    have apart : (clientId, key) ≠ name := fun same => meets (congrArg some same)
    simp only [machine, next, Option.ite_none_right_eq_some, Option.some.injEq] at taken
    obtain ⟨-, rfl⟩ := taken
    refine retried_elsewhere held ?_ ((get_onRow_other apart ?_).trans (get_upsert found _ _))
    · exact meets
    · exact fun row named => (oauthCompleteRow_name consent a row).trans named
  | selectAccount clientId key account loginCustomerId a =>
    have apart : (clientId, key) ≠ name := fun same => meets (congrArg some same)
    obtain rfl := Option.some.inj taken
    refine retried_elsewhere held ?_ ((get_onRow_other apart ?_).trans found)
    · exact meets
    · exact fun row named => (selectRow_name account loginCustomerId a row).trans named
  | sync clientId key a =>
    obtain rfl := Option.some.inj taken
    by_cases same : (clientId, key) = name
    · apply retried_by_sync a found real held (by simp [Undisturbed, same])
      rw [get_sync, found]
      simp [same]
    · refine retried_elsewhere held ?_ ?_
      · exact fun own => absurd own same
      · rw [get_sync, found]
        simp [same]
  | sweep active attempt =>
    simp only [machine, next, Option.ite_none_right_eq_some, Option.some.injEq] at taken
    obtain ⟨once, rfl⟩ := taken
    by_cases inside : name.1 ∈ active
    · apply retried_by_sync (attempt name.1 name.2) found real held (by simp [Undisturbed, inside])
      rw [get_sweep active once, found]
      simp [inside]
    · refine retried_elsewhere held ?_ ?_
      · exact fun own => absurd own inside
      · rw [get_sweep active once, found]
        simp [inside]

/-- The run lemma: after the retries of a run, an integration is held, and it is connected
exactly when it was and no operation of the run disturbed it. -/
theorem run_retried {rows rows' : List Integration} {labels : List Label}
    {name : Uuid × IntegrationKey} {i : Integration} (real : name.2 ∈ realKeys)
    (run : machine.Run (Retrying name) rows labels rows')
    (found : Table.get Integration.name rows name = some i) (held : Held name i) :
    ∃ i', Table.get Integration.name rows' name = some i' ∧ Held name i' ∧
      (i'.status = .connected ↔
        i.status = .connected ∧ machine.Run (Undisturbed name) rows labels rows') := by
  induction run generalizing i with
  | nil rows =>
    exact ⟨i, found, held, (and_iff_left (.nil rows)).symm⟩
  | cons meets taken rest ih =>
    have own : i.key ∈ realKeys := by
      have named : i.key = name.2 := congrArg Prod.snd held.named
      rwa [named]
    obtain ⟨j, foundJ, retried⟩ := next_retried meets taken found own held
    obtain ⟨last, foundLast, heldLast, connected⟩ := ih foundJ retried.held
    refine ⟨last, foundLast, heldLast, ?_⟩
    rw [connected, retried.connected]
    constructor
    · rintro ⟨⟨up, calm⟩, later⟩
      exact ⟨up, .cons calm taken later⟩
    · rintro ⟨up, whole⟩
      cases whole with
      | cons calm taken' later =>
        obtain rfl := Option.some.inj (taken.symm.trans taken')
        exact ⟨⟨up, calm⟩, later⟩

/-- After a run of retries of an integration with a token and an account, the next sync and the
next sweep call its provider again exactly when it was connected at the start and the run did not
disturb it: no provider call for it raised, and no consent of it was started. -/
theorem recovers_iff_undisturbed {rows rows' : List Integration} {labels : List Label}
    {i : Integration} (found : Table.get Integration.name rows i.name = some i)
    (real : i.key ∈ realKeys) (token : i.hasToken) (account : i.hasAccount)
    (run : machine.Run (Retrying i.name) rows labels rows') :
    Recovers i.name rows' ↔
      i.status = .connected ∧ machine.Run (Undisturbed i.name) rows labels rows' := by
  obtain ⟨last, foundLast, held, connected⟩ := run_retried real run found ⟨rfl, token, account⟩
  have own : last.key ∈ realKeys := by
    have named : last.key = i.key := congrArg Prod.snd held.named
    rwa [named]
  rw [recovers_iff_connected foundLast own held, connected]

/-- A connected row with a token that does not expire, and an account. -/
def boundRow : Integration :=
  { Integration.new 1 .googleAds with
    status := .connected
    accessTokenEncrypted := some "token"
    externalAccountId := some "account" }

/-- A provider that answers at a time. -/
def answer (now : Timestamp) : Attempt := ⟨now, .ok none, .ok (), .ok ()⟩

/-- A provider that does not answer. -/
def timeout (now : Timestamp) : Attempt := ⟨now, .ok none, .error (.other "timeout"), .ok ()⟩

/-- A connected integration whose provider answered is synced again. -/
theorem recovers_after_answer :
    Recovers (1, .googleAds) (sync 1 .googleAds (answer 1) [boundRow]).2 := by
  have first : machine.Run (Retrying boundRow.name) [boundRow] [.sync 1 .googleAds (answer 1)]
      (sync 1 .googleAds (answer 1) [boundRow]).2 :=
    .cons trivial rfl (.nil _)
  have calm : machine.Run (Undisturbed boundRow.name) [boundRow] [.sync 1 .googleAds (answer 1)]
      (sync 1 .googleAds (answer 1) [boundRow]).2 := by
    refine .cons ?_ rfl (.nil _)
    intro _ i found
    obtain rfl := Option.some.inj found
    rfl
  exact (recovers_iff_undisturbed (i := boundRow) rfl (by decide) rfl rfl first).mpr ⟨rfl, calm⟩

/-- One sync that times out leaves a token and an account whose provider the next sync and the
next sweep do not call, although it answers. -/
theorem not_recovers_after_timeout :
    (sync 1 .googleAds (timeout 1) [boundRow]).1 = .failed (.other "timeout") ∧
      ¬Recovers (1, .googleAds) (sync 1 .googleAds (timeout 1) [boundRow]).2 ∧
      (sync 1 .googleAds (answer 2) (sync 1 .googleAds (timeout 1) [boundRow]).2).1 =
        .refused "Integration is not connected — run OAuth first." ∧
      sweep [1] (fun _ _ => answer 2) (sync 1 .googleAds (timeout 1) [boundRow]).2 =
        (sync 1 .googleAds (timeout 1) [boundRow]).2 := by
  refine ⟨by decide, ?_, by decide, by decide⟩
  intro recovers
  obtain ⟨synced, -⟩ := recovers.sync (answer 2) ⟨⟨none, rfl⟩, rfl, rfl⟩
  exact absurd synced (by decide)

end MarketingOS.IntegrationService
