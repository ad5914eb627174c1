import MarketingOS.Services.SyncSession
import MarketingOS.Verif.IntegrationRetry

/-!
# What a sync records

A sync leaves the outcome it reports on its row, and the days it fetched with a success only,
exactly when every day passes its schema and no statement that is sent fails. A statement that fails
stops the session: the outcome is then not recorded, although the insights it may come from are not
needed for the sync.
-/
namespace MarketingOS.SyncSession

open IntegrationService DbSession
open ClientRollup (Rollup bulkUpsert refreshClientRollups seen)

variable {ι : Type} {quotient : ℚ → Int → ℚ} {r : Run ι} {i : Integration} {t : SyncTables ι}

/-! ## Statement -/

/-- The row a pull goes on with, or the exception it ends in. -/
def pulled (a : Attempt) (i : Integration) : Except SyncError Integration :=
  (accessToken a i).bind fun held => a.fetched.map fun _ => held

/-- The facts of the pull, in the tables. -/
def ingested (r : Run ι) (i : Integration) (t : SyncTables ι) : SyncTables ι :=
  ingest i.clientId i.key r.rows t

/-- No statement fails that stores a pull. The rollup is sent with the insights when it differs. -/
structure Stores (quotient : ℚ → Int → ℚ) (r : Run ι) (i : Integration) (t : SyncTables ι) :
    Prop where
  ingest : r.faults .ingest = none
  insights : i.key ∉ linkedinKeys → r.faults .insights = none
  insightsCommit : i.key ∉ linkedinKeys → r.insightsRaise = false →
    t.rollups i.clientId ≠ computed quotient i.clientId (ingested r i t) →
    r.faults .insightsCommit = none
  outcome : r.faults .outcome = none
  refresh : r.faults .refresh = none

/-- No statement fails that a sync sends. -/
structure Undisturbed (quotient : ℚ → Int → ℚ) (r : Run ι) (i : Integration)
    (t : SyncTables ι) : Prop where
  load : r.faults .load = none
  renewal : refused i = none → ∀ held, accessToken r.attempt i = .ok held → held ≠ i →
    r.faults .renewal = none ∧ (i.key = .googleAds → r.faults .reload = none)
  failure : refused i = none → ∀ e, pulled r.attempt i = .error e → r.faults .failure = none
  stores : refused i = none → ∀ held, pulled r.attempt i = .ok held →
    r.attempt.stored = .ok () → Stores quotient r i t

/-- The row of an integration, in the tables. -/
def row (name : Uuid × IntegrationKey) (t : SyncTables ι) : Option Integration :=
  Table.get Integration.name t.integrations name

/-- What a sync leaves is what it reports: the success and every day that was fetched, or the
failure and no day. -/
def Recorded (r : Run ι) (i : Integration) (t : SyncTables ι)
    (result : Except SyncError Unit × DbSession (SyncTables ι)) : Prop :=
  ∃ left ∈ row i.name result.2.committed, match result.1 with
    | .ok () => left.status = .connected ∧ left.lastSyncAt = some r.attempt.now ∧
      left.lastError = none ∧ result.2.committed.facts = (ingested r i t).facts
    | .error e => left.status = failureStatus e ∧
      left.lastError = some (clip 1000 e.message) ∧ result.2.committed.facts = t.facts

/-! ## Rows -/

section Rows

variable {name : Uuid × IntegrationKey} {change : Integration → Integration}

/-- A token keeps the name of a row. -/
theorem name_holdToken (held i : Integration) : (holdToken held i).name = i.name := rfl

/-- A failure keeps the name of a row. -/
theorem name_holdFailure (e : SyncError) (i : Integration) :
    (holdFailure e i).name = i.name := rfl

/-- An outcome keeps the name of a row. -/
theorem name_holdOutcome (now : Timestamp) (i : Integration) :
    (holdOutcome now i).name = i.name := rfl

/-- The row after a write to it. -/
theorem row_onIntegration (keeps : ∀ i, (change i).name = i.name) :
    row name (onIntegration name change t) = (row name t).map change :=
  Table.get_modify_same fun i same => (keeps i).trans same

/-- The other rows after a write. -/
theorem row_onIntegration_other {other : Uuid × IntegrationKey}
    (keeps : ∀ i, (change i).name = i.name) (apart : other ≠ name) :
    row other (onIntegration name change t) = row other t :=
  Table.get_modify_other (fun i same => (keeps i).trans same) apart

/-- The row of an integration is connected. -/
def Up (name : Uuid × IntegrationKey) (t : SyncTables ι) : Prop :=
  (row name t).map Integration.status = some .connected

/-- The row of a connected integration is connected. -/
theorem up_of_row {i : Integration} (found : row i.name t = some i)
    (status : i.status = .connected) : Up i.name t := by
  rw [Up, found]
  exact congrArg some status

/-- A write that leaves a connected row connected keeps it. -/
theorem Up.onIntegration (up : Up name t) (keeps : ∀ i, (change i).name = i.name)
    (stays : ∀ i, i.status = .connected → (change i).status = .connected) :
    Up name (onIntegration name change t) := by
  obtain ⟨i, found, status⟩ := Option.map_eq_some_iff.mp up
  rw [Up, row_onIntegration keeps, found]
  exact congrArg some (stays i status)

/-- A session that refuses everything, with the row connected. -/
def Stopped (name : Uuid × IntegrationKey) (s : DbSession (SyncTables ι)) : Prop :=
  s.status ≠ .ready ∧ Up name s.committed

end Rows

/-! ## Rollups -/

section Rollups

variable {clientId : Uuid} {rollup : Option Rollup}

/-- Setting the rollup that is there changes nothing. -/
theorem setRollup_self (same : t.rollups clientId = rollup) : setRollup clientId rollup t = t := by
  have columns : (fun other => if other = clientId then rollup else t.rollups other) =
      t.rollups := by
    funext other
    split
    · next own => rw [own, same]
    · rfl
  simp only [setRollup, columns]

/-- A rollup that is set once is set. -/
theorem setRollup_setRollup :
    setRollup clientId rollup (setRollup clientId rollup t) = setRollup clientId rollup t :=
  setRollup_self (if_pos rfl)

/-- A flush of the rollup that differs, or none, sets it. -/
theorem flushed_rollup :
    (if decide (t.rollups clientId ≠ rollup) = true then setRollup clientId rollup t else t) =
      setRollup clientId rollup t := by
  split
  · rfl
  · next same => exact (setRollup_self (by simpa using same)).symm

end Rollups

/-! ## Steps -/

section Steps

variable {held : Integration} {e : SyncError} {rollup : Option Rollup}
  {s : DbSession (SyncTables ι)}

/-- The tables after the token step. -/
def tokenStored (i held : Integration) (t : SyncTables ι) : SyncTables ι :=
  if held = i then t else onIntegration i.name (holdToken held) t

/-- A connected row is connected after the token step. -/
theorem Up.tokenStored (up : Up i.name t) : Up i.name (tokenStored i held t) := by
  unfold SyncSession.tokenStored
  split
  · exact up
  · exact up.onIntegration (name_holdToken held) fun _ status => status

/-- A statement of a stage without a fault does not fail. -/
theorem fault_none {stage : Stage} (clean : r.faults stage = none) : r.fault stage = none := by
  rw [Run.fault, clean, Option.map_none]

/-- A statement of a stage with a fault fails. -/
theorem fault_some {stage : Stage} (faulty : r.faults stage ≠ none) :
    ∃ e, r.fault stage = some e := by
  obtain ⟨text, found⟩ := Option.ne_none_iff_exists'.mp faulty
  exact ⟨.other text, by rw [Run.fault, found, Option.map_some]⟩

/-- A renewed token is stored. -/
theorem storeToken_clean
    (clean : held ≠ i → r.faults .renewal = none ∧ (i.key = .googleAds → r.faults .reload = none)) :
    storeToken r i held (opened t) = (.ok (), opened (tokenStored i held t)) := by
  unfold storeToken tokenStored
  by_cases same : held = i
  · rw [if_pos same, if_pos same]
  · obtain ⟨renewal, reload⟩ := clean same
    rw [if_neg same, if_neg same, commit_ready rfl fun _ => fault_none renewal]
    dsimp only
    split
    · next ads =>
      rw [fault_none (reload ads), execute_ready rfl]
      rfl
    · rfl

/-- A token that is not stored stops the session. -/
theorem storeToken_stops (up : Up i.name t)
    (fails : ¬(held ≠ i →
      r.faults .renewal = none ∧ (i.key = .googleAds → r.faults .reload = none))) :
    ∃ e s, storeToken r i held (opened t) = (.error e, s) ∧ Stopped i.name s := by
  rw [Classical.not_imp] at fails
  obtain ⟨apart, fails⟩ := fails
  unfold storeToken
  rw [if_neg apart]
  by_cases renewal : r.faults .renewal = none
  · rw [Classical.not_and_iff_not_or_not] at fails
    obtain ⟨ads, reload⟩ := Classical.not_imp.mp (fails.resolve_left (not_not_intro renewal))
    obtain ⟨e, fault⟩ := fault_some reload
    rw [commit_ready rfl fun _ => fault_none renewal]
    dsimp only
    rw [if_pos ads, fault, execute_fault rfl]
    exact ⟨e, _, rfl, SessionStatus.noConfusion,
      up.onIntegration (name_holdToken held) fun _ status => status⟩
  · obtain ⟨e, fault⟩ := fault_some renewal
    rw [fault, commit_fault rfl]
    exact ⟨e, _, rfl, SessionStatus.noConfusion, up⟩

/-- The row with the token of a sync differs in its token only. -/
theorem holdToken_self {a : Attempt} (found : accessToken a i = .ok held) :
    holdToken held i = held := by
  have renewed (answer : Option (String × Option Int)) :
      holdToken (renew i a.now answer) i = renew i a.now answer := by
    unfold renew
    split
    · rfl
    · split <;> rfl
  unfold accessToken at found
  split at found
  · unfold metaAccessToken at found
    split at found
    · cases found
      rfl
    · split at found
      · cases found
      · cases found
        rfl
      · cases found
        exact renewed _
  · unfold refreshedAccessToken at found
    split at found
    · cases found
      rfl
    · cases answered : a.renewed with
      | error e =>
        rw [answered] at found
        cases found
      | ok answer =>
        rw [answered] at found
        cases found
        exact renewed answer

/-- The tables after the token step of a sync. -/
def tokenTables (a : Attempt) (i : Integration) (t : SyncTables ι) : SyncTables ι :=
  match accessToken a i with
  | .error _ => t
  | .ok held => tokenStored i held t

/-- A fetch that no statement disturbs. -/
theorem fetch_clean (clean : ∀ held, accessToken r.attempt i = .ok held → held ≠ i →
      r.faults .renewal = none ∧ (i.key = .googleAds → r.faults .reload = none)) :
    fetch r i (opened t) = (pulled r.attempt i, opened (tokenTables r.attempt i t)) := by
  unfold fetch pulled tokenTables
  cases token : accessToken r.attempt i with
  | error e => rfl
  | ok held =>
    dsimp only
    rw [storeToken_clean (clean held token)]
    rfl

/-- A fetch that a statement disturbs stops the session. -/
theorem fetch_stops (up : Up i.name t) (fails : ¬∀ held, accessToken r.attempt i = .ok held →
      held ≠ i → r.faults .renewal = none ∧ (i.key = .googleAds → r.faults .reload = none)) :
    ∃ e s, fetch r i (opened t) = (.error e, s) ∧ Stopped i.name s := by
  obtain ⟨held, fails⟩ := Classical.not_forall.mp fails
  obtain ⟨token, fails⟩ := Classical.not_imp.mp fails
  obtain ⟨e, s, stored, stopped⟩ := storeToken_stops (r := r) up fails
  refine ⟨e, s, ?_, stopped⟩
  unfold fetch
  rw [token]
  dsimp only
  rw [stored]

/-- A failure is recorded. -/
theorem recordFailure_clean (clean : r.faults .failure = none) :
    recordFailure r i e (opened t) =
      (.error e, opened (onIntegration i.name (holdFailure e) t)) := by
  unfold recordFailure
  rw [commit_ready rfl fun _ => fault_none clean]
  rfl

/-- A failure that is not recorded stops the session. -/
theorem recordFailure_stops (up : Up i.name t) (fails : r.faults .failure ≠ none) :
    ∃ e' s, recordFailure r i e (opened t) = (.error e', s) ∧ Stopped i.name s := by
  obtain ⟨e', fault⟩ := fault_some fails
  unfold recordFailure
  rw [fault, commit_fault rfl]
  exact ⟨e', _, rfl, SessionStatus.noConfusion, up⟩

/-- In a session that is stopped no failure is recorded. -/
theorem recordFailure_stopped (stopped : Stopped i.name s) :
    ∃ e' s', recordFailure r i e s = (.error e', s') ∧ Stopped i.name s' := by
  obtain ⟨down, up⟩ := stopped
  unfold recordFailure
  obtain ⟨left, refused, committed, status⟩ := commit_refused (r.refusal .failure)
    (r.fault .failure) (onIntegration i.name (holdFailure e)) down
  rw [refused]
  refine ⟨_, left, rfl, ?_, ?_⟩
  · rw [status]
    exact SessionStatus.noConfusion
  · rw [committed]
    exact up

/-- The insights of a pull, written; LinkedIn has none. -/
def insightsIn (r : Run ι) (i : Integration) (t : SyncTables ι) : SyncTables ι :=
  if i.key ∈ linkedinKeys then t else writeInsights r.insights t

/-- Insights that no statement disturbs leave a session that can go on, where the rollup is flushed
or still to be. -/
theorem syncInsights_clean {w : SyncTables ι} (up : Up i.name t) (written : Up i.name w)
    (insights : i.key ∉ linkedinKeys → r.faults .insights = none)
    (commits : i.key ∉ linkedinKeys → r.insightsRaise = false →
      w.rollups i.clientId ≠ rollup → r.faults .insightsCommit = none) :
    ∃ s, syncInsights r i rollup ⟨t, w, .ready⟩ = s ∧ s.status = .ready ∧ Up i.name s.committed ∧
      Up i.name s.working ∧ setRollup i.clientId rollup s.working =
        setRollup i.clientId rollup (insightsIn r i w) := by
  unfold syncInsights insightsIn
  by_cases linkedin : i.key ∈ linkedinKeys
  · rw [if_pos linkedin, if_pos linkedin]
    exact ⟨_, rfl, rfl, up, written, rfl⟩
  · rw [if_neg linkedin, if_neg linkedin, fault_none (insights linkedin), execute_ready rfl]
    dsimp only
    cases raises : r.insightsRaise with
    | true => exact ⟨_, rfl, rfl, up, written, rfl⟩
    | false =>
      have flushes : decide ((writeInsights r.insights w).rollups i.clientId ≠ rollup) = true →
          r.fault .insightsCommit = none := fun differs =>
        fault_none (commits linkedin raises (of_decide_eq_true differs))
      rw [if_neg Bool.false_ne_true, commit_ready rfl flushes, flushed_rollup]
      exact ⟨_, rfl, rfl, written, written, setRollup_setRollup⟩

/-- Insights that a statement disturbs stop the session. -/
theorem syncInsights_stops {w : SyncTables ι} (up : Up i.name t)
    (fails : ¬((i.key ∉ linkedinKeys → r.faults .insights = none) ∧
      (i.key ∉ linkedinKeys → r.insightsRaise = false →
        w.rollups i.clientId ≠ rollup → r.faults .insightsCommit = none))) :
    Stopped i.name (syncInsights r i rollup ⟨t, w, .ready⟩) := by
  have other : i.key ∉ linkedinKeys := by
    intro linkedin
    exact fails ⟨fun other => absurd linkedin other, fun other => absurd linkedin other⟩
  unfold syncInsights
  rw [if_neg other]
  by_cases insights : r.faults .insights = none
  · have fails : ¬(r.insightsRaise = false → w.rollups i.clientId ≠ rollup →
        r.faults .insightsCommit = none) :=
      fun commits => fails ⟨fun _ => insights, fun _ => commits⟩
    obtain ⟨raises, fails⟩ := Classical.not_imp.mp fails
    obtain ⟨differs, fails⟩ := Classical.not_imp.mp fails
    obtain ⟨e, fault⟩ := fault_some fails
    have dirty : decide ((writeInsights r.insights w).rollups i.clientId ≠ rollup) = true :=
      decide_eq_true differs
    rw [fault_none insights, execute_ready rfl]
    dsimp only
    rw [raises, if_neg Bool.false_ne_true, dirty, fault, commit_fault rfl]
    exact ⟨SessionStatus.noConfusion, up⟩
  · obtain ⟨e, fault⟩ := fault_some insights
    rw [fault, execute_fault rfl]
    exact ⟨SessionStatus.noConfusion, up⟩

/-- A sync whose clock has moved has something to record. -/
theorem outcome_dirty {now : Timestamp} (moved : i.lastSyncAt ≠ some now) (differs : Prop)
    [Decidable differs] : decide (holdOutcome now i ≠ i ∨ differs) = true := by
  refine decide_eq_true (.inl fun same => moved ?_)
  rw [← same]
  rfl

/-- The outcome is recorded. -/
theorem recordOutcome_clean (ready : s.status = .ready) (moved : i.lastSyncAt ≠ some r.attempt.now)
    (outcome : r.faults .outcome = none) (refresh : r.faults .refresh = none) :
    recordOutcome r i rollup s = (.ok (), opened (onIntegration i.name
      (holdOutcome r.attempt.now) (setRollup i.clientId rollup s.working))) := by
  unfold recordOutcome
  rw [outcome_dirty moved, commit_ready ready fun _ => fault_none outcome]
  dsimp only
  rw [fault_none refresh, execute_ready rfl]
  rfl

/-- An outcome that is not recorded, or not read back, stops the session. -/
theorem recordOutcome_stops (ready : s.status = .ready) (up : Up i.name s.committed)
    (written : Up i.name s.working) (moved : i.lastSyncAt ≠ some r.attempt.now)
    (fails : ¬(r.faults .outcome = none ∧ r.faults .refresh = none)) :
    ∃ e s', recordOutcome r i rollup s = (.error e, s') ∧ Stopped i.name s' := by
  unfold recordOutcome
  rw [outcome_dirty moved]
  by_cases outcome : r.faults .outcome = none
  · obtain ⟨e, fault⟩ := fault_some fun refresh => fails ⟨outcome, refresh⟩
    rw [commit_ready ready fun _ => fault_none outcome]
    dsimp only
    rw [fault, execute_fault rfl]
    refine ⟨e, _, rfl, SessionStatus.noConfusion, ?_⟩
    exact written.onIntegration (name_holdOutcome _) fun _ _ => rfl
  · obtain ⟨e, fault⟩ := fault_some outcome
    rw [fault, commit_fault ready]
    exact ⟨e, _, rfl, SessionStatus.noConfusion, up⟩

/-- In a session that is stopped no outcome is recorded. -/
theorem recordOutcome_stopped (stopped : Stopped i.name s)
    (moved : i.lastSyncAt ≠ some r.attempt.now) :
    ∃ e s', recordOutcome r i rollup s = (.error e, s') ∧ Stopped i.name s' := by
  obtain ⟨down, up⟩ := stopped
  unfold recordOutcome
  rw [outcome_dirty moved]
  obtain ⟨left, refused, committed, status⟩ := commit_refused (r.refusal .outcome)
    (r.fault .outcome)
    (setRollup i.clientId rollup ∘ onIntegration i.name (holdOutcome r.attempt.now)) down
  rw [refused]
  refine ⟨_, left, rfl, ?_, ?_⟩
  · rw [status]
    exact SessionStatus.noConfusion
  · rw [committed]
    exact up

/-- The tables after a pull is stored. -/
def storedTables (quotient : ℚ → Int → ℚ) (r : Run ι) (i : Integration) (t : SyncTables ι) :
    SyncTables ι :=
  onIntegration i.name (holdOutcome r.attempt.now)
    (setRollup i.clientId (computed quotient i.clientId (ingested r i t))
      (insightsIn r i (ingested r i t)))

/-- A pull that no statement disturbs is stored. -/
theorem store_clean (up : Up i.name t) (moved : i.lastSyncAt ≠ some r.attempt.now)
    (clean : Stores quotient r i t) :
    store quotient r i (opened t) = (.ok (), opened (storedTables quotient r i t)) := by
  obtain ⟨s, left, ready, -, -, same⟩ := syncInsights_clean (w := ingested r i t) up up
    clean.insights clean.insightsCommit
  have ingests : (opened t).execute (r.refusal .ingest) (r.fault .ingest)
      (ingest i.clientId i.key r.rows) = (.ok (), ⟨t, ingested r i t, .ready⟩) := by
    rw [fault_none clean.ingest, execute_ready rfl]
    rfl
  unfold store storedTables
  rw [ingests]
  dsimp only
  rw [left, recordOutcome_clean ready moved clean.outcome clean.refresh, same]

/-- A pull that a statement disturbs stops the session. -/
theorem store_stops (up : Up i.name t) (moved : i.lastSyncAt ≠ some r.attempt.now)
    (fails : ¬Stores quotient r i t) :
    ∃ e s, store quotient r i (opened t) = (.error e, s) ∧ Stopped i.name s := by
  unfold store
  by_cases ingests : r.faults .ingest = none
  · have written : (opened t).execute (r.refusal .ingest) (r.fault .ingest)
        (ingest i.clientId i.key r.rows) = (.ok (), ⟨t, ingested r i t, .ready⟩) := by
      rw [fault_none ingests, execute_ready rfl]
      rfl
    rw [written]
    dsimp only
    by_cases insights : (i.key ∉ linkedinKeys → r.faults .insights = none) ∧
        (i.key ∉ linkedinKeys → r.insightsRaise = false →
          (ingested r i t).rollups i.clientId ≠ computed quotient i.clientId (ingested r i t) →
          r.faults .insightsCommit = none)
    · obtain ⟨s, left, ready, committed, working, -⟩ := syncInsights_clean
        (w := ingested r i t) up up insights.1 insights.2
      rw [left]
      refine recordOutcome_stops ready committed working moved fun clean => fails ?_
      exact ⟨ingests, insights.1, insights.2, clean.1, clean.2⟩
    · exact recordOutcome_stopped (syncInsights_stops up insights) moved
  · obtain ⟨e, fault⟩ := fault_some ingests
    rw [fault, execute_fault rfl]
    exact ⟨e, _, rfl, SessionStatus.noConfusion, up⟩

end Steps

/-! ## Syncs -/

section Syncs

/-- A sync whose statements do not fail. -/
def plain (quotient : ℚ → Int → ℚ) (r : Run ι) (i : Integration) (t : SyncTables ι) :
    Except SyncError Unit × SyncTables ι :=
  match refused i with
  | some message => (.error (.app message), t)
  | none =>
    match pulled r.attempt i with
    | .error e => (.error e,
        onIntegration i.name (holdFailure e) (tokenTables r.attempt i t))
    | .ok held =>
      match r.attempt.stored with
      | .error e => (.error e, tokenTables r.attempt i t)
      | .ok () => (.ok (), storedTables quotient r held (tokenTables r.attempt i t))

/-- A connected row is connected after the token step. -/
theorem Up.tokenTables {a : Attempt} (up : Up i.name t) : Up i.name (tokenTables a i t) := by
  unfold SyncSession.tokenTables
  split
  · exact up
  · exact up.tokenStored

/-- The token step does not touch the facts. -/
theorem facts_tokenTables {a : Attempt} : (tokenTables a i t).facts = t.facts := by
  unfold tokenTables tokenStored
  split
  · rfl
  · split <;> rfl

/-- The token step does not touch the rollups. -/
theorem rollups_tokenTables {a : Attempt} : (tokenTables a i t).rollups = t.rollups := by
  unfold tokenTables tokenStored
  split
  · rfl
  · split <;> rfl

/-- A pull goes on with the row that holds its token. -/
theorem accessToken_of_pulled {a : Attempt} {held : Integration} (found : pulled a i = .ok held) :
    accessToken a i = .ok held := by
  unfold pulled at found
  cases token : accessToken a i with
  | error e =>
    rw [token] at found
    cases found
  | ok row =>
    rw [token] at found
    cases fetched : a.fetched with
    | error e =>
      rw [fetched] at found
      cases found
    | ok done =>
      rw [fetched] at found
      exact found

/-- A pull goes on with the names of its row. -/
theorem named_of_pulled {a : Attempt} {held : Integration} (found : pulled a i = .ok held) :
    held.clientId = i.clientId ∧ held.key = i.key ∧ held.lastSyncAt = i.lastSyncAt := by
  have same : holdToken held i = held := holdToken_self (accessToken_of_pulled found)
  rw [← same]
  exact ⟨rfl, rfl, rfl⟩

/-- Whether a statement fails that stores a pull is decided by the names, the facts and the
rollups. -/
theorem Stores.congr {i' : Integration} {t' : SyncTables ι} (client : i'.clientId = i.clientId)
    (key : i'.key = i.key) (facts : t'.facts = t.facts) (rollups : t'.rollups = t.rollups)
    (stores : Stores quotient r i t) : Stores quotient r i' t' := by
  have ingests : (ingested r i' t').facts = (ingested r i t).facts := by
    simp only [ingested, SyncSession.ingest, facts, client, key]
  have rollup : computed quotient i'.clientId (ingested r i' t') =
      computed quotient i.clientId (ingested r i t) := by
    have columns : (ingested r i' t').rollups = (ingested r i t).rollups := rollups
    simp only [computed, ingests, columns, client]
  obtain ⟨ingest, insights, insightsCommit, outcome, refresh⟩ := stores
  refine ⟨ingest, ?_, ?_, outcome, refresh⟩
  · rw [key]
    exact insights
  · rw [key, rollup, rollups, client]
    exact insightsCommit

/-- The token of a pull decides nothing about the statements that store it. -/
theorem stores_pulled_iff {held : Integration} (found : pulled r.attempt i = .ok held) :
    Stores quotient r held (tokenTables r.attempt i t) ↔ Stores quotient r i t := by
  obtain ⟨client, key, -⟩ := named_of_pulled found
  exact ⟨Stores.congr client.symm key.symm facts_tokenTables.symm rollups_tokenTables.symm,
    Stores.congr client key facts_tokenTables rollups_tokenTables⟩

/-- An admitted row is connected. -/
theorem status_of_admitted (admitted : refused i = none) : i.status = .connected := by
  unfold refused at admitted
  split at admitted
  · cases admitted
  · next allowed => exact not_not.mp fun down => allowed (.inl down)

/-- A sync that no statement disturbs. -/
theorem sync_clean (real : i.key ∈ realKeys) (found : row i.name t = some i)
    (moved : i.lastSyncAt ≠ some r.attempt.now) (clean : Undisturbed quotient r i t) :
    sync quotient r i.clientId i.key (opened t) =
      ((plain quotient r i t).1, opened (plain quotient r i t).2) := by
  have loads : (opened t).execute (r.refusal .load) (r.fault .load) id = (.ok (), opened t) := by
    rw [fault_none clean.load, execute_ready rfl]
    rfl
  have loaded : Table.get Integration.name (opened t).working.integrations (i.clientId, i.key) =
      some i := found
  unfold sync
  rw [if_neg (not_not_intro real), loads]
  dsimp only
  rw [loaded]
  dsimp only
  unfold syncLoaded plain
  cases refuses : refused i with
  | some message => rfl
  | none =>
    have up : Up i.name t := up_of_row found (status_of_admitted refuses)
    dsimp only
    rw [fetch_clean (clean.renewal refuses)]
    cases pull : pulled r.attempt i with
    | error e =>
      dsimp only
      rw [recordFailure_clean (clean.failure refuses e pull)]
    | ok held =>
      dsimp only
      cases stored : r.attempt.stored with
      | error e => rfl
      | ok done =>
        obtain ⟨client, key, synced⟩ := named_of_pulled pull
        have name : held.name = i.name := Prod.ext client key
        have stores := (stores_pulled_iff pull).mpr (clean.stores refuses held pull stored)
        have up' : Up held.name (tokenTables r.attempt i t) := by
          rw [name]
          exact up.tokenTables
        dsimp only
        rw [store_clean up' (synced ▸ moved) stores]

/-- A sync that a statement disturbs raises and stops the session; its row stays connected. -/
theorem sync_stops (real : i.key ∈ realKeys) (found : row i.name t = some i)
    (status : i.status = .connected) (moved : i.lastSyncAt ≠ some r.attempt.now)
    (fails : ¬Undisturbed quotient r i t) :
    ∃ e s, sync quotient r i.clientId i.key (opened t) = (.error e, s) ∧ Stopped i.name s := by
  have up : Up i.name t := up_of_row found status
  unfold sync
  rw [if_neg (not_not_intro real)]
  by_cases load : r.faults .load = none
  · have loads : (opened t).execute (r.refusal .load) (r.fault .load) id = (.ok (), opened t) := by
      rw [fault_none load, execute_ready rfl]
      rfl
    have loaded : Table.get Integration.name (opened t).working.integrations (i.clientId, i.key) =
        some i := found
    rw [loads]
    dsimp only
    rw [loaded]
    dsimp only
    unfold syncLoaded
    cases refuses : refused i with
    | some message =>
      refine absurd ⟨load, ?_, ?_, ?_⟩ fails <;>
        exact fun admitted => absurd (refuses.symm.trans admitted) (Option.some_ne_none _)
    | none =>
      dsimp only
      by_cases renewal : ∀ held, accessToken r.attempt i = .ok held → held ≠ i →
          r.faults .renewal = none ∧ (i.key = .googleAds → r.faults .reload = none)
      · rw [fetch_clean renewal]
        cases pull : pulled r.attempt i with
        | error e =>
          refine recordFailure_stops up.tokenTables fun failure => fails ?_
          refine ⟨load, fun _ => renewal, fun _ _ _ => failure, fun _ held other => ?_⟩
          rw [pull] at other
          cases other
        | ok held =>
          dsimp only
          have unpulled (e : SyncError) (other : pulled r.attempt i = .error e) : False := by
            rw [pull] at other
            cases other
          cases stored : r.attempt.stored with
          | error e =>
            refine absurd ⟨load, fun _ => renewal, fun _ e other => (unpulled e other).elim,
              fun _ _ _ accepted => ?_⟩ fails
            rw [stored] at accepted
            cases accepted
          | ok done =>
            obtain ⟨client, key, synced⟩ := named_of_pulled pull
            have name : held.name = i.name := Prod.ext client key
            have unstored : ¬Stores quotient r held (tokenTables r.attempt i t) := by
              rw [stores_pulled_iff pull]
              intro stores
              exact fails ⟨load, fun _ => renewal, fun _ e other => (unpulled e other).elim,
                fun _ _ _ _ => stores⟩
            have up' : Up held.name (tokenTables r.attempt i t) := by
              rw [name]
              exact up.tokenTables
            rw [← name]
            exact store_stops up' (synced ▸ moved) unstored
      · obtain ⟨e, s, fetched, stopped⟩ := fetch_stops (r := r) up renewal
        rw [fetched]
        exact recordFailure_stopped stopped
  · obtain ⟨e, fault⟩ := fault_some load
    rw [fault, execute_fault rfl]
    exact ⟨e, _, rfl, SessionStatus.noConfusion, up⟩

/-- The row after the token step. -/
theorem row_tokenTables {held : Integration} (found : row i.name t = some i)
    (token : accessToken r.attempt i = .ok held) :
    row i.name (tokenTables r.attempt i t) = some held := by
  unfold tokenTables tokenStored
  rw [token]
  dsimp only
  split
  · next same => rw [same, found]
  · rw [row_onIntegration (name_holdToken held), found, Option.map_some, holdToken_self token]

/-- An admitted sync whose pull fails. -/
theorem plain_failed {e : SyncError} (admitted : refused i = none)
    (pull : pulled r.attempt i = .error e) :
    plain quotient r i t =
      (.error e, onIntegration i.name (holdFailure e) (tokenTables r.attempt i t)) := by
  unfold plain
  rw [admitted]
  dsimp only
  rw [pull]

/-- An admitted sync of which a day does not pass its schema. -/
theorem plain_invalid {held : Integration} {e : SyncError} (admitted : refused i = none)
    (pull : pulled r.attempt i = .ok held) (invalid : r.attempt.stored = .error e) :
    plain quotient r i t = (.error e, tokenTables r.attempt i t) := by
  unfold plain
  rw [admitted]
  dsimp only
  rw [pull]
  dsimp only
  rw [invalid]

/-- An admitted sync that stores its pull. -/
theorem plain_stored {held : Integration} (admitted : refused i = none)
    (pull : pulled r.attempt i = .ok held) (valid : r.attempt.stored = .ok ()) :
    plain quotient r i t = (.ok (), storedTables quotient r held (tokenTables r.attempt i t)) := by
  unfold plain
  rw [admitted]
  dsimp only
  rw [pull]
  dsimp only
  rw [valid]

/-- A failure is not recorded on a row that stays connected. -/
theorem not_recorded_of_up {e : SyncError} {s : DbSession (SyncTables ι)}
    (stays : Up i.name s.committed) : ¬Recorded r i t (.error e, s) := by
  rintro ⟨left, there, failed, -⟩
  rw [Up, Option.mem_def.mp there] at stays
  exact failureStatus_ne_connected e (failed.symm.trans (Option.some.inj stays))

/-- The failure of a pull is recorded. -/
theorem recorded_failed {e : SyncError} (up : Up i.name t) :
    Recorded r i t (.error e,
      opened (onIntegration i.name (holdFailure e) (tokenTables r.attempt i t))) := by
  obtain ⟨held, there, -⟩ := Option.map_eq_some_iff.mp (up.tokenTables (a := r.attempt))
  have left : row i.name (onIntegration i.name (holdFailure e) (tokenTables r.attempt i t)) =
      some (holdFailure e held) :=
    (row_onIntegration (name_holdFailure e)).trans (congrArg _ there)
  exact ⟨holdFailure e held, left, rfl, rfl, facts_tokenTables⟩

/-- A pull that is stored is recorded. -/
theorem recorded_stored {held : Integration} (found : row i.name t = some i)
    (pull : pulled r.attempt i = .ok held) :
    Recorded r i t (.ok (), opened (storedTables quotient r held (tokenTables r.attempt i t))) := by
  obtain ⟨client, key, -⟩ := named_of_pulled pull
  have name : held.name = i.name := Prod.ext client key
  have there : row i.name (tokenTables r.attempt i t) = some held :=
    row_tokenTables found (accessToken_of_pulled pull)
  have left : row i.name (storedTables quotient r held (tokenTables r.attempt i t)) =
      some (holdOutcome r.attempt.now held) := by
    unfold storedTables
    rw [name, row_onIntegration (name_holdOutcome _)]
    refine congrArg (Option.map _) (Eq.trans ?_ there)
    unfold insightsIn
    split <;> rfl
  have facts : (storedTables quotient r held (tokenTables r.attempt i t)).facts =
      (ingested r held (tokenTables r.attempt i t)).facts := by
    unfold storedTables insightsIn
    split <;> rfl
  refine ⟨holdOutcome r.attempt.now held, left, rfl, rfl, rfl, facts.trans ?_⟩
  simp only [ingested, ingest, facts_tokenTables, client, key]

/-- A sync records what it reports exactly when no statement that it sends fails and every day that
was fetched passes its schema. -/
theorem recorded_iff_undisturbed (real : i.key ∈ realKeys) (found : row i.name t = some i)
    (admitted : refused i = none) (moved : i.lastSyncAt ≠ some r.attempt.now) :
    Recorded r i t (sync quotient r i.clientId i.key (opened t)) ↔
      Undisturbed quotient r i t ∧
        ∀ held, pulled r.attempt i = .ok held → r.attempt.stored = .ok () := by
  have status : i.status = .connected := status_of_admitted admitted
  have up : Up i.name t := up_of_row found status
  constructor
  · intro recorded
    have clean : Undisturbed quotient r i t := by
      by_contra fails
      obtain ⟨e, s, synced, -, stays⟩ := sync_stops real found status moved fails
      rw [synced] at recorded
      exact not_recorded_of_up stays recorded
    refine ⟨clean, fun held pull => ?_⟩
    rw [sync_clean real found moved clean] at recorded
    cases stored : r.attempt.stored with
    | ok done => rfl
    | error e =>
      rw [plain_invalid admitted pull stored] at recorded
      exact (not_recorded_of_up up.tokenTables recorded).elim
  · rintro ⟨clean, valid⟩
    rw [sync_clean real found moved clean]
    cases pull : pulled r.attempt i with
    | error e =>
      rw [plain_failed admitted pull]
      exact recorded_failed up
    | ok held =>
      rw [plain_stored admitted pull (valid held pull)]
      exact recorded_stored found pull

end Syncs

/-- A connected Google Ads account. -/
def sampleConnected : Integration :=
  { Integration.new 1 .googleAds with
    status := .connected
    accessTokenEncrypted := some "token"
    externalAccountId := some "account" }

/-- What is committed before its sync. -/
def sampleSyncTables : SyncTables Unit := ⟨[sampleConnected], [], fun _ => none, ()⟩

/-- A pull of one day, whose insights end in a statement that fails. -/
def sampleStatementFails : Run Unit where
  attempt := ⟨1, .ok none, .ok (), .ok ()⟩
  rows := [(2, ⟨2026, 1, 1, by decide⟩, ⟨1, 1, 0, 0, 0, 0⟩)]
  insights := []
  insightsRaise := false
  faults stage := if stage = .insights then some "value out of range" else none
  refusals _ _ := "current transaction is aborted"

/-- The sync of the account is not recorded. -/
theorem sample_unrecorded :
    ¬Recorded sampleStatementFails sampleConnected sampleSyncTables
      (sync (fun _ _ => 0) sampleStatementFails 1 .googleAds (opened sampleSyncTables)) := by
  intro recorded
  have admitted : refused sampleConnected = none := by decide
  have moved : sampleConnected.lastSyncAt ≠ some sampleStatementFails.attempt.now := by decide
  obtain ⟨clean, -⟩ :=
    (recorded_iff_undisturbed (i := sampleConnected) (by decide) rfl admitted moved).mp recorded
  cases (clean.stores admitted sampleConnected rfl rfl).insights (by decide)

end MarketingOS.SyncSession
