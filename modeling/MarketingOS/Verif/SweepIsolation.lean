import MarketingOS.Verif.SyncOutcome

/-!
# Failures inside a sweep

The integrations of a client are swept in one session. An integration that fails leaves the others
as they would be without it exactly when none of its statements failed: a failed statement stops the
session, and with it every integration after. Where no statement fails at all, the sweep commits the
rows of the plain sweep.
-/
namespace MarketingOS.SyncSession

open IntegrationService DbSession
open ClientRollup (Rollup bulkUpsert refreshClientRollups seen)

variable {ι : Type} {quotient : ℚ → Int → ℚ}

/-! ## Statement -/

/-- Tables that agree on everything but the row of one integration. -/
structure AgreeBut (name : Uuid × IntegrationKey) (t t' : SyncTables ι) : Prop where
  rows : ∀ other, other ≠ name → row other t = row other t'
  facts : t.facts = t'.facts
  rollups : t.rollups = t'.rollups
  insights : t.insights = t'.insights

/-- Agreement is mutual. -/
theorem AgreeBut.symm {name : Uuid × IntegrationKey} {t t' : SyncTables ι}
    (agree : AgreeBut name t t') : AgreeBut name t' t :=
  ⟨fun other apart => (agree.rows other apart).symm, agree.facts.symm, agree.rollups.symm,
    agree.insights.symm⟩

section Statement

variable (quotient) (clientId : Uuid) (runs : IntegrationKey → Run ι)

/-- The session when the turn of an integration comes. -/
def sessionAfter (front : List IntegrationKey) (t : SyncTables ι) : DbSession (SyncTables ι) :=
  (sweepKeys quotient clientId runs front (opened t)).2

/-- Every other integration comes out as if this one were not in the list. -/
def Isolated (front : List IntegrationKey) (key : IntegrationKey) (back : List IntegrationKey)
    (t : SyncTables ι) : Prop :=
  (sweepKeys quotient clientId runs (front ++ key :: back) (opened t)).1.eraseIdx front.length =
      (sweepKeys quotient clientId runs (front ++ back) (opened t)).1 ∧
    AgreeBut (clientId, key) (sessionAfter quotient clientId runs (front ++ key :: back) t).committed
      (sessionAfter quotient clientId runs (front ++ back) t).committed

/-- No statement fails that the sync of an integration sends when its turn comes. -/
def UndisturbedTurn (front : List IntegrationKey) (key : IntegrationKey) (t : SyncTables ι) :
    Prop :=
  ∃ i ∈ row (clientId, key) (sessionAfter quotient clientId runs front t).committed,
    Undisturbed quotient (runs key) i (sessionAfter quotient clientId runs front t).committed

end Statement

/-! ## Sweeps -/

section Sweeps

variable {clientId : Uuid} {runs : IntegrationKey → Run ι} {s : DbSession (SyncTables ι)}

/-- A sweep of two lists. -/
theorem sweepKeys_append (front back : List IntegrationKey) (s : DbSession (SyncTables ι)) :
    sweepKeys quotient clientId runs (front ++ back) s =
      ((sweepKeys quotient clientId runs front s).1 ++
        (sweepKeys quotient clientId runs back (sweepKeys quotient clientId runs front s).2).1,
        (sweepKeys quotient clientId runs back (sweepKeys quotient clientId runs front s).2).2) := by
  induction front generalizing s with
  | nil => rfl
  | cons key front ih =>
    rw [List.cons_append, sweepKeys, ih, sweepKeys]
    rfl

/-- A sweep says one thing of each integration. -/
theorem length_sweepKeys (keys : List IntegrationKey) (s : DbSession (SyncTables ι)) :
    (sweepKeys quotient clientId runs keys s).1.length = keys.length := by
  induction keys generalizing s with
  | nil => rfl
  | cons key keys ih => exact congrArg Nat.succ (ih _)

/-- A sync in a session that refuses is refused. -/
theorem sync_refused (r : Run ι) (stopped : s.status ≠ .ready) (key : IntegrationKey) :
    ∃ e, sync quotient r clientId key s = (.error e, s) := by
  unfold sync
  split
  · exact ⟨_, rfl⟩
  · rw [execute_refused stopped]
    exact ⟨_, rfl⟩

/-- A sweep in a session that refuses fails everywhere and leaves it. -/
theorem sweepKeys_refused (stopped : s.status ≠ .ready) (keys : List IntegrationKey) :
    (∀ swept ∈ (sweepKeys quotient clientId runs keys s).1, swept.ok = false) ∧
      (sweepKeys quotient clientId runs keys s).2 = s := by
  induction keys with
  | nil => exact ⟨fun swept inside => absurd inside List.not_mem_nil, rfl⟩
  | cons key keys ih =>
    obtain ⟨e, refused⟩ : ∃ e, sync quotient (runs key) clientId key s = (.error e, s) :=
      sync_refused (runs key) stopped key
    rw [sweepKeys, refused]
    refine ⟨fun swept inside => ?_, ih.2⟩
    obtain rfl | later := List.mem_cons.mp inside
    · rfl
    · exact ih.1 swept later

/-- A sweep that reports a success has left its session ready before it. -/
theorem ready_of_ok {keys : List IntegrationKey} {swept : SyncSweepRow}
    (inside : swept ∈ (sweepKeys quotient clientId runs keys s).1) (ok : swept.ok = true) :
    s.status = .ready := by
  by_contra stopped
  exact Bool.false_ne_true ((sweepKeys_refused stopped keys).1 swept inside ▸ ok)

end Sweeps

/-! ## Frames -/

section Frames

variable {r : Run ι} {i : Integration} {t : SyncTables ι} {other : Uuid × IntegrationKey}

/-- The token step leaves the other rows. -/
theorem row_tokenTables_other {a : Attempt} (apart : other ≠ i.name) :
    row other (tokenTables a i t) = row other t := by
  unfold tokenTables tokenStored
  split
  · rfl
  · split
    · rfl
    · exact row_onIntegration_other (name_holdToken _) apart

/-- A sync leaves the other rows. -/
theorem row_plain_other (apart : other ≠ i.name) :
    row other (plain quotient r i t).2 = row other t := by
  unfold plain
  split
  · rfl
  · split
    · exact (row_onIntegration_other (name_holdFailure _) apart).trans
        (row_tokenTables_other apart)
    · next held pull =>
      split
      · exact row_tokenTables_other apart
      · have name : held.name = i.name := by
          rw [← holdToken_self (accessToken_of_pulled pull)]
          rfl
        have insights : row other (insightsIn r held
            (ingested r held (tokenTables r.attempt i t))) =
            row other (tokenTables r.attempt i t) := by
          unfold insightsIn
          split <;> rfl
        refine (row_onIntegration_other (name_holdOutcome _) (name ▸ apart)).trans ?_
        exact insights.trans (row_tokenTables_other apart)

/-- A sync that fails and disturbs nothing changes its own row only. -/
theorem agreeBut_plain {e : SyncError} (raised : (plain quotient r i t).1 = .error e) :
    AgreeBut i.name t (plain quotient r i t).2 := by
  have token : AgreeBut i.name t (tokenTables r.attempt i t) := by
    refine ⟨fun other apart => (row_tokenTables_other apart).symm, facts_tokenTables.symm,
      rollups_tokenTables.symm, ?_⟩
    unfold tokenTables tokenStored
    split
    · rfl
    · split <;> rfl
  refine ⟨fun other apart => (row_plain_other apart).symm, ?_, ?_, ?_⟩
  all_goals
    unfold plain at raised ⊢
    split at raised
    · rfl
    · split at raised
      · first | exact token.facts | exact token.rollups | exact token.insights
      · split at raised
        · first | exact token.facts | exact token.rollups | exact token.insights
        · cases raised

end Frames

/-! ## Sessions that agree -/

section Agreement

variable {r : Run ι} {name : Uuid × IntegrationKey} {s s' : DbSession (SyncTables ι)}
  {i : Integration} {rollup : Option Rollup}

/-- A write keeps tables in agreement. -/
def Agreeing (name : Uuid × IntegrationKey) (write : SyncTables ι → SyncTables ι) : Prop :=
  ∀ t t', AgreeBut name t t' → AgreeBut name (write t) (write t')

/-- A write to a row keeps agreement. -/
theorem agreeing_onIntegration (own : Uuid × IntegrationKey) {change : Integration → Integration}
    (keeps : ∀ i, (change i).name = i.name) :
    Agreeing name (onIntegration (ι := ι) own change) := by
  intro t t' agree
  refine ⟨fun other apart => ?_, agree.facts, agree.rollups, agree.insights⟩
  by_cases same : other = own
  · subst same
    rw [row_onIntegration keeps, row_onIntegration keeps, agree.rows other apart]
  · rw [row_onIntegration_other keeps same, row_onIntegration_other keeps same,
      agree.rows other apart]

/-- A statement that reads keeps agreement. -/
theorem agreeing_id : Agreeing name (id : SyncTables ι → SyncTables ι) := fun _ _ agree => agree

/-- Two writes keep agreement. -/
theorem Agreeing.comp {write write' : SyncTables ι → SyncTables ι} (later : Agreeing name write')
    (first : Agreeing name write) : Agreeing name (write' ∘ write) :=
  fun t t' agree => later _ _ (first t t' agree)

/-- An ingest keeps agreement. -/
theorem agreeing_ingest (clientId : Uuid) (key : IntegrationKey)
    (rows : List (Uuid × Date × AnalyticsMetrics)) :
    Agreeing name (ingest (ι := ι) clientId key rows) := by
  intro t t' agree
  exact ⟨agree.rows, by simp only [ingest, agree.facts], agree.rollups, agree.insights⟩

/-- Setting a rollup keeps agreement. -/
theorem agreeing_setRollup (clientId : Uuid) (rollup : Option Rollup) :
    Agreeing name (setRollup (ι := ι) clientId rollup) := by
  intro t t' agree
  exact ⟨agree.rows, agree.facts, by simp only [setRollup, agree.rollups], agree.insights⟩

/-- Writing insights keeps agreement. -/
theorem agreeing_writeInsights (writes : List (ι → ι)) : Agreeing name (writeInsights writes) := by
  intro t t' agree
  exact ⟨agree.rows, agree.facts, agree.rollups, by simp only [writeInsights, agree.insights]⟩

/-- Storing a token agrees. -/
theorem same_storeToken (related : Related (AgreeBut name) s s') (held : Integration) :
    Same (AgreeBut name) (storeToken r i held s) (storeToken r i held s') := by
  unfold storeToken
  split
  · exact ⟨rfl, related⟩
  · obtain ⟨s, s', left, ⟨e, done, done'⟩ | ⟨value, done, done'⟩⟩ :=
      (related.commit (r.refusal .renewal) (r.fault .renewal) true
        (agreeing_onIntegration i.name (name_holdToken held))).cases
    · rw [done, done']
      exact ⟨rfl, left⟩
    · rw [done, done']
      dsimp only
      split
      · exact left.execute _ _ agreeing_id
      · exact ⟨rfl, left⟩

/-- A fetch agrees. -/
theorem same_fetch (related : Related (AgreeBut name) s s') :
    Same (AgreeBut name) (fetch r i s) (fetch r i s') := by
  unfold fetch
  split
  · exact ⟨rfl, related⟩
  · next held _ =>
    obtain ⟨s, s', left, ⟨e, done, done'⟩ | ⟨value, done, done'⟩⟩ :=
      (same_storeToken (r := r) (i := i) related held).cases
    · rw [done, done']
      exact ⟨rfl, left⟩
    · rw [done, done']
      exact ⟨rfl, left⟩

/-- Recording a failure agrees. -/
theorem same_recordFailure (related : Related (AgreeBut name) s s') (e : SyncError) :
    Same (AgreeBut name) (recordFailure r i e s) (recordFailure r i e s') := by
  unfold recordFailure
  obtain ⟨s, s', left, ⟨e, done, done'⟩ | ⟨value, done, done'⟩⟩ :=
    (related.commit (r.refusal .failure) (r.fault .failure) true
      (agreeing_onIntegration i.name (name_holdFailure e))).cases
  · rw [done, done']
    exact ⟨rfl, left⟩
  · rw [done, done']
    exact ⟨rfl, left⟩

/-- The insights agree. -/
theorem related_syncInsights (related : Related (AgreeBut name) s s') :
    Related (AgreeBut name) (syncInsights r i rollup s) (syncInsights r i rollup s') := by
  unfold syncInsights
  split
  · exact related
  · obtain ⟨s, s', left, ⟨e, done, done'⟩ | ⟨value, done, done'⟩⟩ :=
      (related.execute (r.refusal .insights) (r.fault .insights)
        (agreeing_writeInsights r.insights)).cases
    · rw [done, done']
      exact left
    · rw [done, done']
      dsimp only
      split
      · exact left
      · rw [left.working.rollups]
        exact (left.commit _ _ _ (agreeing_setRollup i.clientId rollup)).2

/-- Recording the outcome agrees. -/
theorem same_recordOutcome (related : Related (AgreeBut name) s s') :
    Same (AgreeBut name) (recordOutcome r i rollup s) (recordOutcome r i rollup s') := by
  unfold recordOutcome
  rw [related.working.rollups]
  obtain ⟨s, s', left, ⟨e, done, done'⟩ | ⟨value, done, done'⟩⟩ :=
    (related.commit (r.refusal .outcome) (r.fault .outcome)
      (decide (holdOutcome r.attempt.now i ≠ i ∨ s'.working.rollups i.clientId ≠ rollup))
      ((agreeing_setRollup i.clientId rollup).comp
        (agreeing_onIntegration i.name (name_holdOutcome r.attempt.now)))).cases
  · rw [done, done']
    exact ⟨rfl, left⟩
  · rw [done, done']
    exact left.execute _ _ agreeing_id

/-- Storing a pull agrees. -/
theorem same_store (related : Related (AgreeBut name) s s') :
    Same (AgreeBut name) (store quotient r i s) (store quotient r i s') := by
  unfold store
  obtain ⟨s, s', left, ⟨e, done, done'⟩ | ⟨value, done, done'⟩⟩ :=
    (related.execute (r.refusal .ingest) (r.fault .ingest)
      (agreeing_ingest i.clientId i.key r.rows)).cases
  · rw [done, done']
    exact ⟨rfl, left⟩
  · have rollups : computed quotient i.clientId s.working =
        computed quotient i.clientId s'.working := by
      simp only [computed, left.working.rollups, left.working.facts]
    rw [done, done']
    dsimp only
    rw [rollups]
    exact same_recordOutcome (related_syncInsights left)

/-- A sync of a loaded row agrees. -/
theorem same_syncLoaded (related : Related (AgreeBut name) s s') :
    Same (AgreeBut name) (syncLoaded quotient r i s) (syncLoaded quotient r i s') := by
  unfold syncLoaded
  split
  · exact ⟨rfl, related⟩
  · obtain ⟨s, s', left, ⟨e, done, done'⟩ | ⟨held, done, done'⟩⟩ :=
      (same_fetch (r := r) (i := i) related).cases
    · rw [done, done']
      exact same_recordFailure left e
    · rw [done, done']
      dsimp only
      split
      · exact ⟨rfl, left⟩
      · exact same_store left

/-- A sync of another integration agrees. -/
theorem same_sync (related : Related (AgreeBut name) s s') {clientId : Uuid}
    {key : IntegrationKey} (apart : (clientId, key) ≠ name) :
    Same (AgreeBut name) (sync quotient r clientId key s) (sync quotient r clientId key s') := by
  unfold sync
  split
  · exact ⟨rfl, related⟩
  · obtain ⟨s, s', left, ⟨e, done, done'⟩ | ⟨value, done, done'⟩⟩ :=
      (related.execute (r.refusal .load) (r.fault .load) agreeing_id).cases
    · rw [done, done']
      exact ⟨rfl, left⟩
    · have loaded : Table.get Integration.name s.working.integrations (clientId, key) =
          Table.get Integration.name s'.working.integrations (clientId, key) :=
        left.working.rows (clientId, key) apart
      rw [done, done']
      dsimp only
      rw [loaded]
      split
      · exact ⟨rfl, left⟩
      · exact same_syncLoaded left

/-- A sweep of other integrations agrees. -/
theorem same_sweepKeys (quotient : ℚ → Int → ℚ) {clientId : Uuid} (runs : IntegrationKey → Run ι)
    {keys : List IntegrationKey} (apart : ∀ key ∈ keys, (clientId, key) ≠ name)
    (related : Related (AgreeBut name) s s') :
    (sweepKeys quotient clientId runs keys s).1 = (sweepKeys quotient clientId runs keys s').1 ∧
      Related (AgreeBut name) (sweepKeys quotient clientId runs keys s).2
        (sweepKeys quotient clientId runs keys s').2 := by
  induction keys generalizing s s' with
  | nil => exact ⟨rfl, related⟩
  | cons key keys ih =>
    obtain ⟨result, left⟩ : Same (AgreeBut name) (sync quotient (runs key) clientId key s)
      (sync quotient (runs key) clientId key s') := same_sync related (apart key List.mem_cons_self)
    obtain ⟨rows, after⟩ := ih (fun other inside => apart other (List.mem_cons_of_mem key inside))
      left
    simp only [sweepKeys]
    exact ⟨by rw [result, rows], after⟩

end Agreement

/-! ## Turns -/

section Turns

variable {clientId : Uuid} {runs : IntegrationKey → Run ι} {t : SyncTables ι}

/-- The clock of a sync has moved since the sync its row records. -/
def Moved (clientId : Uuid) (runs : IntegrationKey → Run ι) (t : SyncTables ι)
    (key : IntegrationKey) : Prop :=
  ∀ i ∈ row (clientId, key) t, i.lastSyncAt ≠ some (runs key).attempt.now

/-- A listed integration has a connected row. -/
theorem row_of_listed {key : IntegrationKey}
    (listed : key ∈ connectedKeys t.integrations clientId) :
    key ∈ realKeys ∧ ∃ i, row (clientId, key) t = some i ∧ i.status = .connected ∧
      i.clientId = clientId ∧ i.key = key := by
  obtain ⟨-, kept⟩ := List.mem_filter.mp listed
  obtain ⟨status, real⟩ := of_decide_eq_true kept
  obtain ⟨i, found, status⟩ := Option.map_eq_some_iff.mp status
  have named : i.name = (clientId, key) := Table.get_key found
  obtain ⟨client, own⟩ := Prod.mk.inj named
  exact ⟨real, i, found, status, client, own⟩

/-- A turn leaves a new session, where the other rows are as before, or a session that refuses. -/
theorem turn_spec (quotient : ℚ → Int → ℚ) {key : IntegrationKey} (listed : key ∈ connectedKeys t.integrations clientId)
    (moved : Moved clientId runs t key) :
    (∃ t', (sync quotient (runs key) clientId key (opened t)).2 = opened t' ∧
      ∀ other, other ≠ (clientId, key) → row other t' = row other t) ∨
    (sync quotient (runs key) clientId key (opened t)).2.status ≠ .ready := by
  obtain ⟨real, i, found, status, rfl, rfl⟩ := row_of_listed listed
  by_cases clean : Undisturbed quotient (runs i.key) i t
  · rw [sync_clean real found (moved i found) clean]
    exact .inl ⟨_, rfl, fun other apart => row_plain_other apart⟩
  · obtain ⟨e, s, stops, stopped, -⟩ := sync_stops real found status (moved i found) clean
    rw [stops]
    exact .inr stopped

/-- A listed integration is listed as long as its row is as it was. -/
theorem listed_of_row {t' : SyncTables ι} {key : IntegrationKey}
    (listed : key ∈ connectedKeys t.integrations clientId)
    (same : row (clientId, key) t' = row (clientId, key) t) :
    key ∈ connectedKeys t'.integrations clientId := by
  obtain ⟨member, kept⟩ := List.mem_filter.mp listed
  refine List.mem_filter.mpr ⟨member, ?_⟩
  unfold row at same
  rw [same]
  exact kept

/-- Turns leave a new session, where the rows of the others are as before, or a session that
refuses. -/
theorem turns_spec (quotient : ℚ → Int → ℚ) {keys : List IntegrationKey} (once : keys.Nodup)
    (listed : ∀ key ∈ keys, key ∈ connectedKeys t.integrations clientId)
    (moved : ∀ key ∈ keys, Moved clientId runs t key) :
    (∃ t', sessionAfter quotient clientId runs keys t = opened t' ∧
      ∀ other, (∀ key ∈ keys, other ≠ (clientId, key)) → row other t' = row other t) ∨
    (sessionAfter quotient clientId runs keys t).status ≠ .ready := by
  induction keys generalizing t with
  | nil => exact .inl ⟨t, rfl, fun _ _ => rfl⟩
  | cons key keys ih =>
    obtain ⟨absent, once⟩ := List.nodup_cons.mp once
    have later : sessionAfter quotient clientId runs (key :: keys) t =
        (sweepKeys quotient clientId runs keys
          (sync quotient (runs key) clientId key (opened t)).2).2 := rfl
    rw [later]
    obtain ⟨t', left, same⟩ | stopped := turn_spec quotient (listed key List.mem_cons_self)
      (moved key List.mem_cons_self)
    · have apart (other : IntegrationKey) (inside : other ∈ keys) :
          row (clientId, other) t' = row (clientId, other) t := by
        apply same
        intro own
        exact absent ((Prod.mk.inj own).2 ▸ inside)
      rw [left]
      refine (ih once (fun other inside => ?_) fun other inside i found => ?_).imp_left ?_
      · exact listed_of_row (listed other (List.mem_cons_of_mem key inside)) (apart other inside)
      · rw [apart other inside] at found
        exact moved other (List.mem_cons_of_mem key inside) i found
      · rintro ⟨t'', after, kept⟩
        refine ⟨t'', after, fun other outside => ?_⟩
        rw [kept other fun key inside => outside key (List.mem_cons_of_mem _ inside),
          same other (outside key List.mem_cons_self)]
    · rw [(sweepKeys_refused stopped keys).2]
      exact .inr stopped

end Turns

/-! ## Isolation -/

section Isolation

variable {clientId : Uuid} {runs : IntegrationKey → Run ι} {t : SyncTables ι}
  {front back : List IntegrationKey} {key : IntegrationKey}

/-- What is swept after a list. -/
def sweptAfter (quotient : ℚ → Int → ℚ) (clientId : Uuid) (runs : IntegrationKey → Run ι)
    (front back : List IntegrationKey) (t : SyncTables ι) : List SyncSweepRow :=
  (sweepKeys quotient clientId runs back (sessionAfter quotient clientId runs front t)).1

/-- An integration is isolated when the list after it comes out alike with its turn and without. -/
theorem isolated_split {t' : SyncTables ι}
    (before : sessionAfter quotient clientId runs front t = opened t') :
    Isolated quotient clientId runs front key back t ↔
      (sweepKeys quotient clientId runs back
          (sync quotient (runs key) clientId key (opened t')).2).1 =
        (sweepKeys quotient clientId runs back (opened t')).1 ∧
      AgreeBut (clientId, key)
        (sweepKeys quotient clientId runs back
          (sync quotient (runs key) clientId key (opened t')).2).2.committed
        (sweepKeys quotient clientId runs back (opened t')).2.committed := by
  have length : (sweepKeys quotient clientId runs front (opened t)).1.length = front.length :=
    length_sweepKeys front _
  unfold sessionAfter at before
  unfold Isolated sessionAfter
  rw [sweepKeys_append, sweepKeys_append, ← length,
    List.eraseIdx_append_of_length_le (Nat.le_refl _), Nat.sub_self, before, sweepKeys]
  dsimp only
  rw [List.eraseIdx_cons_zero, List.append_right_inj]

/-- When the sync of an integration raises in its turn, and one of those after it would succeed
without it: the others come out as if it were not in the list exactly when no statement that it
sends fails. -/
theorem isolated_iff (once : (front ++ key :: back).Nodup)
    (listed : ∀ other ∈ front ++ key :: back, other ∈ connectedKeys t.integrations clientId)
    (moved : ∀ other ∈ front ++ key :: back, Moved clientId runs t other) {e : SyncError}
    (raises : (sync quotient (runs key) clientId key
      (sessionAfter quotient clientId runs front t)).1 = .error e)
    (succeeds : ∃ swept ∈ sweptAfter quotient clientId runs front back t, swept.ok = true) :
    Isolated quotient clientId runs front key back t ↔
      UndisturbedTurn quotient clientId runs front key t := by
  obtain ⟨frontOnce, backOnce, apart⟩ := List.nodup_append.mp once
  obtain ⟨swept, inside, ok⟩ := succeeds
  -- the session has come this far
  obtain ⟨t', before, same⟩ | stopped := turns_spec quotient frontOnce
    (fun other inside => listed other (List.mem_append_left _ inside))
    fun other inside => moved other (List.mem_append_left _ inside)
  · obtain ⟨real, i, found, status, rfl, rfl⟩ := row_of_listed
      (listed key (List.mem_append_right _ List.mem_cons_self))
    have there : row i.name t' = some i := by
      rw [← found]
      refine same i.name fun other inside own => ?_
      exact apart other inside i.key List.mem_cons_self (Prod.mk.inj own).2.symm
    have clock := moved i.key (List.mem_append_right _ List.mem_cons_self) i found
    have others : ∀ other ∈ back, (i.clientId, other) ≠ i.name := by
      intro other inside own
      exact (List.nodup_cons.mp backOnce).1 ((Prod.mk.inj own).2 ▸ inside)
    have turn : UndisturbedTurn quotient i.clientId runs front i.key t ↔
        Undisturbed quotient (runs i.key) i t' := by
      unfold UndisturbedTurn
      rw [before]
      constructor
      · rintro ⟨other, own, clean⟩
        obtain rfl := Option.some.inj (there.symm.trans own)
        exact clean
      · exact fun clean => ⟨i, there, clean⟩
    rw [isolated_split before, turn]
    rw [before] at raises
    unfold sweptAfter at inside
    rw [before] at inside
    constructor
    · rintro ⟨rows, -⟩
      by_contra fails
      obtain ⟨e, s, stops, stopped, -⟩ := sync_stops real there status clock fails
      rw [stops] at rows
      rw [← rows] at inside
      exact stopped (ready_of_ok inside ok)
    · intro clean
      rw [sync_clean real there clock clean] at raises ⊢
      obtain ⟨rows, left⟩ := same_sweepKeys quotient runs others
        (related_opened (agreeBut_plain raises).symm)
      exact ⟨rows, left.committed⟩
  · exact absurd (ready_of_ok inside ok) stopped

end Isolation

/-- A connected LinkedIn account. -/
def sampleLinkedin : Integration :=
  { Integration.new 1 .linkedin with
    status := .connected
    accessTokenEncrypted := some "token" }

/-- What is committed before the sweep of both accounts. -/
def sampleSweepTables : SyncTables Unit :=
  ⟨[sampleConnected, sampleLinkedin], [], fun _ => none, ()⟩

/-- A statement fails for Google Ads, and none for the others. -/
def sampleSweepRuns : IntegrationKey → Run Unit
  | .googleAds => sampleStatementFails
  | _ => { sampleStatementFails with faults := fun _ => none }

/-- LinkedIn, which comes next, does not come out as if Google Ads were not in the list. -/
theorem sample_not_isolated :
    ¬Isolated (fun _ _ => 0) 1 sampleSweepRuns [] .googleAds [.linkedin] sampleSweepTables := by
  intro isolated
  have listed : ∀ other ∈ [IntegrationKey.googleAds, .linkedin],
      other ∈ connectedKeys sampleSweepTables.integrations 1 := by decide
  have moved : ∀ other ∈ [IntegrationKey.googleAds, .linkedin],
      Moved 1 sampleSweepRuns sampleSweepTables other := by
    unfold Moved
    decide
  have raises : (sync (fun _ _ => 0) (sampleSweepRuns .googleAds) 1 .googleAds
      (sessionAfter (fun _ _ => 0) 1 sampleSweepRuns [] sampleSweepTables)).1 =
      .error (.other "current transaction is aborted") := by rfl
  have succeeds : ∃ swept ∈ sweptAfter (fun _ _ => 0) 1 sampleSweepRuns [] [.linkedin]
      sampleSweepTables, swept.ok = true := ⟨_, List.mem_cons_self, rfl⟩
  obtain ⟨i, found, clean⟩ := (isolated_iff (by decide) listed moved raises succeeds).mp isolated
  obtain rfl := Option.some.inj found
  have admitted : refused sampleConnected = none := by decide
  cases (clean.stores admitted sampleConnected rfl rfl).insights (by decide)

/-! ## The plain sweep -/

section Plain

variable {r : Run ι} {i i' : Integration} {t t' : SyncTables ι}

/-- The row of an integration is replaced. -/
def Replaced (i i' : Integration) (t t' : SyncTables ι) : Prop :=
  t'.integrations = Table.modify Integration.name i.name (fun _ => i') t.integrations

/-- A write to the row that was replaced replaces it. -/
theorem Replaced.onIntegration (replaced : Replaced i i' t t') (named : i'.name = i.name)
    (change : Integration → Integration) :
    Replaced i (change i') t (onIntegration i.name change t') := by
  unfold Replaced SyncSession.onIntegration
  rw [replaced, Table.modify, Table.modify, List.map_map, Table.modify]
  refine List.map_congr_left fun row _ => ?_
  by_cases own : row.name = i.name
  · simp [own, named]
  · simp [own]

/-- Where names are distinct, a write to a row replaces it. -/
theorem replaced_of_distinct (distinct : (t.integrations.map Integration.name).Nodup)
    (found : row i.name t = some i) (change : Integration → Integration) :
    Table.modify Integration.name i.name change t.integrations =
      Table.modify Integration.name i.name (fun _ => change i) t.integrations := by
  refine List.map_congr_left fun other inside => ?_
  split
  · next own =>
    rw [List.inj_on_of_nodup_map distinct inside (Table.get_mem found) own]
  · rfl

/-- The token step replaces the row. -/
theorem replaced_tokenTables (distinct : (t.integrations.map Integration.name).Nodup)
    (found : row i.name t = some i) {held : Integration}
    (token : accessToken r.attempt i = .ok held) :
    Replaced i held t (tokenTables r.attempt i t) := by
  unfold tokenTables tokenStored
  rw [token]
  dsimp only
  split
  · next same =>
    subst same
    have kept := replaced_of_distinct distinct found fun row => row
    have self : Table.modify Integration.name held.name (fun row => row) t.integrations =
        t.integrations := by
      unfold Table.modify
      simp
    exact self.symm.trans kept
  · have same := replaced_of_distinct distinct found (holdToken held)
    rw [holdToken_self token] at same
    exact same

/-- The row is replaced by itself. -/
theorem replaced_self (distinct : (t.integrations.map Integration.name).Nodup)
    (found : row i.name t = some i) : Replaced i i t t := by
  have kept := replaced_of_distinct distinct found fun row => row
  have self : Table.modify Integration.name i.name (fun row => row) t.integrations =
      t.integrations := by
    unfold Table.modify
    simp
  exact self.symm.trans kept

/-- The plain sync of a row, by its guards and by what its token and its pull come to. -/
theorem syncRow_eq (a : Attempt) (real : i.key ∈ realKeys) :
    syncRow a i = match refused i with
      | some message => (.refused message, i)
      | none => match accessToken a i with
        | .error e => (.failed e, holdFailure e i)
        | .ok held => match a.fetched with
          | .error e => (.failed e, holdFailure e held)
          | .ok () => match a.stored with
            | .error e => (.unstored e, held)
            | .ok () => (.synced, holdOutcome a.now held) := by
  unfold syncRow refused
  rw [if_neg (not_not_intro real)]
  by_cases down : i.status ≠ .connected ∨ (!i.hasToken) = true
  · rw [if_pos down, if_pos down]
  · rw [if_neg down, if_neg down]
    by_cases unbound : (i.key ∈ metaKeys ∨ i.key ∈ googleKeys) ∧ (!i.hasAccount) = true
    · rw [if_pos unbound, if_pos unbound]
    · rw [if_neg unbound, if_neg unbound]
      have fetches : fetchInsights a i = match accessToken a i with
        | .error e => (i, .error e)
        | .ok held => (held, a.fetched) := rfl
      rw [fetches]
      cases accessToken a i with
      | error e => rfl
      | ok held =>
        cases fetched : a.fetched with
        | error e => rfl
        | ok done => cases a.stored <;> rfl

/-- A sync replaces the row by the one of the plain sync. -/
theorem replaced_plain (distinct : (t.integrations.map Integration.name).Nodup)
    (real : i.key ∈ realKeys) (found : row i.name t = some i) :
    Replaced i (syncRow r.attempt i).2 t (plain quotient r i t).2 := by
  rw [syncRow_eq r.attempt real]
  unfold plain pulled
  cases refused i with
  | some message => exact replaced_self distinct found
  | none =>
    cases token : accessToken r.attempt i with
    | error e =>
      have same : tokenTables r.attempt i t = t := by
        unfold tokenTables
        rw [token]
      change Replaced i (holdFailure e i) t
        (onIntegration i.name (holdFailure e) (tokenTables r.attempt i t))
      rw [same]
      exact (replaced_self distinct found).onIntegration rfl (holdFailure e)
    | ok held =>
      have stored := replaced_tokenTables distinct found token
      have name : held.name = i.name := by
        rw [← holdToken_self token]
        rfl
      cases fetched : r.attempt.fetched with
      | error e => exact stored.onIntegration name (holdFailure e)
      | ok done =>
        cases accepted : r.attempt.stored with
        | error e => exact stored
        | ok done =>
          have insights : Replaced i held t (setRollup held.clientId
              (computed quotient held.clientId (ingested r held (tokenTables r.attempt i t)))
              (insightsIn r held (ingested r held (tokenTables r.attempt i t)))) := by
            unfold insightsIn
            split <;> exact stored
          have outcome := insights.onIntegration name (holdOutcome r.attempt.now)
          rw [← name] at outcome
          exact outcome

/-- A sync that no statement disturbs commits the rows of the plain sync. -/
theorem integrations_plain (distinct : (t.integrations.map Integration.name).Nodup)
    (real : i.key ∈ realKeys) (found : row i.name t = some i) :
    (plain quotient r i t).2.integrations =
      (IntegrationService.sync i.clientId i.key r.attempt t.integrations).2 := by
  have loaded : Table.get Integration.name t.integrations (i.clientId, i.key) = some i := found
  have replaced : Replaced i (syncRow r.attempt i).2 t (plain quotient r i t).2 :=
    replaced_plain distinct real found
  rw [replaced, IntegrationService.sync, loaded]
  exact (replaced_of_distinct distinct found fun i => (syncRow r.attempt i).2).symm

variable {clientId : Uuid} {runs : IntegrationKey → Run ι}

/-- Syncs of listed integrations in which no statement fails commit the rows of the plain syncs. -/
theorem integrations_sweepKeys (quotient : ℚ → Int → ℚ) {keys : List IntegrationKey} (once : keys.Nodup)
    (listed : ∀ key ∈ keys, key ∈ connectedKeys t.integrations clientId)
    (moved : ∀ key ∈ keys, Moved clientId runs t key)
    (faultless : ∀ key ∈ keys, ∀ stage, (runs key).faults stage = none)
    (distinct : (t.integrations.map Integration.name).Nodup) :
    ∃ t', (sweepKeys quotient clientId runs keys (opened t)).2 = opened t' ∧
      t'.integrations = keys.foldl (fun rows key =>
        (IntegrationService.sync clientId key (runs key).attempt rows).2) t.integrations := by
  induction keys generalizing t with
  | nil => exact ⟨t, rfl, rfl⟩
  | cons key keys ih =>
    obtain ⟨absent, rest⟩ := List.nodup_cons.mp once
    obtain ⟨real, i, found, -, rfl, rfl⟩ := row_of_listed (listed key List.mem_cons_self)
    have clean : Undisturbed quotient (runs i.key) i t := by
      have faults := faultless i.key List.mem_cons_self
      exact ⟨faults _, fun _ _ _ _ => ⟨faults _, fun _ => faults _⟩, fun _ _ _ => faults _,
        fun _ _ _ _ => ⟨faults _, fun _ => faults _, fun _ _ _ => faults _, faults _, faults _⟩⟩
    have synced := sync_clean real found (moved i.key List.mem_cons_self i found) clean
    have rows : (plain quotient (runs i.key) i t).2.integrations = _ :=
      integrations_plain distinct real found
    have apart (other : IntegrationKey) (inside : other ∈ keys) :
        row (i.clientId, other) (plain quotient (runs i.key) i t).2 =
          row (i.clientId, other) t := by
      apply row_plain_other
      intro own
      exact absent ((Prod.mk.inj own).2 ▸ inside)
    have distinct' : ((plain quotient (runs i.key) i t).2.integrations.map
        Integration.name).Nodup := by
      have replaced : Replaced i (syncRow (runs i.key).attempt i).2 t
          (plain quotient (runs i.key) i t).2 := replaced_plain distinct real found
      rw [replaced, Table.map_modify _ _ fun row own => (syncRow_name _ i).trans own.symm]
      exact distinct
    obtain ⟨t', left, same⟩ := ih rest
      (fun other inside => listed_of_row (listed other (List.mem_cons_of_mem _ inside))
        (apart other inside))
      (fun other inside j there => moved other (List.mem_cons_of_mem _ inside) j
        ((apart other inside).symm.trans there))
      (fun other inside => faultless other (List.mem_cons_of_mem _ inside)) distinct'
    refine ⟨t', ?_, ?_⟩
    · rw [sweepKeys, synced]
      exact left
    · rw [same, rows]
      rfl

/-- A sweep in which no statement fails commits the rows of the plain sweep. -/
theorem integrations_sweepClient (quotient : ℚ → Int → ℚ)
    (distinct : (t.integrations.map Integration.name).Nodup)
    (moved : ∀ key, Moved clientId runs t key)
    (faultless : ∀ key stage, (runs key).faults stage = none) :
    (sweepClient quotient clientId runs t).2.integrations =
      IntegrationService.sweepClient (fun key => (runs key).attempt) clientId t.integrations := by
  have once : (connectedKeys t.integrations clientId).Nodup := by
    apply List.Nodup.filter
    decide
  obtain ⟨t', left, same⟩ := integrations_sweepKeys quotient once
    (fun key inside => inside) (fun key _ => moved key) (fun key _ => faultless key) distinct
  rw [sweepClient, left]
  exact same

/-- The sweep of both accounts, when no statement fails. -/
theorem sample_sweepClient :
    (sweepClient (fun _ _ => 0) 1 (fun _ => sampleSweepRuns .linkedin)
      sampleSweepTables).2.integrations =
      IntegrationService.sweepClient (fun _ => sampleStatementFails.attempt) 1
        sampleSweepTables.integrations := by
  refine integrations_sweepClient _ (by decide) (fun key => ?_) fun _ _ => rfl
  cases key <;> (unfold Moved; decide)

end Plain

end MarketingOS.SyncSession
