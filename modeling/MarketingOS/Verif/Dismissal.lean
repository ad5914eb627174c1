import MarketingOS.Services.PlatformInsight
import MarketingOS.Verif.BulkUpserts

/-! # Dismissed recommendations and later syncs

A sync writes every recommendation it reports with status open, whatever the stored row says, and
touches no other recommendation. So a dismissed recommendation stays dismissed exactly until a
sync reports its key. -/
namespace MarketingOS.PlatformInsight

variable {tables : TextTables}

/-! ## What normalisers emit -/

/-- The Meta normaliser emits open recommendations. -/
theorem normalizeMetaRecommendation_open {adAccountId : String} {raw : Json}
    {row : RecommendationRow}
    (made : normalizeMetaRecommendation tables adAccountId raw = some row) :
    row.columns.status = "open" := by
  simp only [normalizeMetaRecommendation, Option.bind_eq_bind, Option.bind_eq_some_iff,
    Option.some.injEq] at made
  obtain ⟨code, -, title, -, message, -, importance, -, blameField, -, rfl⟩ := made
  rfl

/-- The Google normaliser emits open recommendations. -/
theorem normalizeGoogleRecommendation_open {customerId : String} {raw : Json}
    {row : RecommendationRow}
    (made : normalizeGoogleRecommendation tables customerId raw = some row) :
    row.columns.status = "open" := by
  simp only [normalizeGoogleRecommendation, Option.bind_eq_bind, Option.bind_eq_some_iff] at made
  obtain ⟨recommendation, -, type, -, campaignRef, -, camel, -, snake, -, segment, -, made⟩ := made
  split at made
  · obtain rfl := Option.some.inj made
    rfl
  · cases made

/-- The normalised recommendations are what the normaliser makes of the raw ones. -/
theorem mem_normalizeAll {normalize : Json → Option RecommendationRow} {rows : List (Uuid × Json)}
    {made : List (Uuid × RecommendationRow)} (all : normalizeAll normalize rows = some made)
    (row : RecommendationRow) :
    (∃ id, (id, row) ∈ made) ↔ ∃ raw ∈ rows, normalize raw.2 = some row := by
  induction rows generalizing made with
  | nil =>
    cases all
    simp
  | cons raw rows ih =>
    simp only [normalizeAll, List.mapM_cons, Option.bind_eq_bind, Option.bind_eq_some_iff,
      Option.map_eq_some_iff, Option.pure_def, Option.some.injEq] at all
    obtain ⟨_, ⟨first, emitted, rfl⟩, rest, others, rfl⟩ := all
    have later := ih others
    constructor
    · rintro ⟨id, inside⟩
      rcases List.mem_cons.mp inside with same | listed
      · cases same
        exact ⟨raw, List.mem_cons_self, emitted⟩
      · obtain ⟨other, member, gives⟩ := later.mp ⟨id, listed⟩
        exact ⟨other, List.mem_cons_of_mem _ member, gives⟩
    · rintro ⟨other, member, gives⟩
      rcases List.mem_cons.mp member with rfl | listed
      · obtain rfl := Option.some.inj (emitted.symm.trans gives)
        exact ⟨_, List.mem_cons_self⟩
      · obtain ⟨id, inside⟩ := later.mpr ⟨other, listed, gives⟩
        exact ⟨id, List.mem_cons_of_mem _ inside⟩

/-! ## Steps -/

/-- The raw recommendations of a pull include one the normaliser gives the key. -/
def Pull.Reports (pull : Pull) (normalize : Json → Option RecommendationRow) (recKey : String) :
    Prop :=
  ∃ raw ∈ pull.recommendations, ∃ row, normalize raw.2 = some row ∧ row.recKey = recKey

/-- A transaction is a sync that reports a recommendation under a client, an integration and a
recommendation key. -/
def Label.Reports (tables : TextTables) (key : Uuid × String × String) : Label → Prop
  | .syncMeta clientId adAccountId pull =>
    (key.1 = clientId ∧ key.2.1 = metaKey) ∧
      pull.Reports (normalizeMetaRecommendation tables adAccountId) key.2.2
  | .syncGoogleAds clientId customerId pull =>
    (key.1 = clientId ∧ key.2.1 = googleAdsKey) ∧
      pull.Reports (normalizeGoogleRecommendation tables customerId) key.2.2
  | .syncGoogleLsa clientId customerId pull =>
    (key.1 = clientId ∧ key.2.1 = googleLsaKey) ∧
      pull.Reports (normalizeGoogleRecommendation tables customerId) key.2.2
  | .dismissRecommendation _ _ => False
  | .resolveDeliveryIssue _ _ => False

/-- What one transaction does to the recommendations. -/
inductive Step (tables : TextTables) (t : InsightTables) (label : Label) (t' : InsightTables) :
    Prop where
  /-- A sync upserts open rows under the keys it reports. -/
  | synced (batch : List PlatformRecommendation)
      (leaves : PlatformRecommendation.upsert.Matches t.recommendations batch t'.recommendations)
      (opened : ∀ row ∈ batch, row.columns.status = "open")
      (names : ∀ key, key ∈ batch.map PlatformRecommendation.upsert.key ↔ label.Reports tables key)
  /-- An operator dismisses the row under an identifier. -/
  | dismissed (recId : Uuid) (silent : ∀ key, ¬label.Reports tables key)
      (leaves : t'.recommendations =
        Table.modify PlatformRecommendation.id recId (withStatus "dismissed") t.recommendations)
  /-- An operator resolves a delivery issue. -/
  | resolved (silent : ∀ key, ¬label.Reports tables key)
      (leaves : t'.recommendations = t.recommendations)

/-- What a sync upserts into the recommendations, from the upsert it makes. -/
theorem synced_of_upsert {normalize : Json → Option RecommendationRow} {clientId : Uuid}
    {integrationKey : String} {pull : Pull} {made : List (Uuid × RecommendationRow)}
    {rows result : List PlatformRecommendation} {count : Nat}
    (emitsOpen : ∀ raw row, normalize raw = some row → row.columns.status = "open")
    (all : normalizeAll normalize pull.recommendations = some made)
    (sent : upsertRecommendations clientId integrationKey made rows = some (result, count)) :
    ∃ batch, PlatformRecommendation.upsert.Matches rows batch result ∧
      (∀ row ∈ batch, row.columns.status = "open") ∧
      ∀ key, key ∈ batch.map PlatformRecommendation.upsert.key ↔
        (key.1 = clientId ∧ key.2.1 = integrationKey) ∧ pull.Reports normalize key.2.2 := by
  obtain ⟨result', count', sent', leaves⟩ :=
    upsertRecommendations_matches clientId integrationKey made rows
  obtain ⟨rfl, rfl⟩ := Prod.mk.inj (Option.some.inj (sent'.symm.trans sent))
  refine ⟨made.map (recommendationValues clientId integrationKey), leaves, ?_, ?_⟩
  · intro value inside
    obtain ⟨⟨id, row⟩, listed, rfl⟩ := List.mem_map.mp inside
    obtain ⟨raw, -, emitted⟩ := (mem_normalizeAll all row).mp ⟨id, listed⟩
    exact emitsOpen raw.2 row emitted
  · rintro ⟨client, integration, recKey⟩
    rw [List.map_map, List.mem_map]
    constructor
    · rintro ⟨⟨id, row⟩, listed, same⟩
      cases same
      obtain ⟨raw, member, emitted⟩ := (mem_normalizeAll all row).mp ⟨id, listed⟩
      exact ⟨⟨rfl, rfl⟩, raw, member, row, emitted, rfl⟩
    · rintro ⟨⟨rfl, rfl⟩, raw, member, row, emitted, rfl⟩
      obtain ⟨id, listed⟩ := (mem_normalizeAll all row).mpr ⟨raw, member, emitted⟩
      exact ⟨(id, row), listed, rfl⟩

/-- The recommendations a hierarchy sync leaves are upserted from what it normalised. -/
theorem syncHierarchy_recommendations {integrationKey : String}
    {normalize : Json → Option RecommendationRow} {clientId : Uuid} {pull : Pull}
    {t t' : InsightTables} {result : PlatformSyncResult}
    (done : syncHierarchy integrationKey normalize clientId pull t = some (t', result)) :
    ∃ made count, normalizeAll normalize pull.recommendations = some made ∧
      upsertRecommendations clientId integrationKey made t.recommendations =
        some (t'.recommendations, count) := by
  simp only [syncHierarchy, Option.bind_eq_bind, Option.bind_eq_some_iff, Option.some.injEq,
    Prod.exists] at done
  obtain ⟨campaigns, ids, -, adSets, adSetIds, -, ads, adsCount, -, metrics, metricsCount, -, made,
    all, recommendations, recsCount, sent, issues, issuesCount, -, same⟩ := done
  cases same
  exact ⟨made, recsCount, all, sent⟩

/-- The recommendations an LSA sync leaves are upserted from what it normalised. -/
theorem syncGoogleLsa_recommendations {clientId : Uuid} {customerId : String} {pull : Pull}
    {t t' : InsightTables} {result : PlatformSyncResult}
    (done : syncGoogleLsa tables clientId customerId pull t = some (t', result)) :
    ∃ made count,
      normalizeAll (normalizeGoogleRecommendation tables customerId) pull.recommendations =
        some made ∧
      upsertRecommendations clientId googleLsaKey made t.recommendations =
        some (t'.recommendations, count) := by
  simp only [syncGoogleLsa, Option.bind_eq_bind, Option.bind_eq_some_iff, Option.some.injEq,
    Prod.exists] at done
  obtain ⟨campaigns, ids, -, metrics, metricsCount, -, made, all, recommendations, recsCount, sent,
    issues, issuesCount, -, same⟩ := done
  cases same
  exact ⟨made, recsCount, all, sent⟩

/-- The inversion of the step function. -/
theorem step_of_next {t t' : InsightTables} {label : Label}
    (taken : next tables t label = some t') : Step tables t label t' := by
  cases label with
  | syncMeta clientId adAccountId pull =>
    obtain ⟨⟨_, result⟩, done, rfl⟩ := Option.map_eq_some_iff.mp taken
    obtain ⟨made, count, all, sent⟩ := syncHierarchy_recommendations done
    obtain ⟨batch, leaves, opened, names⟩ :=
      synced_of_upsert (fun _ _ => normalizeMetaRecommendation_open) all sent
    exact .synced batch leaves opened names
  | syncGoogleAds clientId customerId pull =>
    obtain ⟨⟨_, result⟩, done, rfl⟩ := Option.map_eq_some_iff.mp taken
    obtain ⟨made, count, all, sent⟩ := syncHierarchy_recommendations done
    obtain ⟨batch, leaves, opened, names⟩ :=
      synced_of_upsert (fun _ _ => normalizeGoogleRecommendation_open) all sent
    exact .synced batch leaves opened names
  | syncGoogleLsa clientId customerId pull =>
    obtain ⟨⟨_, result⟩, done, rfl⟩ := Option.map_eq_some_iff.mp taken
    obtain ⟨made, count, all, sent⟩ := syncGoogleLsa_recommendations done
    obtain ⟨batch, leaves, opened, names⟩ :=
      synced_of_upsert (fun _ _ => normalizeGoogleRecommendation_open) all sent
    exact .synced batch leaves opened names
  | dismissRecommendation clientId recId =>
    simp only [next, dismissRecommendation] at taken
    split at taken
    · cases taken
    · next row found =>
      obtain rfl := Option.some.inj taken
      exact .dismissed row.id (fun _ reports => reports) rfl
  | resolveDeliveryIssue clientId issueId =>
    simp only [next, resolveDeliveryIssue] at taken
    split at taken
    · cases taken
    · obtain rfl := Option.some.inj taken
      exact .resolved (fun _ reports => reports) rfl

/-! ## Runs -/

/-- The recommendation under a key is there with a status. -/
def HasStatus (t : InsightTables) (key : Uuid × String × String) (status : String) : Prop :=
  ∃ row ∈ t.recommendations, PlatformRecommendation.upsert.key row = key ∧
    row.columns.status = status

instance (t : InsightTables) (key : Uuid × String × String) (status : String) :
    Decidable (HasStatus t key status) :=
  inferInstanceAs (Decidable (∃ row ∈ t.recommendations,
    PlatformRecommendation.upsert.key row = key ∧ row.columns.status = status))

/-- No two recommendations have one key. -/
theorem distinct_keys {t : InsightTables}
    (reached : (machine tables).Reachable Machine.anyStep t) :
    (t.recommendations.map PlatformRecommendation.upsert.key).Nodup := by
  apply reached.invariant fun t =>
    (t.recommendations.map PlatformRecommendation.upsert.key).Nodup
  · rintro _ rfl
    exact List.nodup_nil
  · intro t label t' distinct _ taken
    cases step_of_next taken with
    | synced batch leaves opened names => exact leaves.nodup distinct
    | dismissed recId silent leaves =>
      rw [leaves, Table.map_modify (withStatus "dismissed") PlatformRecommendation.upsert.key
        fun _ _ => rfl]
      exact distinct
    | resolved silent leaves =>
      rw [leaves]
      exact distinct

/-- A sync that reports a key leaves its recommendation open. -/
theorem hasStatus_of_reports {t t' : InsightTables} {label : Label} {key : Uuid × String × String}
    (taken : next tables t label = some t') (reports : label.Reports tables key) :
    HasStatus t' key "open" := by
  cases step_of_next taken with
  | synced batch leaves opened names =>
    have named := (names key).mpr reports
    obtain ⟨row, inside, rfl⟩ := List.mem_map.mp (leaves.mem_keys (.inr named))
    obtain ⟨sent, listed, same⟩ := leaves.named inside named
    have alike := congrArg (fun row => row.columns.status) (same row.id)
    exact ⟨row, inside, rfl, alike.trans (opened sent listed)⟩
  | dismissed recId silent leaves => exact absurd reports (silent key)
  | resolved silent leaves => exact absurd reports (silent key)

/-- A transaction that does not report a dismissed recommendation leaves it dismissed. -/
theorem dismissed_of_silent {t t' : InsightTables} {label : Label} {key : Uuid × String × String}
    (taken : next tables t label = some t') (silent : ¬label.Reports tables key)
    (before : HasStatus t key "dismissed") : HasStatus t' key "dismissed" := by
  obtain ⟨row, inside, rfl, was⟩ := before
  cases step_of_next taken with
  | synced batch leaves opened names =>
    have unnamed := fun named => silent ((names _).mp named)
    exact ⟨row, leaves.untouched row inside unnamed, rfl, was⟩
  | dismissed recId silent leaves =>
    by_cases hit : row.id = recId
    · refine ⟨withStatus "dismissed" row, ?_, rfl, rfl⟩
      rw [leaves]
      exact Table.mem_modify.mpr (.inr ⟨row, inside, hit, rfl⟩)
    · refine ⟨row, ?_, rfl, was⟩
      rw [leaves]
      exact Table.mem_modify.mpr (.inl ⟨inside, hit⟩)
  | resolved silent leaves => exact ⟨row, leaves ▸ inside, rfl, was⟩

/-- A recommendation is dismissed in every state of a run. -/
def StaysDismissed (tables : TextTables) (t : InsightTables) (labels : List Label)
    (key : Uuid × String × String) : Prop :=
  ∀ front back middle, labels = front ++ back →
    (machine tables).Run Machine.anyStep t front middle → HasStatus middle key "dismissed"

/-- A dismissed recommendation stays dismissed over a run exactly when no sync of the run reports
its key: the first sync that does leaves it open. -/
theorem dismissed_until_reported {t t' : InsightTables} {labels : List Label}
    {key : Uuid × String × String} (reached : (machine tables).Reachable Machine.anyStep t)
    (dismissed : HasStatus t key "dismissed")
    (run : (machine tables).Run Machine.anyStep t labels t') :
    (StaysDismissed tables t labels key ↔ ∀ label ∈ labels, ¬label.Reports tables key) ∧
      ∀ front label back middle after, labels = front ++ label :: back →
        (machine tables).Run Machine.anyStep t front middle →
        next tables middle label = some after → label.Reports tables key →
        HasStatus after key "open" := by
  refine ⟨⟨?_, ?_⟩, fun _ _ _ _ _ _ _ taken reports => hasStatus_of_reports taken reports⟩
  · intro stays label inside reports
    obtain ⟨front, back, rfl⟩ := List.append_of_mem inside
    obtain ⟨middle, early, late⟩ := run.split
    cases late with
    | cons meets taken rest =>
      next after =>
      have through : (machine tables).Run Machine.anyStep t (front ++ [label]) after :=
        early.append (.cons meets taken (.nil after))
      obtain ⟨opened, member, keyed, isOpen⟩ := hasStatus_of_reports taken reports
      obtain ⟨row, listed, same, isDismissed⟩ :=
        stays (front ++ [label]) back after (by simp) through
      have reachable : (machine tables).Reachable Machine.anyStep after := by
        obtain ⟨first, labels, started, prior⟩ := reached
        exact ⟨first, labels ++ (front ++ [label]), started, prior.append through⟩
      have alike := List.inj_on_of_nodup_map (distinct_keys reachable) member listed
        (keyed.trans same.symm)
      rw [alike, isDismissed] at isOpen
      exact absurd isOpen (by decide)
  · rintro silent front back middle rfl early
    have quiet : ∀ label ∈ front, ¬label.Reports tables key :=
      fun label inside => silent label (List.mem_append_left _ inside)
    clear run silent reached
    induction early with
    | nil t => exact dismissed
    | cons meets taken rest ih =>
      exact ih (dismissed_of_silent taken (quiet _ (.head _)) dismissed)
        fun label inside => quiet label (.tail _ inside)

/-- A pull with one recommendation and nothing else, stored under an identifier if it is new. -/
def oneRecommendation (id : Uuid) : Pull where
  campaigns := []
  adSets := []
  ads := []
  metrics := []
  recommendations := [(id, .obj [("code", .str "LOW_BUDGET")])]
  deliveryIssues := []

/-- A sync that reports a dismissed recommendation again ends its dismissal. -/
theorem dismissed_until_reported_once :
    ∃ t t', HasStatus t (1, "meta", "account:act_9:LOW_BUDGET") "dismissed" ∧
      (machine .ascii).Run Machine.anyStep t [.syncMeta 1 "act_9" (oneRecommendation 6)] t' ∧
      ¬StaysDismissed .ascii t [.syncMeta 1 "act_9" (oneRecommendation 6)]
        (1, "meta", "account:act_9:LOW_BUDGET") := by
  obtain ⟨t, t', played, dismissed, taken⟩ : ∃ t t',
      (machine .ascii).play Machine.anyStep ⟨[], [], [], [], [], []⟩
        [.syncMeta 1 "act_9" (oneRecommendation 5), .dismissRecommendation 1 5] = some t ∧
      HasStatus t (1, "meta", "account:act_9:LOW_BUDGET") "dismissed" ∧
      next .ascii t (.syncMeta 1 "act_9" (oneRecommendation 6)) = some t' :=
    ⟨_, _, rfl, by decide, rfl⟩
  have again : (machine .ascii).Run Machine.anyStep t
      [.syncMeta 1 "act_9" (oneRecommendation 6)] t' := .cons trivial taken (.nil t')
  have reached : (machine .ascii).Reachable Machine.anyStep t :=
    ⟨_, _, rfl, Machine.run_of_play played⟩
  refine ⟨t, t', dismissed, again, fun stays => ?_⟩
  have silent := ((dismissed_until_reported reached dismissed again).1).mp stays
  exact silent _ (.head _) ⟨⟨rfl, rfl⟩, _, List.mem_cons_self, _, rfl, by decide⟩

/-- A recommendation is dismissed, the next sync reports it again, and it is open. -/
theorem dismissal_undone :
    ∃ t t', (machine .ascii).play Machine.anyStep ⟨[], [], [], [], [], []⟩
        [.syncMeta 1 "act_9" (oneRecommendation 5), .dismissRecommendation 1 5] = some t ∧
      HasStatus t (1, "meta", "account:act_9:LOW_BUDGET") "dismissed" ∧
      (Label.syncMeta 1 "act_9" (oneRecommendation 6)).Reports .ascii
        (1, "meta", "account:act_9:LOW_BUDGET") ∧
      next .ascii t (.syncMeta 1 "act_9" (oneRecommendation 6)) = some t' ∧
      HasStatus t' (1, "meta", "account:act_9:LOW_BUDGET") "open" := by
  refine ⟨_, _, rfl, ?_, ⟨⟨rfl, rfl⟩, _, List.mem_cons_self, _, rfl, ?_⟩, rfl, ?_⟩
  · decide
  · decide
  · decide

end MarketingOS.PlatformInsight
