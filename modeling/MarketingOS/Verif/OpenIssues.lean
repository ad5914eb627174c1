import MarketingOS.Services.DeliveryIssues
import MarketingOS.Verif.BulkUpserts

/-! # Open delivery issues

A sync writes the issues it computes and touches no other, so an open issue the platform no longer
has stays open until an operator resolves it. The open issues of an integration are current after a
sync exactly when all that were open before are computed again. -/
namespace MarketingOS.PlatformInsight

variable {tables : TextTables} {clientId : Uuid} {integrationKey : String}

/-- After a sync every open issue of its integration is one computed from its payload. -/
def Current (tables : TextTables) (label : RawLabel) (t : InsightTables) : Prop :=
  ∀ clientId integrationKey issues,
    label.computes tables = some (clientId, integrationKey, some issues) →
    ∀ row ∈ openIssues t clientId integrationKey,
      ∃ issue ∈ issues, row.recKey = issue.recKey ∧ row.columns = issue.columns

/-- Every open issue of the integration of a sync is computed again from its payload. -/
def Persists (tables : TextTables) : Machine.Guard InsightTables RawLabel := fun t label =>
  ∀ clientId integrationKey issues,
    label.computes tables = some (clientId, integrationKey, some issues) →
    ∀ row ∈ openIssues t clientId integrationKey,
      row.recKey ∈ issues.map DeliveryIssueRow.recKey

/-- An open issue of an integration. -/
theorem mem_openIssues {t : InsightTables} {row : PlatformDeliveryIssue} :
    row ∈ openIssues t clientId integrationKey ↔
      row ∈ t.deliveryIssues ∧ row.clientId = clientId ∧ row.integrationKey = integrationKey ∧
        row.columns.status = "open" := by
  simp [openIssues]

/-! ## The upsert -/

section upserted

variable {rows : List (Uuid × DeliveryIssueRow)} {table result : List PlatformDeliveryIssue}
  {count : Nat}

/-- The batch of a sync names the keys of its issues. -/
theorem mem_issue_keys {row : PlatformDeliveryIssue} (client : row.clientId = clientId)
    (integration : row.integrationKey = integrationKey) :
    PlatformDeliveryIssue.upsert.key row ∈
        (rows.map (deliveryIssueValues clientId integrationKey)).map
          PlatformDeliveryIssue.upsert.key ↔
      row.recKey ∈ (rows.map Prod.snd).map DeliveryIssueRow.recKey := by
  subst client integration
  simp only [List.map_map, List.mem_map]
  refine exists_congr fun drawn => and_congr_right fun _ => ?_
  constructor
  · exact fun same => (Prod.mk.inj (Prod.mk.inj same).2).2
  · intro same
    show (row.clientId, row.integrationKey, drawn.2.recKey) = (row.clientId, row.integrationKey, _)
    rw [show drawn.2.recKey = row.recKey from same]

/-- An issue after the upsert is one of the batch, or it was stored and is not of the batch. -/
theorem issue_origin
    (sent : upsertDeliveryIssues clientId integrationKey rows table = some (result, count))
    {row : PlatformDeliveryIssue} (inside : row ∈ result) (client : row.clientId = clientId)
    (integration : row.integrationKey = integrationKey) :
    (∃ issue ∈ rows.map Prod.snd, row.recKey = issue.recKey ∧ row.columns = issue.columns) ∨
      (row.recKey ∉ (rows.map Prod.snd).map DeliveryIssueRow.recKey ∧
        ∃ stored ∈ table, stored.clientId = clientId ∧ stored.integrationKey = integrationKey ∧
          stored.recKey = row.recKey ∧ stored.columns = row.columns) := by
  obtain ⟨result', count', sent', leaves⟩ :=
    upsertDeliveryIssues_matches clientId integrationKey rows table
  obtain ⟨rfl, rfl⟩ := Prod.mk.inj (Option.some.inj (sent'.symm.trans sent))
  rcases leaves.origin inside with ⟨unnamed, stored, listed, same⟩ | ⟨value, listed, same⟩
  · have alike := same row.id
    refine .inr ⟨fun named => unnamed ((mem_issue_keys client integration).mpr named), stored,
      listed, ?_, ?_, ?_, ?_⟩
    · exact (congrArg PlatformDeliveryIssue.clientId alike).symm.trans client
    · exact (congrArg PlatformDeliveryIssue.integrationKey alike).symm.trans integration
    · exact (congrArg PlatformDeliveryIssue.recKey alike).symm
    · exact (congrArg PlatformDeliveryIssue.columns alike).symm
  · obtain ⟨drawn, member, rfl⟩ := List.mem_map.mp listed
    have alike := same row.id
    exact .inl ⟨drawn.2, List.mem_map_of_mem member, congrArg PlatformDeliveryIssue.recKey alike,
      congrArg PlatformDeliveryIssue.columns alike⟩

/-- A stored issue that is not of the batch is as it was. -/
theorem issue_untouched
    (sent : upsertDeliveryIssues clientId integrationKey rows table = some (result, count))
    {row : PlatformDeliveryIssue} (inside : row ∈ table) (client : row.clientId = clientId)
    (integration : row.integrationKey = integrationKey)
    (absent : row.recKey ∉ (rows.map Prod.snd).map DeliveryIssueRow.recKey) : row ∈ result := by
  obtain ⟨result', count', sent', leaves⟩ :=
    upsertDeliveryIssues_matches clientId integrationKey rows table
  obtain ⟨rfl, rfl⟩ := Prod.mk.inj (Option.some.inj (sent'.symm.trans sent))
  exact leaves.untouched row inside fun named =>
    absent ((mem_issue_keys client integration).mp named)

/-- After the upsert the open issues of the integration are of the batch exactly when all that were
open before are. -/
theorem open_iff {t t' : InsightTables}
    (sent : upsertDeliveryIssues clientId integrationKey rows t.deliveryIssues =
      some (t'.deliveryIssues, count)) :
    (∀ row ∈ openIssues t' clientId integrationKey,
        ∃ issue ∈ rows.map Prod.snd, row.recKey = issue.recKey ∧ row.columns = issue.columns) ↔
      ∀ row ∈ openIssues t clientId integrationKey,
        row.recKey ∈ (rows.map Prod.snd).map DeliveryIssueRow.recKey := by
  constructor
  · intro current row before
    obtain ⟨inside, client, integration, isOpen⟩ := mem_openIssues.mp before
    by_contra absent
    have still := issue_untouched sent inside client integration absent
    obtain ⟨issue, listed, same, -⟩ :=
      current row (mem_openIssues.mpr ⟨still, client, integration, isOpen⟩)
    exact absent (List.mem_map.mpr ⟨issue, listed, same.symm⟩)
  · intro persists row after
    obtain ⟨inside, client, integration, isOpen⟩ := mem_openIssues.mp after
    rcases issue_origin sent inside client integration with
      computed | ⟨absent, stored, listed, client', integration', same, columns⟩
    · exact computed
    · have wasOpen : stored ∈ openIssues t clientId integrationKey :=
        mem_openIssues.mpr ⟨listed, client', integration', columns ▸ isOpen⟩
      exact absurd (same ▸ persists stored wasOpen) absent

end upserted

/-! ## Steps -/

/-- The issues a hierarchy sync leaves are upserted. -/
theorem syncHierarchy_issues {normalize : Json → Option RecommendationRow} {pull : Pull}
    {t t' : InsightTables} {result : PlatformSyncResult}
    (done : syncHierarchy integrationKey normalize clientId pull t = some (t', result)) :
    ∃ count, upsertDeliveryIssues clientId integrationKey pull.deliveryIssues t.deliveryIssues =
      some (t'.deliveryIssues, count) := by
  simp only [syncHierarchy, Option.bind_eq_bind, Option.bind_eq_some_iff, Option.some.injEq,
    Prod.exists] at done
  obtain ⟨campaigns, ids, -, adSets, adSetIds, -, ads, adsCount, -, metrics, metricsCount, -, made,
    -, recommendations, recsCount, -, issues, issuesCount, sent, same⟩ := done
  cases same
  exact ⟨issuesCount, sent⟩

/-- The issues an LSA sync leaves are upserted. -/
theorem syncGoogleLsa_issues {customerId : String} {pull : Pull} {t t' : InsightTables}
    {result : PlatformSyncResult}
    (done : syncGoogleLsa tables clientId customerId pull t = some (t', result)) :
    ∃ count, upsertDeliveryIssues clientId googleLsaKey pull.deliveryIssues t.deliveryIssues =
      some (t'.deliveryIssues, count) := by
  simp only [syncGoogleLsa, Option.bind_eq_bind, Option.bind_eq_some_iff, Option.some.injEq,
    Prod.exists] at done
  obtain ⟨campaigns, ids, -, metrics, metricsCount, -, made, -, recommendations, recsCount, -,
    issues, issuesCount, sent, same⟩ := done
  cases same
  exact ⟨issuesCount, sent⟩

/-- The issues a pull is given are the ones computed. -/
theorem issues_withIssues (payload : Payload) (issues : List DeliveryIssueRow) :
    (payload.withIssues issues).deliveryIssues.map Prod.snd = issues := by
  show (issues.mapIdx fun i issue => (payload.issueId i, issue)).map Prod.snd = issues
  refine List.ext_getElem (by simp) fun i _ _ => ?_
  simp

/-- What a sync upserts are the issues computed from its payload. -/
theorem issues_of_next {t t' : InsightTables} {label : RawLabel}
    (taken : (payloadMachine tables).next t label = some t') {issues : List DeliveryIssueRow}
    (computed : label.computes tables = some (clientId, integrationKey, some issues)) :
    ∃ rows count, rows.map Prod.snd = issues ∧
      upsertDeliveryIssues clientId integrationKey rows t.deliveryIssues =
        some (t'.deliveryIssues, count) := by
  obtain ⟨normalised, made, stepped⟩ := Option.bind_eq_some_iff.mp taken
  cases label with
  | syncMeta client adAccountId payload =>
    obtain ⟨rfl, rfl, derived⟩ :
        client = clientId ∧ metaKey = integrationKey ∧ _ = some issues := by
      simpa [RawLabel.computes] using computed
    rw [RawLabel.normalised, derived] at made
    obtain rfl := Option.some.inj made
    obtain ⟨⟨_, result⟩, done, rfl⟩ := Option.map_eq_some_iff.mp stepped
    obtain ⟨count, sent⟩ := syncHierarchy_issues done
    exact ⟨_, count, issues_withIssues payload issues, sent⟩
  | syncGoogleAds client customerId payload =>
    obtain ⟨rfl, rfl, derived⟩ :
        client = clientId ∧ googleAdsKey = integrationKey ∧ _ = some issues := by
      simpa [RawLabel.computes] using computed
    rw [RawLabel.normalised, derived] at made
    obtain rfl := Option.some.inj made
    obtain ⟨⟨_, result⟩, done, rfl⟩ := Option.map_eq_some_iff.mp stepped
    obtain ⟨count, sent⟩ := syncHierarchy_issues done
    exact ⟨_, count, issues_withIssues payload issues, sent⟩
  | syncGoogleLsa client customerId payload =>
    obtain ⟨rfl, rfl, derived⟩ :
        client = clientId ∧ googleLsaKey = integrationKey ∧ _ = some issues := by
      simpa [RawLabel.computes] using computed
    rw [RawLabel.normalised, derived] at made
    obtain rfl := Option.some.inj made
    obtain ⟨⟨_, result⟩, done, rfl⟩ := Option.map_eq_some_iff.mp stepped
    obtain ⟨count, sent⟩ := syncGoogleLsa_issues done
    exact ⟨_, count, issues_withIssues payload issues, sent⟩
  | dismissRecommendation client recId => cases computed
  | resolveDeliveryIssue client issueId => cases computed

/-- A sync leaves the open issues of its integration current exactly when all that were open before
are computed again. -/
theorem current_iff_persists {t t' : InsightTables} {label : RawLabel}
    (taken : (payloadMachine tables).next t label = some t') :
    Current tables label t' ↔ Persists tables t label := by
  refine forall_congr' fun clientId => forall_congr' fun integrationKey =>
    forall_congr' fun issues => imp_congr_right fun computed => ?_
  obtain ⟨rows, count, rfl, sent⟩ := issues_of_next taken computed
  exact open_iff sent

/-! ## Runs -/

/-- In a run of syncs and operators, from any tables, the open issues of an integration are current
after every sync exactly when at every sync all of them are computed again. -/
theorem open_issues_current {t last : InsightTables} {labels : List RawLabel}
    (run : (payloadMachine tables).Run Machine.anyStep t labels last) :
    (∀ front label back before after, labels = front ++ label :: back →
        (payloadMachine tables).Run Machine.anyStep t front before →
        (payloadMachine tables).next before label = some after → Current tables label after) ↔
      (payloadMachine tables).Run (Persists tables) t labels last := by
  have judged : ∀ s label s', (payloadMachine tables).next s label = some s' →
      (Current tables label s' ↔ Persists tables s label) := fun _ _ _ => current_iff_persists
  exact run.steps_iff judged

/-- A payload with some campaigns and nothing else. -/
def campaignsOnly (campaigns : List Json) (issueId : Uuid) : Payload where
  pull := ⟨[], [], [], [], [], []⟩
  campaigns := campaigns
  adSets := []
  ads := []
  issueId _ := issueId

/-- A misconfigured campaign. -/
def misconfigured : Json :=
  .obj [("campaign", .obj [("id", .str "7"), ("primaryStatus", .str "MISCONFIGURED")])]

/-- The campaign once it is set right. -/
def eligibleCampaign : Json :=
  .obj [("campaign", .obj [("id", .str "7"), ("primaryStatus", .str "ELIGIBLE")])]

/-- A sync that finds the campaign misconfigured. -/
def findsIssue (issueId : Uuid) : RawLabel :=
  .syncGoogleAds 1 "900" (campaignsOnly [misconfigured] issueId)

/-- A sync that finds the campaign set right. -/
def findsNone : RawLabel := .syncGoogleAds 1 "900" (campaignsOnly [eligibleCampaign] 6)

/-- No tables are filled. -/
def noInsights : InsightTables := ⟨[], [], [], [], [], []⟩

/-- The issue of the first sync is open and current. -/
theorem first_issue_current :
    ∃ t, (payloadMachine .ascii).next noInsights (findsIssue 5) = some t ∧
      openIssues t 1 googleAdsKey ≠ [] ∧ Current .ascii (findsIssue 5) t := by
  obtain ⟨t, taken, standing⟩ : ∃ t,
      (payloadMachine .ascii).next noInsights (findsIssue 5) = some t ∧
      openIssues t 1 googleAdsKey ≠ [] := ⟨_, rfl, by decide⟩
  have run : (payloadMachine .ascii).Run Machine.anyStep noInsights [findsIssue 5] t :=
    .cons trivial taken (.nil t)
  have persists : Persists .ascii noInsights (findsIssue 5) :=
    fun _ _ _ _ row inside => absurd inside List.not_mem_nil
  refine ⟨t, taken, standing, ?_⟩
  exact (open_issues_current run).mpr (.cons persists taken (.nil t)) [] _ [] noInsights t rfl
    (.nil noInsights) taken

/-- The campaign is set right, and its issue is open after the sync that computes none. -/
theorem fixed_issue_stays_open :
    ∃ t t', (payloadMachine .ascii).play Machine.anyStep noInsights [findsIssue 5] = some t ∧
      (payloadMachine .ascii).next t findsNone = some t' ∧
      findsNone.computes .ascii = some (1, googleAdsKey, some []) ∧
      openIssues t' 1 googleAdsKey ≠ [] ∧ ¬Current .ascii findsNone t' := by
  obtain ⟨t, t', played, taken, computed, row, standing⟩ : ∃ t t',
      (payloadMachine .ascii).play Machine.anyStep noInsights [findsIssue 5] = some t ∧
      (payloadMachine .ascii).next t findsNone = some t' ∧
      findsNone.computes .ascii = some (1, googleAdsKey, some []) ∧
      ∃ row, row ∈ openIssues t' 1 googleAdsKey :=
    ⟨_, _, rfl, rfl, rfl, _, List.mem_cons_self⟩
  refine ⟨t, t', played, taken, computed, List.ne_nil_of_mem standing, fun current => ?_⟩
  obtain ⟨issue, inside, -⟩ := current 1 googleAdsKey [] computed row standing
  exact absurd inside List.not_mem_nil

end MarketingOS.PlatformInsight
