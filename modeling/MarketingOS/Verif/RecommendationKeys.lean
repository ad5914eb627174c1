import MarketingOS.Base.Fields
import MarketingOS.Verif.Dismissal

/-! # Recommendation keys

A recommendation is stored under a key made of some of its parts: its subject for Meta, and the
entity, the type and the resource name for Google. Within the length of the column the key tells
these parts apart. After a sync there is one row for every key of the pull, with the last
recommendation of the key. -/
namespace MarketingOS.PlatformInsight

variable {tables : TextTables}

/-! ## Key parts -/

/-- What a Meta recommendation is about: its code, or without one its blamed field, or without
either its message. -/
def metaSubject (tables : TextTables) (row : Json) : Option String := do
  let code := tables.str ((← row.get? "code").orElse (.str ""))
  let blameField ← row.get? "blame_field"
  let message ← row.get? "message"
  some (tables.str (((Json.str code).orElse blameField).orElse message))

/-- The key of a subject before it is cut. -/
def metaKeyText (adAccountId subject : String) : String :=
  "account:" ++ adAccountId ++ ":" ++ subject

/-- What a Google recommendation is about. -/
structure GoogleParts where
  entityType : String
  entityId : String
  type : String
  resourceName : String

/-- The parts of a Google recommendation. -/
def googleParts (tables : TextTables) (customerId : String) (row : Json) : Option GoogleParts := do
  let rec_ := (← row.get? "recommendation").orElse (.obj [])
  let recType := (← rec_.get? "type").orElse (.str "RECOMMENDATION")
  let campaignRef ← rec_.get? "campaign"
  let camel ← rec_.get? "resourceName"
  let snake ← rec_.get? "resource_name"
  let entityId := tables.str ((← lastSegment campaignRef).orElse (.str customerId))
  match recType with
  | .str type => some {
      entityType := if campaignRef.truthy then "campaign" else "account"
      entityId
      type
      resourceName := tables.str ((camel.orElse snake).orElse (.str "")) }
  | _ => none

/-- The key of some parts before it is cut. -/
def GoogleParts.keyText (parts : GoogleParts) : String :=
  parts.entityType ++ ":" ++ parts.entityId ++ ":" ++ parts.type ++ ":" ++ parts.resourceName

/-- A normalised Meta recommendation has the key of its subject. -/
theorem recKey_of_meta {adAccountId : String} {raw : Json} {row : RecommendationRow}
    (made : normalizeMetaRecommendation tables adAccountId raw = some row) :
    ∃ subject, metaSubject tables raw = some subject ∧
      row.recKey = clip 160 (metaKeyText adAccountId subject) := by
  simp only [normalizeMetaRecommendation, Option.bind_eq_bind, Option.bind_eq_some_iff,
    Option.some.injEq] at made
  obtain ⟨code, hasCode, title, -, message, hasMessage, importance, -, blameField, hasField, rfl⟩ :=
    made
  refine ⟨_, ?_, rfl⟩
  rw [metaSubject, hasCode, hasField, hasMessage]
  rfl

/-- A normalised Google recommendation has the key of its parts. -/
theorem recKey_of_google {customerId : String} {raw : Json} {row : RecommendationRow}
    (made : normalizeGoogleRecommendation tables customerId raw = some row) :
    ∃ parts, googleParts tables customerId raw = some parts ∧
      row.recKey = clip 160 parts.keyText ∧ ':' ∉ parts.entityType.toList := by
  simp only [normalizeGoogleRecommendation, Option.bind_eq_bind, Option.bind_eq_some_iff] at made
  obtain ⟨recommendation, hasRec, type, hasType, campaignRef, hasCampaign, camel, hasCamel, snake,
    hasSnake, segment, hasSegment, made⟩ := made
  split at made
  · next name named =>
    obtain rfl := Option.some.inj made
    let parts : GoogleParts := {
      entityType := if campaignRef.truthy then "campaign" else "account"
      entityId := tables.str (segment.orElse (.str customerId))
      type := name
      resourceName := tables.str ((camel.orElse snake).orElse (.str "")) }
    refine ⟨parts, ?_, rfl, ?_⟩
    · simp only [googleParts, Option.bind_eq_bind, Option.bind_eq_some_iff]
      refine ⟨recommendation, hasRec, type, hasType, campaignRef, hasCampaign, camel, hasCamel,
        snake, hasSnake, segment, hasSegment, ?_⟩
      rw [named]
    · show ':' ∉ (if campaignRef.truthy then "campaign" else "account").toList
      split <;> decide
  · cases made

/-- Keys that fit the column are one exactly when their texts are. -/
theorem clip_inj_of_fits {left right : String} (fits : left.length ≤ 160)
    (fits' : right.length ≤ 160) (same : clip 160 left = clip 160 right) : left = right := by
  rwa [clip_of_fits fits, clip_of_fits fits'] at same

/-- A text that fills the column alone is cut before what follows it. -/
theorem clip_append {text rest : String} (fills : 160 ≤ text.length) :
    clip 160 (text ++ rest) = clip 160 text := by
  rw [← String.length_toList] at fills
  simp [clip, List.take_append_of_le_length fills]

/-- Recommendations of one Meta account with one subject have one key, and two with different
subjects have different keys when these fit the column. -/
def MetaKeysApart (tables : TextTables) : Prop :=
  ∀ adAccountId raw raw' row row' subject subject',
    normalizeMetaRecommendation tables adAccountId raw = some row →
    normalizeMetaRecommendation tables adAccountId raw' = some row' →
    metaSubject tables raw = some subject → metaSubject tables raw' = some subject' →
    (subject = subject' → row.recKey = row'.recKey) ∧
      ((metaKeyText adAccountId subject).length ≤ 160 →
        (metaKeyText adAccountId subject').length ≤ 160 → subject ≠ subject' →
        row.recKey ≠ row'.recKey)

/-- Recommendations of one Google customer with the same parts have one key, and two with different
parts have different keys when these fit the column and no identifier and no type holds a colon. -/
def GoogleKeysApart (tables : TextTables) : Prop :=
  ∀ customerId raw raw' row row' parts parts',
    normalizeGoogleRecommendation tables customerId raw = some row →
    normalizeGoogleRecommendation tables customerId raw' = some row' →
    googleParts tables customerId raw = some parts →
    googleParts tables customerId raw' = some parts' →
    (parts = parts' → row.recKey = row'.recKey) ∧
      (parts.keyText.length ≤ 160 → parts'.keyText.length ≤ 160 →
        ':' ∉ parts.entityId.toList ++ parts.type.toList →
        ':' ∉ parts'.entityId.toList ++ parts'.type.toList → parts ≠ parts' →
        row.recKey ≠ row'.recKey)

/-- Meta keys tell subjects apart. -/
theorem metaKeysApart : MetaKeysApart tables := by
  intro adAccountId raw raw' row row' subject subject' made made' hasSubject hasSubject'
  obtain ⟨known, found, key⟩ := recKey_of_meta made
  obtain ⟨known', found', key'⟩ := recKey_of_meta made'
  obtain rfl := Option.some.inj (hasSubject.symm.trans found)
  obtain rfl := Option.some.inj (hasSubject'.symm.trans found')
  rw [key, key']
  refine ⟨fun same => by rw [same], fun fits fits' apart same => apart ?_⟩
  have texts := congrArg String.toList (clip_inj_of_fits fits fits' same)
  simp only [metaKeyText, String.toList_append] at texts
  exact String.toList_inj.mp (List.append_cancel_left texts)

/-- Texts of parts without colons are one exactly when the parts are. -/
theorem keyText_injective {parts parts' : GoogleParts} (plain : ':' ∉ parts.entityType.toList)
    (plain' : ':' ∉ parts'.entityType.toList)
    (free : ':' ∉ parts.entityId.toList ++ parts.type.toList)
    (free' : ':' ∉ parts'.entityId.toList ++ parts'.type.toList)
    (same : parts.keyText = parts'.keyText) : parts = parts' := by
  rw [List.mem_append, not_or] at free free'
  simp only [GoogleParts.keyText, String.append_assoc] at same
  obtain ⟨types, same⟩ := Fields.first_unique plain plain' same
  obtain ⟨ids, same⟩ := Fields.first_unique free.1 free'.1 same
  obtain ⟨kinds, names⟩ := Fields.first_unique free.2 free'.2 same
  cases parts
  cases parts'
  simp_all

/-- Google keys tell parts apart. -/
theorem googleKeysApart : GoogleKeysApart tables := by
  intro customerId raw raw' row row' parts parts' made made' hasParts hasParts'
  obtain ⟨known, found, key, plain⟩ := recKey_of_google made
  obtain ⟨known', found', key', plain'⟩ := recKey_of_google made'
  obtain rfl := Option.some.inj (hasParts.symm.trans found)
  obtain rfl := Option.some.inj (hasParts'.symm.trans found')
  rw [key, key']
  refine ⟨fun same => by rw [same], fun fits fits' free free' apart same => apart ?_⟩
  exact keyText_injective plain plain' free free' (clip_inj_of_fits fits fits' same)

/-! ## Stored rows -/

/-- The client, the integration and the normalised recommendations of a sync. -/
def Label.recommends (tables : TextTables) :
    Label → Option (Uuid × String × Option (List (Uuid × RecommendationRow)))
  | .syncMeta clientId adAccountId pull =>
    some (clientId, metaKey,
      normalizeAll (normalizeMetaRecommendation tables adAccountId) pull.recommendations)
  | .syncGoogleAds clientId customerId pull =>
    some (clientId, googleAdsKey,
      normalizeAll (normalizeGoogleRecommendation tables customerId) pull.recommendations)
  | .syncGoogleLsa clientId customerId pull =>
    some (clientId, googleLsaKey,
      normalizeAll (normalizeGoogleRecommendation tables customerId) pull.recommendations)
  | .dismissRecommendation _ _ => none
  | .resolveDeliveryIssue _ _ => none

/-- The stored recommendations under a key. -/
def storedUnder (t : InsightTables) (key : Uuid × String × String) : List PlatformRecommendation :=
  t.recommendations.filter fun row => PlatformRecommendation.upsert.key row = key

/-- There is one row for every key of some normalised recommendations, with the last of the key. -/
def OneRowPerKey (clientId : Uuid) (integrationKey : String)
    (made : List (Uuid × RecommendationRow)) (t : InsightTables) : Prop :=
  ∀ row ∈ made.map Prod.snd, ∃ stored last,
    storedUnder t (clientId, integrationKey, row.recKey) = [stored] ∧
      ((made.map Prod.snd).filter fun other => other.recKey = row.recKey).getLast? = some last ∧
      stored.columns = last.columns

/-- After an upsert there is one row for every key of the batch, with the last recommendation of the
key. -/
theorem oneRowPerKey_of_upsert {clientId : Uuid} {integrationKey : String}
    {made : List (Uuid × RecommendationRow)} {t t' : InsightTables} {count : Nat}
    (distinct : (t.recommendations.map PlatformRecommendation.upsert.key).Nodup)
    (sent : upsertRecommendations clientId integrationKey made t.recommendations =
      some (t'.recommendations, count)) : OneRowPerKey clientId integrationKey made t' := by
  obtain ⟨result, count', sent', leaves⟩ :=
    upsertRecommendations_matches clientId integrationKey made t.recommendations
  obtain ⟨rfl, rfl⟩ := Prod.mk.inj (Option.some.inj (sent'.symm.trans sent))
  intro row inside
  obtain ⟨pair, listed, rfl⟩ := List.mem_map.mp inside
  have named : (clientId, integrationKey, pair.2.recKey) ∈
      (made.map (recommendationValues clientId integrationKey)).map
        PlatformRecommendation.upsert.key :=
    List.mem_map_of_mem (List.mem_map_of_mem listed)
  obtain ⟨stored, value, single, last, same⟩ := leaves.only distinct named
  have sameKey (other : Uuid × RecommendationRow) :
      PlatformRecommendation.upsert.key (recommendationValues clientId integrationKey other) =
        (clientId, integrationKey, pair.2.recKey) ↔ other.2.recKey = pair.2.recKey := by
    simp [PlatformRecommendation.upsert, recommendationValues]
  simp only [List.filter_map, List.getLast?_map, Function.comp_def, sameKey,
    Option.map_eq_some_iff] at last
  obtain ⟨sender, last, rfl⟩ := last
  refine ⟨stored, sender.2, single, ?_, congrArg PlatformRecommendation.columns (same stored.id)⟩
  simp only [List.filter_map, List.getLast?_map, Function.comp_def, last, Option.map_some]

/-- A sync leaves one recommendation for every key of its pull. -/
theorem oneRowPerKey_of_next {t t' : InsightTables} {label : Label} {clientId : Uuid}
    {integrationKey : String} {made : List (Uuid × RecommendationRow)}
    (distinct : (t.recommendations.map PlatformRecommendation.upsert.key).Nodup)
    (taken : next tables t label = some t')
    (sends : label.recommends tables = some (clientId, integrationKey, some made)) :
    OneRowPerKey clientId integrationKey made t' := by
  cases label with
  | syncMeta clientId adAccountId pull =>
    obtain ⟨⟨_, result⟩, done, rfl⟩ := Option.map_eq_some_iff.mp taken
    obtain ⟨_, count, all, sent⟩ := syncHierarchy_recommendations done
    simp only [Label.recommends, all, Option.some.injEq, Prod.mk.injEq] at sends
    obtain ⟨rfl, rfl, rfl⟩ := sends
    exact oneRowPerKey_of_upsert distinct sent
  | syncGoogleAds clientId customerId pull =>
    obtain ⟨⟨_, result⟩, done, rfl⟩ := Option.map_eq_some_iff.mp taken
    obtain ⟨_, count, all, sent⟩ := syncHierarchy_recommendations done
    simp only [Label.recommends, all, Option.some.injEq, Prod.mk.injEq] at sends
    obtain ⟨rfl, rfl, rfl⟩ := sends
    exact oneRowPerKey_of_upsert distinct sent
  | syncGoogleLsa clientId customerId pull =>
    obtain ⟨⟨_, result⟩, done, rfl⟩ := Option.map_eq_some_iff.mp taken
    obtain ⟨_, count, all, sent⟩ := syncGoogleLsa_recommendations done
    simp only [Label.recommends, all, Option.some.injEq, Prod.mk.injEq] at sends
    obtain ⟨rfl, rfl, rfl⟩ := sends
    exact oneRowPerKey_of_upsert distinct sent
  | dismissRecommendation clientId recId => cases sends
  | resolveDeliveryIssue clientId issueId => cases sends

/-- Keys tell the key parts of a pull's recommendations apart as far as they fit the column, and in
every reachable state a sync leaves one recommendation for every key of its pull. -/
theorem recommendations_kept_by_key {t t' : InsightTables} {label : Label} {clientId : Uuid}
    {integrationKey : String} {made : List (Uuid × RecommendationRow)}
    (reached : (machine tables).Reachable Machine.anyStep t)
    (taken : next tables t label = some t')
    (sends : label.recommends tables = some (clientId, integrationKey, some made)) :
    MetaKeysApart tables ∧ GoogleKeysApart tables ∧
      OneRowPerKey clientId integrationKey made t' :=
  ⟨metaKeysApart, googleKeysApart, oneRowPerKey_of_next (distinct_keys reached) taken sends⟩

/-- Two recommendations with different codes are two rows. -/
def twoCodes : Pull where
  campaigns := []
  adSets := []
  ads := []
  metrics := []
  recommendations := [(5, .obj [("code", .str "LOW_BUDGET")]), (6, .obj [("code", .str "FATIGUE")])]
  deliveryIssues := []

/-- A first sync of two recommendations leaves a row for each. -/
theorem recommendations_kept_by_key_twice :
    ∃ t' made, next .ascii ⟨[], [], [], [], [], []⟩ (.syncMeta 1 "act_9" twoCodes) = some t' ∧
      made.length = 2 ∧ OneRowPerKey 1 metaKey made t' := by
  obtain ⟨t', made, taken, sends, two⟩ : ∃ t' made,
      next .ascii ⟨[], [], [], [], [], []⟩ (.syncMeta 1 "act_9" twoCodes) = some t' ∧
      (Label.syncMeta 1 "act_9" twoCodes).recommends .ascii = some (1, metaKey, some made) ∧
      made.length = 2 :=
    ⟨_, _, rfl, rfl, by decide⟩
  have reached : (machine .ascii).Reachable Machine.anyStep ⟨[], [], [], [], [], []⟩ :=
    ⟨_, [], rfl, .nil _⟩
  exact ⟨t', made, taken, two, (recommendations_kept_by_key reached taken sends).2.2⟩

/-- Two recommendations of one code about two campaigns. -/
def sameCode : Pull where
  campaigns := []
  adSets := []
  ads := []
  metrics := []
  recommendations :=
    [(5, .obj [("code", .str "LOW_BUDGET"), ("message", .str "Raise the budget of Spring")]),
      (6, .obj [("code", .str "LOW_BUDGET"), ("message", .str "Raise the budget of Autumn")])]
  deliveryIssues := []

/-- A recommendation of Google about an account. -/
def accountRecommendation (resourceName : String) : Json :=
  .obj [("recommendation", .obj [("type", .str "KEYWORD"), ("resourceName", .str resourceName)])]

/-- The key of an account's recommendation. -/
theorem recKey_accountRecommendation {name : String} (named : name ≠ "") :
    (normalizeGoogleRecommendation .ascii "77" (accountRecommendation name)).map
        RecommendationRow.recKey =
      some (clip 160 ("account:77:KEYWORD:" ++ name)) := by
  simp [normalizeGoogleRecommendation, accountRecommendation, Json.get?, Json.orElse, Json.truthy,
    lastSegment, TextTables.str, List.lookup_cons, named]
  rfl

/-- A resource name of some length. -/
def letters (count : Nat) : String := String.ofList (List.replicate count 'a')

/-- Its length. -/
theorem length_letters (count : Nat) : (letters count).length = count := by
  rw [letters, String.length_ofList, List.length_replicate]

/-- The key of an account's recommendation with a long resource name is cut before its end. -/
theorem recKey_letters {rest : String} (more : letters 150 ++ rest ≠ "") :
    (normalizeGoogleRecommendation .ascii "77" (accountRecommendation (letters 150 ++ rest))).map
        RecommendationRow.recKey =
      some (clip 160 ("account:77:KEYWORD:" ++ letters 150)) := by
  have start : "account:77:KEYWORD:".length = 19 := by decide
  have fills : 160 ≤ ("account:77:KEYWORD:" ++ letters 150).length := by
    rw [String.length_append, length_letters, start]
    decide
  rw [recKey_accountRecommendation more, ← String.append_assoc, clip_append fills]

/-- Two Meta recommendations of one code with two messages share a key, and the sync stores the
second alone. Two Google recommendations whose resource names differ behind the cut share a key. -/
theorem recommendations_collide :
    (∃ t', next .ascii ⟨[], [], [], [], [], []⟩ (.syncMeta 1 "act_9" sameCode) = some t' ∧
      t'.recommendations.map (fun row => (row.id, row.columns.message)) =
        [(6, .str "Raise the budget of Autumn")]) ∧
    letters 150 ++ "b" ≠ letters 150 ++ "c" ∧
    (normalizeGoogleRecommendation .ascii "77" (accountRecommendation (letters 150 ++ "b"))).map
        RecommendationRow.recKey =
      (normalizeGoogleRecommendation .ascii "77" (accountRecommendation (letters 150 ++ "c"))).map
        RecommendationRow.recKey := by
  have more (rest : String) (extra : rest ≠ "") : letters 150 ++ rest ≠ "" :=
    fun same => extra (String.append_eq_empty_iff.mp same).2
  refine ⟨⟨_, rfl, ?_⟩, fun same => ?_,
    (recKey_letters (more "b" (by decide))).trans (recKey_letters (more "c" (by decide))).symm⟩
  · decide
  · rw [String.append_right_inj] at same
    exact absurd same (by decide)

end MarketingOS.PlatformInsight
