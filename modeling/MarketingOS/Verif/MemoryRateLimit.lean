import MarketingOS.Core.RateLimit

/-! # The limiter in memory is exact

The store drops hits early, in its sweep, at a look and for room, but as long as no scope is over
its cap only hits that are out of every window still to come. So it answers every call as the
limiter that drops nothing. -/
namespace MarketingOS

open SlidingWindow

/-- A sequence of calls on a limiter of scoped keys. -/
abbrev Calls : Type := List (Call ScopedKey Seconds String)

variable {limits : ScopedKey → Limit Seconds} {history : ScopedKey → List Seconds}
  {now last : Seconds} {pair other : ScopedKey}

namespace MemoryRateLimitStore

variable {store : MemoryRateLimitStore}

/-- No scope holds more keys than its cap. -/
def Roomy (limits : ScopedKey → Limit Seconds) (store : MemoryRateLimitStore) :
    Call ScopedKey Seconds String → Prop
  | .allow pair now _ =>
    ((store.hit pair (limits pair) now).1.keysOf pair.1).entries.length ≤ maxKeysPerScope
  | _ => True

instance (store : MemoryRateLimitStore) (call : Call ScopedKey Seconds String) :
    Decidable (Roomy limits store call) := by
  cases call <;> unfold Roomy <;> infer_instance

/-! ## Buckets after each operation -/

/-- A bucket after another was set. -/
theorem bucket_setBucket (store : MemoryRateLimitStore) (pair other : ScopedKey)
    (hits : List Seconds) :
    (store.setBucket pair hits).bucket other = if other = pair then hits else store.bucket other := by
  obtain ⟨scope, key⟩ := pair
  obtain ⟨scope', key'⟩ := other
  simp only [bucket, keysOf, setBucket, Dict.get_set, Prod.mk.injEq]
  by_cases sameScope : scope' = scope
  · subst sameScope
    by_cases sameKey : key' = key
    · simp [sameKey]
    · simp [sameKey, Dict.get_set]
  · simp [sameScope]

/-- A bucket after another was forgotten. -/
theorem bucket_forget (store : MemoryRateLimitStore) (pair other : ScopedKey) :
    (store.forget pair).bucket other = if other = pair then [] else store.bucket other := by
  obtain ⟨scope, key⟩ := pair
  obtain ⟨scope', key'⟩ := other
  unfold forget
  cases found : store.hits.get scope with
  | none =>
    by_cases sameScope : scope' = scope
    · subst sameScope
      simp [bucket, keysOf, found]
    · simp [sameScope]
  | some keys =>
    simp only [bucket, keysOf, Dict.get_set, Prod.mk.injEq]
    by_cases sameScope : scope' = scope
    · subst sameScope
      by_cases sameKey : key' = key
      · simp [sameKey, Dict.get_erase]
      · simp [sameKey, Dict.get_erase, found]
    · simp [sameScope]

/-- A bucket after the sweep is what it was, or was stale. -/
theorem bucket_prune (store : MemoryRateLimitStore) (now : Seconds) (pair : ScopedKey) :
    (store.prune now).bucket pair = store.bucket pair ∨
      (store.prune now).bucket pair = [] ∧
        stale (now - bucketTtlSeconds) (store.bucket pair) = true := by
  obtain ⟨scope, key⟩ := pair
  unfold prune
  split
  · exact .inl rfl
  · simp only [bucket, keysOf, Dict.get_filter, Dict.get_mapValues]
    cases store.hits.get scope with
    | none => exact .inl rfl
    | some keys =>
      -- A scope without keys left is dropped, and reads like one whose keys are all absent.
      have reads : ∀ kept : Dict String (List Seconds),
          (((some kept).filter fun keys => !keys.entries.isEmpty).getD .empty).get key =
            kept.get key := by
        intro kept
        by_cases bare : kept.entries = []
        · simp [Option.filter_some, bare, Dict.entries_eq_nil_iff.mp bare key]
        · simp [Option.filter_some, bare]
      simp only [Option.map_some, reads, Dict.get_filter, Option.getD_some]
      cases keys.get key with
      | none => exact .inl rfl
      | some hits =>
        by_cases old : stale (now - bucketTtlSeconds) hits = true
        · exact .inr ⟨by simp [Option.filter_some, old], old⟩
        · exact .inl (by simp [Option.filter_some, old])

/-- In order, no hit comes after the newest one. -/
theorem le_of_stale {before : Seconds} {hits : List Seconds} (old : stale before hits = true)
    (sorted : hits.Pairwise (· ≤ ·)) : ∀ hit ∈ hits, hit ≤ before := by
  intro hit inside
  cases newest : hits.getLast? with
  | none =>
    rw [List.getLast?_eq_none_iff.mp newest] at inside
    cases inside
  | some final =>
    have bound : final ≤ before := by simpa [stale, newest] using old
    obtain ⟨front, rfl⟩ := List.getLast?_eq_some_iff.mp newest
    rcases List.mem_append.mp inside with early | self
    · exact ((List.pairwise_append.mp sorted).2.2 hit early final List.mem_cons_self).trans bound
    · exact (List.mem_singleton.mp self).le.trans bound

/-! ## The store drops dead hits only -/

/-- Every bucket holds the hits of its key, less some that are out of the windows to come. -/
def Tracks (limits : ScopedKey → Limit Seconds) (last : Seconds) (store : MemoryRateLimitStore)
    (history : ScopedKey → List Seconds) : Prop :=
  ∀ pair, Covers (limits pair).seconds last (history pair) (store.bucket pair)

/-- The sweep drops dead hits only. -/
theorem Tracks.prune (tracks : Tracks limits now store history) (past : Past now history)
    (short : ∀ pair, (limits pair).seconds ≤ bucketTtlSeconds) :
    Tracks limits now (store.prune now) history := by
  intro pair
  have covers := tracks pair
  obtain same | ⟨bare, old⟩ := bucket_prune store now pair
  · rw [same]
    exact covers
  · rw [bare]
    rw [← List.append_nil (store.bucket pair)] at covers
    apply covers.drop
    intro hit inside
    have aged := le_of_stale old ((tracks pair).sorted (past pair).1) hit inside
    exact aged.trans (sub_le_sub_left (short pair) now)

/-- A bucket that holds the live hits of its key. -/
theorem Tracks.setBucket (tracks : Tracks limits now store history) {hits : List Seconds}
    (covers : Covers (limits pair).seconds now (history pair) hits) :
    Tracks limits now (store.setBucket pair hits) history := by
  intro other
  rw [bucket_setBucket]
  split
  · rename_i same
    rw [same]
    exact covers
  · exact tracks other

/-- A bucket with a new hit. -/
theorem Tracks.append (tracks : Tracks limits now store history) {hits : List Seconds}
    (covers : Covers (limits pair).seconds now (history pair) hits) :
    Tracks limits now (store.setBucket pair (hits ++ [now]))
      (Function.update history pair (history pair ++ [now])) := by
  intro other
  rw [bucket_setBucket]
  split
  · rename_i same
    subst same
    rw [Function.update_self]
    exact covers.append now
  · rename_i apart
    rw [Function.update_of_ne apart]
    exact tracks other

/-- The store and the exact limiter, with the calls still to come. -/
inductive Related (limits : ScopedKey → Limit Seconds) (calls : Calls)
    (store : MemoryRateLimitStore) (history : ScopedKey → List Seconds) : Prop where
  | at (last : Seconds) (ordered : Ordered last calls) (past : Past last history)
    (roomy : (backend limits).Along (Roomy limits) store calls)
    (tracks : Tracks limits last store history)

/-- A scope within its cap is left alone. -/
theorem enforceScopeCap_of_roomy {scope : String}
    (roomy : (store.keysOf scope).entries.length ≤ maxKeysPerScope) :
    store.enforceScopeCap scope = store := if_pos roomy

/-- The step lemma: a call is answered as by the exact limiter, and leaves the two related. -/
theorem related_step (short : ∀ pair, (limits pair).seconds ≤ bucketTtlSeconds)
    (call : Call ScopedKey Seconds String) (rest : Calls) (store : MemoryRateLimitStore)
    (history : ScopedKey → List Seconds) (related : Related limits (call :: rest) store history) :
    ((backend limits).step store call).2 = ((exact limits).step history call).2 ∧
      Related limits rest ((backend limits).step store call).1
        ((exact limits).step history call).1 := by
  obtain ⟨last, ordered, past, ⟨fits, roomy⟩, tracks⟩ := related
  cases call with
  | allow pair now token =>
    obtain ⟨order, later⟩ := ordered.allow
    have pastNow := past.later order
    have swept : Tracks limits now (store.prune now) history :=
      Tracks.prune (fun pair => (tracks pair).later order) pastNow short
    have live := (swept pair).expire
    have whole := (swept pair).expire_eq_window (pastNow pair).1 (pastNow pair).2
    by_cases room : (window (limits pair).seconds now (history pair)).length < (limits pair).times
    · have hits : store.hit pair (limits pair) now =
          ((store.prune now).setBucket pair
            (((store.prune now).bucket pair).dropWhile (· ≤ now - (limits pair).seconds) ++ [now]),
            true) := by
        rw [← whole] at room
        exact if_neg (Nat.not_le.mpr room)
      have passes : (backend limits).step store (.allow pair now token) =
          ((store.hit pair (limits pair) now).1, some true) := by
        simp only [backend, allow]
        simp only [Roomy] at fits
        rw [hits] at fits ⊢
        simp only [enforceScopeCap_of_roomy fits]
      rw [passes] at roomy ⊢
      rw [step_admitted room]
      refine ⟨rfl, now, later, past.append order pair, roomy, ?_⟩
      rw [hits]
      exact swept.append live
    · have hits : store.hit pair (limits pair) now =
          ((store.prune now).setBucket pair
            (((store.prune now).bucket pair).dropWhile (· ≤ now - (limits pair).seconds)),
            false) := by
        rw [← whole] at room
        exact if_pos (Nat.not_lt.mp room)
      have refused : (backend limits).step store (.allow pair now token) =
          ((store.hit pair (limits pair) now).1, some false) := by
        simp only [backend, allow]
        rw [hits]
      rw [refused] at roomy ⊢
      rw [step_refused room]
      refine ⟨rfl, now, later, pastNow, roomy, ?_⟩
      rw [hits]
      exact swept.setBucket live
  | forget pair =>
    refine ⟨rfl, last, ordered, past.forget pair, roomy, ?_⟩
    intro other
    simp only [backend, bucket_forget, exact]
    split
    · rename_i same
      rw [same, Function.update_self]
      exact Covers.refl _ _ _
    · rename_i apart
      rw [Function.update_of_ne apart]
      exact tracks other
  | reset => exact ⟨rfl, last, ordered, past_nil, roomy, fun pair => Covers.refl _ _ _⟩

/-- The store answers every call as the exact limiter. -/
theorem trace_eq_exact {calls : Calls}
    (sorted : (calls.filterMap Call.clock).Pairwise (· ≤ ·))
    (short : ∀ pair, (limits pair).seconds ≤ bucketTtlSeconds)
    (roomy : (backend limits).Along (Roomy limits) init calls) :
    (backend limits).trace init calls = (exact limits).trace (fun _ => []) calls := by
  obtain ⟨last, ordered⟩ := ordered_of_pairwise sorted
  apply Backend.trace_eq_of_related (Related limits) (related_step short)
  exact ⟨last, ordered, past_nil, roomy, fun pair => Covers.refl _ _ _⟩

end MemoryRateLimitStore

end MarketingOS
