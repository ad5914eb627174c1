import MarketingOS.Verif.SharedRateLimit

/-! # The windows of the limiter, and its two back-ends

Each back-end answers as the limiter that drops nothing, whose windows are never exceeded; so the
windows of the store in memory are not, and the two back-ends agree as long as the keys of the
server tell the scoped keys apart. -/
namespace MarketingOS

open SlidingWindow

/-- Between two calls that forget a key, no window holds more admitted hits than its limit, and a
hit is refused only when its window is full. -/
theorem memory_windows_bounded {calls : Calls} (limits : ScopedKey → Limit Seconds)
    (sorted : (calls.filterMap Call.clock).Pairwise (· ≤ ·))
    (short : ∀ pair, (limits pair).seconds ≤ MemoryRateLimitStore.bucketTtlSeconds)
    (roomy : (MemoryRateLimitStore.backend limits).Along (MemoryRateLimitStore.Roomy limits)
      .init calls) (pair : ScopedKey) :
    (∀ early segment late t, (MemoryRateLimitStore.backend limits).trace .init calls =
        early ++ segment ++ late → (∀ call ∈ segment, call.1.forgets pair = false) →
      (window (limits pair).seconds t (admitted pair segment)).length ≤ (limits pair).times) ∧
    ∀ early now token late, (MemoryRateLimitStore.backend limits).trace .init calls =
        early ++ (.allow pair now token, some false) :: late →
      (limits pair).times ≤ (window (limits pair).seconds now (admitted pair early)).length := by
  rw [MemoryRateLimitStore.trace_eq_exact sorted short roomy]
  obtain ⟨last, ordered⟩ := ordered_of_pairwise sorted
  constructor
  · intro early segment late t split kept
    exact window_admitted_le ordered split kept t
  · intro early now token late split
    exact times_le_of_refused split

/-- The two back-ends give every call of a sequence the same answer. -/
theorem backends_agree {calls : Calls} (limits : ScopedKey → Limit Seconds)
    (sorted : (calls.filterMap Call.clock).Pairwise (· ≤ ·))
    (short : ∀ pair, (limits pair).seconds ≤ MemoryRateLimitStore.bucketTtlSeconds)
    (roomy : (MemoryRateLimitStore.backend limits).Along (MemoryRateLimitStore.Roomy limits)
      .init calls)
    (members : (calls.filterMap Call.token).Nodup)
    (apart : ∀ pair ∈ RedisRateLimitStore.named calls, ∀ other ∈ RedisRateLimitStore.named calls,
      RedisRateLimitStore.key pair = RedisRateLimitStore.key other → pair = other) :
    (MemoryRateLimitStore.backend limits).answers .init calls =
      (RedisRateLimitStore.backend limits).answers .empty calls := by
  unfold Backend.answers
  rw [MemoryRateLimitStore.trace_eq_exact sorted short roomy,
    RedisRateLimitStore.trace_eq_exact sorted members apart]

/-- What stands before the first colon, and after it, is determined. -/
theorem append_colon_inj {front front' back back' : List Char} (plain : ':' ∉ front)
    (plain' : ':' ∉ front') (same : front ++ ':' :: back = front' ++ ':' :: back') :
    front = front' ∧ back = back' := by
  induction front generalizing front' with
  | nil =>
    cases front' with
    | nil => exact ⟨rfl, (List.cons.inj same).2⟩
    | cons c rest => exact absurd ((List.cons.inj same).1 ▸ List.mem_cons_self) plain'
  | cons c rest ih =>
    cases front' with
    | nil => exact absurd ((List.cons.inj same).1 ▸ List.mem_cons_self) plain
    | cons c' rest' =>
      obtain ⟨rfl, tails⟩ := List.cons.inj same
      obtain ⟨rfl, backs⟩ := ih (fun inside => plain (List.mem_cons_of_mem _ inside))
        (fun inside => plain' (List.mem_cons_of_mem _ inside)) tails
      exact ⟨rfl, backs⟩

/-- Scopes without a colon keep their keys apart. -/
theorem RedisRateLimitStore.key_injective {pair other : ScopedKey}
    (plain : ':' ∉ pair.1.toList) (plain' : ':' ∉ other.1.toList) (same : key pair = key other) :
    pair = other := by
  have texts := congrArg String.toList same
  simp only [key, String.toList_append, List.append_assoc, List.append_cancel_left_eq] at texts
  obtain ⟨scopes, keys⟩ := append_colon_inj plain plain' texts
  exact Prod.ext (String.toList_inj.mp scopes) (String.toList_inj.mp keys)

/-- One hit a minute. -/
def oneAMinute : ScopedKey → Limit Seconds := fun _ => ⟨1, 60⟩

/-- A minute is shorter than what a bucket lives. -/
theorem oneAMinute_short (pair : ScopedKey) :
    (oneAMinute pair).seconds ≤ MemoryRateLimitStore.bucketTtlSeconds := by
  show (60 : ℚ) ≤ 3600
  norm_num

/-- Three hits of a key, the second one too early. -/
def threeHits : Calls :=
  [.allow ("login", "a") 0 "m1", .allow ("login", "a") 59 "m2", .allow ("login", "a") 60 "m3"]

/-- Of three hits the second one is refused. -/
theorem memory_windows_bounded_threeHits :
    (MemoryRateLimitStore.backend oneAMinute).answers .init threeHits =
        [some true, some false, some true] ∧
      (window 60 60 (admitted ("login", "a")
        ((MemoryRateLimitStore.backend oneAMinute).trace .init threeHits))).length ≤ 1 := by
  have sorted : (threeHits.filterMap Call.clock).Pairwise (· ≤ ·) := by decide +kernel
  have bounded := (memory_windows_bounded oneAMinute sorted oneAMinute_short
    (by decide +kernel) ("login", "a")).1
  exact ⟨by decide +kernel, bounded [] _ [] 60 (by simp) (by decide +kernel)⟩

/-- Two hits of a key, and a reset between them. -/
def resetBetween : Calls :=
  [.allow ("login", "a") 0 "m1", .reset, .allow ("login", "a") 1 "m2"]

/-- A reset opens a full window again, with no key forgotten. -/
theorem reset_exceeds_window :
    (resetBetween.filterMap Call.clock).Pairwise (· ≤ ·) ∧
      (∀ pair, (oneAMinute pair).seconds ≤ MemoryRateLimitStore.bucketTtlSeconds) ∧
      (MemoryRateLimitStore.backend oneAMinute).Along (MemoryRateLimitStore.Roomy oneAMinute)
        .init resetBetween ∧
      (∀ pair, .forget pair ∉ resetBetween) ∧
      (window 60 1 (admitted ("login", "a")
        ((MemoryRateLimitStore.backend oneAMinute).trace .init resetBetween))).length = 2 := by
  refine ⟨by decide +kernel, oneAMinute_short, by decide +kernel, ?_, by decide +kernel⟩
  simp [resetBetween]

/-- Both back-ends refuse the second of three hits. -/
theorem backends_agree_threeHits :
    (MemoryRateLimitStore.backend oneAMinute).answers .init threeHits =
      (RedisRateLimitStore.backend oneAMinute).answers .empty threeHits := by
  apply backends_agree oneAMinute (by decide +kernel) oneAMinute_short
    (by decide +kernel) (by decide +kernel)
  intro pair here other there
  have plain : ∀ pair ∈ RedisRateLimitStore.named threeHits, ':' ∉ pair.1.toList := by
    decide +kernel
  exact RedisRateLimitStore.key_injective (plain pair here) (plain other there)

/-- One hit of each of two pairs, whose scopes and keys make one key of the server. -/
def collidingPairs : Calls := [.allow ("a", "b:c") 0 "m1", .allow ("a:b", "c") 0 "m2"]

/-- The shared store takes the two pairs for one and refuses the second hit. -/
theorem collidingPairs_differ :
    (collidingPairs.filterMap Call.clock).Pairwise (· ≤ ·) ∧
      (∀ pair, (oneAMinute pair).seconds ≤ MemoryRateLimitStore.bucketTtlSeconds) ∧
      (MemoryRateLimitStore.backend oneAMinute).Along (MemoryRateLimitStore.Roomy oneAMinute)
        .init collidingPairs ∧
      (collidingPairs.filterMap Call.token).Nodup ∧
      (MemoryRateLimitStore.backend oneAMinute).answers .init collidingPairs =
        [some true, some true] ∧
      (RedisRateLimitStore.backend oneAMinute).answers .empty collidingPairs =
        [some true, some false] := by
  refine ⟨by decide +kernel, oneAMinute_short, by decide +kernel, by decide +kernel,
    by decide +kernel, by decide +kernel⟩

end MarketingOS
