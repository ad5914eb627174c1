import Mathlib.Algebra.Order.Group.Defs
import Mathlib.Algebra.Order.Group.Unbundled.Basic
import Mathlib.Data.List.TakeWhile
import Mathlib.Logic.Function.Basic

/-!
# Sliding windows

A limiter admits a hit of a key when fewer than a number of hits of the key were admitted in the
window that ends at the hit. The exact limiter keeps every hit it has admitted since the key was
last forgotten. A limiter that keeps fewer hits answers the same as long as what it has dropped is
out of every window still to come.
-/
namespace MarketingOS.SlidingWindow

variable {κ τ ι σ : Type}

/-- One call on a limiter. -/
inductive Call (κ τ ι : Type) where
  /-- May a hit of a key pass at an instant? The token tells the hit from every other hit. -/
  | allow (key : κ) (now : τ) (token : ι)
  | forget (key : κ)
  | reset
deriving DecidableEq

namespace Call

/-- The clock reading of a call. -/
def clock : Call κ τ ι → Option τ
  | .allow _ now _ => some now
  | _ => none

/-- The token of a call. -/
def token : Call κ τ ι → Option ι
  | .allow _ _ token => some token
  | _ => none

/-- The key a call names. -/
def key : Call κ τ ι → Option κ
  | .allow key _ _ | .forget key => some key
  | .reset => none

/-- Whether a call drops what was admitted for a key. -/
def forgets [DecidableEq κ] (key : κ) : Call κ τ ι → Bool
  | .allow _ _ _ => false
  | .forget named => named = key
  | .reset => true

end Call

/-- A limiter: what it is after a call, and whether the hit of an `allow` passes. -/
structure Backend (σ κ τ ι : Type) where
  step : σ → Call κ τ ι → σ × Option Bool

namespace Backend

variable (b : Backend σ κ τ ι)

/-- The limiter after a sequence of calls. -/
def after : σ → List (Call κ τ ι) → σ
  | s, [] => s
  | s, call :: rest => after (b.step s call).1 rest

/-- The calls of a sequence, each with its answer. -/
def trace : σ → List (Call κ τ ι) → List (Call κ τ ι × Option Bool)
  | _, [] => []
  | s, call :: rest => (call, (b.step s call).2) :: trace (b.step s call).1 rest

/-- The answers to a sequence of calls. -/
def answers (s : σ) (calls : List (Call κ τ ι)) : List (Option Bool) :=
  (b.trace s calls).map Prod.snd

/-- What holds of the limiter and the call at every call of a sequence. -/
def Along (holds : σ → Call κ τ ι → Prop) : σ → List (Call κ τ ι) → Prop
  | _, [] => True
  | s, call :: rest => holds s call ∧ Along holds (b.step s call).1 rest

/-- A condition that can be decided at every call can be decided along a sequence. -/
instance decidableAlong (holds : σ → Call κ τ ι → Prop) [∀ s call, Decidable (holds s call)] :
    ∀ s calls, Decidable (b.Along holds s calls)
  | _, [] => .isTrue trivial
  | s, call :: rest =>
    let _ := decidableAlong holds (b.step s call).1 rest
    inferInstanceAs (Decidable (holds s call ∧ b.Along holds (b.step s call).1 rest))

variable {b}

/-- The calls of a trace are the calls made. -/
theorem trace_calls (s : σ) (calls : List (Call κ τ ι)) :
    (b.trace s calls).map Prod.fst = calls := by
  induction calls generalizing s with
  | nil => rfl
  | cons call rest ih => simp [trace, ih]

/-- The limiter after two sequences. -/
theorem after_append (s : σ) (early late : List (Call κ τ ι)) :
    b.after s (early ++ late) = b.after (b.after s early) late := by
  induction early generalizing s with
  | nil => rfl
  | cons call rest ih => exact ih _

/-- The trace of two sequences. -/
theorem trace_append (s : σ) (early late : List (Call κ τ ι)) :
    b.trace s (early ++ late) = b.trace s early ++ b.trace (b.after s early) late := by
  induction early generalizing s with
  | nil => rfl
  | cons call rest ih => simp [trace, after, ih]

/-- The parts of a trace are the traces of the parts of the sequence. -/
theorem trace_eq_append {s : σ} {calls : List (Call κ τ ι)}
    {early late : List (Call κ τ ι × Option Bool)} (split : b.trace s calls = early ++ late) :
    calls = early.map Prod.fst ++ late.map Prod.fst ∧ b.trace s (early.map Prod.fst) = early ∧
      b.trace (b.after s (early.map Prod.fst)) (late.map Prod.fst) = late := by
  have parts : calls = early.map Prod.fst ++ late.map Prod.fst := by
    rw [← List.map_append, ← split, trace_calls]
  have whole := split
  rw [parts, trace_append] at whole
  have lengths : (b.trace s (early.map Prod.fst)).length = early.length := by
    rw [← List.length_map Prod.fst, trace_calls, List.length_map]
  exact ⟨parts, List.append_inj whole lengths⟩

/-- Limiters related at every call answer the same. -/
theorem trace_eq_of_related {σ' : Type} {b' : Backend σ' κ τ ι}
    (related : List (Call κ τ ι) → σ → σ' → Prop)
    (step : ∀ call rest s s', related (call :: rest) s s' →
      (b.step s call).2 = (b'.step s' call).2 ∧ related rest (b.step s call).1 (b'.step s' call).1)
    {calls : List (Call κ τ ι)} {s : σ} {s' : σ'} (start : related calls s s') :
    b.trace s calls = b'.trace s' calls := by
  induction calls generalizing s s' with
  | nil => rfl
  | cons call rest ih =>
    obtain ⟨same, next⟩ := step call rest s s' start
    rw [trace, trace, same, ih next]

end Backend

/-- The instants of the hits of a key that a trace admits. -/
def admitted [DecidableEq κ] (key : κ) (trace : List (Call κ τ ι × Option Bool)) : List τ :=
  trace.filterMap fun
    | (.allow named now _, some true) => if named = key then some now else none
    | _ => none

/-- How many hits a window holds, and how long it is. -/
structure Limit (τ : Type) where
  times : Nat
  seconds : τ

section Window

variable [AddCommGroup τ] [LinearOrder τ]

/-- The hits of the window that ends at an instant. -/
def window (seconds t : τ) (hits : List τ) : List τ :=
  hits.filter fun hit => t - seconds < hit ∧ hit ≤ t

/-- No window holds more hits than the limit. -/
def Bounded (limit : Limit τ) (hits : List τ) : Prop :=
  ∀ t, (window limit.seconds t hits).length ≤ limit.times

/-- A window of two lists of hits. -/
theorem window_append (seconds t : τ) (early late : List τ) :
    window seconds t (early ++ late) = window seconds t early ++ window seconds t late :=
  List.filter_append ..

/-- A window of fewer hits holds fewer hits. -/
theorem window_length_le {hits more : List τ} (fewer : hits.Sublist more) (seconds t : τ) :
    (window seconds t hits).length ≤ (window seconds t more).length :=
  (fewer.filter _).length_le

variable [IsOrderedAddMonoid τ]

/-- A hit that its own window has room for breaks no window. -/
theorem Bounded.append {limit : Limit τ} {hits : List τ} {now : τ} (bounded : Bounded limit hits)
    (past : ∀ hit ∈ hits, hit ≤ now)
    (room : (window limit.seconds now hits).length < limit.times) :
    Bounded limit (hits ++ [now]) := by
  intro t
  rw [window_append, List.length_append]
  by_cases inside : t - limit.seconds < now ∧ now ≤ t
  · -- A window with the new hit ends after it, so its other hits are in the window of the hit.
    have within : window limit.seconds t hits = (window limit.seconds now hits).filter
        fun hit => t - limit.seconds < hit ∧ hit ≤ t := by
      rw [window, window, List.filter_filter]
      apply List.filter_congr
      intro hit member
      have later : now - limit.seconds ≤ t - limit.seconds := sub_le_sub_right inside.2 _
      by_cases hot : t - limit.seconds < hit ∧ hit ≤ t
      · simp [hot, past hit member, later.trans_lt hot.1]
      · simp [hot]
    have fewer : (window limit.seconds t hits).length ≤ (window limit.seconds now hits).length := by
      rw [within]
      exact List.length_filter_le _ _
    have single : (window limit.seconds t [now]).length ≤ 1 := List.length_filter_le _ _
    omega
  · have none : window limit.seconds t [now] = [] := by simp [window, inside]
    simpa [none] using bounded t

end Window

/-! ## Readings that do not decrease -/

section Order

variable [LinearOrder τ]

/-- The clock readings of a sequence do not decrease, from one reading on. -/
def Ordered (last : τ) (calls : List (Call κ τ ι)) : Prop :=
  (last :: calls.filterMap Call.clock).Pairwise (· ≤ ·)

/-- Every hit was admitted before a reading, and the hits of a key stand in order. -/
def Past (last : τ) (history : κ → List τ) : Prop :=
  ∀ key, (history key).Pairwise (· ≤ ·) ∧ ∀ hit ∈ history key, hit ≤ last

variable {history : κ → List τ} {last now : τ} {token : ι} {key : κ}
  {calls rest : List (Call κ τ ι)}

/-- A sequence whose readings do not decrease is ordered from some reading on. -/
theorem ordered_of_pairwise [Inhabited τ]
    (sorted : (calls.filterMap Call.clock).Pairwise (· ≤ ·)) :
    ∃ last, Ordered last calls := by
  cases readings : calls.filterMap Call.clock with
  | nil => exact ⟨default, by simp [Ordered, readings]⟩
  | cons first others =>
    refine ⟨first, ?_⟩
    rw [readings] at sorted
    rw [Ordered, readings]
    refine List.pairwise_cons.mpr ⟨?_, sorted⟩
    intro reading inside
    rcases List.mem_cons.mp inside with rfl | later
    · exact le_refl _
    · exact (List.pairwise_cons.mp sorted).1 reading later

/-- The first reading of an ordered sequence, and the rest of it. -/
theorem Ordered.allow (ordered : Ordered last (.allow key now token :: rest)) :
    last ≤ now ∧ Ordered now rest := by
  obtain ⟨first, sorted⟩ := List.pairwise_cons.mp ordered
  exact ⟨first now List.mem_cons_self, sorted⟩

/-- No hit is past every reading. -/
theorem past_nil : Past last (fun _ : κ => []) := fun _ => ⟨.nil, by simp⟩

/-- What was past stays past. -/
theorem Past.later (past : Past last history) (order : last ≤ now) : Past now history :=
  fun key => ⟨(past key).1, fun hit inside => ((past key).2 hit inside).trans order⟩

variable [DecidableEq κ]

/-- Forgetting a key leaves only hits that were past. -/
theorem Past.forget (past : Past last history) (key : κ) :
    Past last (Function.update history key []) := by
  intro other
  by_cases same : other = key
  · subst same
    simp
  · rw [Function.update_of_ne same]
    exact past other

/-- A new hit is past its own reading. -/
theorem Past.append (past : Past last history) (order : last ≤ now) (key : κ) :
    Past now (Function.update history key (history key ++ [now])) := by
  intro other
  by_cases same : other = key
  · subst same
    rw [Function.update_self]
    obtain ⟨sorted, before⟩ := past.later order other
    refine ⟨List.pairwise_append.mpr ⟨sorted, List.pairwise_singleton _ _, ?_⟩, ?_⟩
    · intro hit inside newest self
      rw [List.mem_singleton.mp self]
      exact before hit inside
    · intro hit inside
      rcases List.mem_append.mp inside with old | new
      · exact before hit old
      · exact (List.mem_singleton.mp new).le
  · rw [Function.update_of_ne same]
    exact past.later order other

end Order

/-! ## The exact limiter -/

section Exact

variable [AddCommGroup τ] [LinearOrder τ] [DecidableEq κ]

/-- The limiter that keeps every hit since its key was forgotten. -/
def exact (limits : κ → Limit τ) : Backend (κ → List τ) κ τ ι where
  step history
    | .allow key now _ =>
      if (window (limits key).seconds now (history key)).length < (limits key).times then
        (Function.update history key (history key ++ [now]), some true)
      else (history, some false)
    | .forget key => (Function.update history key [], none)
    | .reset => (fun _ => [], none)

variable {limits : κ → Limit τ} {history : κ → List τ} {last now : τ} {token : ι} {key : κ}
  {calls : List (Call κ τ ι)}

/-- A hit its window has room for is admitted. -/
theorem step_admitted
    (room : (window (limits key).seconds now (history key)).length < (limits key).times) :
    (exact limits).step history (.allow key now token) =
      (Function.update history key (history key ++ [now]), some true) := if_pos room

/-- A hit its window has no room for is refused. -/
theorem step_refused
    (full : ¬(window (limits key).seconds now (history key)).length < (limits key).times) :
    (exact limits).step history (.allow key now token) = (history, some false) := if_neg full

/-- The hits since a key was forgotten are some of those its trace admits. -/
theorem after_sublist (limits : κ → Limit τ) (history : κ → List τ) (calls : List (Call κ τ ι)) (key : κ) :
    (((exact limits).after history calls) key).Sublist
      (history key ++ admitted key ((exact limits).trace history calls)) := by
  induction calls generalizing history with
  | nil => simp [Backend.after, Backend.trace, admitted]
  | cons call rest ih =>
    cases call with
    | allow named now token =>
      by_cases room : (window (limits named).seconds now (history named)).length <
          (limits named).times
      · have later := ih (Function.update history named (history named ++ [now]))
        rw [Backend.after, Backend.trace, step_admitted room]
        by_cases same : named = key
        · subst same
          simpa [admitted] using later
        · rw [Function.update_of_ne (Ne.symm same)] at later
          simpa [admitted, same] using later
      · rw [Backend.after, Backend.trace, step_refused room]
        exact ih history
    | forget named =>
      have later := ih (Function.update history named [])
      by_cases same : named = key
      · subst same
        rw [Function.update_self, List.nil_append] at later
        exact later.trans (List.sublist_append_right _ _)
      · rw [Function.update_of_ne (Ne.symm same)] at later
        exact later
    | reset => exact (ih fun _ => []).trans (List.sublist_append_right _ _)

/-- As long as a key is not forgotten, every admitted hit of it is kept. -/
theorem after_of_kept (limits : κ → Limit τ) (history : κ → List τ) (calls : List (Call κ τ ι)) (key : κ)
    (kept : ∀ call ∈ calls, call.forgets key = false) :
    ((exact limits).after history calls) key =
      history key ++ admitted key ((exact limits).trace history calls) := by
  induction calls generalizing history with
  | nil => simp [Backend.after, Backend.trace, admitted]
  | cons call rest ih =>
    have others : ∀ other ∈ rest, other.forgets key = false :=
      fun other inside => kept other (List.mem_cons_of_mem _ inside)
    have keeps := kept call List.mem_cons_self
    cases call with
    | allow named now token =>
      by_cases room : (window (limits named).seconds now (history named)).length <
          (limits named).times
      · have later := ih (Function.update history named (history named ++ [now])) others
        rw [Backend.after, Backend.trace, step_admitted room]
        by_cases same : named = key
        · subst same
          simpa [admitted] using later
        · rw [Function.update_of_ne (Ne.symm same)] at later
          simpa [admitted, same] using later
      · rw [Backend.after, Backend.trace, step_refused room]
        exact ih history others
    | forget named =>
      have apart : key ≠ named := fun same => by simp [Call.forgets, same] at keeps
      have later := ih (Function.update history named []) others
      rw [Function.update_of_ne apart] at later
      exact later
    | reset => cases keeps

/-- A hit is refused only when its window is full of admitted hits. -/
theorem times_le_of_refused {early late : List (Call κ τ ι × Option Bool)}
    (split : (exact limits).trace (fun _ => []) calls =
      early ++ (.allow key now token, some false) :: late) :
    (limits key).times ≤ (window (limits key).seconds now (admitted key early)).length := by
  obtain ⟨-, front, back⟩ := Backend.trace_eq_append split
  have sublist := after_sublist limits (fun _ => []) (early.map Prod.fst) key
  rw [front, List.nil_append] at sublist
  simp only [List.map_cons, Backend.trace, List.cons.injEq, Prod.mk.injEq, true_and] at back
  by_cases room : (window (limits key).seconds now
      (((exact limits).after (fun _ => []) (early.map Prod.fst)) key)).length < (limits key).times
  · rw [step_admitted room] at back
    cases back.1
  · exact (Nat.le_of_not_lt room).trans (window_length_le sublist _ _)

variable [IsOrderedAddMonoid τ]

/-- The exact limiter breaks no window. -/
theorem bounded_after (limits : κ → Limit τ) (ordered : Ordered last calls) (past : Past last history)
    (bounded : ∀ key, Bounded (limits key) (history key)) (key : κ) :
    Bounded (limits key) (((exact limits).after history calls) key) := by
  induction calls generalizing history last with
  | nil => exact bounded key
  | cons call rest ih =>
    have cleared (limit : Limit τ) : Bounded limit [] := fun t => Nat.zero_le _
    cases call with
    | allow named now token =>
      obtain ⟨order, later⟩ := ordered.allow
      by_cases room : (window (limits named).seconds now (history named)).length <
          (limits named).times
      · rw [Backend.after, step_admitted room]
        apply ih later (past.append order named)
        intro other
        by_cases same : other = named
        · subst same
          rw [Function.update_self]
          exact (bounded other).append ((past.later order other).2) room
        · rw [Function.update_of_ne same]
          exact bounded other
      · rw [Backend.after, step_refused room]
        exact ih later (past.later order) bounded
    | forget named =>
      have later : Ordered last rest := ordered
      apply ih later (past.forget named)
      intro other
      by_cases same : other = named
      · subst same
        rw [Function.update_self]
        exact cleared _
      · rw [Function.update_of_ne same]
        exact bounded other
    | reset =>
      have later : Ordered last rest := ordered
      exact ih later past_nil fun other => cleared _

/-- Between two calls that forget a key, no window holds more admitted hits than its limit. -/
theorem window_admitted_le {early segment late : List (Call κ τ ι × Option Bool)}
    (ordered : Ordered last calls)
    (split : (exact limits).trace (fun _ => []) calls = early ++ segment ++ late)
    (kept : ∀ call ∈ segment, call.1.forgets key = false) (t : τ) :
    (window (limits key).seconds t (admitted key segment)).length ≤ (limits key).times := by
  obtain ⟨parts, front, -⟩ := Backend.trace_eq_append split
  obtain ⟨-, -, middle⟩ := Backend.trace_eq_append front
  have ahead : Ordered last ((early ++ segment).map Prod.fst) := by
    rw [Ordered, parts, List.filterMap_append, ← List.cons_append] at ordered
    exact (List.pairwise_append.mp ordered).1
  have bounded := bounded_after limits ahead past_nil (fun key t => Nat.zero_le _) key
  have whole := after_of_kept limits
    ((exact limits).after (fun _ => []) (early.map Prod.fst)) (segment.map Prod.fst) key (by
      intro call inside
      obtain ⟨answered, member, rfl⟩ := List.mem_map.mp inside
      exact kept answered member)
  rw [middle] at whole
  rw [List.map_append, Backend.after_append, whole] at bounded
  calc (window (limits key).seconds t (admitted key segment)).length
      ≤ (window (limits key).seconds t (_ ++ admitted key segment)).length :=
        window_length_le (List.sublist_append_right _ _) _ _
    _ ≤ (limits key).times := bounded t

end Exact

/-! ## Buckets that drop hits -/

section Buckets

variable [LinearOrder τ]

/-- Of hits in order, the first ones up to a cutoff are all that are up to it. -/
theorem dropWhile_eq_filter {hits : List τ} (sorted : hits.Pairwise (· ≤ ·))
    (cutoff : τ) :
    hits.dropWhile (· ≤ cutoff) = hits.filter (cutoff < ·) := by
  induction hits with
  | nil => rfl
  | cons hit rest ih =>
    obtain ⟨first, others⟩ := List.pairwise_cons.mp sorted
    by_cases early : hit ≤ cutoff
    · simp [early, ih others, not_lt.mpr early]
    · have all : ∀ other ∈ rest, cutoff < other := fun other inside =>
        (not_le.mp early).trans_le (first other inside)
      have kept : rest.filter (cutoff < ·) = rest := List.filter_eq_self.mpr (by simpa using all)
      simp [early, not_le.mp early, kept]

variable [AddCommGroup τ]

/-- A bucket holds the hits of a key, less some early ones that are out of every window that ends
after a reading. -/
def Covers (seconds last : τ) (hits bucket : List τ) : Prop :=
  ∃ gone, hits = gone ++ bucket ∧ ∀ hit ∈ gone, hit ≤ last - seconds

variable {seconds last now : τ} {hits bucket dropped kept : List τ}

/-- A bucket of all hits. -/
theorem Covers.refl (seconds last : τ) (hits : List τ) : Covers seconds last hits hits :=
  ⟨[], rfl, by simp⟩

/-- An empty bucket, when every hit is out of the windows to come. -/
theorem Covers.nil (past : ∀ hit ∈ hits, hit ≤ last - seconds) : Covers seconds last hits [] :=
  ⟨hits, by simp, past⟩

/-- More early hits may be dropped. -/
theorem Covers.drop (covers : Covers seconds last hits (dropped ++ kept))
    (past : ∀ hit ∈ dropped, hit ≤ last - seconds) : Covers seconds last hits kept := by
  obtain ⟨gone, whole, before⟩ := covers
  refine ⟨gone ++ dropped, by rw [whole, List.append_assoc], ?_⟩
  intro hit inside
  rcases List.mem_append.mp inside with early | late
  · exact before hit early
  · exact past hit late

/-- A new hit goes into the bucket. -/
theorem Covers.append (covers : Covers seconds last hits bucket) (hit : τ) :
    Covers seconds last (hits ++ [hit]) (bucket ++ [hit]) := by
  obtain ⟨gone, whole, before⟩ := covers
  exact ⟨gone, by rw [whole, List.append_assoc], before⟩

/-- The hits of a bucket are hits of its key. -/
theorem Covers.subset (covers : Covers seconds last hits bucket) {hit : τ} (inside : hit ∈ bucket) :
    hit ∈ hits := by
  obtain ⟨gone, whole, -⟩ := covers
  exact whole ▸ List.mem_append_right _ inside

/-- The hits of a bucket stand in the order of the hits of its key. -/
theorem Covers.sorted (covers : Covers seconds last hits bucket) (sorted : hits.Pairwise (· ≤ ·)) :
    bucket.Pairwise (· ≤ ·) := by
  obtain ⟨gone, rfl, -⟩ := covers
  exact (List.pairwise_append.mp sorted).2.1

/-- The bucket after the hits up to the cutoff are dropped. -/
theorem Covers.expire (covers : Covers seconds now hits bucket) :
    Covers seconds now hits (bucket.dropWhile (· ≤ now - seconds)) := by
  rw [← @List.takeWhile_append_dropWhile _ (· ≤ now - seconds) bucket] at covers
  apply covers.drop
  intro hit inside
  simpa using List.mem_takeWhile_imp inside

/-- What is left of a bucket is the window. -/
theorem Covers.expire_eq_window (covers : Covers seconds now hits bucket)
    (sorted : hits.Pairwise (· ≤ ·)) (past : ∀ hit ∈ hits, hit ≤ now) :
    bucket.dropWhile (· ≤ now - seconds) = window seconds now hits := by
  rw [dropWhile_eq_filter (covers.sorted sorted)]
  obtain ⟨gone, rfl, before⟩ := covers
  have out : window seconds now gone = [] := by
    rw [window, List.filter_eq_nil_iff]
    intro hit inside
    simp [not_lt.mpr (before hit inside)]
  rw [window_append, out, List.nil_append]
  apply List.filter_congr
  intro hit inside
  simp [past hit (List.mem_append_right _ inside)]

variable [IsOrderedAddMonoid τ]

/-- What was out of the windows to come stays out of them. -/
theorem Covers.later (covers : Covers seconds last hits bucket) (order : last ≤ now) :
    Covers seconds now hits bucket := by
  obtain ⟨gone, whole, before⟩ := covers
  exact ⟨gone, whole, fun hit inside => (before hit inside).trans (sub_le_sub_right order _)⟩

end Buckets

end MarketingOS.SlidingWindow
