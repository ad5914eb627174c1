import MarketingOS.Base.TtlCache

/-!
# Dropping a cached value

A request drops the value of its process after it has committed, and reads that are under way may
still assign what they loaded before. So what is answered afterwards has a property that every load
gives from then on, exactly when the values held at the drop have it.
-/
namespace MarketingOS.TtlCache

variable {ω θ σ V ρ : Type} [DecidableEq ω] [DecidableEq θ]
variable {setup : Setup σ V ρ} {store : σ} {clock : Int} {thread : θ} {fails : Bool}
  {p : Process θ V} {good : V → Prop}

/-- The values a process holds have a property. -/
structure Holding (good : V → Prop) (p : Process θ V) : Prop where
  loaded : ∀ thread now value, p.calls thread = .loaded now value → good value
  cached : ∀ value, p.cache = some value → good value

/-- A thread that moves on without a value keeps the values held. -/
theorem Holding.goto (holding : Holding good p) {call : Call V}
    (empty : ∀ now value, call ≠ .loaded now value) : Holding good (p.goto thread call) where
  loaded other now value stands := by
    rw [calls_goto] at stands
    split at stands
    · exact absurd stands (empty now value)
    · exact holding.loaded other now value stands
  cached := holding.cached

/-- A step of a thread keeps a property that its load gives. -/
theorem Holding.advance (holding : Holding good p)
    (loads : ∀ now, p.calls thread = .missed now → good (setup.load (seen store fails))) :
    Holding good (p.advance setup store clock thread fails) := by
  rw [advance_eq]
  cases stands : p.calls thread with
  | idle => exact holding.goto fun _ _ h => by cases h
  | started now =>
    refine holding.goto fun later value h => ?_
    split at h <;> cases h
  | found now =>
    refine holding.goto fun later value h => ?_
    split at h <;> cases h
  | missed now =>
    refine ⟨fun other later value loaded => ?_, holding.cached⟩
    rw [calls_goto] at loaded
    split at loaded
    · cases loaded
      exact loads now stands
    · exact holding.loaded other later value loaded
  | loaded now value =>
    have moved : Holding good (p.goto thread (.assigned now)) :=
      holding.goto fun _ _ h => by cases h
    refine ⟨moved.loaded, fun held there => ?_⟩
    obtain rfl := Option.some.inj there
    exact holding.loaded thread now value stands
  | assigned now =>
    have moved : Holding good (p.goto thread (.ready now)) := holding.goto fun _ _ h => by cases h
    exact ⟨moved.loaded, moved.cached⟩
  | ready now => exact holding.goto fun _ _ h => by cases h
  | committed =>
    have moved : Holding good (p.goto thread .idle) := holding.goto fun _ _ h => by cases h
    exact ⟨moved.loaded, fun _ there => by cases there⟩

/-- A step of the fleet keeps a property that its load gives. -/
theorem Holding.step {fleet fleet' : Fleet ω θ σ V} {label : Label ω θ ρ} {process : ω}
    (holding : Holding good (fleet.processes process))
    (loads : ∀ thread fails, label = .step process thread fails →
      good (setup.load (seen fleet.store fails)))
    (taken : next setup fleet label = some fleet') : Holding good (fleet'.processes process) := by
  rcases next_process taken process with same | ⟨thread, request, call, -, quiet, same⟩ |
      ⟨thread, fails, rfl, same⟩
  · rw [same]
    exact holding
  · rw [same]
    exact holding.goto fun _ _ h => by subst h; cases quiet
  · rw [same]
    exact holding.advance fun _ _ => loads thread fails rfl

end MarketingOS.TtlCache
