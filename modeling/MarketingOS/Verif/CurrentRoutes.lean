import MarketingOS.Base.TtlInvalidation
import MarketingOS.Services.AiModelRoute

/-!
# How current the routes are that workers use

What `model_for` answers was routed by the table a bounded time before the call began, and a worker
that changes a route answers with it at once, unless a call there still holds routes it loaded
before.
-/
namespace MarketingOS.AiModelRouteService

open ModelRouter TtlCache

variable {ω θ : Type} [DecidableEq ω] [DecidableEq θ]

/-! ## The age of an answer -/

/-- A model is what a table routes a category to, where the table can be read. -/
def Answers (table : Option RouteTable) (category : String) (model : Option String) : Prop :=
  ∀ modelId, model = some modelId ↔ ∃ routed, table = some routed ∧ Routes routed category modelId

/-- What is loaded of a table answers for it. -/
theorem answers_load (table : Option RouteTable) (category : String) :
    Answers table category ((loadActiveRoutes table).get category) := by
  intro modelId
  cases table with
  | none =>
    constructor
    · intro found
      cases found
    · rintro ⟨_, ⟨⟩, _⟩
  | some routed =>
    rw [get_loadActiveRoutes]
    exact ⟨fun routes => ⟨routed, rfl, routes⟩, by rintro ⟨_, ⟨⟩, routes⟩; exact routes⟩

/-- A model is answered out of a cache that is there. -/
theorem modelFor_ok {cache : Option (Dict String String)} {feature : Option String}
    {category : String} {model : Option String} (named : categoryFor feature = some category)
    (answered : modelFor cache feature = .ok model) :
    ∃ routes, cache = some routes ∧ routes.get category = model := by
  simp only [modelFor, named] at answered
  cases cache with
  | none => cases answered
  | some routes => exact ⟨routes, rfl, Except.ok.inj answered⟩

/-- Where no call takes longer than some time, a model is answered that the table routed at most
that time and the lifetime of the cache before the call began, or that could not be read then. -/
theorem model_recent {longest : Timestamp} (short : 0 ≤ longest)
    {s : Workers ω θ × List (Timestamp × Option RouteTable)}
    (reached : ((workers ω θ).logged sightings).Reachable
      (fun s label => Brief longest s.1 label) s)
    {worker : ω} {thread : θ} {began : Timestamp}
    (stands : (s.1.processes worker).calls thread = .ready began)
    {feature : Option String} {category : String} {model : Option String}
    (named : categoryFor feature = some category)
    (answered : modelFor (s.1.processes worker).cache feature = .ok model) :
    ∃ time table, (time, table) ∈ s.2 ∧ began ≤ time + cacheTtl + longest ∧
      Answers table category model := by
  obtain ⟨routes, there, rfl⟩ := modelFor_ok named answered
  obtain ⟨time, table, logged, rfl, recent⟩ := served_brief (by decide) short reached stands there
  exact ⟨time, table, logged, recent, answers_load table category⟩

/-- A table with one route. -/
def sampleTable : RouteTable :=
  ⟨[{ newRoute "extraction" 1 0 with modelId := some "vendor/first" }], by decide⟩

/-- One worker of two threads that has just started. -/
def sampleWorkers : Workers Unit Bool := ⟨sampleTable, 0, fun _ => ⟨none, 0, fun _ => .idle⟩⟩

/-- The five steps of a call that loads the routes. -/
def sampleCall : List (Label Unit Bool RouteRequest) := List.replicate 5 (.step () true false)

/-- A call that begins three seconds after the start answers with the route of the table. -/
theorem sample_recent : ∃ s : Workers Unit Bool × List (Timestamp × Option RouteTable),
    (s.1.processes ()).calls true = .ready (3 * second) ∧
      ∃ time table, (time, table) ∈ s.2 ∧ 3 * second ≤ time + cacheTtl + second ∧
        Answers table "extraction" (some "vendor/first") := by
  have start : ((workers Unit Bool).logged sightings).start (sampleWorkers, []) :=
    ⟨⟨by decide, fun _ => rfl⟩, rfl⟩
  obtain ⟨s, run, stands, answered⟩ : ∃ s, ((workers Unit Bool).logged sightings).Run
      (fun s label => Brief second s.1 label) (sampleWorkers, [])
      (.tick (3 * second) :: sampleCall) s ∧
      (s.1.processes ()).calls true = .ready (3 * second) ∧
      modelFor (s.1.processes ()).cache (some AiFeature.brandExtraction) =
        .ok (some "vendor/first") := by
    exact ⟨_, .cons (fun _ _ _ since => by cases since) rfl (.cons True.intro rfl
      (.cons True.intro rfl (.cons True.intro rfl (.cons True.intro rfl (.cons True.intro rfl
        (.nil _)))))), rfl, rfl⟩
  have named : categoryFor (some AiFeature.brandExtraction) = some "extraction" := by decide
  exact ⟨s, stands, model_recent (by decide) ⟨_, _, start, run⟩ stands named answered⟩

/-- Where the calls of a worker do not overlap, a model is answered that the table routed at most
the lifetime of the cache before the call began, or that could not be read then. -/
theorem model_within_ttl {s : Workers ω θ × List (Timestamp × Option RouteTable)}
    (reached : ((workers ω θ).logged sightings).Reachable (fun s label => Alone s.1 label) s)
    {worker : ω} {thread : θ} {began : Timestamp}
    (stands : (s.1.processes worker).calls thread = .ready began)
    {feature : Option String} {category : String} {model : Option String}
    (named : categoryFor feature = some category)
    (answered : modelFor (s.1.processes worker).cache feature = .ok model) :
    ∃ time table, (time, table) ∈ s.2 ∧ began ≤ time + cacheTtl ∧
      Answers table category model := by
  obtain ⟨routes, there, rfl⟩ := modelFor_ok named answered
  obtain ⟨time, table, logged, rfl, recent⟩ := served_alone (by decide) reached stands there
  exact ⟨time, table, logged, recent, answers_load table category⟩

/-- So it does where the other thread of the worker is idle. -/
theorem sample_within_ttl : ∃ s : Workers Unit Bool × List (Timestamp × Option RouteTable),
    (s.1.processes ()).calls true = .ready 0 ∧
      ∃ time table, (time, table) ∈ s.2 ∧ 0 ≤ time + cacheTtl ∧
        Answers table "extraction" (some "vendor/first") := by
  have start : ((workers Unit Bool).logged sightings).start (sampleWorkers, []) :=
    ⟨⟨by decide, fun _ => rfl⟩, rfl⟩
  obtain ⟨s, run, stands, answered⟩ : ∃ s, ((workers Unit Bool).logged sightings).Run
      (fun s label => Alone s.1 label) (sampleWorkers, []) sampleCall s ∧
      (s.1.processes ()).calls true = .ready 0 ∧
      modelFor (s.1.processes ()).cache (some AiFeature.brandExtraction) =
        .ok (some "vendor/first") := by
    exact ⟨_, .cons (fun _ _ => rfl) rfl (.cons (fun idle => by cases idle) rfl
      (.cons (fun idle => by cases idle) rfl (.cons (fun idle => by cases idle) rfl
        (.cons (fun idle => by cases idle) rfl (.nil _))))), rfl, rfl⟩
  have named : categoryFor (some AiFeature.brandExtraction) = some "extraction" := by decide
  exact ⟨s, stands, model_within_ttl ⟨_, _, start, run⟩ stands named answered⟩

/-! ## Rows that requests keep -/

/-- No request updates the route of a category, and no load fails. -/
def Undisturbed (category : String) (_ : Workers ω θ) : Label ω θ RouteRequest → Prop
  | .request _ _ request => ∀ data updatedBy draw,
      request ≠ .updateRoute category data updatedBy draw
  | .step _ _ fails => fails = false
  | .tick _ => True

end MarketingOS.AiModelRouteService
