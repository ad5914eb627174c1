import MarketingOS.Base.Traverse

/-!
# Pulls

A computation that makes requests one after another, where a request may depend on the answers to
those before it. Read with a way to read answers it is a computation that returns or raises, and
what it raises is raised by the request it stops at or by the computation itself.
-/
namespace MarketingOS

/-- A computation that asks requests of `ρ`, reads payloads of `π` and raises exceptions of `ε`. -/
inductive Pull (ρ π ε α : Type) where
  | done (result : Except ε α)
  | ask (request : ρ) (next : π → Pull ρ π ε α)

namespace Pull

variable {ρ π ε α β : Type}

/-- A pull and then another. -/
def bind : Pull ρ π ε α → (α → Pull ρ π ε β) → Pull ρ π ε β
  | done (.error failure), _ => done (.error failure)
  | done (.ok value), next => next value
  | ask request rest, next => ask request fun payload => (rest payload).bind next

instance : Monad (Pull ρ π ε) where
  pure value := done (.ok value)
  bind := Pull.bind

/-- One request. -/
def request (request : ρ) : Pull ρ π ε π := ask request fun payload => done (.ok payload)

/-- What a pull returns or raises when its requests are read. -/
def run (read : ρ → Except ε π) : Pull ρ π ε α → Except ε α
  | done result => result
  | ask request next =>
    match read request with
    | .error failure => .error failure
    | .ok payload => (next payload).run read

/-- A request is asked when those before it are answered with payloads. -/
inductive Reaches (read : ρ → Except ε π) : Pull ρ π ε α → ρ → Prop
  | here {request next} : Reaches read (ask request next) request
  | later {first next payload request} (answered : read first = .ok payload)
      (rest : Reaches read (next payload) request) : Reaches read (ask first next) request

/-- What a pull raises of itself is of a kind. -/
def Raises (kind : ε → Prop) : Pull ρ π ε α → Prop
  | done result => RaisesOnly kind result
  | ask _ next => ∀ payload, (next payload).Raises kind

/-- A pull and then another run one after the other. -/
theorem run_bind (read : ρ → Except ε π) (first : Pull ρ π ε α) (next : α → Pull ρ π ε β) :
    (first >>= next).run read = first.run read >>= fun value => (next value).run read := by
  induction first with
  | done result => cases result <;> rfl
  | ask request rest ih =>
    change (ask request fun payload => (rest payload).bind next).run read = _
    rw [run, run]
    cases read request with
    | error failure => rfl
    | ok payload => exact ih payload

/-- One request runs to its payload. -/
theorem run_request (read : ρ → Except ε π) (asked : ρ) :
    (request asked : Pull ρ π ε π).run read = read asked := by
  rw [request, run]
  cases read asked with
  | error failure => rfl
  | ok payload => rfl

/-- What two pulls raise of themselves. -/
theorem raises_bind {kind : ε → Prop} {first : Pull ρ π ε α} {next : α → Pull ρ π ε β}
    (front : first.Raises kind) (rest : ∀ value, (next value).Raises kind) :
    (first >>= next).Raises kind := by
  induction first with
  | done result =>
    cases result with
    | error failure => exact raisesOnly_error (front failure rfl)
    | ok value => exact rest value
  | ask request more ih => exact fun payload => ih payload (front payload)

/-- A request raises nothing of itself. -/
theorem raises_request {kind : ε → Prop} (asked : ρ) :
    (request asked : Pull ρ π ε π).Raises kind := fun payload => raisesOnly_ok payload

/-- A pull raises what reading the answer to one of its requests raises. -/
theorem run_of_reaches {read : ρ → Except ε π} {pull : Pull ρ π ε α} {request : ρ} {failure : ε}
    (reached : pull.Reaches read request) (raised : read request = .error failure) :
    pull.run read = .error failure := by
  induction reached with
  | here => rw [run, raised]
  | later answered rest ih =>
    rw [run, answered]
    exact ih raised

/-- What a pull raises is raised by one of its requests or by the pull itself. -/
theorem run_error {kind : ε → Prop} {read : ρ → Except ε π} {pull : Pull ρ π ε α} {failure : ε}
    (raises : pull.Raises kind) (raised : pull.run read = .error failure) :
    kind failure ∨ ∃ request, pull.Reaches read request ∧ read request = .error failure := by
  induction pull with
  | done result => exact .inl (raises failure raised)
  | ask first next ih =>
    rw [run] at raised
    cases answer : read first with
    | error failing =>
      rw [answer] at raised
      cases raised
      exact .inr ⟨first, .here, answer⟩
    | ok payload =>
      rw [answer] at raised
      obtain isKind | ⟨request, reached, raises⟩ := ih payload (raises payload) raised
      · exact .inl isKind
      · exact .inr ⟨request, .later answer reached, raises⟩

end Pull

end MarketingOS
