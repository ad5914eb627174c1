/-!
# Exceptions

Services raise the typed `AppError` subclasses, which the application expects and handles;
every other Python exception (a missing key, a refused payload, a database error) passes
through the same code unhandled. The two kinds are kept apart, since `except AppError`
separates exactly them.
-/
namespace MarketingOS

/-- The `AppError` subclass raised. -/
inductive AppErrorKind where
  | badRequest
  | unauthorized
  | forbidden
  | notFound
  | conflict
deriving DecidableEq, Repr

/-- `AppError` — an expected, handled application error. -/
structure AppError where
  kind : AppErrorKind
  message : String
deriving DecidableEq, Repr

/-- The class of an exception that is no `AppError`. -/
inductive PyError where
  /-- A mapping has no such key. -/
  | keyError
  /-- A value is not one of the type's values (`uuid.UUID(...)`, an enum of a foreign value). -/
  | valueError
  /-- An operation is not defined on its operands. -/
  | typeError
  /-- A value has no such attribute. -/
  | attributeError
  /-- pydantic refuses a payload. -/
  | validationError
  /-- The database refuses a statement (`IntegrityError`, `DataError`). -/
  | dbapiError
deriving DecidableEq, Repr

/-- An exception in flight. -/
inductive Exc where
  | app (error : AppError)
  | other (error : PyError)
deriving DecidableEq, Repr

/-- A computation that returns or raises. -/
abbrev Outcome (α : Type) : Type := Except Exc α

/-- `raise BadRequestError(message)`. -/
def badRequest {α : Type} (message : String) : Outcome α :=
  .error (.app ⟨.badRequest, message⟩)

/-- `raise ForbiddenError(message)`. -/
def forbidden {α : Type} (message : String) : Outcome α := .error (.app ⟨.forbidden, message⟩)

/-- `raise NotFoundError(message)`. -/
def notFound {α : Type} (message : String) : Outcome α := .error (.app ⟨.notFound, message⟩)

/-- `raise ConflictError(message)`. -/
def conflict {α : Type} (message : String) : Outcome α := .error (.app ⟨.conflict, message⟩)

/-- An exception that is no `AppError`. -/
def raised {α : Type} (error : PyError) : Outcome α := .error (.other error)

/-- A value, or an exception for the absence of one. -/
def Outcome.ofOption {α : Type} (missing : PyError) : Option α → Outcome α
  | none => raised missing
  | some value => .ok value

/-- A value that is there raises nothing. -/
@[simp] theorem Outcome.ofOption_some {α : Type} (missing : PyError) (value : α) :
    Outcome.ofOption missing (some value) = .ok value := rfl

/-- Going on after a result. -/
@[simp] theorem Outcome.ok_bind {α β : Type} (value : α) (next : α → Outcome β) :
    ((.ok value : Outcome α) >>= next) = next value := rfl

/-- Returning a value raises nothing. -/
@[simp] theorem Outcome.pure_eq {α : Type} (value : α) : (pure value : Outcome α) = .ok value := rfl

/-- Reading a result through a function. -/
@[simp] theorem Outcome.map_ok {α β : Type} (read : α → β) (value : α) :
    (Except.ok value : Outcome α).map read = .ok (read value) := rfl

/-- A result read through a function was returned by the first part. -/
theorem Outcome.of_map_ok {α β : Type} {first : Outcome α} {read : α → β} {result : β}
    (done : first.map read = .ok result) : ∃ value, first = .ok value ∧ read value = result := by
  cases first with
  | error exc => cases done
  | ok value => exact ⟨value, rfl, Except.ok.inj done⟩

/-- Going on to a result that is returned is reading the first one through a function. -/
theorem Outcome.bind_pure {α β : Type} (first : Outcome α) (read : α → β) :
    (first >>= fun value => .ok (read value)) = first.map read := by
  cases first <;> rfl

/-- A bind that succeeds has a first part that succeeds. -/
theorem Outcome.bind_ok {α β : Type} {first : Outcome α} {next : α → Outcome β} {result : β} :
    (first >>= next) = .ok result ↔ ∃ value, first = .ok value ∧ next value = .ok result := by
  cases first <;> simp [bind, Except.bind]

end MarketingOS
