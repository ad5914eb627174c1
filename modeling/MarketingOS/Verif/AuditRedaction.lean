import MarketingOS.Core.Middleware

/-!
# Secrets in the audit diff

The fallback diff of two bodies that differ in secrets only is the same exactly when the secrets
stand at the top of the documents and both bodies, or neither of them, are short enough to be read.
-/
namespace MarketingOS.AuditMiddleware

variable {Number : Type} {tables : TextTables}

/-- A body the fallback reads. -/
def Read (body : RequestBody Number) : Prop := 0 < body.size ∧ body.size ≤ maxRequestPeek

/-- Fields with nothing to record: null under plain keys. -/
def BareFields (tables : TextTables) (fields : List (String × JsonTree Number)) : Prop :=
  ∀ field ∈ fields, isRedacted tables field.1 = false ∧ field.2 = .null

/-- A body with nothing to record: no object, or one with null under plain keys only. -/
def Bare (tables : TextTables) (body : RequestBody Number) : Prop :=
  ∀ fields, body.document = some (.obj fields) → BareFields tables fields

/-- What is recorded of the fields of an object. -/
def entries (tables : TextTables) (fields : List (String × JsonTree Number)) :
    List (String × BodyChange Number) :=
  (safe tables fields).filterMap fun field =>
    if field.2.isNull then none else some (field.1, BodyChange.mk .null field.2)

/-- The entry of one field, before those of the others. -/
theorem entries_cons (key : String) (value : JsonTree Number)
    (rest : List (String × JsonTree Number)) :
    entries tables ((key, value) :: rest) =
      if isRedacted tables key then
        (key, ⟨.null, .str "***redacted***"⟩) :: entries tables rest
      else if value.isNull then entries tables rest
      else (key, ⟨.null, value⟩) :: entries tables rest := by
  cases hidden : isRedacted tables key with
  | true => simp [entries, safe, hidden, JsonTree.isNull]
  | false =>
    cases none : value.isNull <;> simp [entries, safe, hidden, none]

/-- Nothing is recorded of bare fields only. -/
theorem entries_eq_nil {fields : List (String × JsonTree Number)} :
    entries tables fields = [] ↔ BareFields tables fields := by
  induction fields with
  | nil => simp [entries, safe, BareFields]
  | cons field rest ih =>
    obtain ⟨key, value⟩ := field
    rw [entries_cons, BareFields, List.forall_mem_cons, ← BareFields, ← ih, ← JsonTree.isNull_iff]
    cases isRedacted tables key <;> cases value.isNull <;> simp

/-- Of two lists of fields that differ in secrets only, the same is recorded exactly when they differ
in secrets at their top only. The induction is on both lists, which have the same keys. -/
theorem entries_eq_iff {fields fields' : List (String × JsonTree Number)}
    (alike : JsonTree.hideFields (isRedacted tables) fields =
      JsonTree.hideFields (isRedacted tables) fields') :
    entries tables fields = entries tables fields' ↔
      JsonTree.hideTopFields (isRedacted tables) fields =
        JsonTree.hideTopFields (isRedacted tables) fields' := by
  induction fields generalizing fields' with
  | nil =>
    cases fields' with
    | nil => simp
    | cons field rest => simp [JsonTree.hideFields] at alike
  | cons field rest ih =>
    cases fields' with
    | nil => simp [JsonTree.hideFields] at alike
    | cons field' rest' =>
      obtain ⟨key, value⟩ := field
      obtain ⟨key', value'⟩ := field'
      simp only [JsonTree.hideFields, List.cons.injEq, Prod.mk.injEq] at alike
      obtain ⟨⟨rfl, same⟩, later⟩ := alike
      have rests := ih later
      rw [entries_cons, entries_cons]
      simp only [JsonTree.hideTopFields, List.map_cons, List.cons.injEq, Prod.mk.injEq,
        true_and] at rests ⊢
      cases secret : isRedacted tables key with
      | true => simpa using rests
      | false =>
        rw [secret] at same
        have nulls : value.isNull = value'.isNull := by
          rw [← JsonTree.isNull_hide (isRedacted tables) value,
            ← JsonTree.isNull_hide (isRedacted tables) value']
          exact congrArg JsonTree.isNull same
        cases none : value'.isNull with
        | true =>
          rw [none] at nulls
          rw [JsonTree.isNull_iff.mp nulls, JsonTree.isNull_iff.mp none]
          simpa [JsonTree.isNull] using rests
        | false =>
          rw [none] at nulls
          simp [nulls, rests]

/-- Hiding secrets neither makes nor removes anything to record. -/
theorem bareFields_hide {fields : List (String × JsonTree Number)} :
    BareFields tables (JsonTree.hideFields (isRedacted tables) fields) ↔
      BareFields tables fields := by
  induction fields with
  | nil => exact Iff.rfl
  | cons field rest ih =>
    obtain ⟨key, value⟩ := field
    rw [JsonTree.hideFields, BareFields, List.forall_mem_cons, ← BareFields, ih, BareFields,
      BareFields, List.forall_mem_cons]
    refine and_congr_left fun _ => and_congr_right fun plain => ?_
    rw [plain, if_neg Bool.false_ne_true, ← JsonTree.isNull_iff, JsonTree.isNull_hide,
      JsonTree.isNull_iff]

section Bodies

variable {body other : RequestBody Number}

/-- Of a body that is not read nothing is recorded. -/
theorem changesFromBody_unread (unread : ¬Read body) : changesFromBody tables body = none := by
  refine if_pos ?_
  unfold Read at unread
  omega

/-- What is recorded of an object that is read. -/
theorem changesFromBody_obj (read : Read body) {fields : List (String × JsonTree Number)}
    (found : body.document = some (.obj fields)) :
    changesFromBody tables body = createdChanges (safe tables fields) := by
  have short : ¬(body.size = 0 ∨ maxRequestPeek < body.size) := by
    unfold Read at read
    omega
  rw [changesFromBody, if_neg short, found]
  cases fields <;> rfl

/-- Of a body that holds no object nothing is recorded. -/
theorem changesFromBody_other (missing : ∀ fields, body.document ≠ some (.obj fields)) :
    changesFromBody tables body = none := by
  unfold changesFromBody
  split
  · rfl
  · split
    · rfl
    · next fields _ found => exact absurd found (missing fields)
    · rfl

/-- Two lists of entries are recorded alike when they are the same. -/
theorem createdChanges_eq_iff {fields fields' : List (String × JsonTree Number)} :
    createdChanges (safe tables fields) = createdChanges (safe tables fields') ↔
      entries tables fields = entries tables fields' := by
  show (if (entries tables fields).isEmpty then none else some (entries tables fields)) =
    (if (entries tables fields').isEmpty then none else some (entries tables fields')) ↔ _
  cases entries tables fields <;> cases entries tables fields' <;> simp

/-- Of a body that is read nothing is recorded exactly when there is nothing to record. -/
theorem changesFromBody_eq_none (read : Read body) :
    changesFromBody tables body = none ↔ Bare tables body := by
  by_cases object : ∃ fields, body.document = some (.obj fields)
  · obtain ⟨fields, found⟩ := object
    have nothing : createdChanges (safe tables ([] : List (String × JsonTree Number))) = none := rfl
    rw [changesFromBody_obj read found, ← nothing, createdChanges_eq_iff]
    show entries tables fields = [] ↔ _
    rw [entries_eq_nil]
    constructor
    · intro bare other same
      rw [found] at same
      cases same
      exact bare
    · exact fun bare => bare fields found
  · have missing : ∀ fields, body.document ≠ some (.obj fields) :=
      fun fields found => object ⟨fields, found⟩
    exact ⟨fun _ fields found => absurd found (missing fields),
      fun _ => changesFromBody_other missing⟩

/-- An object and what differs from it in secrets only. -/
theorem obj_of_alike
    (alike : body.document.map (JsonTree.hide (isRedacted tables)) =
      other.document.map (JsonTree.hide (isRedacted tables)))
    {fields : List (String × JsonTree Number)} (found : body.document = some (.obj fields)) :
    ∃ fields', other.document = some (.obj fields') ∧
      JsonTree.hideFields (isRedacted tables) fields =
        JsonTree.hideFields (isRedacted tables) fields' := by
  rw [found, Option.map_some] at alike
  obtain ⟨document, there, same⟩ := Option.map_eq_some_iff.mp alike.symm
  obtain ⟨fields', rfl, hidden⟩ := JsonTree.hide_eq_obj.mp same
  exact ⟨fields', there, hidden.symm⟩

/-- Of two bodies that differ in secrets only, both have something to record or neither has. -/
theorem bare_of_alike
    (alike : body.document.map (JsonTree.hide (isRedacted tables)) =
      other.document.map (JsonTree.hide (isRedacted tables)))
    (bare : Bare tables other) : Bare tables body := by
  intro fields found
  obtain ⟨fields', there, hidden⟩ := obj_of_alike alike found
  rw [← bareFields_hide, hidden, bareFields_hide]
  exact bare fields' there

/-- The fallback of a successful write is what is recorded of its body. -/
theorem recordedChanges_none (statusCode : Nat) :
    recordedChanges tables none statusCode body =
      if 200 ≤ statusCode ∧ statusCode < 300 then changesFromBody tables body else none := by
  by_cases empty : body.size = 0
  · have nothing : changesFromBody tables body = none := if_pos (.inl empty)
    simp [recordedChanges, empty, nothing]
  · simp [recordedChanges, empty]

/-- Of two bodies that are read and differ in secrets only, the same is recorded exactly when one has
nothing to record or they differ in secrets at their top only. -/
theorem changesFromBody_eq_iff (read : Read body) (readOther : Read other)
    (alike : body.document.map (JsonTree.hide (isRedacted tables)) =
      other.document.map (JsonTree.hide (isRedacted tables))) :
    changesFromBody tables body = changesFromBody tables other ↔
      Bare tables body ∨ body.document.map (JsonTree.hideTop (isRedacted tables)) =
        other.document.map (JsonTree.hideTop (isRedacted tables)) := by
  by_cases object : ∃ fields, body.document = some (.obj fields)
  · obtain ⟨fields, found⟩ := object
    obtain ⟨fields', there, hidden⟩ := obj_of_alike alike found
    rw [changesFromBody_obj read found, changesFromBody_obj readOther there, createdChanges_eq_iff,
      entries_eq_iff hidden, found, there]
    simp only [Option.map_some, JsonTree.hideTop, Option.some.injEq, JsonTree.obj.injEq]
    refine ⟨.inr, ?_⟩
    rintro (bare | same)
    · rw [← entries_eq_iff hidden, entries_eq_nil.mpr (bare fields found)]
      have bareOther := bare_of_alike alike.symm bare
      rw [entries_eq_nil.mpr (bareOther fields' there)]
    · exact same
  · have missing : ∀ fields, body.document ≠ some (.obj fields) :=
      fun fields found => object ⟨fields, found⟩
    have missingOther : ∀ fields, other.document ≠ some (.obj fields) := by
      intro fields found
      obtain ⟨own, there, -⟩ := obj_of_alike alike.symm found
      exact missing own there
    rw [changesFromBody_other missing, changesFromBody_other missingOther]
    exact ⟨fun _ => .inl fun fields found => absurd found (missing fields), fun _ => rfl⟩

end Bodies

/-- For two bodies that differ only in values under redacted keys, at any depth, the fallback
records the same exactly when it records nothing of an unsuccessful write or of a body without
anything to record, or when both bodies or neither are read and, if they are, they differ only in
values under redacted keys at their top. -/
theorem fallback_hides_secrets_iff (tables : TextTables) (statusCode : Nat)
    (body other : RequestBody Number)
    (alike : body.document.map (JsonTree.hide (isRedacted tables)) =
      other.document.map (JsonTree.hide (isRedacted tables))) :
    recordedChanges tables none statusCode body = recordedChanges tables none statusCode other ↔
      ¬(200 ≤ statusCode ∧ statusCode < 300) ∨ Bare tables body ∨
        ((Read body ↔ Read other) ∧ (Read body →
          body.document.map (JsonTree.hideTop (isRedacted tables)) =
            other.document.map (JsonTree.hideTop (isRedacted tables)))) := by
  rw [recordedChanges_none, recordedChanges_none]
  by_cases success : 200 ≤ statusCode ∧ statusCode < 300
  · rw [if_pos success, if_pos success]
    simp only [success, not_true_eq_false, false_or, and_self]
    by_cases read : Read body <;> by_cases readOther : Read other
    · simp only [read, readOther, true_and, forall_const]
      exact changesFromBody_eq_iff read readOther alike
    · rw [changesFromBody_unread readOther, changesFromBody_eq_none read]
      simp [read, readOther]
    · rw [changesFromBody_unread read, eq_comm, changesFromBody_eq_none readOther]
      simp only [read, readOther, false_iff, not_true_eq_false, false_and, or_false]
      exact ⟨bare_of_alike alike, bare_of_alike alike.symm⟩
    · rw [changesFromBody_unread read, changesFromBody_unread readOther]
      simp [read, readOther]
  · rw [if_neg success, if_neg success]
    simp [success]

/-- A login whose password stands at the top of its body. -/
def sampleLogin (password : String) : RequestBody Int :=
  ⟨40, some (.obj [("email", .str "ada@example.com"), ("Password", .str password)])⟩

/-- Two logins that differ in the password. -/
theorem sampleLogin_hidden :
    recordedChanges .ascii none 200 (sampleLogin "first") =
      recordedChanges .ascii none 200 (sampleLogin "other") :=
  (fallback_hides_secrets_iff .ascii 200 (sampleLogin "first") (sampleLogin "other") rfl).mpr
    (.inr (.inr ⟨Iff.rfl, fun _ => rfl⟩))

/-- A connection whose access token stands in a nested object. -/
def sampleConnection (token : String) : RequestBody Int :=
  ⟨40, some (.obj [("account", .obj [("access_token", .str token)])])⟩

/-- Two connections that differ in the access token are recorded with it. -/
theorem nested_token_recorded :
    (sampleConnection "first").document.map (JsonTree.hide (isRedacted .ascii)) =
        (sampleConnection "other").document.map (JsonTree.hide (isRedacted .ascii)) ∧
      recordedChanges .ascii none 200 (sampleConnection "first") ≠
        recordedChanges .ascii none 200 (sampleConnection "other") := by
  refine ⟨rfl, fun same => ?_⟩
  have plain : isRedacted .ascii "account" = false := by decide
  have recorded (token : String) : recordedChanges .ascii none 200 (sampleConnection token) =
      some [("account", ⟨.null, .obj [("access_token", .str token)]⟩)] := by
    simp [recordedChanges, changesFromBody, maxRequestPeek, sampleConnection, createdChanges, safe,
      plain, JsonTree.isNull]
  rw [recorded, recorded] at same
  simp at same

end MarketingOS.AuditMiddleware
