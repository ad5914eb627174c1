import MarketingOS.Services.Intelligence.Extraction

/-!
# Withdrawn rules

A build reads the compliance register in three places: the field groups, the structured directives
and the text of the capability net. None of them asks whether an entry is active.
-/
namespace MarketingOS.Intelligence

variable {a b c : ClientInputs}

/-! ## Two runs -/

/-- Two clients are equal except for inactive compliance entries. -/
structure EqualExceptInactive (a b : ClientInputs) : Prop where
  rest : { a with complianceEntries := [] } = { b with complianceEntries := [] }
  active : a.complianceEntries.filter ComplianceEntry.isActive =
    b.complianceEntries.filter ComplianceEntry.isActive

/-- The readers of the register read the same of two clients. -/
structure ReadAlike (a b : ClientInputs) : Prop where
  groups : fieldGroups a = fieldGroups b
  directives : fallback a = fallback b
  scanned : ∀ corpus, haystack corpus a = haystack corpus b

/-- Clients that are read alike are read alike the other way. -/
theorem ReadAlike.symm (alike : ReadAlike a b) : ReadAlike b a :=
  ⟨alike.groups.symm, alike.directives.symm, fun corpus => (alike.scanned corpus).symm⟩

/-- Clients that are read alike are read like the same clients. -/
theorem ReadAlike.trans (left : ReadAlike a b) (right : ReadAlike b c) : ReadAlike a c :=
  ⟨left.groups.trans right.groups, left.directives.trans right.directives,
    fun corpus => (left.scanned corpus).trans (right.scanned corpus)⟩

/-- A client with its active entries only. -/
def activeOnly (inputs : ClientInputs) : ClientInputs :=
  { inputs with complianceEntries := inputs.complianceEntries.filter ComplianceEntry.isActive }

/-- Clients that are equal except for inactive entries have the same active ones. -/
theorem EqualExceptInactive.activeOnly_eq (same : EqualExceptInactive a b) :
    activeOnly a = activeOnly b := by
  have rest := congrArg (fun inputs : ClientInputs =>
    { inputs with complianceEntries := b.complianceEntries.filter ComplianceEntry.isActive })
    same.rest
  rw [activeOnly, same.active]
  exact rest

/-! ## What a build depends on -/

/-- The sources a build wants depend on the register through the field groups. -/
theorem desired_congr {kit : Toolkit} {reachable : String → Bool} (same : EqualExceptInactive a b)
    (groups : fieldGroups a = fieldGroups b) : desired kit reachable a = desired kit reachable b := by
  have documents : a.documents = b.documents := (ClientInputs.mk.inj same.rest).2.2.2.2.1
  have promoted : a.promoted = b.promoted := (ClientInputs.mk.inj same.rest).2.2.2.2.2
  rw [desired, groups, documents, promoted, desired]

/-- The directives of a build depend on the register through the structured directives and the text
the net scans. -/
theorem extract_congr {tables : TextTables} {configured : Bool} {corpus : String}
    {reply : Option (List ReplyItem)} (alike : ReadAlike a b) :
    extract tables configured corpus a reply = extract tables configured corpus b reply := by
  have ai : extractAi a reply = extractAi b reply := by
    unfold extractAi
    rw [alike.directives]
  have found : CapabilityRule.found tables corpus a = CapabilityRule.found tables corpus b := by
    funext rule
    rw [CapabilityRule.found, alike.scanned, CapabilityRule.found]
  rw [extract, proposed, ai, alike.directives, capabilityNet, found, extract, proposed,
    capabilityNet]

/-- Clients that are read alike have the same builds. -/
theorem extraction_congr (kit : Toolkit) (extractor : Extractor) (full : Bool)
    (reachable : String → Bool) (newId : Identity → Uuid) (approved : List DirectiveKey)
    (rows : List KnowledgeSource) (same : EqualExceptInactive a b) (alike : ReadAlike a b) :
    extraction kit extractor full reachable newId approved rows a =
      extraction kit extractor full reachable newId approved rows b := by
  have client : a.client = b.client := (ClientInputs.mk.inj same.rest).1
  have synced : sync kit full reachable newId a rows = sync kit full reachable newId b rows := by
    rw [sync, desired_congr same alike.groups, client, sync]
  simp only [extraction, synced, extract_congr alike]

/-! ## What the field groups say of the register -/

/-- The register as the field groups render it. -/
def renderedRegister (entries : List ComplianceEntry) : Option (String × String) :=
  let compliance := complianceLines entries
  group "compliance" (strip compliance ≠ "") s!"Compliance & rules:\n{compliance}"

/-- A group is under its key. -/
theorem any_group (key wanted text : String) (present : Bool) :
    (group key present text).any (fun entry => decide (entry.1 = wanted)) =
      (present && decide (key = wanted)) := by
  cases present with
  | true => rfl
  | false => rfl

/-- The register is the group under its key. -/
theorem find_register (inputs : ClientInputs) :
    (fieldGroups inputs).find? (fun entry => decide (entry.1 = "compliance")) =
      renderedRegister inputs.complianceEntries := by
  simp only [fieldGroups, renderedRegister, List.find?_filterMap, id, any_group, List.find?_cons,
    String.reduceEq, decide_false, decide_true, Bool.and_false, Bool.and_true]
  cases decide (strip (complianceLines inputs.complianceEntries) ≠ "") with
  | true => rfl
  | false => rfl

/-- One entry in the register. -/
def entryLine (e : ComplianceEntry) : String := s!"- [{Enumeration.value e.kind}] {e.text}"

/-- A line of the register begins with a dash. -/
theorem toList_entryLine (e : ComplianceEntry) : ∃ rest, (entryLine e).toList = '-' :: rest := by
  refine ⟨' ' :: '[' :: ((Enumeration.value e.kind).toList ++ ("] ".toList ++ e.text.toList)), ?_⟩
  simp only [entryLine, String.toList_append, List.append_assoc]
  rfl

/-- The register begins with a dash, if there is an entry. -/
theorem strip_complianceLines (e : ComplianceEntry) (entries : List ComplianceEntry) :
    strip (complianceLines (e :: entries)) ≠ "" := by
  have first : ∃ rest, (complianceLines (e :: entries)).toList = '-' :: rest := by
    obtain ⟨rest, begins⟩ := toList_entryLine e
    show ∃ rest, ("\n".intercalate (entryLine e :: entries.map entryLine)).toList = '-' :: rest
    cases entries.map entryLine with
    | nil =>
      rw [String.intercalate_singleton]
      exact ⟨rest, begins⟩
    | cons next others =>
      rw [String.intercalate_cons_cons, String.toList_append, String.toList_append, begins]
      exact ⟨_, rfl⟩
  obtain ⟨rest, begins⟩ := first
  intro empty
  have blank : stripChars ('-' :: rest) = [] := by
    have chars := congrArg String.toList empty
    rw [strip, begins, String.toList_ofList] at chars
    exact chars
  have dash : isSpace '-' = false := by decide
  rw [stripChars, List.dropWhile_cons_of_neg (by simp [dash]), List.rdropWhile_eq_nil_iff] at blank
  have space := blank '-' List.mem_cons_self
  rw [dash] at space
  cases space

/-- The length of the register, with a break after each line. -/
def registerLength : List ComplianceEntry → Nat
  | [] => 0
  | e :: rest => (entryLine e).length + 1 + registerLength rest

/-- The rendered register, with one more break, has that length. -/
theorem length_complianceLines (e : ComplianceEntry) (rest : List ComplianceEntry) :
    (complianceLines (e :: rest)).length + 1 = registerLength (e :: rest) := by
  induction rest generalizing e with
  | nil =>
    show ("\n".intercalate [entryLine e]).length + 1 = _
    rw [String.intercalate_singleton]
    rfl
  | cons next rest ih =>
    have others := ih next
    show ("\n".intercalate (entryLine e :: entryLine next :: rest.map entryLine)).length + 1 = _
    rw [String.intercalate_cons_cons, String.length_append, String.length_append, registerLength,
      ← others]
    show (entryLine e).length + 1 + (complianceLines (next :: rest)).length + 1 = _
    omega

/-- An empty register is not rendered. -/
theorem renderedRegister_nil : renderedRegister [] = none := by decide

/-- A register with an entry is rendered. -/
theorem renderedRegister_cons (e : ComplianceEntry) (rest : List ComplianceEntry) :
    renderedRegister (e :: rest) =
      some ("compliance", "Compliance & rules:\n" ++ complianceLines (e :: rest)) := by
  unfold renderedRegister group
  exact if_pos (decide_eq_true (strip_complianceLines e rest))

/-- What is rendered tells the length of the register. -/
theorem registerLength_of_rendered {entries entries' : List ComplianceEntry}
    (same : renderedRegister entries = renderedRegister entries') :
    registerLength entries = registerLength entries' := by
  cases entries with
  | nil =>
    cases entries' with
    | nil => rfl
    | cons e' rest' =>
      rw [renderedRegister_nil, renderedRegister_cons] at same
      cases same
  | cons e rest =>
    cases entries' with
    | nil =>
      rw [renderedRegister_nil, renderedRegister_cons] at same
      cases same
    | cons e' rest' =>
      rw [renderedRegister_cons, renderedRegister_cons] at same
      have texts := (Prod.mk.inj (Option.some.inj same)).2
      rw [String.append_right_inj] at texts
      rw [← length_complianceLines, ← length_complianceLines, texts]

/-- The active entries are no longer than the register. -/
theorem registerLength_filter_le (entries : List ComplianceEntry) :
    registerLength (entries.filter ComplianceEntry.isActive) ≤ registerLength entries := by
  induction entries with
  | nil => exact Nat.le_refl _
  | cons e rest ih =>
    cases active : e.isActive with
    | true =>
      rw [List.filter_cons_of_pos active, registerLength, registerLength]
      omega
    | false =>
      rw [List.filter_cons_of_neg (by simp [active]), registerLength]
      omega

/-- A register that is as long as its active entries has no other ones. -/
theorem active_of_length {entries : List ComplianceEntry}
    (same : registerLength (entries.filter ComplianceEntry.isActive) = registerLength entries) :
    ∀ e ∈ entries, e.isActive = true := by
  induction entries with
  | nil => exact fun e inside => absurd inside List.not_mem_nil
  | cons e rest ih =>
    cases active : e.isActive with
    | true =>
      rw [List.filter_cons_of_pos active, registerLength, registerLength] at same
      have others := ih (Nat.add_left_cancel same)
      intro other inside
      rcases List.mem_cons.mp inside with rfl | inside
      · exact active
      · exact others other inside
    | false =>
      have shorter := registerLength_filter_le rest
      rw [List.filter_cons_of_neg (by simp [active]), registerLength] at same
      omega

/-! ## Active entries -/

/-- A client is read like its active entries exactly when it has no other ones. -/
theorem readAlike_activeOnly_iff (inputs : ClientInputs) :
    ReadAlike inputs (activeOnly inputs) ↔ ∀ e ∈ inputs.complianceEntries, e.isActive = true := by
  constructor
  · intro alike
    have rendered : renderedRegister inputs.complianceEntries =
        renderedRegister (activeOnly inputs).complianceEntries := by
      rw [← find_register, alike.groups, find_register]
    exact active_of_length (registerLength_of_rendered rendered).symm
  · intro active
    have all : activeOnly inputs = inputs := by
      rw [activeOnly, List.filter_eq_self.mpr active]
    rw [all]
    exact ⟨rfl, rfl, fun _ => rfl⟩

/-- For every two clients that are equal except for inactive entries: both are read like the client
with the active entries only exactly when neither has an inactive entry. Clients that are read alike
have the same builds, whatever the model, the storage and the rows of earlier builds: the same
sources and chunks, directives and flags. -/
theorem active_entries_bind_iff (same : EqualExceptInactive a b) :
    ((ReadAlike a b ∧ ReadAlike a (activeOnly a)) ↔
      (∀ e ∈ a.complianceEntries, e.isActive = true) ∧
        ∀ e ∈ b.complianceEntries, e.isActive = true) ∧
    (ReadAlike a b → ∀ kit extractor full reachable newId approved rows,
      extraction kit extractor full reachable newId approved rows a =
        extraction kit extractor full reachable newId approved rows b) := by
  refine ⟨⟨?_, ?_⟩, ?_⟩
  · rintro ⟨alike, own⟩
    refine ⟨(readAlike_activeOnly_iff a).mp own, (readAlike_activeOnly_iff b).mp ?_⟩
    rw [← same.activeOnly_eq]
    exact alike.symm.trans own
  · rintro ⟨left, right⟩
    have own := (readAlike_activeOnly_iff a).mpr left
    refine ⟨own.trans ?_, own⟩
    rw [same.activeOnly_eq]
    exact ((readAlike_activeOnly_iff b).mpr right).symm
  · intro alike kit extractor full reachable newId approved rows
    exact extraction_congr kit extractor full reachable newId approved rows same alike

/-- A client whose register holds these entries. -/
def registered (entries : List ComplianceEntry) : ClientInputs :=
  { ClientInputs.bare 1 with complianceEntries := entries }

/-- A rule that was withdrawn. -/
def withdrawnRule : ComplianceEntry := ⟨.banned, "No emoji", false⟩

/-- A client with one active rule is read like its active rules. -/
theorem active_entries_bind_one :
    ReadAlike (registered [⟨.required, "Say thanks", true⟩])
      (activeOnly (registered [⟨.required, "Say thanks", true⟩])) :=
  have same : EqualExceptInactive (registered [⟨.required, "Say thanks", true⟩])
      (registered [⟨.required, "Say thanks", true⟩]) := ⟨rfl, rfl⟩
  ((active_entries_bind_iff same).1.mpr ⟨by decide, by decide⟩).2

/-- The build of a client, without a model, after an admin approved the prohibition of emoji. -/
def ruleBuild (inputs : ClientInputs) : Extracted :=
  extraction .plain ⟨.ascii, false, fun _ => none, 1000⟩ false (fun _ => true) (fun _ => 0)
    [(.mustNot, "do not use emoji")] [] inputs

/-- A withdrawn rule is in the field groups, the structured directives and the text that is scanned,
and through them in the chunks, the directives and the flags of the next build. -/
theorem withdrawn_rule_binds :
    EqualExceptInactive (registered [withdrawnRule]) (registered []) ∧
      fieldGroups (registered [withdrawnRule]) ≠ fieldGroups (registered []) ∧
      fallback (registered [withdrawnRule]) ≠ fallback (registered []) ∧
      haystack "" (registered [withdrawnRule]) ≠ haystack "" (registered []) ∧
      (ruleBuild (registered [withdrawnRule])).sources.map (fun src => src.chunks.length) = [1] ∧
      (ruleBuild (registered [])).sources = [] ∧
      ((ruleBuild (registered [withdrawnRule])).directives.length,
        (ruleBuild (registered [withdrawnRule])).capabilityFlags.get "emoji") =
          (2, some (.bool false)) ∧
      (ruleBuild (registered [])).directives = [] := by
  refine ⟨⟨rfl, rfl⟩, ?_, ?_, ?_, ?_, ?_, ?_, ?_⟩
  all_goals decide +kernel

end MarketingOS.Intelligence
