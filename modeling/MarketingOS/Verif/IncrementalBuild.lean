import MarketingOS.Services.Intelligence.History

/-! # Incremental builds against full ones

A source whose stored hash is the one its input has now is left alone by an incremental build. It
is what a full build would make of it as long as every document was downloaded when it was loaded
and no later rename changes what is extracted from it; then the two builds leave the same rows. -/
namespace MarketingOS.Intelligence

variable {kit : Toolkit}

/-- Every download succeeds. -/
def everything : String → Bool := fun _ => true

/-! ## Rebuilding a row -/

/-- A row after it is loaded, chunked and embedded anew. -/
def rebuilt (kit : Toolkit) (hash : String) (loaded : String × SourceStatus)
    (row : KnowledgeSource) : KnowledgeSource :=
  rechunk kit (refresh kit hash loaded row)

/-- Chunking keeps what a row is the source of, and its hash. -/
theorem rechunk_keeps (row : KnowledgeSource) :
    identity (rechunk kit row) = identity row ∧
      (rechunk kit row).contentHash = row.contentHash := by
  unfold rechunk embedSource
  split
  · simp only
    split
    · exact ⟨rfl, rfl⟩
    · exact ⟨rfl, rfl⟩
  · exact ⟨rfl, rfl⟩

/-- A rebuilt row is the source of what it was the source of. -/
@[simp] theorem identity_rebuilt (hash : String) (loaded : String × SourceStatus)
    (row : KnowledgeSource) : identity (rebuilt kit hash loaded row) = identity row :=
  (rechunk_keeps _).1

/-- A rebuilt row carries the new hash. -/
@[simp] theorem contentHash_rebuilt (hash : String) (loaded : String × SourceStatus)
    (row : KnowledgeSource) : (rebuilt kit hash loaded row).contentHash = some hash :=
  (rechunk_keeps _).2

/-- Rebuilding twice with one text is rebuilding once. -/
theorem rebuilt_rebuilt (hash : String) (loaded : String × SourceStatus) (row : KnowledgeSource) :
    rebuilt kit hash loaded (rebuilt kit hash loaded row) = rebuilt kit hash loaded row := by
  unfold rebuilt rechunk embedSource refresh
  simp only
  split
  · split
    · rfl
    · rfl
  · rfl

/-! ## What is desired -/

/-- The sources a client with these documents can have: any field group, any message and the
documents, all downloads succeeding. -/
inductive Possible (kit : Toolkit) (documents : List Document) : Desired → Prop where
  | field (entry : String × String) : Possible kit documents (desiredField entry)
  | document (doc : Document) (inside : doc ∈ documents) :
      Possible kit documents (desiredDocument kit everything doc)
  | message (msg : Message) : Possible kit documents (desiredMessage msg)

/-- Everything desired is possible. -/
theorem possible_of_desired {inputs : ClientInputs} {d : Desired}
    (wanted : d ∈ desired kit everything inputs) : Possible kit inputs.documents d := by
  simp only [desired, List.mem_append, List.mem_map] at wanted
  rcases wanted with (⟨entry, -, rfl⟩ | ⟨doc, inside, rfl⟩) | ⟨msg, -, rfl⟩
  · exact .field entry
  · exact .document doc inside
  · exact .message msg

/-- One identity and one digest load one text: a digest stands for its basis, and a document is
named by its identifier. -/
theorem loaded_unique {documents : List Document} {d e : Desired}
    (noCollision : Function.Injective kit.sha) (distinct : (documents.map Document.id).Nodup)
    (left : Possible kit documents d) (right : Possible kit documents e)
    (sameIdentity : d.identity = e.identity)
    (sameHash : kit.sha d.hashBasis = kit.sha e.hashBasis) :
    d.loaded = e.loaded := by
  have basis := noCollision sameHash
  cases left with
  | field entry =>
    cases right with
    | field other => exact Prod.ext basis rfl
    | document doc inside => cases sameIdentity
    | message msg => cases sameIdentity
  | document doc inside =>
    cases right with
    | field other => cases sameIdentity
    | document other listed =>
      have named : doc.id = other.id := Identity.document.inj sameIdentity
      rw [List.inj_on_of_nodup_map distinct inside listed named]
    | message msg => cases sameIdentity
  | message msg =>
    cases right with
    | field other => cases sameIdentity
    | document doc inside => cases sameIdentity
    | message other => exact Prod.ext basis rfl

/-- A new row of a possible source is the source of it. -/
theorem identity_newSource {documents : List Document} {d : Desired} (clientId id : Uuid)
    (possible : Possible kit documents d) : identity (newSource clientId id d) = d.identity := by
  cases possible with
  | field entry => rfl
  | document doc inside => rfl
  | message msg => rfl

/-! ## Settled rows -/

/-- A row is settled when, for every source it may be asked to be under its hash, it is what a
rebuild would make of it. -/
def Settled (kit : Toolkit) (documents : List Document) (row : KnowledgeSource) : Prop :=
  ∀ d, Possible kit documents d → identity row = d.identity →
    row.contentHash = some (kit.sha d.hashBasis) →
    rebuilt kit (kit.sha d.hashBasis) d.loaded row = row

/-- A row without a hash is settled. -/
theorem settled_of_unhashed {documents : List Document} {row : KnowledgeSource}
    (unhashed : row.contentHash = none) : Settled kit documents row := by
  intro d _ _ hashed
  rw [unhashed] at hashed
  cases hashed

/-- A row rebuilt from a possible source is settled. -/
theorem settled_rebuilt {documents : List Document} {d : Desired} {row : KnowledgeSource}
    (noCollision : Function.Injective kit.sha) (distinct : (documents.map Document.id).Nodup)
    (possible : Possible kit documents d) (named : identity row = d.identity) :
    Settled kit documents (rebuilt kit (kit.sha d.hashBasis) d.loaded row) := by
  intro e other sameIdentity hashed
  rw [identity_rebuilt] at sameIdentity
  rw [contentHash_rebuilt] at hashed
  have sameHash := Option.some.inj hashed
  have loaded := loaded_unique noCollision distinct possible other
    (named.symm.trans sameIdentity) sameHash
  rw [← sameHash, ← loaded, rebuilt_rebuilt]

/-- Fewer documents unsettle no row. -/
theorem Settled.subset {documents fewer : List Document} {row : KnowledgeSource}
    (settled : Settled kit documents row) (kept : ∀ doc ∈ fewer, doc ∈ documents) :
    Settled kit fewer row := by
  intro d possible
  apply settled d
  cases possible with
  | field entry => exact .field entry
  | document doc inside => exact .document doc (kept doc inside)
  | message msg => exact .message msg

/-- A document whose row does not exist unsettles no row. -/
theorem Settled.add {documents : List Document} {row : KnowledgeSource} {doc : Document}
    (settled : Settled kit documents row) (apart : identity row ≠ .document doc.id) :
    Settled kit (documents ++ [doc]) row := by
  intro d possible named
  cases possible with
  | field entry => exact settled _ (.field entry) named
  | document other inside =>
    rcases List.mem_append.mp inside with old | new
    · exact settled _ (.document other old) named
    · rw [List.mem_singleton.mp new] at named
      exact absurd named apart
  | message msg => exact settled _ (.message msg) named

/-! ## One turn of the sync -/

/-- What a turn of the sync and the chunking step leave of a desired source. -/
theorem embedded_syncOne (full : Bool) (clientId : Uuid) (newId : Identity → Uuid)
    (rows : List KnowledgeSource) (d : Desired) :
    (syncOne kit full clientId newId rows d).embedded kit =
      match (existing rows).get d.identity with
      | none => rebuilt kit (kit.sha d.hashBasis) d.loaded
          (newSource clientId (newId d.identity) d)
      | some src =>
        if src.contentHash = some (kit.sha d.hashBasis) ∧ full = false then src
        else rebuilt kit (kit.sha d.hashBasis) d.loaded src := by
  unfold syncOne
  cases (existing rows).get d.identity with
  | none => rfl
  | some src =>
    simp only
    split
    · rfl
    · rfl

/-- The row the sync finds under an identity is a row of that identity. -/
theorem existing_some {rows : List KnowledgeSource} {name : Identity} {row : KnowledgeSource}
    (found : (existing rows).get name = some row) : row ∈ rows ∧ identity row = name := by
  obtain ⟨other, inside, same⟩ := List.mem_map.mp (Dict.mem_of_get_ofList found)
  cases same
  exact ⟨inside, rfl⟩

/-- When every row of the client is settled, a turn of an incremental sync leaves what the turn of
a full one leaves. -/
theorem turn_eq {inputs : ClientInputs} {rows : List KnowledgeSource} {d : Desired}
    (settled : ∀ row ∈ rows, Settled kit inputs.documents row) (clientId : Uuid)
    (newId : Identity → Uuid) (wanted : d ∈ desired kit everything inputs) :
    (syncOne kit false clientId newId rows d).embedded kit =
      (syncOne kit true clientId newId rows d).embedded kit := by
  rw [embedded_syncOne, embedded_syncOne]
  cases found : (existing rows).get d.identity with
  | none => rfl
  | some src =>
    obtain ⟨inside, named⟩ := existing_some found
    by_cases hashed : src.contentHash = some (kit.sha d.hashBasis)
    · have same := settled src inside d (possible_of_desired wanted) named hashed
      simp only [hashed, and_true, ↓reduceIte, Bool.true_eq_false, and_false, same]
    · simp only [hashed, false_and, ↓reduceIte]

/-- When every row of the client is settled, an incremental build leaves what a full one leaves. -/
theorem ingest_eq {inputs : ClientInputs} {rows : List KnowledgeSource}
    (settled : ∀ row ∈ rows, Settled kit inputs.documents row) (newId : Identity → Uuid) :
    ingest kit false everything newId inputs rows =
      ingest kit true everything newId inputs rows := by
  have turns : ((desired kit everything inputs).map
        (syncOne kit false inputs.client.id newId rows)).map (SyncedSource.embedded kit) =
      ((desired kit everything inputs).map
        (syncOne kit true inputs.client.id newId rows)).map (SyncedSource.embedded kit) := by
    rw [List.map_map, List.map_map]
    exact List.map_congr_left fun d wanted => turn_eq settled inputs.client.id newId wanted
  simp only [ingest, sync, turns]

/-! ## Builds with failing downloads -/

/-- A build has to load a document: it is a full build, or no stored row has its hash. -/
def Loads (kit : Toolkit) (full : Bool) (rows : List KnowledgeSource) (doc : Document) : Prop :=
  ¬(full = false ∧ ∃ src, (existing rows).get (.document doc.id) = some src ∧
    src.contentHash = some (kit.sha (documentBasis doc)))

/-- The turn of a document is the same with failing downloads, when the document need not be loaded
or its download does not fail. -/
theorem turn_reachable {rows : List KnowledgeSource} {doc : Document} {full : Bool}
    {reachable : String → Bool} (clientId : Uuid) (newId : Identity → Uuid)
    (loads : Loads kit full rows doc →
      loadDocument kit reachable doc = loadDocument kit everything doc) :
    (syncOne kit full clientId newId rows (desiredDocument kit reachable doc)).embedded kit =
      (syncOne kit full clientId newId rows (desiredDocument kit everything doc)).embedded kit := by
  by_cases needed : Loads kit full rows doc
  · have same : desiredDocument kit reachable doc = desiredDocument kit everything doc := by
      unfold desiredDocument
      rw [loads needed]
    rw [same]
  · obtain ⟨partly, src, found, hashed⟩ := not_not.mp needed
    rw [embedded_syncOne, embedded_syncOne]
    have lookup : (existing rows).get (.document doc.id) = some src := found
    simp only [desiredDocument, lookup, hashed, partly, and_self, ↓reduceIte]

/-- A build leaves what it would leave with every download succeeding, when no download it needs
fails. -/
theorem ingest_reachable {inputs : ClientInputs} {rows : List KnowledgeSource} {full : Bool}
    {reachable : String → Bool} (newId : Identity → Uuid)
    (loads : ∀ doc ∈ inputs.documents, Loads kit full rows doc →
      loadDocument kit reachable doc = loadDocument kit everything doc) :
    ingest kit full reachable newId inputs rows = ingest kit full everything newId inputs rows := by
  have turns : ((desired kit reachable inputs).map
        (syncOne kit full inputs.client.id newId rows)).map (SyncedSource.embedded kit) =
      ((desired kit everything inputs).map
        (syncOne kit full inputs.client.id newId rows)).map (SyncedSource.embedded kit) := by
    simp only [desired, List.map_append, List.map_map]
    congr 2
    apply List.map_congr_left
    intro doc inside
    exact turn_reachable inputs.client.id newId (loads doc inside)
  simp only [ingest, sync, turns]

/-! ## Identities stay apart -/

/-- Only the group's own key comes out of a group. -/
theorem group_key {key text : String} {present : Bool} {entry : String × String}
    (made : group key present text = some entry) : entry.1 = key := by
  unfold group at made
  split at made
  · cases made
    rfl
  · cases made

/-- No two field groups have one key. -/
theorem nodup_fieldGroups (inputs : ClientInputs) : ((fieldGroups inputs).map Prod.fst).Nodup := by
  rw [List.nodup_iff_pairwise_ne, List.pairwise_map]
  unfold fieldGroups
  rw [List.pairwise_filterMap]
  simp only [id_eq, List.pairwise_cons, List.mem_cons, List.not_mem_nil, or_false, forall_eq_or_imp,
    forall_eq, List.Pairwise.nil, and_true, IsEmpty.forall_iff, implies_true]
  refine ⟨⟨?_, ?_, ?_, ?_, ?_⟩, ⟨?_, ?_, ?_, ?_⟩, ⟨?_, ?_, ?_⟩, ⟨?_, ?_⟩, ?_⟩ <;>
  · intro left isLeft right isRight
    rw [group_key isLeft, group_key isRight]
    decide

/-- No two desired sources have one identity. -/
theorem nodup_desired {reachable : String → Bool} {inputs : ClientInputs}
    (documents : (inputs.documents.map Document.id).Nodup)
    (promoted : (inputs.promoted.map Message.id).Nodup) :
    ((desired kit reachable inputs).map Desired.identity).Nodup := by
  have fields : (((fieldGroups inputs).map desiredField).map Desired.identity).Nodup := by
    have keys := (nodup_fieldGroups inputs).map (f := Identity.field)
      (fun _ _ same => Identity.field.inj same)
    rw [List.map_map] at keys ⊢
    exact keys
  have files : ((inputs.documents.map (desiredDocument kit reachable)).map
      Desired.identity).Nodup := by
    have keys := documents.map (f := Identity.document)
      (fun _ _ same => Identity.document.inj same)
    rw [List.map_map] at keys ⊢
    exact keys
  have mails : ((inputs.promoted.map desiredMessage).map Desired.identity).Nodup := by
    have keys := promoted.map (f := Identity.message) (fun _ _ same => Identity.message.inj same)
    rw [List.map_map] at keys ⊢
    exact keys
  simp only [desired, List.map_append]
  refine List.Nodup.append (List.Nodup.append fields files ?_) mails ?_
  · intro name left right
    simp only [List.map_map, List.mem_map, Function.comp_apply] at left right
    obtain ⟨entry, -, rfl⟩ := left
    obtain ⟨doc, -, same⟩ := right
    cases same
  · intro name left right
    simp only [List.map_map, List.mem_append, List.mem_map, Function.comp_apply] at left right
    obtain ⟨msg, -, rfl⟩ := right
    rcases left with ⟨entry, -, same⟩ | ⟨doc, -, same⟩
    · cases same
    · cases same

/-- When identities stay apart no row is hidden from the sync. -/
theorem hidden_nil {rows : List KnowledgeSource} (distinct : (rows.map identity).Nodup) :
    rows.filter (fun row =>
      ((existing rows).get (identity row)).map KnowledgeSource.id ≠ some row.id) = [] := by
  rw [List.filter_eq_nil_iff]
  intro row inside
  have found : (existing rows).get (identity row) = some row := by
    apply Dict.get_ofList_of_mem
    · rw [List.map_map]
      exact distinct
    · exact List.mem_map_of_mem inside
  simp [found]

/-- The row a turn leaves is the source of what was desired. -/
theorem identity_embedded {documents : List Document} {d : Desired} (full : Bool) (clientId : Uuid)
    (newId : Identity → Uuid) (rows : List KnowledgeSource) (possible : Possible kit documents d) :
    identity ((syncOne kit full clientId newId rows d).embedded kit) = d.identity := by
  rw [embedded_syncOne]
  cases found : (existing rows).get d.identity with
  | none => rw [identity_rebuilt, identity_newSource clientId _ possible]
  | some src =>
    have named := (existing_some found).2
    simp only
    split
    · exact named
    · rw [identity_rebuilt, named]

/-- A full build with every download succeeding leaves one settled row for every desired source. -/
theorem full_build_settles {inputs : ClientInputs} {rows : List KnowledgeSource}
    (noCollision : Function.Injective kit.sha)
    (documents : (inputs.documents.map Document.id).Nodup)
    (promoted : (inputs.promoted.map Message.id).Nodup)
    (distinct : (rows.map identity).Nodup) (newId : Identity → Uuid) :
    ((ingest kit true everything newId inputs rows).map identity).Nodup ∧
      ∀ row ∈ ingest kit true everything newId inputs rows, Settled kit inputs.documents row := by
  have rowsAre : ingest kit true everything newId inputs rows =
      (desired kit everything inputs).map fun d =>
        (syncOne kit true inputs.client.id newId rows d).embedded kit := by
    simp only [ingest, sync, hidden_nil distinct, List.nil_append, List.map_map]
    rfl
  rw [rowsAre]
  constructor
  · rw [List.map_map]
    have names : (desired kit everything inputs).map
          (identity ∘ fun d => (syncOne kit true inputs.client.id newId rows d).embedded kit) =
        (desired kit everything inputs).map Desired.identity :=
      List.map_congr_left fun d wanted =>
        identity_embedded true inputs.client.id newId rows (possible_of_desired wanted)
    rw [names]
    exact nodup_desired documents promoted
  · intro row inside
    obtain ⟨d, wanted, rfl⟩ := List.mem_map.mp inside
    have possible := possible_of_desired wanted
    rw [embedded_syncOne]
    cases found : (existing rows).get d.identity with
    | none =>
      exact settled_rebuilt noCollision documents possible (identity_newSource _ _ possible)
    | some src =>
      simp only [Bool.true_eq_false, and_false, ↓reduceIte]
      exact settled_rebuilt noCollision documents possible (existing_some found).2

/-! ## Histories -/

/-- A step loses nothing: a build downloads every document it has to load, and a rename changes
nothing of what is extracted from a document that is stored already. -/
def Lossless (kit : Toolkit) : Machine.Guard History HistoryLabel
  | h, .build full reachable _ => ∀ doc ∈ h.inputs.documents, Loads kit full h.sources doc →
      loadDocument kit reachable doc = loadDocument kit everything doc
  | h, .renameDocument id name => ∀ doc ∈ h.inputs.documents, doc.id = id →
      (∃ row ∈ h.sources, identity row = .document id ∧
        row.contentHash = some (kit.sha (documentBasis doc))) →
      loadDocument kit everything { doc with name } = loadDocument kit everything doc
  | _, _ => True

/-- What holds in every state of a lossless history. -/
structure Sound (kit : Toolkit) (h : History) : Prop where
  documents : (h.inputs.documents.map Document.id).Nodup
  promoted : (h.inputs.promoted.map Message.id).Nodup
  identities : (h.sources.map identity).Nodup
  settled : ∀ row ∈ h.sources, Settled kit h.inputs.documents row

/-- A lossless step keeps a history sound. -/
theorem Sound.next {h h' : History} {label : HistoryLabel}
    (noCollision : Function.Injective kit.sha)
    (sound : Sound kit h) (lossless : Lossless kit h label)
    (taken : History.next kit h label = some h') : Sound kit h' := by
  cases label with
  | editFields client goals entries contacts =>
    obtain rfl := Option.some.inj taken
    exact ⟨sound.documents, sound.promoted, sound.identities, sound.settled⟩
  | addDocument doc =>
    obtain ⟨⟨new, unused⟩, same⟩ := Option.ite_none_right_eq_some.mp taken
    obtain rfl := Option.some.inj same
    refine ⟨?_, sound.promoted, sound.identities, fun row inside => ?_⟩
    · rw [List.map_append, List.map_singleton]
      exact List.Nodup.append sound.documents (List.nodup_singleton _) (by simpa using new)
    · apply (sound.settled row inside).add
      intro named
      exact unused (named ▸ List.mem_map_of_mem inside)
  | renameDocument id name =>
    obtain rfl := Option.some.inj taken
    refine ⟨?_, sound.promoted, sound.identities, fun row inside => ?_⟩
    · rw [Table.map_modify (fun doc : Document => { doc with name }) Document.id fun _ _ => rfl]
      exact sound.documents
    · intro d possible named hashed
      cases possible with
      | field entry => exact sound.settled row inside _ (.field entry) named hashed
      | document doc listed =>
        rcases Table.mem_modify.mp listed with ⟨old, -⟩ | ⟨old, member, rfl, rfl⟩
        · exact sound.settled row inside _ (.document doc old) named hashed
        · -- the renamed document keeps its identity and its hash, and loads what it loaded
          have loaded := lossless old member rfl ⟨row, inside, named, hashed⟩
          have before := sound.settled row inside _ (.document old member) named hashed
          simp only [desiredDocument] at before ⊢
          rw [loaded]
          exact before
      | message msg => exact sound.settled row inside _ (.message msg) named hashed
  | removeDocument id =>
    obtain rfl := Option.some.inj taken
    refine ⟨?_, sound.promoted, sound.identities, fun row inside => ?_⟩
    · exact sound.documents.sublist (List.filter_sublist.map Document.id)
    · exact (sound.settled row inside).subset fun doc kept => List.mem_of_mem_filter kept
  | promoteMessage msg sourceId subject =>
    obtain ⟨⟨new, unused⟩, same⟩ := Option.ite_none_right_eq_some.mp taken
    obtain rfl := Option.some.inj same
    refine ⟨sound.documents, ?_, ?_, fun row inside => ?_⟩
    · rw [List.map_append, List.map_singleton]
      exact List.Nodup.append sound.promoted (List.nodup_singleton _) (by simpa using new)
    · rw [List.map_append, List.map_singleton]
      exact List.Nodup.append sound.identities (List.nodup_singleton _)
        (List.disjoint_singleton.mpr unused)
    · rcases List.mem_append.mp inside with old | added
      · exact sound.settled row old
      · rw [List.mem_singleton.mp added]
        exact settled_of_unhashed rfl
  | deleteConversation messages =>
    obtain rfl := Option.some.inj taken
    refine ⟨sound.documents, ?_, sound.identities, sound.settled⟩
    exact sound.promoted.sublist (List.filter_sublist.map Message.id)
  | build full reachable newId =>
    obtain rfl := Option.some.inj taken
    have complete : ingest kit full reachable newId h.inputs h.sources =
        ingest kit true everything newId h.inputs h.sources := by
      rw [ingest_reachable newId lossless]
      cases full with
      | false => exact ingest_eq sound.settled newId
      | true => rfl
    obtain ⟨identities, settled⟩ :=
      full_build_settles noCollision sound.documents sound.promoted sound.identities newId
    rw [← complete] at identities settled
    exact ⟨sound.documents, sound.promoted, identities, settled⟩

/-- A lossless history is sound. -/
theorem sound_of_reachable {h : History} (noCollision : Function.Injective kit.sha)
    (reached : (historyMachine kit).Reachable (Lossless kit) h) : Sound kit h := by
  apply reached.invariant (Sound kit)
  · rintro h ⟨documents, promoted, sources⟩
    refine ⟨?_, ?_, ?_, ?_⟩
    · rw [documents]
      exact List.nodup_nil
    · rw [promoted]
      exact List.nodup_nil
    · rw [sources]
      exact List.nodup_nil
    · rw [sources]
      exact fun row inside => absurd inside List.not_mem_nil
  · intro h label h' sound lossless taken
    exact sound.next noCollision lossless taken

/-- At every point of a lossless history an incremental build with working downloads leaves the
rows and chunks a full build would leave. -/
theorem incremental_eq_full {h : History} (noCollision : Function.Injective kit.sha)
    (reached : (historyMachine kit).Reachable (Lossless kit) h) (newId : Identity → Uuid) :
    ingest kit false everything newId h.inputs h.sources =
      ingest kit true everything newId h.inputs h.sources :=
  ingest_eq (sound_of_reachable noCollision reached).settled newId

/-! ## A download that fails once -/

/-- An uploaded document. -/
def brief : Document := ⟨7, "brief.txt", none, "clients/1/brief.txt"⟩

/-- A document is downloaded by the build that first sees it: the next incremental build is a full
one. -/
theorem incremental_eq_full_once :
    ∃ h : History, h.sources.map KnowledgeSource.status = [.embedded] ∧
      ingest .plain false everything (fun _ => 10) h.inputs h.sources =
        ingest .plain true everything (fun _ => 10) h.inputs h.sources := by
  obtain ⟨early, h, stored, added, built⟩ : ∃ early h : History,
      h.sources.map KnowledgeSource.status = [.embedded] ∧
      History.next .plain ⟨.bare 1, []⟩ (.addDocument brief) = some early ∧
      History.next .plain early (.build false everything fun _ => 9) = some h := by
    refine ⟨_, _, ?_, rfl, rfl⟩
    decide +kernel
  have run : (historyMachine .plain).Run (Lossless .plain) ⟨.bare 1, []⟩
      [.addDocument brief, .build false everything fun _ => 9] h :=
    .cons trivial added (.cons (fun _ _ _ => rfl) built (.nil h))
  exact ⟨h, stored,
    incremental_eq_full (fun _ _ same => same) ⟨_, _, ⟨rfl, rfl, rfl⟩, run⟩ fun _ => 10⟩

/-- A document whose download fails during the build that first sees it: with the storage working
again an incremental build leaves it empty for ever, and a full build reads it. -/
theorem failed_download_stays :
    ∃ h, (historyMachine .plain).play Machine.anyStep ⟨.bare 1, []⟩
        [.addDocument brief, .build false (fun _ => false) fun _ => 9] = some h ∧
      (ingest .plain false everything (fun _ => 10) h.inputs h.sources).map
          (fun row => (row.extractedText, row.status, row.chunks.length)) =
        [(some "", .failed, 0)] ∧
      (ingest .plain true everything (fun _ => 10) h.inputs h.sources).map
          (fun row => (row.extractedText, row.status, row.chunks.length)) =
        [(some "No stock photos.", .embedded, 1)] := by
  refine ⟨_, rfl, ?_, ?_⟩
  · decide +kernel
  · decide +kernel

end MarketingOS.Intelligence
