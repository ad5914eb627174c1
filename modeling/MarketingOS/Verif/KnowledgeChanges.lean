import Mathlib.Data.List.Flatten
import MarketingOS.Services.Knowledge
import MarketingOS.Verif.ClientIsolation

/-!
# Which changes of the inputs leave a build

A request that changes what a build would read of a client leaves a queued build of it in the same
transaction. The one request that does not is the deletion of a conversation: it takes its promoted
messages out of what is read, and leaves no build to take them out of what was built.
-/
namespace MarketingOS.KnowledgeRequest

open OnboardingService ClientService ComplianceService ConversationService

variable {env : Environment} {tick : Tick}

/-! ## Statement -/

/-- The request deletes a conversation of the client with a promoted message. -/
def TakesPromoted (t : KnowledgeTables) (clientId : Uuid) : KnowledgeRequest env → Prop
  | .inbox owner (.deleteConversation conversationId) => owner = clientId ∧
    ∃ conv ∈ find t owner conversationId, ∃ m ∈ conv.messages, m.addedToSourceAt.isSome = true
  | _ => False

/-- What a build would read of a client is as it was, or a build of it is queued. -/
def Scheduled (kit : Intelligence.Toolkit) (reachable : String → Bool) (clientId : Uuid)
    (before after : KnowledgeTables) : Prop :=
  ∀ was ∈ before.inputs clientId, ∃ now ∈ after.inputs clientId,
    Intelligence.desired kit reachable now = Intelligence.desired kit reachable was ∨
      after.BuildQueued clientId

/-! ## What a write to a client leaves -/

/-- Two records a build reads alike. -/
def ReadAlike (a b : ClientRecord) : Prop :=
  ∀ promoted, KnowledgeTables.inputsOf a promoted = KnowledgeTables.inputsOf b promoted

/-- What a write to one client leaves: everything as it was, a client without a build where nothing
that is read changed, or a client with one. -/
inductive ClientStep (env : Environment) (tick : Tick) (t : OnboardingTables)
    (record : ClientRecord) : OnboardingTables → Prop where
  | kept : ClientStep env tick t record t
  | silent (write : ClientRecord → ClientRecord) (keepsId : ∀ row, (write row).id = row.id)
      (alike : ReadAlike (write record) record) :
      ClientStep env tick t record
        { t with clients := Table.modify ClientRecord.id record.id write t.clients }
  | built (jobType : IntelJobType) (changedKeys : Option (List String)) (debounceSeconds : Int)
      (write : ClientRecord → ClientRecord) (keepsId : ∀ row, (write row).id = row.id) :
      ClientStep env tick t record
        (savedTables env tick jobType changedKeys debounceSeconds write record.id t)

section Client

variable {t : OnboardingTables} {record : ClientRecord}

/-- A saved client leaves a build. -/
theorem clientStep_saveClient {refused : Exc} {jobType : IntelJobType}
    {changedKeys : Option (List String)} {debounceSeconds : Int}
    {write : ClientRecord → ClientRecord} (keepsId : ∀ row, (write row).id = row.id) :
    ClientStep env tick t record
      (saveClient env tick refused jobType changedKeys debounceSeconds write t record).2 := by
  cases run : saveClient env tick refused jobType changedKeys debounceSeconds write t record with
  | mk out after =>
    obtain ⟨-, rfl⟩ | ⟨-, rfl⟩ := saveClient_leaves run
    · exact .built jobType changedKeys debounceSeconds write keepsId
    · exact .kept

/-- A diff without an entry compares equal values. -/
theorem fieldValue_of_fieldChanges {before after : List (String × Json)}
    (none : fieldChanges before after = none) (name : String) :
    Json.fieldValue before name = Json.fieldValue after name := by
  by_contra differs
  have entry := entry_fieldChanges_iff.mpr ⟨differs, rfl⟩
  rw [none] at entry
  cases entry

/-- An edit with an empty diff changes nothing. -/
theorem apply_of_editChanges {data : ClientUpdate env} (none : editChanges data record = none) :
    data.apply record.client = record.client := by
  have same := fieldValue_of_fieldChanges none
  have text (name : String) (column : Client → Option String)
      (found : ∀ client,
        Json.fieldValue (Client.auditValues client) name = .ofText (column client)) :
      column (data.apply record.client) = column record.client := by
    have values := same name
    rw [found, found] at values
    exact (Json.ofText_injective values).symm
  have status : (data.apply record.client).status = record.client.status := by
    have values := same "status"
    exact (Json.ofMember_injective values).symm
  calc data.apply record.client
      = { record.client with
          name := (data.apply record.client).name
          businessType := (data.apply record.client).businessType
          industry := (data.apply record.client).industry
          website := (data.apply record.client).website
          location := (data.apply record.client).location
          language := (data.apply record.client).language
          timezone := (data.apply record.client).timezone
          markets := (data.apply record.client).markets
          status := (data.apply record.client).status } := rfl
    _ = record.client := by
        rw [text "name" Client.name fun _ => rfl,
          text "business_type" Client.businessType fun _ => rfl,
          text "industry" Client.industry fun _ => rfl,
          text "website" Client.website fun _ => rfl,
          text "location" Client.location fun _ => rfl,
          text "language" Client.language fun _ => rfl,
          text "timezone" Client.timezone fun _ => rfl,
          text "markets" Client.markets fun _ => rfl, status]

/-- An edit with an empty diff leaves the record alone. -/
theorem edited_of_editChanges {data : ClientUpdate env} (none : editChanges data record = none) :
    edited tick data record = record := by
  rw [edited, apply_of_editChanges none]
  exact if_pos rfl

/-- An edit keeps the identifier of the client. -/
theorem id_edited (data : ClientUpdate env) (row : ClientRecord) :
    (edited tick data row).id = row.id := by
  rw [edited, ClientRecord.id_touch]
  rfl

/-- A brand edit keeps the identifier of the client. -/
theorem id_branded (data : BrandUpdate) (row : ClientRecord) :
    (branded tick data row).id = row.id := by
  rw [branded, ClientRecord.id_touch]
  rfl

/-- Completion keeps the identifier of the client. -/
theorem id_completed (row : ClientRecord) : (completed tick row).id = row.id := by
  rw [completed, ClientRecord.id_touch]
  rfl

/-- A write to the register leaves a build. -/
theorem clientStep_saveRegister {debounceSeconds : Int}
    {write : List RegisterEntry → List RegisterEntry} :
    ClientStep env tick t record (saveRegister env tick debounceSeconds t record write).2 :=
  clientStep_saveClient fun _ => rfl

/-- What a client edit leaves. -/
theorem clientStep_updateClient (data : ClientUpdate env) :
    ClientStep env tick t record (updateClient env tick t record data).2 := by
  unfold updateClient
  cases diff : editChanges data record with
  | none =>
    dsimp only
    unfold commitOr
    split
    · refine .silent (edited tick data) (id_edited data) fun promoted => ?_
      rw [edited_of_editChanges diff]
    · exact .kept
  | some changed => exact clientStep_saveClient (id_edited data)

/-- What a write to a stored client leaves. -/
theorem clientStep_runClient (write : ClientWrite env) :
    ClientStep env tick t record (runClient tick t record write).2 := by
  cases write with
  | updateStep data => exact clientStep_saveClient fun row => id_stepped data row
  | addDocuments docId data => exact clientStep_saveClient fun _ => rfl
  | removeDocument documentId =>
    simp only [runClient, done, removeDocument]
    split
    · exact clientStep_saveClient fun _ => rfl
    · exact .kept
  | complete => exact clientStep_saveClient id_completed
  | updateClient data => exact clientStep_updateClient data
  | updateBrand data => exact clientStep_saveClient (id_branded data)
  | createEntry data =>
    simp only [runClient, done, createEntry]
    exact clientStep_saveRegister
  | updateEntry entryId data =>
    simp only [runClient, done, updateEntry]
    split
    · exact .kept
    · exact clientStep_saveRegister
  | deleteEntry entryId =>
    simp only [runClient, deleteEntry]
    split
    · exact .kept
    · exact clientStep_saveRegister
  | sync => exact clientStep_saveRegister

end Client

/-! ## What a write to an inbox leaves -/

/-- What a write to the inbox of a client leaves: conversations with the same promoted messages, a
promotion with a build, or one conversation fewer. -/
inductive InboxStep (env : Environment) (tick : Tick) (t : KnowledgeTables) (clientId : Uuid) :
    InboxWrite → KnowledgeTables → Prop where
  | silent (write : InboxWrite) (conversations : List Conversation)
      (same : ∀ other, KnowledgeTables.promotedMessages { t with conversations } other =
        t.promotedMessages other) : InboxStep env tick t clientId write { t with conversations }
  | promoted (write : InboxWrite) (conv : Conversation) (message : InboxMessage)
      (stored : conv ∈ t.conversations) (own : conv.clientId = clientId) :
      InboxStep env tick t clientId write (promoted t clientId env tick conv message)
  | deleted (conv : Conversation) (stored : conv ∈ t.conversations)
      (own : conv.clientId = clientId) : InboxStep env tick t clientId (.deleteConversation conv.id)
        { t with conversations := Table.remove Conversation.id conv.id t.conversations }

section Inbox

variable {t : KnowledgeTables} {clientId : Uuid}

/-- A conversation that is found is one of the client. -/
theorem find_spec {conversationId : Uuid} {conv : Conversation}
    (found : find t clientId conversationId = some conv) :
    conv ∈ t.conversations ∧ conv.clientId = clientId ∧ conv.id = conversationId := by
  obtain ⟨stored, own⟩ := Option.filter_eq_some_iff.mp found
  exact ⟨Table.get_mem stored, of_decide_eq_true own, Table.get_key stored⟩

/-- A write that keeps what is promoted keeps it in the tables. -/
theorem promotedMessages_written {conversationId : Uuid} {write : Conversation → Conversation}
    (keeps : ∀ other conv, KnowledgeTables.promotedOf other (write conv) =
      KnowledgeTables.promotedOf other conv) (other : Uuid) :
    (written t conversationId write).promotedMessages other = t.promotedMessages other := by
  unfold KnowledgeTables.promotedMessages written Table.modify
  rw [List.flatMap_map]
  congr 1
  funext conv
  split
  · exact keeps other conv
  · rfl

/-- A write to the inbox that keeps what is promoted, committed or not. -/
theorem inboxStep_commit {write : InboxWrite} {after : KnowledgeTables}
    {conversations : List Conversation} (shape : after = { t with conversations })
    (same : ∀ other, after.promotedMessages other = t.promotedMessages other) :
    InboxStep env tick t clientId write (ConversationService.commit t after).2 := by
  unfold ConversationService.commit
  split
  · rw [shape] at same ⊢
    exact .silent write conversations same
  · exact .silent _ t.conversations fun _ => rfl

/-- A message composed here is not promoted. -/
theorem promotedOf_composed (other : Uuid) (conv : Conversation) (messageId senderUserId : Uuid)
    (data : MessageCreate) (now : Option Timestamp) :
    KnowledgeTables.promotedOf other { conv with
      messages := conv.messages ++ [composed messageId senderUserId data]
      lastMessageAt := now
      isRead := true } = KnowledgeTables.promotedOf other conv := by
  simp [KnowledgeTables.promotedOf, composed, List.filter_append]

/-- A message moved, starred or labelled is promoted as before. -/
theorem promotedOf_apply (other messageId : Uuid) (data : MessageUpdate) (conv : Conversation) :
    KnowledgeTables.promotedOf other (onMessage messageId (MessageUpdate.apply data) conv) =
      KnowledgeTables.promotedOf other conv := by
  unfold KnowledgeTables.promotedOf onMessage Table.modify
  dsimp only
  congr 1
  rw [List.filter_map, List.map_map]
  have stamp : ((fun m : InboxMessage => m.addedToSourceAt.isSome) ∘ fun row =>
      if row.id = messageId then MessageUpdate.apply data row else row) =
      fun m => m.addedToSourceAt.isSome := by
    funext m
    by_cases hit : m.id = messageId <;> simp [hit, MessageUpdate.apply]
  have read : (input ∘ fun row =>
      if row.id = messageId then MessageUpdate.apply data row else row) = input := by
    funext m
    by_cases hit : m.id = messageId <;> simp [hit, MessageUpdate.apply, input]
  rw [stamp, read]

/-- A message that is found is one of a conversation of the client. -/
theorem getMessage_spec {conversationId messageId : Uuid} {conv : Conversation}
    {message : InboxMessage}
    (found : getMessage t clientId conversationId messageId = some (conv, message)) :
    conv ∈ t.conversations ∧ conv.clientId = clientId := by
  obtain ⟨other, there, rest⟩ := Option.bind_eq_some_iff.mp found
  obtain ⟨_, -, same⟩ := Option.map_eq_some_iff.mp rest
  obtain ⟨rfl, -⟩ := Prod.mk.inj same
  obtain ⟨stored, own, -⟩ := find_spec there
  exact ⟨stored, own⟩

/-- What a write to an inbox leaves. -/
theorem inboxStep_runInbox (write : InboxWrite) :
    InboxStep env tick t clientId write (runInbox tick env t clientId write).2 := by
  cases write with
  | createConversation messageId senderUserId data =>
    refine inboxStep_commit rfl fun other => ?_
    simp [KnowledgeTables.promotedMessages, KnowledgeTables.promotedOf, composed]
  | addMessage conversationId senderUserId data =>
    simp only [runInbox, done, addMessage]
    split
    · exact .silent _ t.conversations fun _ => rfl
    · exact inboxStep_commit rfl (promotedMessages_written fun other conv =>
        promotedOf_composed other conv _ _ _ _)
  | updateConversation conversationId data =>
    simp only [runInbox, done, updateConversation]
    split
    · exact .silent _ t.conversations fun _ => rfl
    · exact inboxStep_commit rfl (promotedMessages_written fun other conv => rfl)
  | updateMessage conversationId messageId data =>
    simp only [runInbox, done, updateMessage]
    split
    · exact .silent _ t.conversations fun _ => rfl
    · exact inboxStep_commit rfl (promotedMessages_written fun other conv =>
        promotedOf_apply other messageId data conv)
  | addMessageToSource conversationId messageId =>
    simp only [runInbox, done, addMessageToSource]
    cases found : getMessage t clientId conversationId messageId with
    | none => exact .silent _ t.conversations fun _ => rfl
    | some pair =>
      obtain ⟨conv, message⟩ := pair
      obtain ⟨stored, own⟩ := getMessage_spec found
      dsimp only
      split
      · exact .silent _ t.conversations fun _ => rfl
      · unfold ConversationService.commit
        split
        · exact .promoted _ conv message stored own
        · exact .silent _ t.conversations fun _ => rfl
  | deleteConversation conversationId =>
    simp only [runInbox, deleteConversation, getConversation]
    cases found : find t clientId conversationId with
    | none => exact .silent _ t.conversations fun _ => rfl
    | some conv =>
      obtain ⟨stored, own, rfl⟩ := find_spec found
      dsimp only
      unfold ConversationService.commit
      split
      · exact .deleted conv stored own
      · exact .silent _ t.conversations fun _ => rfl

end Inbox

/-! ## What a request leaves -/

/-- What a request leaves. -/
inductive RequestStep (env : Environment) (tick : Tick) (t : KnowledgeTables) :
    KnowledgeRequest env → KnowledgeTables → Prop where
  | kept (request : KnowledgeRequest env) : RequestStep env tick t request t
  | opened (request : KnowledgeRequest env) (untargeted : request.target tick = none)
      (record : ClientRecord) (fresh : t.get record.id = none) :
      RequestStep env tick t request { t with clients := t.clients ++ [record] }
  | onboarded (docId : Nat → Uuid) (data : OnboardingRequest env) (record : ClientRecord)
      (id : record.id = tick.rowId) (fresh : t.get record.id = none) :
      RequestStep env tick t (.onboard docId data) { t with
        clients := t.clients ++ [record]
        intelJobs := JobQueue.enqueue env tick record.id .fullBuild none 0 t.intelJobs }
  | client (record : ClientRecord) (write : ClientWrite env)
      (stored : t.get record.id = some record) (after : OnboardingTables)
      (step : ClientStep env tick t.toOnboardingTables record after) :
      RequestStep env tick t (.client record.id write) { t with toOnboardingTables := after }
  | inbox (clientId : Uuid) (there : (t.get clientId).isSome = true) (write : InboxWrite)
      (after : KnowledgeTables) (step : InboxStep env tick t clientId write after) :
      RequestStep env tick t (.inbox clientId write) after

section Request

variable {t : KnowledgeTables} {lower : String → String}

/-- A client that was added was not there. -/
theorem fresh_of_consistent {record : ClientRecord} {intelJobs : List IntelJob}
    (accepted : OnboardingTables.Consistent ⟨t.clients ++ [record], intelJobs⟩) :
    t.get record.id = none := by
  obtain ⟨-, ids, -⟩ := accepted
  rw [List.map_append, List.nodup_append] at ids
  simp only [OnboardingTables.get, Table.get, List.find?_eq_none, decide_eq_true_eq]
  intro row inside same
  exact ids.2.2 _ (List.mem_map_of_mem inside) _ (List.mem_singleton_self _) same

/-- What opening a client leaves. -/
theorem requestStep_addClient {request : KnowledgeRequest env} {errorMessage : String}
    {record : ClientRecord} (untargeted : request.target tick = none) :
    RequestStep env tick t request (within t (done (addClient errorMessage t.toOnboardingTables
      record t.intelJobs))).2 := by
  simp only [within, done, addClient, commitOr]
  split
  · next accepted => exact .opened request untargeted record (fresh_of_consistent accepted)
  · exact .kept request

/-- What a request leaves. -/
theorem requestStep_run (request : KnowledgeRequest env) :
    RequestStep env tick t request (run tick lower t request).2 := by
  cases request with
  | createDraft data => exact requestStep_addClient rfl
  | createDraftMinimal name website => exact requestStep_addClient rfl
  | onboard docId data =>
    simp only [run, within, done, OnboardingService.onboard, addClient, commitOr]
    split
    · next accepted => exact .onboarded docId data _ rfl (fresh_of_consistent accepted)
    · exact .kept _
  | client clientId write =>
    cases found : t.get clientId with
    | none =>
      simp only [run, found]
      exact .kept _
    | some record =>
      obtain rfl : record.id = clientId := Table.get_key found
      simp only [run, found]
      exact .client record write found _ (clientStep_runClient write)
  | inbox clientId write =>
    cases found : t.get clientId with
    | none =>
      simp only [run, found]
      exact .kept _
    | some record =>
      simp only [run, found]
      exact .inbox clientId (Option.isSome_of_eq_some found) write _ (inboxStep_runInbox write)

end Request

/-! ## What is read after a request -/

section Reading

variable {t : KnowledgeTables} {clientId : Uuid}

/-- An enqueued build is queued. -/
theorem queued_enqueue (enabled : env.intelligenceEnabled = true) {jobType : IntelJobType}
    {changedKeys : Option (List String)} {debounceSeconds : Int} {jobs : List IntelJob} :
    ∃ job ∈ JobQueue.enqueue env tick clientId jobType changedKeys debounceSeconds jobs,
      job.clientId = clientId ∧ job.status = .queued := by
  unfold JobQueue.enqueue
  rw [if_pos enabled]
  dsimp only
  split
  · next existing found =>
    obtain ⟨inside, own⟩ := JobQueue.pendingForClient_mem found
    have selected := JobQueue.mem_of_firstBy found
    obtain ⟨-, pending⟩ := List.mem_filter.mp selected
    rw [JobQueue.isPendingFor, Bool.and_eq_true, decide_eq_true_eq, decide_eq_true_eq] at pending
    exact ⟨_, Table.mem_modify.mpr (.inr ⟨existing, inside, rfl, rfl⟩), own, pending.2⟩
  · exact ⟨_, List.mem_append_right _ (List.mem_singleton_self _), rfl, rfl⟩

/-- A write to another client is not read. -/
theorem inputs_modify_other {other : Uuid} {write : ClientRecord → ClientRecord}
    {intelJobs : List IntelJob} (keepsId : ∀ row, (write row).id = row.id)
    (apart : clientId ≠ other) :
    KnowledgeTables.inputs { t with
      clients := Table.modify ClientRecord.id other write t.clients
      intelJobs } clientId = t.inputs clientId := by
  have same : Table.get ClientRecord.id (Table.modify ClientRecord.id other write t.clients)
      clientId = Table.get ClientRecord.id t.clients clientId :=
    Table.get_modify_other (fun row same => (keepsId row).trans same) apart
  exact congrArg (Option.map fun record => KnowledgeTables.inputsOf record
    (t.promotedMessages clientId)) same

/-- A write to the client is read as it is written. -/
theorem inputs_modify_same {record : ClientRecord} {write : ClientRecord → ClientRecord}
    {intelJobs : List IntelJob} (keepsId : ∀ row, (write row).id = row.id)
    (stored : t.get record.id = some record) :
    KnowledgeTables.inputs { t with
      clients := Table.modify ClientRecord.id record.id write t.clients
      intelJobs } record.id =
      some (KnowledgeTables.inputsOf (write record) (t.promotedMessages record.id)) := by
  have same : Table.get ClientRecord.id (Table.modify ClientRecord.id record.id write t.clients)
      record.id = some (write record) := by
    rw [Table.get_modify_same fun row same => (keepsId row).trans same]
    rw [OnboardingTables.get] at stored
    rw [stored, Option.map_some]
  exact congrArg (Option.map fun record => KnowledgeTables.inputsOf record
    (t.promotedMessages _)) same

/-- A new client is not read for another. -/
theorem inputs_opened {record : ClientRecord} {intelJobs : List IntelJob}
    (apart : clientId ≠ record.id) :
    KnowledgeTables.inputs { t with clients := t.clients ++ [record], intelJobs } clientId =
      t.inputs clientId := by
  have same : Table.get ClientRecord.id (t.clients ++ [record]) clientId =
      Table.get ClientRecord.id t.clients clientId := by
    rw [Table.get, List.find?_append, List.find?_singleton,
      if_neg (by simpa using apart.symm), Option.or_none]
    rfl
  exact congrArg (Option.map fun record => KnowledgeTables.inputsOf record
    (t.promotedMessages clientId)) same

/-- A client that is not there is not read. -/
theorem inputs_none (absent : t.get clientId = none) : t.inputs clientId = none := by
  rw [KnowledgeTables.inputs, absent, Option.map_none]

/-- The inputs of tables that differ in what is promoted only. -/
theorem inputs_congr {after : KnowledgeTables} (clients : after.clients = t.clients)
    (same : after.promotedMessages clientId = t.promotedMessages clientId) :
    after.inputs clientId = t.inputs clientId := by
  simp only [KnowledgeTables.inputs, OnboardingTables.get, clients, same]

/-- A conversation that is not the client's has nothing promoted of it. -/
theorem promotedOf_other {conv : Conversation} (apart : conv.clientId ≠ clientId) :
    KnowledgeTables.promotedOf clientId conv = [] := if_neg apart

/-- Rewriting a conversation of another client changes nothing of what is promoted. -/
theorem promotedMessages_modify_other (distinct : (t.conversations.map Conversation.id).Nodup)
    {conv : Conversation} (stored : conv ∈ t.conversations) (apart : conv.clientId ≠ clientId)
    {write : Conversation → Conversation} (keeps : ∀ row, (write row).clientId = row.clientId) :
    (Table.modify Conversation.id conv.id write t.conversations).flatMap
        (KnowledgeTables.promotedOf clientId) = t.promotedMessages clientId := by
  unfold KnowledgeTables.promotedMessages Table.modify
  rw [List.flatMap_map]
  refine List.flatMap_congr fun row inside => ?_
  split
  · next same =>
    obtain rfl := List.inj_on_of_nodup_map distinct inside stored same
    rw [promotedOf_other apart, promotedOf_other ((keeps row).symm ▸ apart)]
  · rfl

/-- Dropping rows nothing is promoted of changes nothing of what is promoted. -/
theorem promotedMessages_remove {key : Uuid} (bare : ∀ conv ∈ t.conversations, conv.id = key →
      KnowledgeTables.promotedOf clientId conv = []) :
    (Table.remove Conversation.id key t.conversations).flatMap
        (KnowledgeTables.promotedOf clientId) = t.promotedMessages clientId := by
  unfold KnowledgeTables.promotedMessages Table.remove
  generalize t.conversations = rows at bare ⊢
  induction rows with
  | nil => rfl
  | cons conv rest ih =>
    have later := ih fun other inside => bare other (List.mem_cons_of_mem _ inside)
    rw [List.filter_cons, List.flatMap_cons]
    by_cases hit : conv.id = key
    · simp only [hit, ne_eq, not_true_eq_false, decide_false, Bool.false_eq_true, ↓reduceIte,
        bare conv List.mem_cons_self hit, List.nil_append]
      exact later
    · simp only [hit, ne_eq, not_false_eq_true, decide_true, ↓reduceIte, List.flatMap_cons, later]

/-- A build of the client was asked for in the transaction. -/
def Asked (env : Environment) (tick : Tick) (clientId : Uuid) (before after : KnowledgeTables) :
    Prop :=
  ∃ jobType changedKeys debounceSeconds, after.intelJobs =
    JobQueue.enqueue env tick clientId jobType changedKeys debounceSeconds before.intelJobs

/-- A conversation with promoted messages was deleted, and nothing else was done. -/
def Withdrawn (clientId : Uuid) (before after : KnowledgeTables) : Prop :=
  ∃ conv ∈ before.conversations, conv.clientId = clientId ∧
    KnowledgeTables.promotedOf clientId conv ≠ [] ∧ after = { before with
      conversations := Table.remove Conversation.id conv.id before.conversations }

/-- A conversation of the client is found under its identifier. -/
theorem find_of_mem (distinct : (t.conversations.map Conversation.id).Nodup) {conv : Conversation}
    (stored : conv ∈ t.conversations) : find t conv.clientId conv.id = some conv := by
  rw [find, Table.get_of_mem distinct stored, Option.filter_some, if_pos (decide_eq_true rfl)]

/-- Something is promoted of a conversation of the client when one of its messages is. -/
theorem promotedOf_ne_nil_iff {conv : Conversation} (own : conv.clientId = clientId) :
    KnowledgeTables.promotedOf clientId conv ≠ [] ↔
      ∃ m ∈ conv.messages, m.addedToSourceAt.isSome = true := by
  rw [KnowledgeTables.promotedOf, if_pos own, ne_eq, List.map_eq_nil_iff, List.filter_eq_nil_iff]
  push Not
  rfl

/-- Deleting such a conversation takes promoted messages away. -/
theorem takesPromoted_of_mem (distinct : (t.conversations.map Conversation.id).Nodup)
    {conv : Conversation} {owner : Uuid} (stored : conv ∈ t.conversations)
    (own : conv.clientId = owner) (mine : conv.clientId = clientId)
    (some : KnowledgeTables.promotedOf clientId conv ≠ []) :
    TakesPromoted t clientId
      (.inbox owner (.deleteConversation conv.id) : KnowledgeRequest env) := by
  subst own
  exact ⟨mine, conv, find_of_mem distinct stored, (promotedOf_ne_nil_iff mine).mp some⟩

/-- What a request does to what is read and to the queue: nothing, a client is opened, a build of
its client is asked for, or promoted messages of its client are withdrawn. The other clients are
read as before. -/
inductive Effect (env : Environment) (tick : Tick) (t : KnowledgeTables)
    (request : KnowledgeRequest env) (after : KnowledgeTables) : Prop where
  | quiet (jobs : after.intelJobs = t.intelJobs)
      (same : ∀ other, after.inputs other = t.inputs other)
  | opened (untargeted : request.target tick = none) (jobs : after.intelJobs = t.intelJobs)
      (clientId : Uuid) (fresh : t.inputs clientId = none)
      (same : ∀ other, other ≠ clientId → after.inputs other = t.inputs other)
  | asked (clientId : Uuid) (target : request.target tick = some clientId)
      (asked : Asked env tick clientId t after) (there : (after.inputs clientId).isSome = true)
      (same : ∀ other, other ≠ clientId → after.inputs other = t.inputs other)
  | withdrawn (clientId : Uuid) (target : request.target tick = some clientId)
      (takes : TakesPromoted t clientId request) (gone : Withdrawn clientId t after)
      (same : ∀ other, other ≠ clientId → after.inputs other = t.inputs other)

/-- A client that is there is read. -/
theorem isSome_inputs (there : (t.get clientId).isSome = true) {after : KnowledgeTables}
    (clients : after.clients = t.clients) :
    (after.inputs clientId).isSome = true := by
  rw [KnowledgeTables.inputs, Option.isSome_map, OnboardingTables.get, clients]
  exact there

/-- The effect of a write to a client. -/
theorem effect_client {record : ClientRecord} {write : ClientWrite env}
    (stored : t.get record.id = some record) {after : OnboardingTables}
    (step : ClientStep env tick t.toOnboardingTables record after) :
    Effect env tick t (.client record.id write) { t with toOnboardingTables := after } := by
  cases step with
  | kept => exact .quiet rfl fun _ => rfl
  | silent write keepsId alike =>
    refine .quiet rfl fun other => ?_
    by_cases own : other = record.id
    · subst own
      refine (inputs_modify_same keepsId stored).trans ?_
      rw [alike, KnowledgeTables.inputs, stored]
      rfl
    · exact inputs_modify_other keepsId own
  | built jobType changedKeys debounceSeconds write keepsId =>
    refine .asked record.id rfl ⟨jobType, changedKeys, debounceSeconds, rfl⟩
      (Option.isSome_of_eq_some (inputs_modify_same keepsId stored)) fun other apart => ?_
    exact inputs_modify_other keepsId apart

/-- The effect of a write to an inbox. -/
theorem effect_inbox (consistent : t.Consistent) (there : (t.get clientId).isSome = true)
    {write : InboxWrite} {after : KnowledgeTables}
    (step : InboxStep env tick t clientId write after) :
    Effect env tick t (.inbox clientId write) after := by
  obtain ⟨-, -, distinct, -, -⟩ := consistent
  cases step with
  | silent _ conversations same =>
    exact .quiet rfl fun other => inputs_congr rfl (same other)
  | promoted _ conv message stored own =>
    refine .asked clientId rfl ⟨.incremental, some ["conversation"], 5, rfl⟩
      (isSome_inputs there rfl) fun other apart => ?_
    refine inputs_congr rfl ?_
    exact promotedMessages_modify_other distinct stored (fun mine => apart (mine.symm.trans own))
      fun _ => rfl
  | deleted conv stored own =>
    have left (other : Uuid) (bare : KnowledgeTables.promotedOf other conv = []) :
        KnowledgeTables.inputs { t with
          conversations := Table.remove Conversation.id conv.id t.conversations } other =
          t.inputs other := by
      refine inputs_congr rfl ?_
      refine promotedMessages_remove ?_
      intro row inside same
      rw [List.inj_on_of_nodup_map distinct inside stored same]
      exact bare
    have apart (other : Uuid) (foreign : other ≠ clientId) :
        KnowledgeTables.promotedOf other conv = [] :=
      promotedOf_other fun mine => foreign (mine.symm.trans own)
    by_cases bare : KnowledgeTables.promotedOf clientId conv = []
    · refine .quiet rfl fun other => ?_
      by_cases mine : other = clientId
      · exact left other (mine ▸ bare)
      · exact left other (apart other mine)
    · refine .withdrawn clientId rfl (takesPromoted_of_mem distinct stored own own bare)
        ⟨conv, stored, own, bare, rfl⟩ fun other foreign => ?_
      exact left other (apart other foreign)

/-- The effect of a request. -/
theorem effect_of_step (consistent : t.Consistent) {request : KnowledgeRequest env}
    {after : KnowledgeTables} (step : RequestStep env tick t request after) :
    Effect env tick t request after := by
  cases step with
  | kept => exact .quiet rfl fun _ => rfl
  | opened _ untargeted record fresh =>
    exact .opened untargeted rfl record.id (inputs_none fresh) fun _ apart => inputs_opened apart
  | onboarded docId data record id fresh =>
    refine .asked record.id (congrArg some id.symm) ⟨.fullBuild, none, 0, rfl⟩ ?_
      fun _ apart => inputs_opened apart
    have found : Table.get ClientRecord.id (t.clients ++ [record]) record.id = some record := by
      rw [OnboardingTables.get, Table.get] at fresh
      rw [Table.get, List.find?_append, fresh, Option.none_or, List.find?_singleton,
        if_pos (decide_eq_true rfl)]
    exact Option.isSome_map.trans (Option.isSome_of_eq_some found)
  | client record write stored after step => exact effect_client stored step
  | inbox owner there write after step => exact effect_inbox consistent there step

/-- Deleting a conversation with promoted messages makes what is desired shorter. -/
theorem desired_withdrawn (kit : Intelligence.Toolkit) (reachable : String → Bool)
    {after : KnowledgeTables} (gone : Withdrawn clientId t after) {was now : ClientInputs}
    (there : t.inputs clientId = some was) (left : after.inputs clientId = some now) :
    Intelligence.desired kit reachable now ≠ Intelligence.desired kit reachable was := by
  obtain ⟨conv, stored, -, some, rfl⟩ := gone
  obtain ⟨record, found, rfl⟩ := Option.map_eq_some_iff.mp there
  obtain ⟨record', found', rfl⟩ := Option.map_eq_some_iff.mp left
  obtain rfl : record = record' := Option.some.inj (found.symm.trans found')
  intro same
  have lengths := congrArg List.length same
  simp only [Intelligence.desired, KnowledgeTables.inputsOf, List.length_append, List.length_map]
    at lengths
  have fewer : ((Table.remove Conversation.id conv.id t.conversations).flatMap
      (KnowledgeTables.promotedOf clientId)).length < (t.promotedMessages clientId).length := by
    obtain ⟨before, behind, split⟩ := List.append_of_mem stored
    have front := (List.filter_sublist (l := before)
      (p := fun row => decide (row.id ≠ conv.id))).flatMap (KnowledgeTables.promotedOf clientId)
    have back := (List.filter_sublist (l := behind)
      (p := fun row => decide (row.id ≠ conv.id))).flatMap (KnowledgeTables.promotedOf clientId)
    have positive := List.length_pos_iff.mpr some
    have frontLength := front.length_le
    have backLength := back.length_le
    simp only [KnowledgeTables.promotedMessages, Table.remove, split, List.filter_append,
      List.filter_cons, ne_eq, not_true_eq_false, decide_false, Bool.false_eq_true, ↓reduceIte,
      List.flatMap_append, List.flatMap_cons, List.length_append] at frontLength backLength ⊢
    omega
  have promoted : KnowledgeTables.promotedMessages { t with
      conversations := Table.remove Conversation.id conv.id t.conversations } clientId =
      (Table.remove Conversation.id conv.id t.conversations).flatMap
        (KnowledgeTables.promotedOf clientId) := rfl
  rw [← promoted] at fewer
  have groups : (Intelligence.fieldGroups (KnowledgeTables.inputsOf record
      (KnowledgeTables.promotedMessages { t with
        conversations := Table.remove Conversation.id conv.id t.conversations } clientId))).length =
      (Intelligence.fieldGroups (KnowledgeTables.inputsOf record
        (t.promotedMessages clientId))).length := rfl
  simp only [KnowledgeTables.inputsOf] at groups
  omega

/-- Fewer conversations meet the constraints. -/
theorem consistent_remove (consistent : t.Consistent) (key : Uuid) :
    KnowledgeTables.Consistent { t with
      conversations := Table.remove Conversation.id key t.conversations } := by
  obtain ⟨onboarding, texts, ids, messages, sources⟩ := consistent
  have fewer : (Table.remove Conversation.id key t.conversations).Sublist t.conversations :=
    List.filter_sublist
  exact ⟨onboarding, fun conv inside => texts conv (fewer.subset inside), (fewer.map _).nodup ids,
    ((fewer.flatMap _).map _).nodup messages, sources⟩

/-- Taking promoted messages away is committed. -/
theorem withdrawn_of_takes (consistent : t.Consistent) {lower : String → String}
    {request : KnowledgeRequest env} (takes : TakesPromoted t clientId request)
    (there : (t.inputs clientId).isSome = true) :
    Withdrawn clientId t (run tick lower t request).2 := by
  cases request with
  | createDraft data => exact takes.elim
  | createDraftMinimal name website => exact takes.elim
  | onboard docId data => exact takes.elim
  | client owner write => exact takes.elim
  | inbox owner write =>
    cases write with
    | createConversation messageId senderUserId data => exact takes.elim
    | addMessage conversationId senderUserId data => exact takes.elim
    | updateConversation conversationId data => exact takes.elim
    | updateMessage conversationId messageId data => exact takes.elim
    | addMessageToSource conversationId messageId => exact takes.elim
    | deleteConversation conversationId =>
      obtain ⟨rfl, conv, found, some⟩ := takes
      obtain ⟨stored, own, rfl⟩ := find_spec found
      obtain ⟨record, client⟩ := Option.isSome_iff_exists.mp (Option.isSome_map.symm.trans there)
      refine ⟨conv, stored, own, (promotedOf_ne_nil_iff own).mpr some, ?_⟩
      simp only [run, client, runInbox, deleteConversation, getConversation,
        Option.mem_def.mp found]
      rw [ConversationService.commit, if_pos (consistent_remove consistent conv.id)]

/-- For every request and every client that is there, with the pipeline on: what a build would read
of the client is as before or a build of it is queued, unless the request deletes a conversation of
the client with a promoted message and no build is queued already. -/
theorem scheduled_iff (kit : Intelligence.Toolkit) (reachable : String → Bool)
    (lower : String → String) (tick : Tick) (enabled : env.intelligenceEnabled = true)
    (consistent : t.Consistent) (there : (t.inputs clientId).isSome = true)
    (request : KnowledgeRequest env) :
    Scheduled kit reachable clientId t (run tick lower t request).2 ↔
      ¬(TakesPromoted t clientId request ∧ ¬t.BuildQueued clientId) := by
  obtain ⟨was, reads⟩ := Option.isSome_iff_exists.mp there
  constructor
  · rintro scheduled ⟨takes, idle⟩
    have gone : Withdrawn clientId t (run tick lower t request).2 :=
      withdrawn_of_takes consistent takes there
    obtain ⟨now, left, same | queued⟩ := scheduled was reads
    · exact desired_withdrawn kit reachable gone reads left same
    · obtain ⟨conv, -, -, -, after⟩ := gone
      rw [after] at queued
      exact idle queued
  · intro allowed was' reads'
    obtain rfl : was = was' := Option.some.inj (reads.symm.trans reads')
    have step : RequestStep env tick t request (run tick lower t request).2 :=
      requestStep_run request
    cases effect_of_step consistent step with
    | quiet jobs same => exact ⟨was, (same clientId).trans reads, .inl rfl⟩
    | opened untargeted jobs opened fresh same =>
      have apart : clientId ≠ opened := by
        rintro rfl
        rw [fresh] at reads
        cases reads
      exact ⟨was, (same clientId apart).trans reads, .inl rfl⟩
    | asked owner target asked read same =>
      by_cases mine : clientId = owner
      · subst mine
        obtain ⟨jobType, changedKeys, debounceSeconds, jobs⟩ := asked
        obtain ⟨now, left⟩ := Option.isSome_iff_exists.mp read
        refine ⟨now, left, .inr ?_⟩
        rw [KnowledgeTables.BuildQueued, jobs]
        exact queued_enqueue enabled
      · exact ⟨was, (same clientId mine).trans reads, .inl rfl⟩
    | withdrawn owner target takes gone same =>
      by_cases mine : clientId = owner
      · subst mine
        have queued : t.BuildQueued clientId := by
          by_contra idle
          exact allowed ⟨takes, idle⟩
        obtain ⟨conv, -, -, -, shape⟩ := gone
        rw [shape]
        obtain ⟨record, found, -⟩ := Option.map_eq_some_iff.mp reads
        exact ⟨_, congrArg (Option.map _) found, .inr queued⟩
      · exact ⟨was, (same clientId mine).trans reads, .inl rfl⟩

end Reading

/-- A client with one conversation, of which one message is promoted. -/
def sampleKnowledge : KnowledgeTables where
  clients := [bareRecord "acme" 1 (clientRow ⟨1, 2, 3, 4⟩ "Acme" none .active)]
  intelJobs := []
  conversations := [{
    id := 5
    clientId := 2
    subject := none
    source := .email
    isRead := true
    lastMessageAt := none
    messages := [⟨6, none, some "a@acme.com", .inbox, none, false, "No stock photos.", some 1,
      some 7, []⟩] }]
  sources := []

/-- Deleting the conversation leaves no build. -/
theorem sample_deletion_unscheduled :
    ¬Scheduled .plain (fun _ => true) 2 sampleKnowledge
      (run ⟨8, 9, 10, 11⟩ id sampleKnowledge
        (.inbox 2 (.deleteConversation 5) : KnowledgeRequest ⟨true, []⟩)).2 := by
  intro scheduled
  have takes : TakesPromoted sampleKnowledge 2
      (.inbox 2 (.deleteConversation 5) : KnowledgeRequest ⟨true, []⟩) :=
    ⟨rfl, _, rfl, _, List.mem_singleton_self _, rfl⟩
  have consistent : sampleKnowledge.Consistent := by decide
  exact (scheduled_iff .plain (fun _ => true) id ⟨8, 9, 10, 11⟩ rfl consistent rfl
    (.inbox 2 (.deleteConversation 5))).mp scheduled ⟨takes, by decide⟩

end MarketingOS.KnowledgeRequest
