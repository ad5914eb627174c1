import MarketingOS.Services.SupportTicket

/-!
# The tickets and uploads of some users

Some users are hidden. What the desk holds of the others is a part of it, which the requests of the
others read and write as if the rest were not there: rows of a hidden user answer as missing ones,
and the listings of anyone but an administrator are scoped to his own tickets. A request that finds
its row outside this part leaves it.
-/
namespace MarketingOS.SupportTicketService

open UploadService

/-- Whether a row belongs to no hidden user. -/
def visible (hidden : Uuid → Bool) (owner : Option Uuid) : Bool := owner.all fun id => !hidden id

/-- The desk without the rows of hidden users. -/
def without (hidden : Uuid → Bool) (desk : Desk) : Desk where
  tickets := desk.tickets.filter fun ticket => visible hidden ticket.createdBy
  uploads := desk.uploads.filter fun upload => visible hidden upload.uploadedBy

/-- No row of a hidden user is under an identifier or a number that a request draws. -/
def Untaken (hidden : Uuid → Bool) (desk : Desk) : Request → Prop
  | .create _ draw => ∀ ticket ∈ desk.tickets, visible hidden ticket.createdBy = false →
      ticket.id ≠ draw.ticketId ∧
      ∀ i < ticketNumberAttempts, ticket.ticketNumber ≠ generateTicketNumber (draw.candidate i)
  | .upload uploadId _ _ => ∀ upload ∈ desk.uploads, visible hidden upload.uploadedBy = false →
      upload.id ≠ uploadId
  | _ => True

/-- The uploads under these identifiers are of no hidden user. -/
def OwnUploads (hidden : Uuid → Bool) (desk : Desk) (ids : List Uuid) : Prop :=
  ∀ upload ∈ desk.uploads, upload.id ∈ ids → visible hidden upload.uploadedBy = true

/-- A request attaches no upload of a hidden user to a ticket of another. -/
def Unmixed (hidden : Uuid → Bool) (desk : Desk) : Request → Prop
  | .create data _ => OwnUploads hidden desk data.attachmentUploadIds.val
  | .update ticketId data _ => ∀ ticket ∈ desk.tickets, ticket.id = ticketId →
      visible hidden ticket.createdBy = true →
      ∀ ids ∈ data.attachmentUploadIds.read, OwnUploads hidden desk ids.val
  | _ => True

/-- The rows of a desk are keyed, and the attachments of a visible ticket are visible uploads. -/
structure Sound (hidden : Uuid → Bool) (desk : Desk) : Prop where
  tickets : (desk.tickets.map SupportTicket.id).Nodup
  uploads : (desk.uploads.map Upload.id).Nodup
  attached : ∀ ticket ∈ desk.tickets, visible hidden ticket.createdBy = true →
    ∀ attachment ∈ ticket.attachments, ∃ upload ∈ desk.uploads,
      upload.id = attachment.uploadId ∧ visible hidden upload.uploadedBy = true

variable {setting : Setting} {keys : DownloadLink.Keyring} {hidden : Uuid → Bool} {desk : Desk}
  {user : User}

/-! ## Looking up -/

/-- A row of a user who is not hidden is visible. -/
theorem visible_own (shown : hidden user.id = false) : visible hidden (some user.id) = true := by
  rw [visible, Option.all_some, shown]
  rfl

/-- A row that is not visible is of another user than one who is not hidden. -/
theorem ne_of_unseen {owner : Option Uuid} (shown : hidden user.id = false)
    (unseen : visible hidden owner = false) : owner ≠ some user.id := by
  rintro rfl
  rw [visible_own shown] at unseen
  cases unseen

/-- An upload that a user who is not hidden looks up among the visible ones. -/
theorem loadOwned_without (uploadId : Uuid) (sound : Sound hidden desk)
    (shown : hidden user.id = false)
    (own : user.role = .admin → ∀ upload ∈ desk.uploads, upload.id = uploadId →
      visible hidden upload.uploadedBy = true) :
    loadOwned (without hidden desk).uploads user uploadId =
      loadOwned desk.uploads user uploadId := by
  unfold loadOwned UploadService.get without
  rw [Table.get_filter sound.uploads]
  cases found : Table.get Upload.id desk.uploads uploadId with
  | none => rfl
  | some upload =>
    cases sees : visible hidden upload.uploadedBy with
    | true => simp only [Option.filter_some, sees, ↓reduceIte]
    | false =>
      have other := ne_of_unseen shown sees
      have plain : user.role ≠ .admin := by
        intro admin
        rw [own admin upload (Table.get_mem found) (Table.get_key found)] at sees
        cases sees
      simp [Option.filter_some, sees, plain, other]

/-- The upload a request is about. -/
theorem loadOwned_cases (uploads : List Upload) (user : User) (uploadId : Uuid) :
    (loadOwned uploads user uploadId = notFound "Upload not found.") ∨
      ∃ upload ∈ uploads, upload.id = uploadId ∧ loadOwned uploads user uploadId = .ok upload ∧
        (user.role ≠ .admin → upload.uploadedBy = some user.id) := by
  unfold loadOwned UploadService.get
  cases found : Table.get Upload.id uploads uploadId with
  | none => exact .inl rfl
  | some upload =>
    by_cases refused : user.role ≠ .admin ∧ upload.uploadedBy ≠ some user.id
    · exact .inl (if_pos refused)
    · refine .inr ⟨upload, Table.get_mem found, Table.get_key found, if_neg refused, ?_⟩
      intro plain
      by_contra other
      exact refused ⟨plain, other⟩

/-- An upload a user who is not hidden loads is visible, unless he is an administrator. -/
theorem visible_of_loadOwned {uploadId : Uuid} {upload : Upload} (shown : hidden user.id = false)
    (own : user.role = .admin → ∀ upload ∈ desk.uploads, upload.id = uploadId →
      visible hidden upload.uploadedBy = true)
    (loaded : loadOwned desk.uploads user uploadId = .ok upload) :
    upload ∈ desk.uploads ∧ upload.id = uploadId ∧ visible hidden upload.uploadedBy = true := by
  rcases loadOwned_cases desk.uploads user uploadId with missing | ⟨row, inside, named, found, mine⟩
  · rw [missing] at loaded
    cases loaded
  · obtain rfl : row = upload := Except.ok.inj (found.symm.trans loaded)
    refine ⟨inside, named, ?_⟩
    by_cases admin : user.role = .admin
    · exact own admin row inside named
    · rw [mine admin]
      exact visible_own shown

/-- A ticket that a user who is not hidden looks up among the visible ones. -/
theorem loadAccessible_without {ticketId : Uuid} (sound : Sound hidden desk)
    (shown : hidden user.id = false)
    (own : user.role = .admin → ∀ ticket ∈ desk.tickets, ticket.id = ticketId →
      visible hidden ticket.createdBy = true) :
    loadAccessible (without hidden desk) user ticketId = loadAccessible desk user ticketId := by
  unfold loadAccessible without
  rw [Table.get_filter sound.tickets]
  cases found : Table.get SupportTicket.id desk.tickets ticketId with
  | none => rfl
  | some ticket =>
    cases sees : visible hidden ticket.createdBy with
    | true => simp only [Option.filter_some, sees, ↓reduceIte]
    | false =>
      have other := ne_of_unseen shown sees
      have plain : user.role ≠ .admin := by
        intro admin
        rw [own admin ticket (Table.get_mem found) (Table.get_key found)] at sees
        cases sees
      simp [Option.filter_some, sees, plain, other]

/-- The ticket a request is about. -/
theorem loadAccessible_cases (desk : Desk) (user : User) (ticketId : Uuid) :
    (loadAccessible desk user ticketId = notFound "Support ticket not found.") ∨
      ∃ ticket ∈ desk.tickets, ticket.id = ticketId ∧
        loadAccessible desk user ticketId = .ok ticket ∧
        (user.role ≠ .admin → ticket.createdBy = some user.id) := by
  unfold loadAccessible
  cases found : Table.get SupportTicket.id desk.tickets ticketId with
  | none => exact .inl rfl
  | some ticket =>
    by_cases refused : user.role ≠ .admin ∧ ticket.createdBy ≠ some user.id
    · exact .inl (if_pos refused)
    · refine .inr ⟨ticket, Table.get_mem found, Table.get_key found, if_neg refused, ?_⟩
      intro plain
      by_contra other
      exact refused ⟨plain, other⟩

/-! ## Reading -/

/-- A visible ticket is read as it is among the visible rows. -/
theorem toRead_without (keys : DownloadLink.Keyring) {uploads : List Upload}
    (keyed : (uploads.map Upload.id).Nodup) {ticket : SupportTicket}
    (attached : ∀ attachment ∈ ticket.attachments, ∃ upload ∈ uploads,
      upload.id = attachment.uploadId ∧ visible hidden upload.uploadedBy = true) :
    toRead keys (uploads.filter fun upload => visible hidden upload.uploadedBy) ticket =
      toRead keys uploads ticket := by
  have each : ticket.attachments.mapM (attachmentRead keys
      (uploads.filter fun upload => visible hidden upload.uploadedBy)) =
      ticket.attachments.mapM (attachmentRead keys uploads) := by
    revert attached
    induction ticket.attachments with
    | nil => exact fun _ => rfl
    | cons attachment rest ih =>
      intro attached
      obtain ⟨upload, inside, same, sees⟩ := attached attachment List.mem_cons_self
      have found : Table.get Upload.id uploads attachment.uploadId = some upload :=
        same ▸ Table.get_of_mem keyed inside
      have first : attachmentRead keys
          (uploads.filter fun upload => visible hidden upload.uploadedBy) attachment =
          attachmentRead keys uploads attachment := by
        unfold attachmentRead UploadService.get
        rw [Table.get_filter keyed, found, Option.filter_some, if_pos sees]
      rw [List.mapM_cons, List.mapM_cons, first,
        ih fun other behind => attached other (List.mem_cons_of_mem _ behind)]
  unfold toRead
  rw [each]

/-- The attachments a user who is not hidden names. -/
theorem resolveAttachments_without (sound : Sound hidden desk) (shown : hidden user.id = false)
    {ids : List Uuid} (own : user.role = .admin → OwnUploads hidden desk ids)
    (drawn : Nat → Uuid) :
    resolveAttachments (without hidden desk).uploads user drawn ids =
      resolveAttachments desk.uploads user drawn ids := by
  induction ids generalizing drawn with
  | nil => rfl
  | cons uploadId rest ih =>
    have first := loadOwned_without uploadId sound shown fun admin upload inside same =>
      own admin upload inside (same ▸ List.mem_cons_self)
    have others := ih (fun admin upload inside named =>
      own admin upload inside (List.mem_cons_of_mem _ named)) fun i => drawn (i + 1)
    rw [resolveAttachments, resolveAttachments, first, others]

/-- The attachments a user who is not hidden names are visible uploads. -/
theorem resolveAttachments_visible (shown : hidden user.id = false) {ids : List Uuid}
    (own : user.role = .admin → OwnUploads hidden desk ids) {drawn : Nat → Uuid}
    {attachments : List SupportTicketAttachment}
    (resolved : resolveAttachments desk.uploads user drawn ids = .ok attachments) :
    ∀ attachment ∈ attachments, ∃ upload ∈ desk.uploads,
      upload.id = attachment.uploadId ∧ visible hidden upload.uploadedBy = true := by
  induction ids generalizing drawn attachments with
  | nil =>
    obtain rfl := Except.ok.inj resolved
    exact fun _ inside => by cases inside
  | cons uploadId rest ih =>
    simp only [resolveAttachments, Outcome.bind_ok, Outcome.pure_eq] at resolved
    obtain ⟨upload, loaded, others, resolved, made⟩ := resolved
    obtain rfl := Except.ok.inj made
    intro attachment inside
    rcases List.mem_cons.mp inside with rfl | behind
    · obtain ⟨member, same, sees⟩ := visible_of_loadOwned shown
        (fun admin upload inside same => own admin upload inside (same ▸ List.mem_cons_self)) loaded
      exact ⟨upload, member, same, sees⟩
    · exact ih (fun admin upload inside named =>
        own admin upload inside (List.mem_cons_of_mem _ named)) resolved attachment behind

/-- The listing of a user who is neither hidden nor an administrator. -/
theorem listTickets_without (shown : hidden user.id = false) (plain : user.role ≠ .admin)
    (query : TicketQuery) :
    listTickets setting (without hidden desk) user query = listTickets setting desk user query := by
  have rows : (without hidden desk).tickets.filter (matchesQuery setting (some user.id) query) =
      desk.tickets.filter (matchesQuery setting (some user.id) query) := by
    rw [without, List.filter_filter]
    refine List.filter_congr fun ticket _ => ?_
    by_cases mine : ticket.createdBy = some user.id
    · rw [mine, visible_own shown, Bool.and_true]
    · have out : matchesQuery setting (some user.id) query ticket = false := by
        simp [matchesQuery, mine]
      rw [out, Bool.false_and]
  unfold listTickets
  dsimp only
  rw [if_neg plain, rows]

/-- A number that no hidden ticket has is found as it is among the visible ones. -/
theorem uniqueTicketNumber_without {candidate : Nat → Uuid}
    (untaken : ∀ ticket ∈ desk.tickets, visible hidden ticket.createdBy = false →
      ∀ i < ticketNumberAttempts, ticket.ticketNumber ≠ generateTicketNumber (candidate i)) :
    uniqueTicketNumber (without hidden desk).tickets candidate =
      uniqueTicketNumber desk.tickets candidate := by
  have each : ∀ number ∈ (List.range ticketNumberAttempts).map
      (fun i => generateTicketNumber (candidate i)),
      Table.has SupportTicket.ticketNumber (without hidden desk).tickets number =
        Table.has SupportTicket.ticketNumber desk.tickets number := by
    intro number inside
    obtain ⟨i, bound, rfl⟩ := List.mem_map.mp inside
    exact Table.has_filter fun ticket member unseen =>
      untaken ticket member unseen i (List.mem_range.mp bound)
  unfold uniqueTicketNumber
  dsimp only
  rw [← List.head?_filter, ← List.head?_filter,
    List.filter_congr fun number inside => by rw [each number inside]]

/-- A ticket read by a user who is neither hidden nor an administrator. -/
theorem getTicket_without {ticketId : Uuid} (sound : Sound hidden desk)
    (shown : hidden user.id = false) (plain : user.role ≠ .admin) :
    getTicket keys (without hidden desk) user ticketId = getTicket keys desk user ticketId := by
  unfold getTicket
  rw [loadAccessible_without sound shown fun admin => absurd admin plain]
  rcases loadAccessible_cases desk user ticketId with
    missing | ⟨ticket, inside, -, found, mine⟩
  · rw [missing]
    rfl
  · have sees : visible hidden ticket.createdBy = true := mine plain ▸ visible_own shown
    rw [found]
    exact toRead_without keys sound.uploads (sound.attached ticket inside sees)

/-! ## Rows that are not visible -/

/-- No visible ticket is under the identifier of one that is not. -/
theorem unseen_of_id {ticket : SupportTicket} (sound : Sound hidden desk)
    (inside : ticket ∈ desk.tickets) (unseen : visible hidden ticket.createdBy = false) :
    ∀ row ∈ desk.tickets, row.id = ticket.id → visible hidden row.createdBy = false := by
  intro row member same
  rw [List.inj_on_of_nodup_map sound.tickets member inside same]
  exact unseen

/-- No visible upload is under the identifier of one that is not. -/
theorem unseen_of_uploadId {upload : Upload} (sound : Sound hidden desk)
    (inside : upload ∈ desk.uploads) (unseen : visible hidden upload.uploadedBy = false) :
    ∀ row ∈ desk.uploads, row.id = upload.id → visible hidden row.uploadedBy = false := by
  intro row member same
  rw [List.inj_on_of_nodup_map sound.uploads member inside same]
  exact unseen

/-- An update keeps the owner of a ticket. -/
@[simp] theorem createdBy_applyUpdate (data : SupportTicketUpdate) (draw : TicketDraw)
    (attachments : Option (List SupportTicketAttachment)) (ticket : SupportTicket) :
    (applyUpdate user data draw attachments ticket).createdBy = ticket.createdBy := by
  unfold applyUpdate SupportTicket.touch
  split <;> rfl

/-- An update keeps the identifier of a ticket. -/
@[simp] theorem id_applyUpdate (data : SupportTicketUpdate) (draw : TicketDraw)
    (attachments : Option (List SupportTicketAttachment)) (ticket : SupportTicket) :
    (applyUpdate user data draw attachments ticket).id = ticket.id := by
  unfold applyUpdate SupportTicket.touch
  split <;> rfl

/-- The attachments after an update. -/
@[simp] theorem attachments_applyUpdate (data : SupportTicketUpdate) (draw : TicketDraw)
    (attachments : Option (List SupportTicketAttachment)) (ticket : SupportTicket) :
    (applyUpdate user data draw attachments ticket).attachments =
      attachments.getD ticket.attachments := by
  unfold applyUpdate SupportTicket.touch
  split <;> rfl

/-- The file of a user is his. -/
theorem uploadedBy_storeBytes {settings : Settings} {uploadId : Uuid} {file : Incoming}
    {now : Timestamp} {upload : Upload}
    (stored : storeBytes settings user uploadId file now = .ok upload) :
    upload.id = uploadId ∧ upload.uploadedBy = some user.id := by
  unfold storeBytes at stored
  cases checked : validate settings file.filename file.contentType file.sizeBytes with
  | error refusal =>
    rw [checked] at stored
    cases stored
  | ok _ =>
    rw [checked] at stored
    obtain rfl := Except.ok.inj stored
    exact ⟨rfl, rfl⟩

/-- Detaching an upload that is not visible changes no visible ticket. -/
theorem map_detach {upload : Upload} (sound : Sound hidden desk) (inside : upload ∈ desk.uploads)
    (unseen : visible hidden upload.uploadedBy = false) :
    (without hidden desk).tickets.map (detach upload.id) = (without hidden desk).tickets := by
  refine (List.map_congr_left fun ticket member => ?_).trans (List.map_id _)
  obtain ⟨stored, sees⟩ := List.mem_filter.mp member
  have all : ticket.attachments.filter (fun a => a.uploadId ≠ upload.id) = ticket.attachments := by
    refine List.filter_eq_self.mpr fun attachment named => decide_eq_true fun same => ?_
    obtain ⟨other, member, key, shown⟩ := sound.attached ticket stored sees attachment named
    rw [unseen_of_uploadId sound inside unseen other member (key.trans same)] at shown
    cases shown
  unfold detach
  rw [all]
  rfl

/-! ## Requests of the others -/

/-- A request that is served among the visible rows as on the whole desk. -/
theorem create_follows (keys : DownloadLink.Keyring) (sound : Sound hidden desk)
    (shown : hidden user.id = false) {data : SupportTicketCreate} {draw : TicketDraw}
    (untaken : Untaken hidden desk (.create data draw))
    (unmixed : user.role = .admin → Unmixed hidden desk (.create data draw)) :
    createTicket keys (without hidden desk) user data draw =
      Prod.map id (without hidden) (createTicket keys desk user data draw) := by
  have taken : Table.has SupportTicket.id (without hidden desk).tickets draw.ticketId =
      Table.has SupportTicket.id desk.tickets draw.ticketId :=
    Table.has_filter fun ticket member unseen => (untaken ticket member unseen).1
  have storing : storable (without hidden desk) data draw = storable desk data draw := by
    unfold storable
    rw [taken]
  unfold createTicket
  rw [resolveAttachments_without sound shown unmixed,
    uniqueTicketNumber_without fun ticket member sees => (untaken ticket member sees).2, storing]
  cases resolved : resolveAttachments desk.uploads user draw.attachmentId
      data.attachmentUploadIds.val with
  | error exc => rfl
  | ok attachments =>
    cases uniqueTicketNumber desk.tickets draw.candidate with
    | error exc => rfl
    | ok number =>
      dsimp only
      split
      · have attached : ∀ attachment ∈ (newTicket user data draw number attachments).attachments,
            ∃ upload ∈ desk.uploads, upload.id = attachment.uploadId ∧
              visible hidden upload.uploadedBy = true :=
          resolveAttachments_visible shown unmixed resolved
        have read := toRead_without keys sound.uploads attached
        have sees : visible hidden (newTicket user data draw number attachments).createdBy = true :=
          visible_own shown
        have kept : (desk.tickets ++ [newTicket user data draw number attachments]).filter
            (fun ticket => visible hidden ticket.createdBy) = _ := Table.filter_concat_selected sees
        exact Prod.ext read (Desk.ext kept.symm rfl)
      · rfl

/-- The attachments an update of a user who is not hidden sends. -/
theorem sentAttachments_without (sound : Sound hidden desk) (shown : hidden user.id = false)
    {data : SupportTicketUpdate} {draw : TicketDraw}
    (own : user.role = .admin → ∀ ids, data.attachmentUploadIds.read = some ids →
      OwnUploads hidden desk ids.val) :
    sentAttachments (without hidden desk).uploads user data draw =
      sentAttachments desk.uploads user data draw := by
  unfold sentAttachments
  cases sent : data.attachmentUploadIds.read with
  | none => rfl
  | some ids =>
    dsimp only
    rw [resolveAttachments_without sound shown fun admin => own admin ids sent]

/-- A ticket's attachments after an update of a user who is not hidden are visible uploads. -/
theorem attached_applyUpdate (shown : hidden user.id = false)
    {data : SupportTicketUpdate} {draw : TicketDraw}
    (own : user.role = .admin → ∀ ids, data.attachmentUploadIds.read = some ids →
      OwnUploads hidden desk ids.val)
    {attachments : Option (List SupportTicketAttachment)}
    (sent : sentAttachments desk.uploads user data draw = .ok attachments) {ticket : SupportTicket}
    (attached : ∀ attachment ∈ ticket.attachments, ∃ upload ∈ desk.uploads,
      upload.id = attachment.uploadId ∧ visible hidden upload.uploadedBy = true) :
    ∀ attachment ∈ (applyUpdate user data draw attachments ticket).attachments,
      ∃ upload ∈ desk.uploads,
        upload.id = attachment.uploadId ∧ visible hidden upload.uploadedBy = true := by
  rw [attachments_applyUpdate]
  unfold sentAttachments at sent
  split at sent
  · obtain rfl := Except.ok.inj sent
    exact attached
  · next ids given =>
    obtain ⟨resolved, done, rfl⟩ := Outcome.of_map_ok sent
    exact resolveAttachments_visible shown (fun admin => own admin ids given) done

/-- An update of a visible ticket, or one that finds none. -/
theorem update_follows (keys : DownloadLink.Keyring) (sound : Sound hidden desk)
    (shown : hidden user.id = false) {ticketId : Uuid} {data : SupportTicketUpdate}
    {draw : TicketDraw}
    (unmixed : user.role = .admin → Unmixed hidden desk (.update ticketId data draw))
    (target : user.role = .admin → ∀ ticket ∈ desk.tickets, ticket.id = ticketId →
      visible hidden ticket.createdBy = true) :
    updateTicket keys (without hidden desk) user ticketId data draw =
      Prod.map id (without hidden) (updateTicket keys desk user ticketId data draw) := by
  unfold updateTicket
  rw [loadAccessible_without sound shown target]
  rcases loadAccessible_cases desk user ticketId with
    missing | ⟨ticket, inside, named, found, mine⟩
  · rw [missing]
    rfl
  · have sees : visible hidden ticket.createdBy = true := by
      by_cases admin : user.role = .admin
      · exact target admin ticket inside named
      · rw [mine admin]
        exact visible_own shown
    have own : user.role = .admin → ∀ ids, data.attachmentUploadIds.read = some ids →
        OwnUploads hidden desk ids.val := fun admin => unmixed admin ticket inside named sees
    rw [found, sentAttachments_without sound shown own]
    dsimp only
    split
    · rfl
    · cases sent : sentAttachments desk.uploads user data draw with
      | error exc => rfl
      | ok attachments =>
        dsimp only
        split
        · have read := toRead_without keys sound.uploads
            (attached_applyUpdate shown own sent (sound.attached ticket inside sees))
          refine Prod.ext read ?_
          show Desk.mk _ _ = Desk.mk _ _
          rw [Table.filter_modify_of_keeps fun row => by rw [createdBy_applyUpdate]]
          rfl
        · rfl

/-- A deletion of a visible ticket, or one that finds none. -/
theorem delete_follows (sound : Sound hidden desk) (shown : hidden user.id = false)
    {ticketId : Uuid}
    (target : user.role = .admin → ∀ ticket ∈ desk.tickets, ticket.id = ticketId →
      visible hidden ticket.createdBy = true) :
    deleteTicket (without hidden desk) user ticketId =
      Prod.map id (without hidden) (deleteTicket desk user ticketId) := by
  unfold deleteTicket
  rw [loadAccessible_without sound shown target]
  cases loadAccessible desk user ticketId with
  | error exc => rfl
  | ok ticket =>
    dsimp only
    split
    · rfl
    · refine Prod.ext rfl ?_
      show Desk.mk _ _ = Desk.mk _ _
      rw [Table.filter_remove_comm]
      rfl

/-- A file a user who is not hidden sends. -/
theorem upload_follows (setting : Setting) (shown : hidden user.id = false) {uploadId : Uuid}
    {file : Incoming} {now : Timestamp}
    (untaken : Untaken hidden desk (.upload uploadId file now)) :
    storeUpload setting (without hidden desk) user uploadId file now =
      Prod.map id (without hidden) (storeUpload setting desk user uploadId file now) := by
  have taken : Table.has Upload.id (without hidden desk).uploads uploadId =
      Table.has Upload.id desk.uploads uploadId := Table.has_filter untaken
  unfold storeUpload
  cases stored : storeBytes setting.storage user uploadId file now with
  | error refusal => rfl
  | ok upload =>
    dsimp only
    rw [taken]
    split
    · rfl
    · have sees : visible hidden upload.uploadedBy = true := by
        rw [(uploadedBy_storeBytes stored).2]
        exact visible_own shown
      have kept : (desk.uploads ++ [upload]).filter
          (fun upload => visible hidden upload.uploadedBy) = _ := Table.filter_concat_selected sees
      exact Prod.ext rfl (Desk.ext rfl kept.symm)

/-- A new link to a visible upload, or to none. -/
theorem regenerate_follows (keys : DownloadLink.Keyring) (sound : Sound hidden desk)
    (shown : hidden user.id = false) {uploadId : Uuid}
    (target : user.role = .admin → ∀ upload ∈ desk.uploads, upload.id = uploadId →
      visible hidden upload.uploadedBy = true) :
    regenerateUpload keys (without hidden desk) user uploadId =
      Prod.map id (without hidden) (regenerateUpload keys desk user uploadId) := by
  unfold regenerateUpload
  rw [loadOwned_without uploadId sound shown target]
  cases loadOwned desk.uploads user uploadId with
  | error exc => rfl
  | ok upload =>
    refine Prod.ext rfl ?_
    show Desk.mk _ _ = Desk.mk _ _
    have kept : (Table.modify Upload.id uploadId bumped desk.uploads).filter
        (fun upload => visible hidden upload.uploadedBy) =
        Table.modify Upload.id uploadId bumped (without hidden desk).uploads :=
      Table.filter_modify_of_keeps fun _ => rfl
    rw [kept]
    rfl

/-- The visible rows after the upload of some attachments is deleted. -/
theorem without_deleted (uploadId : Uuid) :
    without hidden
        ⟨desk.tickets.map (detach uploadId), Table.remove Upload.id uploadId desk.uploads⟩ =
      ⟨(without hidden desk).tickets.map (detach uploadId),
        Table.remove Upload.id uploadId (without hidden desk).uploads⟩ := by
  show Desk.mk _ _ = Desk.mk _ _
  rw [List.filter_map, Table.filter_remove_comm]
  rfl

/-- A deletion of a visible upload, or one that finds none. -/
theorem deleteUpload_follows (sound : Sound hidden desk) (shown : hidden user.id = false)
    {uploadId : Uuid}
    (target : user.role = .admin → ∀ upload ∈ desk.uploads, upload.id = uploadId →
      visible hidden upload.uploadedBy = true) :
    deleteUpload (without hidden desk) user uploadId =
      Prod.map id (without hidden) (deleteUpload desk user uploadId) := by
  unfold deleteUpload
  rw [loadOwned_without uploadId sound shown target]
  cases loadOwned desk.uploads user uploadId with
  | error exc => rfl
  | ok upload => exact Prod.ext rfl (without_deleted uploadId).symm

/-! ## Requests that reach no visible row -/

/-- A lookup of a ticket among the visible rows finds none when the rows under its identifier are
not visible. -/
theorem loadAccessible_unseen {ticketId : Uuid}
    (target : ∀ ticket ∈ desk.tickets, ticket.id = ticketId →
      visible hidden ticket.createdBy = false) :
    loadAccessible (without hidden desk) user ticketId =
      notFound "Support ticket not found." := by
  rcases loadAccessible_cases (without hidden desk) user ticketId
    with missing | ⟨ticket, inside, named, -, -⟩
  · exact missing
  · obtain ⟨member, sees⟩ := List.mem_filter.mp inside
    rw [target ticket member named] at sees
    cases sees

/-- A lookup of an upload among the visible rows finds none when the rows under its identifier are
not visible. -/
theorem loadOwned_unseen {uploadId : Uuid}
    (target : ∀ upload ∈ desk.uploads, upload.id = uploadId →
      visible hidden upload.uploadedBy = false) :
    loadOwned (without hidden desk).uploads user uploadId = notFound "Upload not found." := by
  unfold loadOwned
  cases found : UploadService.get (without hidden desk).uploads uploadId with
  | none => rfl
  | some upload =>
    obtain ⟨member, sees⟩ := List.mem_filter.mp (Table.get_mem found)
    rw [target upload member (Table.get_key found)] at sees
    cases sees

/-- A request of a hidden user files a ticket that is not visible. -/
theorem create_unseen (concealed : hidden user.id = true) (data : SupportTicketCreate)
    (draw : TicketDraw) :
    without hidden (createTicket keys desk user data draw).2 = without hidden desk := by
  unfold createTicket
  split
  · rfl
  · next attachments _ =>
    split
    · rfl
    · next number _ =>
      split
      · have sees : visible hidden (some user.id) = false := by
          rw [visible, Option.all_some, concealed]
          rfl
        exact Desk.ext (Table.filter_concat sees) rfl
      · rfl

/-- An update among the visible rows of a ticket that is not visible. -/
theorem update_missing {ticketId : Uuid} {data : SupportTicketUpdate} {draw : TicketDraw}
    (target : ∀ ticket ∈ desk.tickets, ticket.id = ticketId →
      visible hidden ticket.createdBy = false) :
    (updateTicket keys (without hidden desk) user ticketId data draw).2 = without hidden desk := by
  unfold updateTicket
  rw [loadAccessible_unseen target]
  rfl

/-- A deletion among the visible rows of a ticket that is not visible. -/
theorem delete_missing {ticketId : Uuid} (target : ∀ ticket ∈ desk.tickets,
      ticket.id = ticketId → visible hidden ticket.createdBy = false) :
    (deleteTicket (without hidden desk) user ticketId).2 = without hidden desk := by
  unfold deleteTicket
  rw [loadAccessible_unseen target]
  rfl

/-- A new link among the visible rows to an upload that is not visible. -/
theorem regenerate_missing {uploadId : Uuid} (target : ∀ upload ∈ desk.uploads,
      upload.id = uploadId → visible hidden upload.uploadedBy = false) :
    (regenerateUpload keys (without hidden desk) user uploadId).2 = without hidden desk := by
  unfold regenerateUpload
  rw [loadOwned_unseen target]
  rfl

/-- A deletion among the visible rows of an upload that is not visible. -/
theorem deleteUpload_missing {uploadId : Uuid} (target : ∀ upload ∈ desk.uploads,
      upload.id = uploadId → visible hidden upload.uploadedBy = false) :
    (deleteUpload (without hidden desk) user uploadId).2 = without hidden desk := by
  unfold deleteUpload
  rw [loadOwned_unseen target]
  rfl

/-- An update of a ticket that is not visible. -/
theorem update_unseen {ticketId : Uuid} (target : ∀ ticket ∈ desk.tickets, ticket.id = ticketId →
      visible hidden ticket.createdBy = false) (data : SupportTicketUpdate) (draw : TicketDraw) :
    without hidden (updateTicket keys desk user ticketId data draw).2 = without hidden desk := by
  unfold updateTicket
  split
  · rfl
  · split
    · rfl
    · split
      · rfl
      · dsimp only
        split
        · refine Desk.ext (Table.filter_modify fun ticket inside named => ?_) rfl
          exact ⟨target ticket inside named, by
            rw [createdBy_applyUpdate, target ticket inside named]⟩
        · rfl

/-- A deletion of a ticket that is not visible. -/
theorem delete_unseen {ticketId : Uuid} (target : ∀ ticket ∈ desk.tickets, ticket.id = ticketId →
      visible hidden ticket.createdBy = false) :
    without hidden (deleteTicket desk user ticketId).2 = without hidden desk := by
  unfold deleteTicket
  split
  · rfl
  · split
    · rfl
    · exact Desk.ext (Table.filter_remove target) rfl

/-- A file of a hidden user. -/
theorem upload_unseen (concealed : hidden user.id = true) (uploadId : Uuid) (file : Incoming)
    (now : Timestamp) :
    without hidden (storeUpload setting desk user uploadId file now).2 = without hidden desk := by
  unfold storeUpload
  split
  · rfl
  · next upload stored =>
    split
    · rfl
    · have sees : visible hidden upload.uploadedBy = false := by
        rw [(uploadedBy_storeBytes stored).2, visible, Option.all_some, concealed]
        rfl
      exact Desk.ext rfl (Table.filter_concat sees)

/-- A new link to an upload that is not visible. -/
theorem regenerate_unseen {uploadId : Uuid} (target : ∀ upload ∈ desk.uploads,
      upload.id = uploadId → visible hidden upload.uploadedBy = false) :
    without hidden (regenerateUpload keys desk user uploadId).2 = without hidden desk := by
  unfold regenerateUpload
  split
  · rfl
  · refine Desk.ext rfl (Table.filter_modify fun upload inside named => ?_)
    exact ⟨target upload inside named, target upload inside named⟩

/-- A deletion of an upload that is not visible. -/
theorem deleteUpload_unseen {uploadId : Uuid} (sound : Sound hidden desk)
    (target : ∀ upload ∈ desk.uploads, upload.id = uploadId →
      visible hidden upload.uploadedBy = false) :
    without hidden (deleteUpload desk user uploadId).2 = without hidden desk := by
  unfold deleteUpload
  split
  · rfl
  · next upload loaded =>
    rcases loadOwned_cases desk.uploads user uploadId with missing | ⟨row, inside, named, -, -⟩
    · rw [missing] at loaded
      cases loaded
    · rw [without_deleted, ← named, map_detach sound inside (target row inside named), named]
      exact Desk.ext rfl (Table.filter_remove_comm.symm.trans (Table.filter_remove target))

end MarketingOS.SupportTicketService
