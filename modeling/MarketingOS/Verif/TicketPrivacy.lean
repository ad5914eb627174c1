import MarketingOS.Base.Noninterference
import MarketingOS.Verif.VisibleTickets

/-!
# Tickets and uploads of others are not noticed

The requests of hidden users can be left out of a run: the others are answered the same. A number or
an identifier that is taken by a row of a hidden user can be noticed, and an administrator reaches
every row; the runs keep clear of both.
-/
namespace MarketingOS.SupportTicketService

open UploadService

/-- A step that keeps clear of the ways in which a hidden user can be noticed: no hidden user is an
administrator, another's request draws nothing that a hidden row has, and an administrator mixes no
rows. -/
def Discreet (hidden : Uuid → Bool) (desk : Desk) (label : User × Request) : Prop :=
  (hidden label.1.id = true → label.1.role ≠ .admin) ∧
    (hidden label.1.id = false → Untaken hidden desk label.2 ∧
      (label.1.role = .admin → Unmixed hidden desk label.2))

instance (hidden : Uuid → Bool) (desk : Desk) (ids : List Uuid) :
    Decidable (OwnUploads hidden desk ids) :=
  decidable_of_iff ((desk.uploads.all fun upload =>
    !ids.contains upload.id || visible hidden upload.uploadedBy) = true) (by
      simp only [OwnUploads, List.all_eq_true, Bool.or_eq_true, Bool.not_eq_true',
        ← Bool.not_eq_true, List.contains_iff_mem, imp_iff_not_or])

instance (hidden : Uuid → Bool) (desk : Desk) (request : Request) :
    Decidable (Untaken hidden desk request) := by
  unfold Untaken
  cases request <;> infer_instance

instance (hidden : Uuid → Bool) (desk : Desk) (request : Request) :
    Decidable (Unmixed hidden desk request) := by
  unfold Unmixed
  cases request <;> infer_instance

instance (hidden : Uuid → Bool) (desk : Desk) (label : User × Request) :
    Decidable (Discreet hidden desk label) := by
  unfold Discreet
  infer_instance

/-- What is answered to a user who is neither hidden nor an administrator. -/
def seen (setting : Setting) (hidden : Uuid → Bool) (desk : Desk) (label : User × Request) :
    List (Uuid × Response) :=
  if hidden label.1.id = false ∧ label.1.role ≠ .admin then
    [(label.1.id, (serve setting desk label.1 label.2).1)]
  else []

variable {setting : Setting} {keys : DownloadLink.Keyring} {hidden : Uuid → Bool} {desk : Desk}
  {user : User}

/-! ## One step -/

/-- The row under an identifier is visible, or none is. -/
theorem target_cases {α : Type} {rows : List α} {key : α → Uuid} (owner : α → Option Uuid)
    (distinct : (rows.map key).Nodup) (hidden : Uuid → Bool) (k : Uuid) :
    (∀ row ∈ rows, key row = k → visible hidden (owner row) = true) ∨
      ∀ row ∈ rows, key row = k → visible hidden (owner row) = false := by
  by_cases all : ∀ row ∈ rows, key row = k → visible hidden (owner row) = true
  · exact .inl all
  · push Not at all
    obtain ⟨row, inside, same, unseen⟩ := all
    refine .inr fun other member named => ?_
    rw [List.inj_on_of_nodup_map distinct member inside (named.trans same.symm)]
    exact Bool.eq_false_iff.mpr unseen

/-- Answering for a result that is the same among the visible rows. -/
theorem answered {α : Type} {result result' : α × Desk} (answer : α → Response)
    (same : result' = Prod.map id (without hidden) result) :
    (Prod.map answer id result').2 = without hidden (Prod.map answer id result).2 ∧
      (Prod.map answer id result').1 = (Prod.map answer id result).1 := by
  rw [same]
  exact ⟨rfl, rfl⟩

/-- A request of a user who is not hidden is served among the visible rows: they become what they
become on the whole desk, and the response is the same unless he is an administrator. -/
theorem serve_follows (setting : Setting) (sound : Sound hidden desk)
    (shown : hidden user.id = false) {request : Request} (untaken : Untaken hidden desk request)
    (unmixed : user.role = .admin → Unmixed hidden desk request) :
    (serve setting (without hidden desk) user request).2 =
        without hidden (serve setting desk user request).2 ∧
      (user.role ≠ .admin → (serve setting (without hidden desk) user request).1 =
        (serve setting desk user request).1) := by
  have plainly {target : Prop} (plain : user.role ≠ .admin) (admin : user.role = .admin) : target :=
    absurd admin plain
  cases request with
  | create data draw =>
    obtain ⟨desks, answers⟩ := answered (respond .ticket)
      (create_follows setting.keys sound shown untaken unmixed)
    exact ⟨desks, fun _ => answers⟩
  | list query =>
    exact ⟨rfl, fun plain => congrArg (respond .page) (listTickets_without shown plain query)⟩
  | get ticketId =>
    exact ⟨rfl, fun plain => congrArg (respond .ticket) (getTicket_without sound shown plain)⟩
  | update ticketId data draw =>
    rcases target_cases SupportTicket.createdBy sound.tickets hidden ticketId with
      target | target
    · obtain ⟨desks, answers⟩ := answered (respond .ticket)
        (update_follows setting.keys sound shown unmixed fun _ => target)
      exact ⟨desks, fun _ => answers⟩
    · refine ⟨(update_missing target).trans (update_unseen target data draw).symm, fun plain => ?_⟩
      exact (answered (respond .ticket)
        (update_follows setting.keys sound shown unmixed fun admin => plainly plain admin)).2
  | delete ticketId =>
    rcases target_cases SupportTicket.createdBy sound.tickets hidden ticketId with
      target | target
    · obtain ⟨desks, answers⟩ := answered (respond fun _ => .deleted)
        (delete_follows sound shown fun _ => target)
      exact ⟨desks, fun _ => answers⟩
    · refine ⟨(delete_missing target).trans (delete_unseen target).symm, fun plain => ?_⟩
      exact (answered (respond fun _ => .deleted)
        (delete_follows sound shown fun admin => plainly plain admin)).2
  | upload uploadId file now =>
    obtain ⟨desks, answers⟩ := answered (fun read => read.map .upload)
      (upload_follows setting shown untaken)
    exact ⟨desks, fun _ => answers⟩
  | getUpload uploadId =>
    refine ⟨rfl, fun plain => ?_⟩
    have loaded := loadOwned_without uploadId sound shown fun admin => plainly plain admin
    show respond _ (Except.map _ _) = respond _ (Except.map _ _)
    rw [loaded]
  | regenerate uploadId =>
    rcases target_cases Upload.uploadedBy sound.uploads hidden uploadId with
      target | target
    · obtain ⟨desks, answers⟩ := answered (respond .upload)
        (regenerate_follows setting.keys sound shown fun _ => target)
      exact ⟨desks, fun _ => answers⟩
    · refine ⟨(regenerate_missing target).trans (regenerate_unseen target).symm, fun plain => ?_⟩
      exact (answered (respond .upload)
        (regenerate_follows setting.keys sound shown fun admin => plainly plain admin)).2
  | deleteUpload uploadId =>
    rcases target_cases Upload.uploadedBy sound.uploads hidden uploadId with
      target | target
    · obtain ⟨desks, answers⟩ := answered (respond fun _ => .deleted)
        (deleteUpload_follows sound shown fun _ => target)
      exact ⟨desks, fun _ => answers⟩
    · refine ⟨(deleteUpload_missing target).trans (deleteUpload_unseen sound target).symm,
        fun plain => ?_⟩
      exact (answered (respond fun _ => .deleted)
        (deleteUpload_follows sound shown fun admin => plainly plain admin)).2

/-! ## Soundness -/

/-- A new row keeps the identifiers apart when its own is free. -/
theorem nodup_concat {α κ : Type} [DecidableEq κ] {rows : List α} {key : α → κ} {row : α}
    (distinct : (rows.map key).Nodup) (free : Table.has key rows (key row) = false) :
    ((rows ++ [row]).map key).Nodup := by
  rw [List.map_append, List.map_singleton]
  refine List.nodup_append.mpr ⟨distinct, List.nodup_singleton _, ?_⟩
  intro k inside other single same
  obtain ⟨old, member, named⟩ := List.mem_map.mp inside
  have taken : Table.has key rows (key row) = true :=
    List.any_eq_true.mpr ⟨old, member, decide_eq_true
      (named.trans (same.trans (List.mem_singleton.mp single)))⟩
  rw [free] at taken
  cases taken

/-- What is stored is free. -/
theorem free_of_storable {data : SupportTicketCreate} {draw : TicketDraw}
    (stored : storable desk data draw = true) :
    Table.has SupportTicket.id desk.tickets draw.ticketId = false := by
  simp only [storable, Bool.and_eq_true, Bool.not_eq_true'] at stored
  exact stored.1.1

/-- Filing a ticket keeps a desk sound. -/
theorem create_sound (sound : Sound hidden desk) {data : SupportTicketCreate} {draw : TicketDraw}
    (unmixed : hidden user.id = false → user.role = .admin →
      Unmixed hidden desk (.create data draw)) :
    Sound hidden (createTicket keys desk user data draw).2 := by
  unfold createTicket
  split
  · exact sound
  · next attachments resolved =>
    split
    · exact sound
    · next number _ =>
      split
      · next stored =>
        refine ⟨nodup_concat sound.tickets (free_of_storable stored), sound.uploads, ?_⟩
        intro ticket inside sees
        rcases List.mem_append.mp inside with old | new
        · exact sound.attached ticket old sees
        · obtain rfl := List.mem_singleton.mp new
          cases shown : hidden user.id with
          | false => exact resolveAttachments_visible shown (unmixed shown) resolved
          | true =>
            rw [newTicket, visible, Option.all_some, shown] at sees
            cases sees
      · exact sound

/-- An update keeps a desk sound. -/
theorem update_sound (sound : Sound hidden desk) {ticketId : Uuid} {data : SupportTicketUpdate}
    {draw : TicketDraw} (plain : hidden user.id = true → user.role ≠ .admin)
    (unmixed : hidden user.id = false → user.role = .admin →
      Unmixed hidden desk (.update ticketId data draw)) :
    Sound hidden (updateTicket keys desk user ticketId data draw).2 := by
  unfold updateTicket
  rcases loadAccessible_cases desk user ticketId with missing | ⟨ticket, inside, named, found, mine⟩
  · rw [missing]
    exact sound
  · rw [found]
    dsimp only
    split
    · exact sound
    · cases sent : sentAttachments desk.uploads user data draw with
      | error exc => exact sound
      | ok attachments =>
        dsimp only
        split
        · refine ⟨?_, sound.uploads, ?_⟩
          · rw [Table.map_modify _ SupportTicket.id fun row _ => id_applyUpdate ..]
            exact sound.tickets
          · intro row member sees
            rcases Table.mem_modify.mp member with ⟨old, -⟩ | ⟨old, stored, same, rfl⟩
            · exact sound.attached row old sees
            · obtain rfl := List.inj_on_of_nodup_map sound.tickets stored inside
                (same.trans named.symm)
              rw [createdBy_applyUpdate] at sees
              cases shown : hidden user.id with
              | false =>
                exact attached_applyUpdate shown
                  (fun admin => unmixed shown admin old inside named sees) sent
                  (sound.attached old inside sees)
              | true =>
                rw [mine (plain shown), visible, Option.all_some, shown] at sees
                cases sees
        · exact sound

/-- A deletion of a ticket keeps a desk sound. -/
theorem delete_sound (sound : Sound hidden desk) (ticketId : Uuid) :
    Sound hidden (deleteTicket desk user ticketId).2 := by
  unfold deleteTicket
  split
  · exact sound
  · split
    · exact sound
    · refine ⟨sound.tickets.sublist (List.filter_sublist.map _), sound.uploads, ?_⟩
      intro ticket inside
      exact sound.attached ticket (List.mem_filter.mp inside).1

/-- Storing a file keeps a desk sound. -/
theorem upload_sound (sound : Sound hidden desk) (uploadId : Uuid) (file : Incoming)
    (now : Timestamp) : Sound hidden (storeUpload setting desk user uploadId file now).2 := by
  unfold storeUpload
  split
  · exact sound
  · next upload stored =>
    split
    · exact sound
    · next free =>
      rw [← (uploadedBy_storeBytes stored).1] at free
      refine ⟨sound.tickets, nodup_concat sound.uploads (Bool.eq_false_iff.mpr free), ?_⟩
      intro ticket inside sees attachment named
      obtain ⟨other, member, holds⟩ := sound.attached ticket inside sees attachment named
      exact ⟨other, List.mem_append_left _ member, holds⟩

/-- A new link keeps a desk sound. -/
theorem regenerate_sound (sound : Sound hidden desk) (uploadId : Uuid) :
    Sound hidden (regenerateUpload keys desk user uploadId).2 := by
  unfold regenerateUpload
  split
  · exact sound
  · refine ⟨sound.tickets, ?_, ?_⟩
    · rw [Table.map_modify bumped Upload.id fun _ _ => rfl]
      exact sound.uploads
    · intro ticket inside sees attachment named
      obtain ⟨other, member, holds⟩ := sound.attached ticket inside sees attachment named
      by_cases hit : other.id = uploadId
      · exact ⟨bumped other, Table.mem_modify.mpr (.inr ⟨other, member, hit, rfl⟩), holds⟩
      · exact ⟨other, Table.mem_modify.mpr (.inl ⟨member, hit⟩), holds⟩

/-- A deletion of an upload keeps a desk sound. -/
theorem deleteUpload_sound (sound : Sound hidden desk) (uploadId : Uuid) :
    Sound hidden (deleteUpload desk user uploadId).2 := by
  unfold deleteUpload
  split
  · exact sound
  · refine ⟨?_, sound.uploads.sublist (List.filter_sublist.map _), ?_⟩
    · rw [List.map_map]
      exact sound.tickets
    · intro ticket inside sees attachment named
      obtain ⟨old, stored, rfl⟩ := List.mem_map.mp inside
      obtain ⟨kept, apart⟩ := List.mem_filter.mp named
      obtain ⟨other, member, same, holds⟩ := sound.attached old stored sees attachment kept
      refine ⟨other, List.mem_filter.mpr ⟨member, decide_eq_true fun gone => ?_⟩, same, holds⟩
      exact of_decide_eq_true apart (same.symm.trans gone)

/-- A discreet request keeps a desk sound. -/
theorem serve_sound (sound : Sound hidden desk) {request : Request}
    (discreet : Discreet hidden desk (user, request)) :
    Sound hidden (serve setting desk user request).2 := by
  obtain ⟨plain, other⟩ := discreet
  cases request with
  | create data draw => exact create_sound sound fun shown => (other shown).2
  | list query => exact sound
  | get ticketId => exact sound
  | update ticketId data draw => exact update_sound sound plain fun shown => (other shown).2
  | delete ticketId => exact delete_sound sound ticketId
  | upload uploadId file now => exact upload_sound sound uploadId file now
  | getUpload uploadId => exact sound
  | regenerate uploadId => exact regenerate_sound sound uploadId
  | deleteUpload uploadId => exact deleteUpload_sound sound uploadId

/-! ## Runs -/

/-- A request of a hidden user changes no visible row. -/
theorem serve_unseen (sound : Sound hidden desk) (concealed : hidden user.id = true)
    (plain : user.role ≠ .admin) (request : Request) :
    without hidden (serve setting desk user request).2 = without hidden desk := by
  have ticketTarget {ticketId : Uuid} {ticket : SupportTicket} (inside : ticket ∈ desk.tickets)
      (named : ticket.id = ticketId) (mine : ticket.createdBy = some user.id) :
      ∀ row ∈ desk.tickets, row.id = ticketId → visible hidden row.createdBy = false := by
    subst named
    refine unseen_of_id sound inside ?_
    rw [mine, visible, Option.all_some, concealed]
    rfl
  have uploadTarget {uploadId : Uuid} {upload : Upload} (inside : upload ∈ desk.uploads)
      (named : upload.id = uploadId) (mine : upload.uploadedBy = some user.id) :
      ∀ row ∈ desk.uploads, row.id = uploadId → visible hidden row.uploadedBy = false := by
    subst named
    refine unseen_of_uploadId sound inside ?_
    rw [mine, visible, Option.all_some, concealed]
    rfl
  cases request with
  | create data draw => exact create_unseen concealed data draw
  | list query => rfl
  | get ticketId => rfl
  | update ticketId data draw =>
    rcases loadAccessible_cases desk user ticketId with missing | ⟨ticket, inside, named, -, mine⟩
    · show without hidden (updateTicket setting.keys desk user ticketId data draw).2 = _
      unfold updateTicket
      rw [missing]
      rfl
    · exact update_unseen (ticketTarget inside named (mine plain)) data draw
  | delete ticketId =>
    rcases loadAccessible_cases desk user ticketId with missing | ⟨ticket, inside, named, -, mine⟩
    · show without hidden (deleteTicket desk user ticketId).2 = _
      unfold deleteTicket
      rw [missing]
      rfl
    · exact delete_unseen (ticketTarget inside named (mine plain))
  | upload uploadId file now => exact upload_unseen concealed uploadId file now
  | getUpload uploadId => rfl
  | regenerate uploadId =>
    rcases loadOwned_cases desk.uploads user uploadId with missing | ⟨row, inside, named, -, mine⟩
    · show without hidden (regenerateUpload setting.keys desk user uploadId).2 = _
      unfold regenerateUpload
      rw [missing]
      rfl
    · exact regenerate_unseen (uploadTarget inside named (mine plain))
  | deleteUpload uploadId =>
    rcases loadOwned_cases desk.uploads user uploadId with missing | ⟨row, inside, named, -, mine⟩
    · show without hidden (deleteUpload desk user uploadId).2 = _
      unfold deleteUpload
      rw [missing]
      rfl
    · exact deleteUpload_unseen sound (uploadTarget inside named (mine plain))

/-- The requests of users who are not hidden, and the rows these work on. -/
def unwinding (setting : Setting) (hidden : Uuid → Bool) :
    Machine.Unwinding (machine setting) (Discreet hidden) (seen setting hidden) where
  kept label := !hidden label.1.id
  restrict := without hidden
  invariant := Sound hidden
  preserved := by
    rintro desk ⟨user, request⟩ _ sound discreet ⟨⟩
    exact serve_sound sound discreet
  follows := by
    rintro desk ⟨user, request⟩ _ sound discreet ⟨⟩ kept
    have shown : hidden user.id = false := by simpa using kept
    obtain ⟨untaken, unmixed⟩ := discreet.2 shown
    obtain ⟨desks, answers⟩ := serve_follows setting sound shown untaken unmixed
    refine ⟨congrArg some desks, ?_⟩
    unfold seen
    by_cases plain : user.role ≠ .admin
    · rw [if_pos ⟨shown, plain⟩, if_pos ⟨shown, plain⟩, answers plain]
    · rw [if_neg fun both => plain both.2, if_neg fun both => plain both.2]
  unseen := by
    rintro desk ⟨user, request⟩ _ sound discreet ⟨⟩ kept
    have concealed : hidden user.id = true := by simpa using kept
    refine ⟨serve_unseen sound concealed (discreet.1 concealed) request, ?_⟩
    unfold seen
    rw [if_neg fun both => by rw [concealed] at both; cases both.1]

/-- In a run of discreet requests, every response to a user who is neither hidden nor an
administrator is the one he gets in the run without the requests of the hidden users. -/
theorem hidden_unnoticed (setting : Setting) (hidden : Uuid → Bool) (last : Desk)
    (labels : List (User × Request)) (log : List (Uuid × Response))
    (run : ((machine setting).logged (seen setting hidden)).Run
      (fun s label => Discreet hidden s.1 label) (⟨[], []⟩, []) labels (last, log)) :
    ((machine setting).logged (seen setting hidden)).Run Machine.anyStep (⟨[], []⟩, [])
      (labels.filter fun label => !hidden label.1.id) (without hidden last, log) := by
  have empty : Sound hidden ⟨[], []⟩ :=
    ⟨List.nodup_nil, List.nodup_nil, fun _ inside => by cases inside⟩
  exact (unwinding setting hidden).purge run empty

/-- A user who files a ticket, one who is hidden, and an administrator. -/
def reporter : User := ⟨1, "rita@example.com", "Rita", .user, true, 0⟩

@[inherit_doc reporter] def stranger : User := ⟨2, "sam@example.com", "Sam", .user, true, 0⟩

@[inherit_doc reporter] def supporter : User := ⟨3, "ada@example.com", "Ada", .admin, true, 0⟩

/-- A desk that takes every file of up to a hundred bytes and finds nothing by a search. -/
def smallDesk : Setting :=
  ⟨⟨id, Uuid.parse⟩, ⟨.ascii, none, "uploads", 100, ["*"]⟩, fun _ _ => false⟩

/-- What the request at a time draws. -/
def drawAt (now : Timestamp) (ticketId : Uuid) : TicketDraw :=
  ⟨ticketId, fun i => ticketId + .ofNat 128 i, fun _ => ticketId, ticketId, now⟩

/-- A ticket with an upload attached. -/
def sampleTicket (uploadId : Uuid) : SupportTicketCreate where
  subject := ⟨"Login", by decide⟩
  category := .bug
  description := ⟨"Nothing happens.", by decide⟩
  attachmentUploadIds := ⟨[uploadId], Nat.le_add_left 1 9⟩

/-- Both users file a ticket, and the reporter asks for the stranger's. -/
def sampleRequests : List (User × Request) :=
  [(stranger, .upload 20 ⟨"logo.png", "image/png", 10, none, none⟩ 1),
    (reporter, .upload 10 ⟨"page.png", "image/png", 10, none, none⟩ 2),
    (stranger, .create (sampleTicket 20) (drawAt 3 (1 <<< 100))),
    (reporter, .create (sampleTicket 10) (drawAt 4 (1 <<< 110))),
    (reporter, .get (1 <<< 100)),
    (supporter, .deleteUpload 20),
    (reporter, .get (1 <<< 110))]

/-- The reporter is answered as if the stranger had never been there. -/
theorem sample_unnoticed : ∃ last log, log.length = 4 ∧
    ((machine smallDesk).logged (seen smallDesk (· = stranger.id))).Run Machine.anyStep
      (⟨[], []⟩, []) (sampleRequests.filter fun label => !decide (label.1.id = stranger.id))
      (without (· = stranger.id) last, log) := by
  have played : ∃ last log, log.length = 4 ∧
      ((machine smallDesk).logged (seen smallDesk (· = stranger.id))).play
        (fun s label => Discreet (· = stranger.id) s.1 label) (⟨[], []⟩, []) sampleRequests =
        some (last, log) := ⟨_, _, rfl, rfl⟩
  obtain ⟨last, log, length, played⟩ := played
  exact ⟨last, log, length,
    hidden_unnoticed smallDesk _ last _ log (Machine.run_of_play played)⟩

end MarketingOS.SupportTicketService
