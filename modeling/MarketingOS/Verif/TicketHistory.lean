import MarketingOS.Verif.TicketPrivacy

/-!
# What happens to a ticket

Over every history of a desk a ticket keeps its number, its owner and its date, its thread only
grows at the end, only an administrator moves its status, and only an administrator or its owner,
while it is open, deletes it.
-/
namespace MarketingOS.SupportTicketService

open UploadService

variable {setting : Setting} {desk : Desk} {user : User}

/-- A number that is given out is free. -/
theorem free_of_uniqueTicketNumber {candidate : Nat → Uuid} {number : String}
    (drawn : uniqueTicketNumber desk.tickets candidate = .ok number) :
    Table.has SupportTicket.ticketNumber desk.tickets number = false := by
  unfold uniqueTicketNumber at drawn
  dsimp only at drawn
  split at drawn
  · cases drawn
  · next free found =>
    obtain rfl := Except.ok.inj drawn
    have checked := List.find?_some found
    simpa using checked

/-- What a request may do to the tickets. -/
theorem tickets_cases (setting : Setting) (desk : Desk) (user : User) (request : Request) :
    (serve setting desk user request).2.tickets = desk.tickets ∨
      (∃ data draw number attachments, request = .create data draw ∧
        Table.has SupportTicket.id desk.tickets draw.ticketId = false ∧
        Table.has SupportTicket.ticketNumber desk.tickets number = false ∧
        (serve setting desk user request).2.tickets =
          desk.tickets ++ [newTicket user data draw number attachments]) ∨
      (∃ ticket ∈ desk.tickets, ∃ data draw attachments, request = .update ticket.id data draw ∧
        (user.role ≠ .admin → ticket.createdBy = some user.id ∧ data.status.read = none) ∧
        (serve setting desk user request).2.tickets =
          Table.modify SupportTicket.id ticket.id (applyUpdate user data draw attachments)
            desk.tickets) ∨
      (∃ ticket ∈ desk.tickets, request = .delete ticket.id ∧
        (user.role ≠ .admin → ticket.createdBy = some user.id ∧ ticket.status = .opened) ∧
        (serve setting desk user request).2.tickets =
          Table.remove SupportTicket.id ticket.id desk.tickets) ∨
      ∃ uploadId, (serve setting desk user request).2.tickets =
        desk.tickets.map (detach uploadId) := by
  cases request with
  | create data draw =>
    have made : (serve setting desk user (.create data draw)).2 =
      (createTicket setting.keys desk user data draw).2 := rfl
    rw [made]
    unfold createTicket
    split
    · exact .inl rfl
    · next attachments _ =>
      split
      · exact .inl rfl
      · next number drawn =>
        split
        · next stored =>
          exact .inr (.inl ⟨data, draw, number, attachments, rfl, free_of_storable stored,
            free_of_uniqueTicketNumber drawn, rfl⟩)
        · exact .inl rfl
  | list query => exact .inl rfl
  | get ticketId => exact .inl rfl
  | update ticketId data draw =>
    have made : (serve setting desk user (.update ticketId data draw)).2 =
      (updateTicket setting.keys desk user ticketId data draw).2 := rfl
    rw [made]
    unfold updateTicket
    rcases loadAccessible_cases desk user ticketId with missing | ⟨ticket, inside, rfl, found, mine⟩
    · rw [missing]
      exact .inl rfl
    · rw [found]
      dsimp only
      split
      · exact .inl rfl
      · next entitled =>
        split
        · exact .inl rfl
        · next attachments _ =>
          split
          · refine .inr (.inr (.inl ⟨ticket, inside, data, draw, attachments, rfl, ?_, rfl⟩))
            intro plain
            refine ⟨mine plain, ?_⟩
            by_contra sent
            exact entitled ⟨Option.isSome_iff_ne_none.mpr sent, plain⟩
          · exact .inl rfl
  | delete ticketId =>
    have made : (serve setting desk user (.delete ticketId)).2 =
      (deleteTicket desk user ticketId).2 := rfl
    rw [made]
    unfold deleteTicket
    rcases loadAccessible_cases desk user ticketId with missing | ⟨ticket, inside, rfl, found, mine⟩
    · rw [missing]
      exact .inl rfl
    · rw [found]
      dsimp only
      split
      · exact .inl rfl
      · next entitled =>
        refine .inr (.inr (.inr (.inl ⟨ticket, inside, rfl, fun plain => ?_, rfl⟩)))
        refine ⟨mine plain, ?_⟩
        by_contra worked
        exact entitled ⟨plain, worked⟩
  | upload uploadId file now =>
    have made : (serve setting desk user (.upload uploadId file now)).2 =
      (storeUpload setting desk user uploadId file now).2 := rfl
    rw [made]
    unfold storeUpload
    split
    · exact .inl rfl
    · split
      · exact .inl rfl
      · exact .inl rfl
  | getUpload uploadId => exact .inl rfl
  | regenerate uploadId =>
    have made : (serve setting desk user (.regenerate uploadId)).2 =
      (regenerateUpload setting.keys desk user uploadId).2 := rfl
    rw [made]
    unfold regenerateUpload
    split
    · exact .inl rfl
    · exact .inl rfl
  | deleteUpload uploadId =>
    have made : (serve setting desk user (.deleteUpload uploadId)).2 =
      (deleteUpload desk user uploadId).2 := rfl
    rw [made]
    unfold deleteUpload
    split
    · exact .inl rfl
    · exact .inr (.inr (.inr (.inr ⟨uploadId, rfl⟩)))

/-- How a ticket goes on over some requests. -/
structure Continues (labels : List (User × Request)) (before after : SupportTicket) : Prop where
  id : after.id = before.id
  ticketNumber : after.ticketNumber = before.ticketNumber
  createdBy : after.createdBy = before.createdBy
  createdAt : after.createdAt = before.createdAt
  /-- The thread grows at the end, by what the owner or administrators reply. -/
  thread : ∃ added, after.replies = before.replies ++ added ∧
    ∀ reply ∈ added, ∃ user data draw, (user, .update before.id data draw) ∈ labels ∧
      (user.role ≠ .admin → before.createdBy = some user.id) ∧ reply ∈ replyOf user data draw
  /-- The status is moved by administrators. -/
  status : after.status = before.status ∨ ∃ user data draw,
    (user, .update before.id data draw) ∈ labels ∧ user.role = .admin ∧
      data.status.read = some after.status

/-- A ticket is deleted by an administrator, or by its owner while it is open: because it was, or
because an administrator opened it again. -/
def Withdrawn (labels : List (User × Request)) (ticket : SupportTicket) : Prop :=
  ∃ user, (user, .delete ticket.id) ∈ labels ∧
    (user.role ≠ .admin → ticket.createdBy = some user.id ∧
      (ticket.status = .opened ∨ ∃ other data draw,
        (other, .update ticket.id data draw) ∈ labels ∧ other.role = .admin ∧
          data.status.read = some .opened))

/-! ## Going on -/

/-- A ticket goes on over no request. -/
theorem Continues.refl (labels : List (User × Request)) (ticket : SupportTicket) :
    Continues labels ticket ticket :=
  ⟨rfl, rfl, rfl, rfl, ⟨[], (List.append_nil _).symm, fun _ inside => by cases inside⟩, .inl rfl⟩

/-- A ticket that goes on over some requests and then over others. -/
theorem Continues.trans {front back : List (User × Request)} {first middle last : SupportTicket}
    (early : Continues front first middle) (late : Continues back middle last) :
    Continues (front ++ back) first last where
  id := late.id.trans early.id
  ticketNumber := late.ticketNumber.trans early.ticketNumber
  createdBy := late.createdBy.trans early.createdBy
  createdAt := late.createdAt.trans early.createdAt
  thread := by
    obtain ⟨added, grown, written⟩ := early.thread
    obtain ⟨added', grown', written'⟩ := late.thread
    refine ⟨added ++ added', by rw [grown', grown, List.append_assoc], fun reply inside => ?_⟩
    rcases List.mem_append.mp inside with old | new
    · obtain ⟨author, data, draw, asked, entitled, made⟩ := written reply old
      exact ⟨author, data, draw, List.mem_append_left _ asked, entitled, made⟩
    · obtain ⟨author, data, draw, asked, entitled, made⟩ := written' reply new
      rw [early.id] at asked
      rw [early.createdBy] at entitled
      exact ⟨author, data, draw, List.mem_append_right _ asked, entitled, made⟩
  status := by
    rcases late.status with same | ⟨admin, data, draw, asked, role, sent⟩
    · rcases early.status with same' | ⟨admin, data, draw, asked, role, sent⟩
      · exact .inl (same.trans same')
      · exact .inr ⟨admin, data, draw, List.mem_append_left _ asked, role, same ▸ sent⟩
    · rw [early.id] at asked
      exact .inr ⟨admin, data, draw, List.mem_append_right _ asked, role, sent⟩

/-- A ticket that goes on over some requests and is deleted in others. -/
theorem Continues.withdrawn {front back : List (User × Request)} {first middle : SupportTicket}
    (early : Continues front first middle) (late : Withdrawn back middle) :
    Withdrawn (front ++ back) first := by
  obtain ⟨author, asked, entitled⟩ := late
  rw [early.id] at asked
  refine ⟨author, List.mem_append_right _ asked, fun plain => ?_⟩
  obtain ⟨mine, opened⟩ := entitled plain
  refine ⟨early.createdBy ▸ mine, ?_⟩
  rcases opened with opened | ⟨admin, data, draw, asked, role, sent⟩
  · rcases early.status with same | ⟨admin, data, draw, asked, role, sent⟩
    · exact .inl (same ▸ opened)
    · exact .inr ⟨admin, data, draw, List.mem_append_left _ asked, role, opened ▸ sent⟩
  · rw [early.id] at asked
    exact .inr ⟨admin, data, draw, List.mem_append_right _ asked, role, sent⟩

/-- A ticket that was deleted stays so. -/
theorem Withdrawn.more {front : List (User × Request)} {ticket : SupportTicket}
    (gone : Withdrawn front ticket) (back : List (User × Request)) :
    Withdrawn (front ++ back) ticket := by
  obtain ⟨author, asked, entitled⟩ := gone
  refine ⟨author, List.mem_append_left _ asked, fun plain => ?_⟩
  obtain ⟨mine, opened⟩ := entitled plain
  refine ⟨mine, opened.imp_right ?_⟩
  rintro ⟨admin, data, draw, asked, role, sent⟩
  exact ⟨admin, data, draw, List.mem_append_left _ asked, role, sent⟩

/-- An update keeps the number of a ticket. -/
@[simp] theorem ticketNumber_applyUpdate (data : SupportTicketUpdate) (draw : TicketDraw)
    (attachments : Option (List SupportTicketAttachment)) (ticket : SupportTicket) :
    (applyUpdate user data draw attachments ticket).ticketNumber = ticket.ticketNumber := by
  unfold applyUpdate SupportTicket.touch
  split <;> rfl

/-- A row goes on over an update of it. -/
theorem continues_applyUpdate {ticket : SupportTicket} {data : SupportTicketUpdate}
    {draw : TicketDraw} (attachments : Option (List SupportTicketAttachment))
    (entitled : user.role ≠ .admin →
      ticket.createdBy = some user.id ∧ data.status.read = none) :
    Continues [(user, .update ticket.id data draw)] ticket
      (applyUpdate user data draw attachments ticket) := by
  have columns : (applyUpdate user data draw attachments ticket).createdAt = ticket.createdAt ∧
      (applyUpdate user data draw attachments ticket).replies =
        ticket.replies ++ replyOf user data draw ∧
      (applyUpdate user data draw attachments ticket).status =
        data.status.read.getD ticket.status := by
    unfold applyUpdate SupportTicket.touch
    split <;> exact ⟨rfl, rfl, rfl⟩
  obtain ⟨date, thread, status⟩ := columns
  refine ⟨id_applyUpdate .., ticketNumber_applyUpdate .., createdBy_applyUpdate .., date, ?_, ?_⟩
  · exact ⟨_, thread, fun reply inside =>
      ⟨user, data, draw, List.mem_singleton_self _, fun plain => (entitled plain).1, inside⟩⟩
  · rw [status]
    cases sent : data.status.read with
    | none => exact .inl rfl
    | some moved =>
      refine .inr ⟨user, data, draw, List.mem_singleton_self _, ?_, sent⟩
      by_contra plain
      rw [(entitled plain).2] at sent
      cases sent

/-- Over one request a ticket goes on or is deleted. -/
theorem serve_continues (distinct : (desk.tickets.map SupportTicket.id).Nodup)
    {ticket : SupportTicket} (inside : ticket ∈ desk.tickets) (request : Request) :
    (∃ after ∈ (serve setting desk user request).2.tickets,
      Continues [(user, request)] ticket after) ∨ Withdrawn [(user, request)] ticket := by
  rcases tickets_cases setting desk user request with same | ⟨data, draw, number, attachments, -, -,
      -, filed⟩ | ⟨target, member, data, draw, attachments, rfl, entitled, updated⟩ |
      ⟨target, member, rfl, entitled, removed⟩ | ⟨uploadId, detached⟩
  · rw [same]
    exact .inl ⟨ticket, inside, .refl _ _⟩
  · rw [filed]
    exact .inl ⟨ticket, List.mem_append_left _ inside, .refl _ _⟩
  · rw [updated]
    refine .inl ?_
    by_cases hit : ticket.id = target.id
    · obtain rfl := List.inj_on_of_nodup_map distinct inside member hit
      exact ⟨_, Table.mem_modify.mpr (.inr ⟨ticket, inside, rfl, rfl⟩),
        continues_applyUpdate attachments entitled⟩
    · exact ⟨ticket, Table.mem_modify.mpr (.inl ⟨inside, hit⟩), .refl _ _⟩
  · by_cases hit : ticket.id = target.id
    · obtain rfl := List.inj_on_of_nodup_map distinct inside member hit
      refine .inr ⟨user, List.mem_singleton_self _, fun plain => ?_⟩
      exact ⟨(entitled plain).1, .inl (entitled plain).2⟩
    · rw [removed]
      exact .inl ⟨ticket, List.mem_filter.mpr ⟨inside, decide_eq_true hit⟩, .refl _ _⟩
  · rw [detached]
    refine .inl ⟨_, List.mem_map_of_mem inside, rfl, rfl, rfl, rfl, ?_, .inl rfl⟩
    exact ⟨[], (List.append_nil _).symm, fun _ inside => by cases inside⟩

/-! ## Runs -/

/-- The tickets have identifiers and numbers of their own, and their attachments are uploads. -/
structure Kept (desk : Desk) : Prop where
  sound : Sound (fun _ => false) desk
  numbers : (desk.tickets.map SupportTicket.ticketNumber).Nodup

/-- Where nobody is hidden every request is discreet. -/
theorem discreet_all (desk : Desk) (label : User × Request) :
    Discreet (fun _ => false) desk label := by
  have all (owner : Option Uuid) : visible (fun _ => false) owner = true := by
    cases owner <;> rfl
  obtain ⟨user, request⟩ := label
  refine ⟨fun concealed => absurd concealed Bool.false_ne_true, fun _ => ⟨?_, fun _ => ?_⟩⟩
  · cases request with
    | create data draw => exact fun ticket _ unseen => absurd ((all _).symm.trans unseen) (by simp)
    | upload uploadId file now =>
      exact fun upload _ unseen => absurd ((all _).symm.trans unseen) (by simp)
    | list query => exact True.intro
    | get ticketId => exact True.intro
    | update ticketId data draw => exact True.intro
    | delete ticketId => exact True.intro
    | getUpload uploadId => exact True.intro
    | regenerate uploadId => exact True.intro
    | deleteUpload uploadId => exact True.intro
  · cases request with
    | create data draw => exact fun upload _ _ => all _
    | update ticketId data draw => exact fun ticket _ _ _ ids _ upload _ _ => all _
    | list query => exact True.intro
    | get ticketId => exact True.intro
    | delete ticketId => exact True.intro
    | upload uploadId file now => exact True.intro
    | getUpload uploadId => exact True.intro
    | regenerate uploadId => exact True.intro
    | deleteUpload uploadId => exact True.intro

/-- A request keeps this. -/
theorem serve_kept (kept : Kept desk) (request : Request) :
    Kept (serve setting desk user request).2 := by
  refine ⟨serve_sound kept.sound (discreet_all desk (user, request)), ?_⟩
  rcases tickets_cases setting desk user request with same | ⟨data, draw, number, attachments, -,
      -, free, filed⟩ | ⟨target, member, data, draw, attachments, -, entitled, updated⟩ |
      ⟨target, member, -, -, removed⟩ | ⟨uploadId, detached⟩
  · rw [same]
    exact kept.numbers
  · rw [filed]
    exact nodup_concat kept.numbers free
  · rw [updated, Table.map_modify _ SupportTicket.ticketNumber fun row _ =>
      ticketNumber_applyUpdate ..]
    exact kept.numbers
  · rw [removed]
    exact kept.numbers.sublist (List.filter_sublist.map _)
  · rw [detached, List.map_map]
    exact kept.numbers

/-- Over every run from a desk some run leads to, the tickets keep identifiers and numbers of their
own and attachments that are uploads, and each ticket goes on or is deleted by who may delete it. -/
theorem ticket_history (setting : Setting) (desk last : Desk) (labels : List (User × Request))
    (reached : (machine setting).Reachable Machine.anyStep desk)
    (run : (machine setting).Run Machine.anyStep desk labels last) :
    Kept last ∧ ∀ ticket ∈ desk.tickets,
      (∃ after ∈ last.tickets, Continues labels ticket after) ∨ Withdrawn labels ticket := by
  have start : Kept desk := by
    apply reached.invariant Kept
    · rintro ⟨_, _⟩ ⟨rfl, rfl⟩
      exact ⟨⟨List.nodup_nil, List.nodup_nil, fun _ inside => by cases inside⟩, List.nodup_nil⟩
    · rintro desk label _ kept - ⟨⟩
      exact serve_kept kept label.2
  clear reached
  induction run with
  | nil desk => exact ⟨start, fun ticket inside => .inl ⟨ticket, inside, .refl _ _⟩⟩
  | @cons desk middle last label labels _ taken rest ih =>
    obtain rfl := Option.some.inj taken
    obtain ⟨kept, later⟩ := ih (serve_kept start label.2)
    refine ⟨kept, fun ticket inside => ?_⟩
    rcases serve_continues start.sound.tickets inside label.2 with ⟨after, member, early⟩ | gone
    · rcases later after member with ⟨final, stays, late⟩ | gone
      · exact .inl ⟨final, stays, early.trans late⟩
      · exact .inr (early.withdrawn gone)
    · exact .inr (gone.more labels)

/-- The administrator takes up the reporter's ticket and deletes the stranger's; the reporter may
not delete his any more. -/
def sampleFollowUp : List (User × Request) :=
  [(supporter, .update (1 <<< 110)
      ⟨none, none, none, none, some (some .inProgress), some (some ⟨"On it.", by decide⟩), none⟩
      (drawAt 5 30)),
    (reporter, .delete (1 <<< 110)),
    (supporter, .delete (1 <<< 100))]

/-- One of the two tickets goes on and the other is deleted. -/
theorem sample_history : ∃ desk last : Desk, desk.tickets.length = 2 ∧
    last.tickets.map SupportTicket.status = [.inProgress] ∧ Kept last ∧
    ∀ ticket ∈ desk.tickets, (∃ after ∈ last.tickets, Continues sampleFollowUp ticket after) ∨
      Withdrawn sampleFollowUp ticket := by
  obtain ⟨desk, last, played, length, later, status⟩ : ∃ desk last : Desk,
      (machine smallDesk).play Machine.anyStep ⟨[], []⟩ sampleRequests = some desk ∧
      desk.tickets.length = 2 ∧
      (machine smallDesk).play Machine.anyStep desk sampleFollowUp = some last ∧
      last.tickets.map SupportTicket.status = [.inProgress] := ⟨_, _, rfl, rfl, rfl, rfl⟩
  have reached : (machine smallDesk).Reachable Machine.anyStep desk :=
    ⟨⟨[], []⟩, _, ⟨rfl, rfl⟩, Machine.run_of_play played⟩
  exact ⟨desk, last, length, status,
    ticket_history smallDesk desk last _ reached (Machine.run_of_play later)⟩

end MarketingOS.SupportTicketService
