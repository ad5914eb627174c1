import MarketingOS.Base.Machine
import MarketingOS.Base.StableSort
import MarketingOS.Services.Onboarding
import MarketingOS.Services.Upload

/-!
# Support tickets

A ticket belongs to the user who filed it and names its attachments among the uploads. A user other
than an administrator reaches only his own tickets and uploads, and what he may not reach answers as
if it were missing. The tickets and the uploads are one desk, which requests are served at.
-/
namespace MarketingOS

/-- `TicketCategory` -/
inductive TicketCategory where
  | bug
  | featureRequest
  | billing
  | account
  | technicalSupport
  | feedback
  | other
deriving DecidableEq

/-- `TicketPriority` -/
inductive TicketPriority where
  | low
  | medium
  | high
  | urgent
deriving DecidableEq

/-- `TicketStatus` — a ticket's lifecycle. -/
inductive TicketStatus where
  | opened
  | inProgress
  | resolved
  | closed
deriving DecidableEq

/-- `SupportTicketAttachment` -/
structure SupportTicketAttachment where
  id : Uuid
  uploadId : Uuid
deriving DecidableEq

/-- `SupportTicketReply` -/
structure SupportTicketReply where
  id : Uuid
  authorId : Option Uuid
  authorRole : String
  message : String
  createdAt : Timestamp
deriving DecidableEq

/-- `SupportTicket`, with the rows it owns in the order they were added. -/
structure SupportTicket where
  id : Uuid
  ticketNumber : String
  subject : String
  category : TicketCategory
  description : String
  priority : TicketPriority
  status : TicketStatus
  createdBy : Option Uuid
  createdAt : Timestamp
  updatedAt : Timestamp
  attachments : List SupportTicketAttachment
  replies : List SupportTicketReply
deriving DecidableEq

namespace SupportTicket

/-- `_MAX_ATTACHMENTS` -/
def maxAttachments : Nat := 10

/-- A field of attachments. -/
abbrev AttachmentIds : Type := { ids : List Uuid // ids.length ≤ maxAttachments }

/-- The columns of the row itself. -/
def columns (ticket : SupportTicket) :
    String × TicketCategory × String × TicketPriority × TicketStatus :=
  (ticket.subject, ticket.category, ticket.description, ticket.priority, ticket.status)

/-- `updated_at` moves when some column of the ticket changed; its replies and attachments are rows
of their own. -/
def touch (now : Timestamp) (before after : SupportTicket) : SupportTicket :=
  if after.columns = before.columns then after else { after with updatedAt := now }

end SupportTicket

/-- `SupportTicketCreate` -/
structure SupportTicketCreate where
  subject : BoundedText 1 200
  category : TicketCategory
  description : BoundedText 1 maxText
  priority : TicketPriority := .medium
  attachmentUploadIds : SupportTicket.AttachmentIds := ⟨[], by decide⟩

/-- `SupportTicketUpdate` -/
structure SupportTicketUpdate where
  subject : Patch (BoundedText 1 200)
  category : Patch TicketCategory
  description : Patch (BoundedText 1 maxText)
  priority : Patch TicketPriority
  status : Patch TicketStatus
  reply : Patch (BoundedText 1 maxText)
  attachmentUploadIds : Patch SupportTicket.AttachmentIds

/-- `TicketAttachmentRead` -/
structure TicketAttachmentRead where
  id : Uuid
  uploadId : Uuid
  filename : String
  contentType : Option String
  sizeBytes : Nat
  downloadUrl : DownloadLink.Link
deriving DecidableEq

/-- `SupportTicketRead` -/
structure SupportTicketRead where
  id : Uuid
  ticketNumber : String
  subject : String
  category : TicketCategory
  description : String
  priority : TicketPriority
  status : TicketStatus
  createdBy : Option Uuid
  createdAt : Timestamp
  updatedAt : Timestamp
  attachments : List TicketAttachmentRead
  replies : List SupportTicketReply
deriving DecidableEq

/-- `SupportTicketListItem` -/
structure SupportTicketListItem where
  id : Uuid
  ticketNumber : String
  subject : String
  category : TicketCategory
  priority : TicketPriority
  status : TicketStatus
  createdBy : Option Uuid
  createdAt : Timestamp
  updatedAt : Timestamp
  attachmentCount : Nat
  replyCount : Nat
deriving DecidableEq

/-- `SupportTicketListResponse` -/
structure SupportTicketListResponse where
  items : List SupportTicketListItem
  total : Nat
  page : Nat
  pageSize : Nat
deriving DecidableEq

/-- `PaginationParams` -/
structure PaginationParams where
  page : Nat
  pageSize : Nat
  first : 1 ≤ page
  bounds : 1 ≤ pageSize ∧ pageSize ≤ 100

/-- `offset` -/
def PaginationParams.offset (pagination : PaginationParams) : Nat :=
  (pagination.page - 1) * pagination.pageSize

/-- The query of `list_tickets`. -/
structure TicketQuery where
  pagination : PaginationParams
  search : Option (BoundedText 0 200)
  status : Option TicketStatus
  category : Option TicketCategory
  priority : Option TicketPriority

/-- The tables the service works on. -/
@[ext] structure Desk where
  tickets : List SupportTicket
  uploads : List UploadService.Upload

/-- What a request draws: identifiers and the clock. -/
structure TicketDraw where
  ticketId : Uuid
  /-- `uuid.uuid4()` of each attempt of `_unique_ticket_number` -/
  candidate : Nat → Uuid
  attachmentId : Nat → Uuid
  replyId : Uuid
  now : Timestamp

namespace SupportTicketService

open UploadService DownloadLink

/-- What the service rests on outside its tables. -/
structure Setting where
  keys : Keyring
  storage : Settings
  /-- `lower(column) LIKE pattern` in the database, by the pattern and the column. -/
  lowerLike : String → String → Bool

/-! ## Reading a ticket -/

/-- `_load_accessible` — a ticket of somebody else is missing. -/
def loadAccessible (desk : Desk) (user : User) (ticketId : Uuid) : Outcome SupportTicket :=
  match Table.get SupportTicket.id desk.tickets ticketId with
  | none => notFound "Support ticket not found."
  | some ticket =>
    if user.role ≠ .admin ∧ ticket.createdBy ≠ some user.id then
      notFound "Support ticket not found."
    else .ok ticket

/-- One attachment of `_to_read`, whose upload is there by its foreign key. -/
def attachmentRead (keys : Keyring) (uploads : List Upload) (attachment : SupportTicketAttachment) :
    Outcome TicketAttachmentRead :=
  let found := UploadService.get uploads attachment.uploadId
  (Outcome.ofOption .attributeError found).map fun upload =>
    { id := attachment.id
      uploadId := attachment.uploadId
      filename := upload.originalFilename
      contentType := upload.contentType
      sizeBytes := upload.sizeBytes
      downloadUrl := uploadPermalink keys upload.id upload.linkEpoch }

/-- `_to_read` — the replies in the order of their clock. -/
def toRead (keys : Keyring) (uploads : List Upload) (ticket : SupportTicket) :
    Outcome SupportTicketRead :=
  (ticket.attachments.mapM (attachmentRead keys uploads)).map fun attachments =>
    { id := ticket.id
      ticketNumber := ticket.ticketNumber
      subject := ticket.subject
      category := ticket.category
      description := ticket.description
      priority := ticket.priority
      status := ticket.status
      createdBy := ticket.createdBy
      createdAt := ticket.createdAt
      updatedAt := ticket.updatedAt
      attachments
      replies := StableSort.sortBy SupportTicketReply.createdAt ticket.replies }

/-- `get_ticket` -/
def getTicket (keys : Keyring) (desk : Desk) (user : User) (ticketId : Uuid) :
    Outcome SupportTicketRead := do
  toRead keys desk.uploads (← loadAccessible desk user ticketId)

/-! ## Listing -/

/-- The pattern of a search. -/
def likePattern (tables : TextTables) (search : String) : String :=
  "%" ++ tables.lower (strip search) ++ "%"

/-- The conditions of `list_page`. -/
def matchesQuery (setting : Setting) (ownerId : Option Uuid) (query : TicketQuery)
    (ticket : SupportTicket) : Bool :=
  (ownerId.all fun owner => ticket.createdBy = some owner) &&
    (query.status.all fun status => ticket.status = status) &&
    (query.category.all fun category => ticket.category = category) &&
    (query.priority.all fun priority => ticket.priority = priority) &&
    query.search.all fun search => search.val = "" ||
      let like := setting.lowerLike (likePattern setting.storage.tables search.val)
      like ticket.subject || like ticket.ticketNumber || like ticket.description

/-- `SupportTicketListItem`, of a row. -/
def listItem (ticket : SupportTicket) : SupportTicketListItem where
  id := ticket.id
  ticketNumber := ticket.ticketNumber
  subject := ticket.subject
  category := ticket.category
  priority := ticket.priority
  status := ticket.status
  createdBy := ticket.createdBy
  createdAt := ticket.createdAt
  updatedAt := ticket.updatedAt
  attachmentCount := ticket.attachments.length
  replyCount := ticket.replies.length

/-- `list_tickets` — the owner of the rows of anyone but an administrator is himself. -/
def listTickets (setting : Setting) (desk : Desk) (user : User) (query : TicketQuery) :
    Outcome SupportTicketListResponse :=
  let ownerId := if user.role = .admin then none else some user.id
  let rows := desk.tickets.filter (matchesQuery setting ownerId query)
  let newest := StableSort.sortBy (fun ticket => -ticket.createdAt) rows
  if (query.search.all fun search => ClientRecord.holdsText (some search.val)) = false then
    raised .dbapiError
  else .ok {
    items := ((newest.drop query.pagination.offset).take query.pagination.pageSize).map listItem
    total := rows.length
    page := query.pagination.page
    pageSize := query.pagination.pageSize }

/-! ## Writing -/

/-- `_resolve_attachments` — each upload is looked up for the caller first. -/
def resolveAttachments (uploads : List Upload) (user : User) :
    (drawn : Nat → Uuid) → List Uuid → Outcome (List SupportTicketAttachment)
  | _, [] => .ok []
  | drawn, uploadId :: rest => do
    let _ ← loadOwned uploads user uploadId
    let others ← resolveAttachments uploads user (fun i => drawn (i + 1)) rest
    return ⟨drawn 0, uploadId⟩ :: others

/-- `_TICKET_NUMBER_ATTEMPTS` -/
def ticketNumberAttempts : Nat := 5

/-- `_generate_ticket_number` -/
def generateTicketNumber (drawn : Uuid) : String :=
  "TCK-" ++ String.ofList (((Digits.write 16 32 drawn.toNat).take 8).map Char.toUpper)

/-- `_unique_ticket_number` -/
def uniqueTicketNumber (tickets : List SupportTicket) (candidate : Nat → Uuid) : Outcome String :=
  let attempts := List.range ticketNumberAttempts
  let free (number : String) := !Table.has SupportTicket.ticketNumber tickets number
  match (attempts.map fun i => generateTicketNumber (candidate i)).find? free with
  | none => conflict "Could not generate a unique ticket number — please retry."
  | some number => .ok number

/-- The row of `create_ticket`. -/
def newTicket (user : User) (data : SupportTicketCreate) (draw : TicketDraw) (number : String)
    (attachments : List SupportTicketAttachment) : SupportTicket where
  id := draw.ticketId
  ticketNumber := number
  subject := data.subject.val
  category := data.category
  description := data.description.val
  priority := data.priority
  status := .opened
  createdBy := some user.id
  createdAt := draw.now
  updatedAt := draw.now
  attachments := attachments
  replies := []

/-- What the database takes of a new ticket. -/
def storable (desk : Desk) (data : SupportTicketCreate) (draw : TicketDraw) : Bool :=
  !Table.has SupportTicket.id desk.tickets draw.ticketId &&
    ClientRecord.holdsText (some data.subject.val) &&
    ClientRecord.holdsText (some data.description.val)

/-- `create_ticket` -/
def createTicket (keys : Keyring) (desk : Desk) (user : User) (data : SupportTicketCreate)
    (draw : TicketDraw) : Outcome SupportTicketRead × Desk :=
  match resolveAttachments desk.uploads user draw.attachmentId data.attachmentUploadIds.val with
  | .error exc => (.error exc, desk)
  | .ok attachments =>
    match uniqueTicketNumber desk.tickets draw.candidate with
    | .error exc => (.error exc, desk)
    | .ok number =>
      if storable desk data draw then
        let ticket := newTicket user data draw number attachments
        (toRead keys desk.uploads ticket, { desk with tickets := desk.tickets ++ [ticket] })
      else (conflict "Could not create the ticket — please retry.", desk)

/-- The reply a request appends. -/
def replyOf (user : User) (data : SupportTicketUpdate) (draw : TicketDraw) :
    List SupportTicketReply :=
  (data.reply.read.map fun message =>
    { id := draw.replyId
      authorId := some user.id
      authorRole := if user.role = .admin then "admin" else "user"
      message := message.val
      createdAt := draw.now : SupportTicketReply }).toList

/-- The assignments of `update_ticket`; a field sent as null is not applied. -/
def applyUpdate (user : User) (data : SupportTicketUpdate) (draw : TicketDraw)
    (attachments : Option (List SupportTicketAttachment)) (ticket : SupportTicket) :
    SupportTicket :=
  SupportTicket.touch draw.now ticket { ticket with
    subject := (data.subject.read.map fun text => text.val).getD ticket.subject
    category := data.category.read.getD ticket.category
    description := (data.description.read.map fun text => text.val).getD ticket.description
    priority := data.priority.read.getD ticket.priority
    status := data.status.read.getD ticket.status
    attachments := attachments.getD ticket.attachments
    replies := ticket.replies ++ replyOf user data draw }

/-- The texts an update sends. -/
def SupportTicketUpdate.texts (data : SupportTicketUpdate) : List (Option String) :=
  [data.subject.read.map fun text => text.val, data.description.read.map fun text => text.val,
    data.reply.read.map fun text => text.val]

/-- The attachments an update replaces the old ones by, if it sends some. -/
def sentAttachments (uploads : List Upload) (user : User) (data : SupportTicketUpdate)
    (draw : TicketDraw) : Outcome (Option (List SupportTicketAttachment)) :=
  match data.attachmentUploadIds.read with
  | none => .ok none
  | some ids => (resolveAttachments uploads user draw.attachmentId ids.val).map some

/-- `update_ticket` -/
def updateTicket (keys : Keyring) (desk : Desk) (user : User) (ticketId : Uuid)
    (data : SupportTicketUpdate) (draw : TicketDraw) : Outcome SupportTicketRead × Desk :=
  match loadAccessible desk user ticketId with
  | .error exc => (.error exc, desk)
  | .ok ticket =>
    if data.status.read.isSome ∧ user.role ≠ .admin then
      (forbidden "Only an admin can change a ticket's status.", desk)
    else
      match sentAttachments desk.uploads user data draw with
      | .error exc => (.error exc, desk)
      | .ok attachments =>
        if (SupportTicketUpdate.texts data).all ClientRecord.holdsText then
          let change := applyUpdate user data draw attachments
          (toRead keys desk.uploads (change ticket),
            { desk with tickets := Table.modify SupportTicket.id ticketId change desk.tickets })
        else (conflict "Could not update the ticket.", desk)

/-- `delete_ticket` -/
def deleteTicket (desk : Desk) (user : User) (ticketId : Uuid) : Outcome Unit × Desk :=
  match loadAccessible desk user ticketId with
  | .error exc => (.error exc, desk)
  | .ok ticket =>
    if user.role ≠ .admin ∧ ticket.status ≠ .opened then
      (forbidden "This ticket is already being worked on — only an admin can delete it now.", desk)
    else
      (.ok (), { desk with tickets := Table.remove SupportTicket.id ticketId desk.tickets })

/-! ## The uploads of the desk -/

/-- A ticket after the upload of some of its attachments is deleted: they go with it. -/
def detach (uploadId : Uuid) (ticket : SupportTicket) : SupportTicket :=
  { ticket with attachments := ticket.attachments.filter fun a => a.uploadId ≠ uploadId }

/-- Why a request fails. -/
inductive Failure where
  | raised (exc : Exc)
  | refused (refusal : Refusal)
deriving DecidableEq

/-- `UploadService.store_bytes` -/
def storeUpload (setting : Setting) (desk : Desk) (user : User) (uploadId : Uuid) (file : Incoming)
    (now : Timestamp) : Except Failure UploadRead × Desk :=
  match storeBytes setting.storage user uploadId file now with
  | .error refusal => (.error (.refused refusal), desk)
  | .ok upload =>
    if Table.has Upload.id desk.uploads uploadId then
      (.error (.raised (.app ⟨.conflict, "Could not record the upload."⟩)), desk)
    else
      (.ok (UploadService.toRead setting.keys upload),
        { desk with uploads := desk.uploads ++ [upload] })

/-- `UploadService.regenerate_link` -/
def regenerateUpload (keys : Keyring) (desk : Desk) (user : User) (uploadId : Uuid) :
    Outcome UploadRead × Desk :=
  match loadOwned desk.uploads user uploadId with
  | .error exc => (.error exc, desk)
  | .ok upload =>
    (.ok (UploadService.toRead keys (bumped upload)),
      { desk with uploads := Table.modify Upload.id uploadId bumped desk.uploads })

/-- `UploadService.delete` -/
def deleteUpload (desk : Desk) (user : User) (uploadId : Uuid) : Outcome Unit × Desk :=
  match loadOwned desk.uploads user uploadId with
  | .error exc => (.error exc, desk)
  | .ok _ =>
    (.ok (), {
      tickets := desk.tickets.map (detach uploadId)
      uploads := Table.remove Upload.id uploadId desk.uploads })

/-! ## Requests -/

/-- A request of a user, with what it draws. -/
inductive Request where
  | create (data : SupportTicketCreate) (draw : TicketDraw)
  | list (query : TicketQuery)
  | get (ticketId : Uuid)
  | update (ticketId : Uuid) (data : SupportTicketUpdate) (draw : TicketDraw)
  | delete (ticketId : Uuid)
  | upload (uploadId : Uuid) (file : Incoming) (now : Timestamp)
  | getUpload (uploadId : Uuid)
  | regenerate (uploadId : Uuid)
  | deleteUpload (uploadId : Uuid)

/-- What a request answers with. -/
inductive Answer where
  | ticket (read : SupportTicketRead)
  | page (response : SupportTicketListResponse)
  | upload (read : UploadRead)
  | deleted

/-- The response to a request. -/
abbrev Response : Type := Except Failure Answer

/-- A response, from what the service returns or raises. -/
def respond {α : Type} (answer : α → Answer) (outcome : Outcome α) : Response :=
  match outcome with
  | .ok value => .ok (answer value)
  | .error exc => .error (.raised exc)

/-- Serve a request. -/
def serve (setting : Setting) (desk : Desk) (user : User) : Request → Response × Desk
  | .create data draw =>
    Prod.map (respond .ticket) id (createTicket setting.keys desk user data draw)
  | .list query => (respond .page (listTickets setting desk user query), desk)
  | .get ticketId => (respond .ticket (getTicket setting.keys desk user ticketId), desk)
  | .update ticketId data draw =>
    Prod.map (respond .ticket) id (updateTicket setting.keys desk user ticketId data draw)
  | .delete ticketId =>
    Prod.map (respond fun _ => .deleted) id (deleteTicket desk user ticketId)
  | .upload uploadId file now =>
    Prod.map (fun read => read.map .upload) id (storeUpload setting desk user uploadId file now)
  | .getUpload uploadId =>
    (respond .upload
      ((loadOwned desk.uploads user uploadId).map (UploadService.toRead setting.keys)), desk)
  | .regenerate uploadId =>
    Prod.map (respond .upload) id (regenerateUpload setting.keys desk user uploadId)
  | .deleteUpload uploadId =>
    Prod.map (respond fun _ => .deleted) id (deleteUpload desk user uploadId)

/-- Histories of a desk, from an empty one. Each step is a request of a user. -/
def machine (setting : Setting) : Machine Desk (User × Request) where
  start desk := desk.tickets = [] ∧ desk.uploads = []
  next desk label := some (serve setting desk label.1 label.2).2

end SupportTicketService

end MarketingOS
