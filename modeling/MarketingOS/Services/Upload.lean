import MarketingOS.Base.Machine
import MarketingOS.Base.Table
import MarketingOS.Core.Exceptions
import MarketingOS.Core.Text
import MarketingOS.Models.Rows
import MarketingOS.Schemas.Common
import MarketingOS.Utils.DownloadLink

/-!
# Upload service

Files are recorded with a link epoch, and every response carries a permanent signed link. The
download endpoint accepts a signature made for the epoch of the row. The links are also made where
attachments of chat messages, attachments of support tickets and client logos are read.
-/
namespace MarketingOS.UploadService

open DownloadLink

/-- `Upload` -/
structure Upload where
  id : Uuid
  bucket : String
  storageKey : String
  originalFilename : String
  contentType : Option String
  sizeBytes : Nat
  feature : Option String
  uploadedBy : Option Uuid
  details : Option Json
  linkEpoch : Nat
  createdAt : Timestamp

/-- `UploadRead` -/
structure UploadRead where
  id : Uuid
  originalFilename : String
  contentType : Option String
  sizeBytes : Nat
  feature : Option String
  storageKey : String
  downloadUrl : Link
  createdAt : Timestamp

/-- `_to_read` -/
def toRead (keys : Keyring) (upload : Upload) : UploadRead where
  id := upload.id
  originalFilename := upload.originalFilename
  contentType := upload.contentType
  sizeBytes := upload.sizeBytes
  feature := upload.feature
  storageKey := upload.storageKey
  downloadUrl := uploadPermalink keys upload.id upload.linkEpoch
  createdAt := upload.createdAt

/-! ## Storing a file -/

/-- The storage settings an upload depends on. -/
structure Settings where
  tables : TextTables
  s3Bucket : Option String
  keyPrefix : String
  maxUploadBytes : Nat
  /-- `allowed_content_types_list` -/
  allowedContentTypes : List String

/-- A refused upload. -/
inductive Refusal where
  | badRequest (message : String)
  | payloadTooLarge (message : String)
  | unsupportedMediaType (message : String)
deriving DecidableEq

/-- `allows_content_type` -/
def Settings.allowsContentType (settings : Settings) (contentType : String) : Bool :=
  "*" ∈ settings.allowedContentTypes ∨
    settings.tables.lower (strip contentType) ∈
      settings.allowedContentTypes.map settings.tables.lower

/-- `_validate` -/
def validate (settings : Settings) (filename contentType : String) (sizeBytes : Nat) :
    Except Refusal Unit :=
  if strip filename = "" then .error (.badRequest "A filename is required.")
  else if sizeBytes = 0 then .error (.badRequest "File size must be greater than zero.")
  else if settings.maxUploadBytes < sizeBytes then
    .error (.payloadTooLarge
      s!"File exceeds the {settings.maxUploadBytes / (1024 * 1024)} MB limit.")
  else if settings.allowsContentType contentType = false then
    .error (.unsupportedMediaType ("Content type '" ++ contentType ++ "' is not allowed."))
  else .ok ()

/-- A character `_FILENAME_UNSAFE` does not match. -/
def safeInName (c : Char) : Bool :=
  ('A' ≤ c ∧ c ≤ 'Z') ∨ ('a' ≤ c ∧ c ≤ 'z') ∨ ('0' ≤ c ∧ c ≤ '9') ∨ c = '.' ∨ c = '_' ∨ c = '-'

/-- `sanitize_filename` -/
def sanitizeFilename (name : String) : String :=
  let path := stripChars (name.toList.map fun c => if c = '\\' then '/' else c)
  let base := (path.reverse.takeWhile (· ≠ '/')).reverse
  let safe := (base.map fun c => if safeInName c then c else '_').dropWhile (· = '.')
  String.ofList ((if safe = [] then "file".toList else safe).take 255)

/-- `_build_key` -/
def buildKey (settings : Settings) (uploadId : Uuid) (safeFilename : String) : String :=
  let trimmed := (settings.keyPrefix.toList.dropWhile (· = '/')).rdropWhile (· = '/')
  s!"{String.ofList trimmed}/{Uuid.print uploadId}/{safeFilename}"

/-- A file that is sent. -/
structure Incoming where
  filename : String
  contentType : String
  sizeBytes : Nat
  feature : Option String
  details : Option Json

/-- The row of `store_bytes`, once the storage has the bytes. -/
def storeBytes (settings : Settings) (user : User) (uploadId : Uuid) (file : Incoming)
    (now : Timestamp) : Except Refusal Upload :=
  (validate settings file.filename file.contentType file.sizeBytes).map fun _ =>
    let safe := sanitizeFilename file.filename
    { id := uploadId
      bucket := settings.s3Bucket.getD ""
      storageKey := buildKey settings uploadId safe
      originalFilename := safe
      contentType := some file.contentType
      sizeBytes := file.sizeBytes
      feature := file.feature
      uploadedBy := some user.id
      details := file.details
      linkEpoch := 0
      createdAt := now }

/-! ## Rows -/

/-- `uploads.get` -/
def get (uploads : List Upload) (uploadId : Uuid) : Option Upload :=
  Table.get Upload.id uploads uploadId

/-- `_load_owned` -/
def loadOwned (uploads : List Upload) (user : User) (uploadId : Uuid) : Outcome Upload :=
  match get uploads uploadId with
  | none => notFound "Upload not found."
  | some upload =>
    if user.role ≠ .admin ∧ upload.uploadedBy ≠ some user.id then notFound "Upload not found."
    else .ok upload

/-- `upload.link_epoch += 1` -/
def bumped (upload : Upload) : Upload := { upload with linkEpoch := upload.linkEpoch + 1 }

/-- The row `regenerate_link` commits. -/
def regenerateLink (uploads : List Upload) (user : User) (uploadId : Uuid) : Outcome Upload :=
  (loadOwned uploads user uploadId).map bumped

/-- `download_upload`, up to the storage key it redirects to. -/
def downloadUpload (keys : Keyring) (uploads : List Upload) (uploadId : Uuid) (sig : String) :
    Outcome String :=
  match get uploads uploadId with
  | none => notFound "Upload not found."
  | some upload =>
    if verifyUploadSignature keys uploadId sig upload.linkEpoch then .ok upload.storageKey
    else notFound "Upload not found."

/-- `download_by_key`, up to the storage key it redirects to. -/
def downloadByKey (keys : Keyring) (key sig : String) : Outcome String :=
  if verifyStorageKeySignature keys key sig then .ok key else notFound "File not found."

/-! ## Other reads -/

/-- One of the `attachments` in the `meta` of a chat message. -/
structure AttachmentRecord where
  uploadId : String
  filename : Option String
  contentType : Option String
  sizeBytes : Option Nat

/-- `AssistantAttachmentRead` -/
structure AssistantAttachmentRead where
  uploadId : Uuid
  filename : String
  contentType : Option String
  sizeBytes : Option Nat
  kind : String
  downloadUrl : Link

/-- One attachment of `_message_read`. -/
def attachmentRead (keys : Keyring) (record : AttachmentRecord) :
    Outcome AssistantAttachmentRead := do
  let uploadId ← Outcome.ofOption .valueError (keys.parseUuid record.uploadId)
  let contentType := record.contentType.getD ""
  return {
    uploadId
    filename := if record.filename.getD "" = "" then "attachment" else record.filename.getD ""
    contentType := if contentType = "" then none else some contentType
    sizeBytes := record.sizeBytes
    kind := if contentType.startsWith "image/" then "image" else "file"
    downloadUrl := uploadPermalink keys uploadId defaultEpoch }

/-- A read that hands out links. -/
inductive Read where
  /-- `UploadService.get` -/
  | upload (user : User) (uploadId : Uuid)
  /-- `_message_read` -/
  | message (attachments : List AttachmentRecord)
  /-- `_to_read` of a support ticket, with the uploads of its attachments. -/
  | ticket (uploadIds : List Uuid)
  /-- `resolve_logo_url`, of a client. -/
  | logo (value : Option String)

/-- The links of a response. -/
def links (keys : Keyring) (uploads : List Upload) : Read → Outcome (List Link)
  | .upload user uploadId =>
    (loadOwned uploads user uploadId).map fun upload => [(toRead keys upload).downloadUrl]
  | .message attachments =>
    (attachments.mapM (attachmentRead keys)).map fun reads =>
      reads.map AssistantAttachmentRead.downloadUrl
  | .ticket uploadIds =>
    .ok ((uploadIds.filterMap (get uploads)).map fun upload =>
      uploadPermalink keys upload.id upload.linkEpoch)
  | .logo value => .ok (resolveLogoUrl keys value).toList

/-! ## Histories -/

/-- The table of uploads, and the identifiers that were drawn for it. -/
structure World where
  uploads : List Upload
  drawn : List Uuid

/-- One request. An identifier is never drawn twice. -/
inductive Label where
  | store (user : User) (uploadId : Uuid) (file : Incoming) (now : Timestamp)
  | regenerate (user : User) (uploadId : Uuid)
  | delete (user : User) (uploadId : Uuid)
  | read (read : Read)

/-- The step function; a request that fails changes nothing and hands out nothing. -/
def next (settings : Settings) (w : World) : Label → Option World
  | .store user uploadId file now =>
    match storeBytes settings user uploadId file now with
    | .error _ => none
    | .ok upload =>
      if w.drawn.any fun drawn => drawn = uploadId then none
      else some ⟨w.uploads ++ [upload], uploadId :: w.drawn⟩
  | .regenerate user uploadId =>
    match regenerateLink w.uploads user uploadId with
    | .error _ => none
    | .ok _ => some { w with uploads := Table.modify Upload.id uploadId bumped w.uploads }
  | .delete user uploadId =>
    match loadOwned w.uploads user uploadId with
    | .error _ => none
    | .ok _ => some { w with uploads := Table.remove Upload.id uploadId w.uploads }
  | .read _ => some w

/-- The uploads and the signatures of links to them. -/
def signatures (links : List Link) : List (Uuid × String) :=
  links.filterMap fun link =>
    match link with
    | .upload uploadId signature => some (uploadId, signature)
    | _ => none

/-- The signatures a request hands out. -/
def issued (keys : Keyring) (settings : Settings) (w : World) : Label → List (Uuid × String)
  | .store user uploadId file now =>
    match storeBytes settings user uploadId file now with
    | .error _ => []
    | .ok upload => signatures [(toRead keys upload).downloadUrl]
  | .regenerate user uploadId =>
    match regenerateLink w.uploads user uploadId with
    | .error _ => []
    | .ok upload => signatures [(toRead keys upload).downloadUrl]
  | .delete _ _ => []
  | .read read =>
    match links keys w.uploads read with
    | .error _ => []
    | .ok links => signatures links

/-- Histories of uploads, from an empty table. -/
def machine (settings : Settings) : Machine World Label where
  start w := w.uploads = []
  next := next settings

end MarketingOS.UploadService
