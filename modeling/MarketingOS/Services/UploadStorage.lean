import MarketingOS.Services.Upload

/-!
# Uploads and their objects

`store_bytes` and `delete` write two systems that share no transaction: the object store and the
table of uploads. Each call of one of them succeeds or raises, and one that raises may have taken
effect all the same.
-/
namespace MarketingOS.UploadService

/-- What comes of one call of the object store or of the database. -/
inductive Call where
  | done
  /-- The call raises; whether it took effect. -/
  | failed (applied : Bool) (exc : Exc)
deriving DecidableEq

/-- Whether a call takes effect. -/
def Call.applies : Call → Bool
  | .done => true
  | .failed applied _ => applied

/-- The two systems: the committed rows, and the keys of the objects. -/
structure Systems where
  uploads : List Upload
  objects : List String

namespace Systems

/-- `storage.upload` -/
def put (s : Systems) (call : Call) (key : String) : Systems :=
  if call.applies then { s with objects := key :: s.objects } else s

/-- `storage.delete` -/
def drop (s : Systems) (call : Call) (key : String) : Systems :=
  if call.applies then { s with objects := s.objects.filter (· ≠ key) } else s

/-- The commit of a new row. -/
def insert (s : Systems) (call : Call) (upload : Upload) : Systems :=
  if call.applies then { s with uploads := s.uploads ++ [upload] } else s

/-- The commit of a deletion. -/
def remove (s : Systems) (call : Call) (uploadId : Uuid) : Systems :=
  if call.applies then { s with uploads := Table.remove Upload.id uploadId s.uploads } else s

end Systems

/-- An exception of an upload. -/
inductive UploadError where
  | refused (refusal : Refusal)
  | raised (exc : Exc)

/-- The calls of one `store_bytes`, in order: those that are not made are not looked at. -/
structure StoreCalls where
  /-- `storage.upload` -/
  upload : Call
  /-- The flush and the commit of the row. -/
  commit : Call
  /-- The compensating `storage.delete`. -/
  undo : Call
  /-- The row is read again after the commit. -/
  refresh : Call

/-- `_safe_delete` — the exception that passes it, if there is one. -/
def safeDelete : Call → Option Exc
  | .failed _ (.other error) => some (.other error)
  | _ => none

/-- `store_bytes` -/
def storeBytesWith (settings : Settings) (user : User) (uploadId : Uuid) (file : Incoming)
    (now : Timestamp) (calls : StoreCalls) (s : Systems) : Systems × Except UploadError Upload :=
  match storeBytes settings user uploadId file now with
  | .error refusal => (s, .error (.refused refusal))
  | .ok upload =>
    let s := s.put calls.upload upload.storageKey
    match calls.upload with
    | .failed _ exc => (s, .error (.raised exc))
    | .done =>
      let s := s.insert calls.commit upload
      match calls.commit with
      | .failed _ _ =>
        let s := s.drop calls.undo upload.storageKey
        match safeDelete calls.undo with
        | some exc => (s, .error (.raised exc))
        | none => (s, .error (.raised (.app ⟨.conflict, "Could not record the upload."⟩)))
      | .done =>
        match calls.refresh with
        | .failed _ exc => (s, .error (.raised exc))
        | .done => (s, .ok upload)

/-- The calls of one `delete`, in order. -/
structure DeleteCalls where
  /-- `storage.delete` -/
  remove : Call
  /-- The flush and the commit of the deletion. -/
  commit : Call

/-- `delete` -/
def deleteWith (user : User) (uploadId : Uuid) (calls : DeleteCalls) (s : Systems) :
    Systems × Except UploadError Unit :=
  match loadOwned s.uploads user uploadId with
  | .error exc => (s, .error (.raised exc))
  | .ok upload =>
    let s := s.drop calls.remove upload.storageKey
    match safeDelete calls.remove with
    | some exc => (s, .error (.raised exc))
    | none =>
      let s := s.remove calls.commit uploadId
      match calls.commit with
      | .failed _ _ =>
        (s, .error (.raised (.app ⟨.conflict, "Could not delete the upload."⟩)))
      | .done => (s, .ok ())

/-! ## Sequences of calls -/

/-- The two systems, the identifiers that were drawn, and the keys of the calls of `store_bytes`
that raised, but for those whose compensating delete failed. -/
structure StorageWorld where
  systems : Systems
  drawn : List Uuid
  withdrawn : List String

/-- One call. An identifier is never drawn twice. -/
inductive StorageLabel where
  | store (user : User) (uploadId : Uuid) (file : Incoming) (now : Timestamp) (calls : StoreCalls)
  | delete (user : User) (uploadId : Uuid) (calls : DeleteCalls)

/-- The compensating delete of a `store_bytes` was called and failed. -/
def StoreCalls.undoFails (calls : StoreCalls) : Bool :=
  calls.upload = .done && calls.commit ≠ .done && calls.undo ≠ .done

/-- The key a `store_bytes` that raised leaves nothing under. -/
def withdrawnKey (settings : Settings) (user : User) (uploadId : Uuid) (file : Incoming)
    (now : Timestamp) (calls : StoreCalls) (s : Systems) : List String :=
  match storeBytes settings user uploadId file now,
      (storeBytesWith settings user uploadId file now calls s).2 with
  | .ok upload, .error _ => if calls.undoFails then [] else [upload.storageKey]
  | _, _ => []

/-- The step function. -/
def storageNext (settings : Settings) (w : StorageWorld) : StorageLabel → Option StorageWorld
  | .store user uploadId file now calls =>
    if w.drawn.contains uploadId then none
    else some {
      systems := (storeBytesWith settings user uploadId file now calls w.systems).1
      drawn := uploadId :: w.drawn
      withdrawn :=
        withdrawnKey settings user uploadId file now calls w.systems ++ w.withdrawn }
  | .delete user uploadId calls =>
    some { w with systems := (deleteWith user uploadId calls w.systems).1 }

/-- Sequences of calls, from empty systems. -/
def storageMachine (settings : Settings) : Machine StorageWorld StorageLabel where
  start w := w = ⟨⟨[], []⟩, [], []⟩
  next := storageNext settings

end MarketingOS.UploadService
