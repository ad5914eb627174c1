import MarketingOS.Base.EpochTokens
import MarketingOS.Services.Upload

/-!
# Download links that work and links that are revoked

The uploads are resources of an epoch machine: storing a file creates one, `regenerate_link` raises
its epoch, and every read hands out signatures at the row's epoch or at the default one.
-/
namespace MarketingOS.UploadService

open DownloadLink EpochTokens

variable {keys : Keyring} {settings : Settings} {w w' : World} {uploadId : Uuid} {sig : String}

/-- The download endpoint accepts a signature for an upload. -/
def Accepted (keys : Keyring) (w : World) (uploadId : Uuid) (sig : String) : Prop :=
  ∃ storageKey, downloadUpload keys w.uploads uploadId sig = .ok storageKey

/-- A signature is accepted when the upload exists and it was made at the row's epoch. -/
theorem accepted_iff : Accepted keys w uploadId sig ↔
    ∃ upload, get w.uploads uploadId = some upload ∧
      sig = signUploadId keys uploadId upload.linkEpoch := by
  unfold Accepted downloadUpload
  cases get w.uploads uploadId with
  | none => simp [notFound]
  | some upload =>
    by_cases verified : verifyUploadSignature keys uploadId sig upload.linkEpoch = true
    · have same : signUploadId keys uploadId upload.linkEpoch = sig := of_decide_eq_true verified
      simp [verified, same]
    · have other : signUploadId keys uploadId upload.linkEpoch ≠ sig := fun same =>
        verified (decide_eq_true same)
      simp [verified, notFound, other.symm]

/-- Signatures of one upload at different epochs differ. -/
theorem sign_injective (injective : Function.Injective keys.digest) (uploadId : Uuid) :
    Function.Injective (signUploadId keys uploadId) :=
  injective.comp (uploadSignInput_injective uploadId)

/-- A signature for a storage key is accepted for no upload. -/
theorem key_not_accepted (injective : Function.Injective keys.digest) (key : String) :
    ¬Accepted keys w uploadId (signStorageKey keys key) := by
  rw [accepted_iff]
  rintro ⟨upload, -, same⟩
  exact keySignInput_ne key uploadId upload.linkEpoch (injective same)

/-! ## Rows after a step -/

/-- Every upload has an identifier that was drawn. -/
def Drawn (w : World) : Prop := ∀ upload ∈ w.uploads, upload.id ∈ w.drawn

/-- A row of a file that is new. -/
theorem get_append {uploads : List Upload} {new : Upload} (fresh : get uploads new.id = none)
    (other : Uuid) :
    get (uploads ++ [new]) other = if other = new.id then some new else get uploads other := by
  unfold get Table.get at fresh ⊢
  rw [List.find?_append]
  by_cases same : other = new.id
  · subst same
    simp [fresh]
  · have apart : ¬new.id = other := fun h => same h.symm
    simp [same, apart]

/-- A row after a regeneration. -/
theorem get_bumped (uploads : List Upload) (uploadId other : Uuid) :
    get (Table.modify Upload.id uploadId bumped uploads) other =
      (get uploads other).map fun upload =>
        if upload.id = uploadId then bumped upload else upload := by
  apply Table.get_modify_of_keeps
  exact fun _ => rfl

/-- A row after a deletion. -/
theorem get_removed (uploads : List Upload) (uploadId other : Uuid) :
    get (Table.remove Upload.id uploadId uploads) other =
      if other = uploadId then none else get uploads other := by
  split
  · next same =>
    rw [same]
    exact Table.get_remove_same uploads uploadId
  · next apart => exact Table.get_remove_other uploads apart

/-- An upload a user may load is there. -/
theorem get_of_loadOwned {uploads : List Upload} {user : User} {upload : Upload}
    (loaded : loadOwned uploads user uploadId = .ok upload) : get uploads uploadId = some upload := by
  unfold loadOwned at loaded
  split at loaded
  · cases loaded
  · next found =>
    split at loaded
    · cases loaded
    · cases loaded
      exact found

/-- A step is one of four. -/
theorem next_cases {label : Label} (taken : next settings w label = some w') :
    (∃ user uploadId file now upload, label = .store user uploadId file now ∧
      storeBytes settings user uploadId file now = .ok upload ∧ uploadId ∉ w.drawn ∧
      w' = ⟨w.uploads ++ [upload], uploadId :: w.drawn⟩) ∨
    (∃ user uploadId upload, label = .regenerate user uploadId ∧
      get w.uploads uploadId = some upload ∧
      regenerateLink w.uploads user uploadId = .ok (bumped upload) ∧
      w' = { w with uploads := Table.modify Upload.id uploadId bumped w.uploads }) ∨
    (∃ user uploadId, label = .delete user uploadId ∧
      w' = { w with uploads := Table.remove Upload.id uploadId w.uploads }) ∨
    ∃ read, label = .read read ∧ w' = w := by
  cases label with
  | store user uploadId file now =>
    simp only [next] at taken
    split at taken
    · cases taken
    · next upload made =>
      simp only [Option.ite_none_left_eq_some, Option.some.injEq, List.any_eq_true,
        decide_eq_true_eq, exists_eq_right] at taken
      exact .inl ⟨user, uploadId, file, now, upload, rfl, made, taken.1, taken.2.symm⟩
  | regenerate user uploadId =>
    simp only [next] at taken
    split at taken
    · cases taken
    · next regenerated =>
      have made := regenerated
      unfold regenerateLink at made
      cases loaded : loadOwned w.uploads user uploadId with
      | error e =>
        rw [loaded] at made
        cases made
      | ok upload =>
        refine .inr (.inl ⟨user, uploadId, upload, rfl, get_of_loadOwned loaded, ?_, ?_⟩)
        · rw [regenerateLink, loaded]
          rfl
        · exact (Option.some.inj taken).symm
  | delete user uploadId =>
    simp only [next] at taken
    split at taken
    · cases taken
    · exact .inr (.inr (.inl ⟨user, uploadId, rfl, (Option.some.inj taken).symm⟩))
  | read read => exact .inr (.inr (.inr ⟨read, rfl, (Option.some.inj taken).symm⟩))

/-- The row of a new file. -/
theorem id_of_storeBytes {user : User} {file : Incoming} {now : Timestamp} {upload : Upload}
    (made : storeBytes settings user uploadId file now = .ok upload) :
    upload.id = uploadId ∧ upload.linkEpoch = 0 := by
  unfold storeBytes at made
  cases valid : validate settings file.filename file.contentType file.sizeBytes with
  | error refusal =>
    rw [valid] at made
    cases made
  | ok _ =>
    rw [valid] at made
    cases made
    exact ⟨rfl, rfl⟩

/-- Every step leaves drawn identifiers. -/
theorem Drawn.next (drawn : Drawn w) {label : Label} (taken : next settings w label = some w') :
    Drawn w' := by
  intro upload inside
  rcases next_cases taken with ⟨user, uploadId, file, now, new, rfl, made, -, rfl⟩ |
    ⟨user, uploadId, -, rfl, -, -, rfl⟩ | ⟨user, uploadId, rfl, rfl⟩ | ⟨read, rfl, rfl⟩
  · rcases List.mem_append.mp inside with old | self
    · exact List.mem_cons_of_mem _ (drawn upload old)
    · rw [List.mem_singleton.mp self, (id_of_storeBytes made).1]
      exact List.mem_cons_self
  · rcases Table.mem_modify.mp inside with ⟨old, -⟩ | ⟨old, member, -, rfl⟩
    · exact drawn upload old
    · exact drawn old member
  · exact drawn upload (List.mem_of_mem_filter inside)
  · exact drawn upload inside

/-- An identifier that was not drawn stands for no upload. -/
theorem Drawn.get_none (drawn : Drawn w) (fresh : uploadId ∉ w.drawn) :
    get w.uploads uploadId = none := by
  cases found : get w.uploads uploadId with
  | none => rfl
  | some upload =>
    have named : upload.id = uploadId := Table.get_key found
    exact absurd (named ▸ drawn upload (Table.get_mem found)) fresh

/-! ## What a read hands out -/

/-- Whether a request makes its links from the row's epoch; the others go by the default. -/
def Read.carriesEpoch : Read → Bool
  | .upload _ _ | .ticket _ => true
  | .message _ | .logo _ => false

/-- What a list of attachments is read as. -/
theorem mem_of_mapM {records : List AttachmentRecord} {reads : List AssistantAttachmentRead}
    (made : records.mapM (attachmentRead keys) = .ok reads) {read : AssistantAttachmentRead}
    (inside : read ∈ reads) : ∃ record ∈ records, attachmentRead keys record = .ok read := by
  induction records generalizing reads with
  | nil =>
    cases made
    cases inside
  | cons record rest ih =>
    rw [List.mapM_cons] at made
    obtain ⟨first, one, made⟩ := Outcome.bind_ok.mp made
    obtain ⟨others, more, made⟩ := Outcome.bind_ok.mp made
    cases made
    rcases List.mem_cons.mp inside with rfl | later
    · exact ⟨record, List.mem_cons_self, one⟩
    · obtain ⟨other, listed, same⟩ := ih more later
      exact ⟨other, List.mem_cons_of_mem _ listed, same⟩

/-- A signature among links is that of an upload's link. -/
theorem mem_signatures {found : List Link} :
    (uploadId, sig) ∈ signatures found ↔ .upload uploadId sig ∈ found := by
  simp only [signatures, List.mem_filterMap]
  constructor
  · rintro ⟨link, inside, same⟩
    split at same
    · cases same
      exact inside
    · cases same
  · intro inside
    exact ⟨_, inside, rfl⟩

/-- Every link of a read to an upload is signed at the epoch of its row, or at the default one. -/
theorem epoch_of_links {read : Read} {found : List Link}
    (made : links keys w.uploads read = .ok found) (inside : (uploadId, sig) ∈ signatures found) :
    ∃ epoch, sig = signUploadId keys uploadId epoch ∧
      if read.carriesEpoch then ∃ upload, get w.uploads uploadId = some upload ∧
        upload.linkEpoch = epoch
      else epoch = defaultEpoch := by
  rw [mem_signatures] at inside
  cases read with
  | upload user sought =>
    simp only [links] at made
    cases loaded : loadOwned w.uploads user sought with
    | error e =>
      rw [loaded] at made
      cases made
    | ok upload =>
      rw [loaded] at made
      cases made
      cases List.mem_singleton.mp inside
      have found := get_of_loadOwned loaded
      have named : upload.id = sought := Table.get_key found
      exact ⟨upload.linkEpoch, rfl, upload, named ▸ found, rfl⟩
  | message attachments =>
    simp only [links] at made
    cases mapped : attachments.mapM (attachmentRead keys) with
    | error e =>
      rw [mapped] at made
      cases made
    | ok reads =>
      rw [mapped] at made
      cases made
      obtain ⟨read, listed, same⟩ := List.mem_map.mp inside
      obtain ⟨record, -, one⟩ := mem_of_mapM mapped listed
      obtain ⟨parsed, -, one⟩ := Outcome.bind_ok.mp one
      cases one
      cases same
      exact ⟨defaultEpoch, rfl, rfl⟩
  | ticket uploadIds =>
    cases made
    obtain ⟨upload, listed, same⟩ := List.mem_map.mp inside
    obtain ⟨sought, -, found⟩ := List.mem_filterMap.mp listed
    cases same
    have named : upload.id = sought := Table.get_key found
    exact ⟨upload.linkEpoch, rfl, upload, named ▸ found, rfl⟩
  | logo value =>
    cases made
    rw [Option.mem_toList] at inside
    unfold resolveLogoUrl at inside
    dsimp only at inside
    split at inside
    · cases inside
    · split at inside
      · cases inside
      · split at inside
        · cases inside
        · cases inside
          exact ⟨defaultEpoch, rfl, rfl⟩

/-- Whether a request makes its links from the row's epoch. -/
def Label.carriesEpoch : Label → Bool
  | .read sent => sent.carriesEpoch
  | _ => true

/-- Every link a request hands out to an upload is signed at the epoch its row has afterwards, or at
the default one. -/
theorem epoch_of_issued {label : Label} (drawn : Drawn w)
    (taken : next settings w label = some w')
    (inside : (uploadId, sig) ∈ issued keys settings w label) :
    ∃ epoch, sig = signUploadId keys uploadId epoch ∧
      if label.carriesEpoch then ∃ upload, get w'.uploads uploadId = some upload ∧
        upload.linkEpoch = epoch
      else epoch = defaultEpoch := by
  rcases next_cases taken with ⟨user, newId, file, now, new, rfl, made, fresh, rfl⟩ |
    ⟨user, sought, upload, rfl, found, regenerated, rfl⟩ | ⟨user, sought, rfl, rfl⟩ |
    ⟨read, rfl, rfl⟩
  · simp only [issued, made, mem_signatures, List.mem_singleton] at inside
    cases inside
    refine ⟨new.linkEpoch, rfl, new, ?_, rfl⟩
    have unused : get w.uploads new.id = none := by
      rw [(id_of_storeBytes made).1]
      exact drawn.get_none fresh
    rw [get_append unused, if_pos rfl]
  · simp only [issued, regenerated, mem_signatures, List.mem_singleton] at inside
    cases inside
    have named : upload.id = sought := Table.get_key found
    refine ⟨upload.linkEpoch + 1, rfl, bumped upload, ?_, rfl⟩
    rw [get_bumped, show (bumped upload).id = sought from named, found, Option.map_some,
      if_pos named]
  · cases inside
  · simp only [issued] at inside
    split at inside
    · cases inside
    · next made => exact epoch_of_links made inside

/-- Of what a request hands out to an upload that exists, the download endpoint accepts what is made
from the row's epoch, and what is made from the default one as long as that is the row's epoch. -/
theorem accepted_of_issued (injective : Function.Injective keys.digest) {label : Label}
    {upload : Upload} (drawn : Drawn w) (taken : next settings w label = some w')
    (inside : (uploadId, sig) ∈ issued keys settings w label)
    (found : get w'.uploads uploadId = some upload) :
    Accepted keys w' uploadId sig ↔ label.carriesEpoch = true ∨ upload.linkEpoch = 0 := by
  obtain ⟨epoch, signed, made⟩ := epoch_of_issued drawn taken inside
  have accepts : Accepted keys w' uploadId sig ↔ epoch = upload.linkEpoch := by
    rw [accepted_iff, signed]
    constructor
    · rintro ⟨other, stands, same⟩
      obtain rfl := Option.some.inj (found.symm.trans stands)
      exact sign_injective injective uploadId same
    · rintro rfl
      exact ⟨upload, found, rfl⟩
  rw [accepts]
  cases carries : label.carriesEpoch with
  | true =>
    rw [carries, if_pos rfl] at made
    obtain ⟨row, stands, same⟩ := made
    obtain rfl := Option.some.inj (found.symm.trans stands)
    simp [same]
  | false =>
    rw [carries, if_neg Bool.false_ne_true] at made
    simp only [made, defaultEpoch, Bool.false_eq_true, false_or]
    exact eq_comm

/-! ## The epoch machine -/

/-- The epochs of the uploads, the identifiers that were drawn and the signatures handed out. -/
def view (s : World × List (Uuid × String)) : State Uuid String where
  epoch uploadId := (get s.1.uploads uploadId).map Upload.linkEpoch
  used := s.1.drawn
  issued := s.2

/-- The download endpoint accepts what the epoch machine accepts. -/
theorem accepted_iff_accepts {log : List (Uuid × String)} :
    Accepted keys w uploadId sig ↔ Accepts (signUploadId keys) (view (w, log)) uploadId sig := by
  rw [accepted_iff]
  constructor
  · rintro ⟨upload, found, signed⟩
    exact ⟨upload.linkEpoch, congrArg (Option.map Upload.linkEpoch) found, signed⟩
  · rintro ⟨epoch, stands, signed⟩
    obtain ⟨upload, found, rfl⟩ := Option.map_eq_some_iff.mp stands
    exact ⟨upload, found, signed⟩

/-- Histories with a log of the signatures. -/
def handing (keys : Keyring) (settings : Settings) : Machine (World × List (Uuid × String)) Label :=
  (machine settings).logged (issued keys settings)

/-- A step of a history, without its log. -/
theorem next_of_handing {s s' : World × List (Uuid × String)} {label : Label}
    (taken : (handing keys settings).next s label = some s') :
    ∃ w', next settings s.1 label = some w' ∧
      s' = (w', s.2 ++ issued keys settings s.1 label) := by
  obtain ⟨w', moved, same⟩ := Option.map_eq_some_iff.mp taken
  exact ⟨w', moved, same.symm⟩

/-- `regenerate_link` raises the epoch of the upload. -/
theorem bump_of_regenerate {user : User} {s s' : World × List (Uuid × String)}
    (taken : (handing keys settings).next s (.regenerate user uploadId) = some s') :
    (EpochTokens.machine (signUploadId keys)).next (view s) (.bump uploadId) = some (view s') := by
  obtain ⟨w', moved, rfl⟩ := next_of_handing taken
  rcases next_cases moved with ⟨_, _, _, _, _, wrong, -⟩ |
    ⟨user', sought, upload, same, found, regenerated, rfl⟩ | ⟨_, _, wrong, -⟩ | ⟨_, wrong, -⟩
  · cases wrong
  · cases same
    have named : upload.id = uploadId := Table.get_key found
    have current : (view s).epoch uploadId = some upload.linkEpoch :=
      congrArg (Option.map Upload.linkEpoch) found
    refine Option.map_eq_some_iff.mpr ⟨upload.linkEpoch, current, ?_⟩
    have epochs : Function.update (view s).epoch uploadId (some (upload.linkEpoch + 1)) =
        fun other => (get (Table.modify Upload.id uploadId bumped s.1.uploads) other).map
          Upload.linkEpoch := by
      funext other
      rw [get_bumped]
      by_cases hit : other = uploadId
      · subst hit
        rw [Function.update_self, found]
        simp [named, bumped]
      · rw [Function.update_of_ne hit]
        show (get s.1.uploads other).map _ = _
        cases stands : get s.1.uploads other with
        | none => rfl
        | some row =>
          have own : row.id = other := Table.get_key stands
          have apart : row.id ≠ uploadId := fun same => hit (own.symm.trans same)
          simp [apart]
    have logged : issued keys settings s.1 (.regenerate user uploadId) =
        [(uploadId, signUploadId keys uploadId (upload.linkEpoch + 1))] := by
      simp only [issued, regenerated]
      exact congrArg (fun name => [(name, signUploadId keys name (upload.linkEpoch + 1))]) named
    rw [logged]
    show State.mk (Function.update (view s).epoch uploadId _) s.1.drawn _ = State.mk _ s.1.drawn _
    rw [epochs]
    rfl
  · cases wrong
  · cases wrong

/-- Storing a file creates a resource. -/
theorem create_of_store {user : User} {file : Incoming} {now : Timestamp}
    {s s' : World × List (Uuid × String)} (drawn : Drawn s.1)
    (taken : (handing keys settings).next s (.store user uploadId file now) = some s') :
    (EpochTokens.machine (signUploadId keys)).next (view s) (.create uploadId) =
      some (view s') := by
  obtain ⟨w', moved, rfl⟩ := next_of_handing taken
  rcases next_cases moved with ⟨_, _, _, _, new, same, made, fresh, rfl⟩ |
    ⟨_, _, _, wrong, -⟩ | ⟨_, _, wrong, -⟩ | ⟨_, wrong, -⟩
  · cases same
    obtain ⟨named, first⟩ := id_of_storeBytes made
    have unused : get s.1.uploads new.id = none := named ▸ drawn.get_none fresh
    have epochs : Function.update (view s).epoch uploadId (some 0) =
        fun other => (get (s.1.uploads ++ [new]) other).map Upload.linkEpoch := by
      funext other
      rw [get_append unused, named]
      by_cases hit : other = uploadId
      · subst hit
        rw [Function.update_self, if_pos rfl, Option.map_some, first]
      · rw [Function.update_of_ne hit, if_neg hit]
        rfl
    have logged : issued keys settings s.1 (.store user uploadId file now) =
        [(uploadId, signUploadId keys uploadId 0)] := by
      simp only [issued, made]
      show [(new.id, signUploadId keys new.id new.linkEpoch)] = _
      rw [named, first]
    show (if uploadId ∈ s.1.drawn then none else _) = _
    rw [if_neg fresh, logged]
    show some (State.mk (Function.update (view s).epoch uploadId _) (uploadId :: s.1.drawn) _) =
      some (State.mk _ (uploadId :: s.1.drawn) _)
    rw [epochs]
    rfl
  · cases wrong
  · cases wrong
  · cases wrong

/-- Deleting an upload drops a resource. -/
theorem drop_of_delete {user : User} {s s' : World × List (Uuid × String)}
    (taken : (handing keys settings).next s (.delete user uploadId) = some s') :
    (EpochTokens.machine (signUploadId keys)).next (view s) (.drop uploadId) =
      some (view s') := by
  obtain ⟨w', moved, rfl⟩ := next_of_handing taken
  rcases next_cases moved with ⟨_, _, _, _, _, wrong, -⟩ | ⟨_, _, _, wrong, -⟩ |
    ⟨user', sought, same, rfl⟩ | ⟨_, wrong, -⟩
  · cases wrong
  · cases wrong
  · cases same
    have epochs : Function.update (view s).epoch uploadId none =
        fun other => (get (Table.remove Upload.id uploadId s.1.uploads) other).map
          Upload.linkEpoch := by
      funext other
      rw [get_removed]
      by_cases hit : other = uploadId
      · rw [hit, Function.update_self, if_pos rfl, Option.map_none]
      · rw [Function.update_of_ne hit, if_neg hit]
        rfl
    show some (State.mk (Function.update (view s).epoch uploadId none) s.1.drawn s.2) =
      some (State.mk _ s.1.drawn (s.2 ++ []))
    rw [epochs, List.append_nil]
  · cases wrong

/-- Entries that are each signed at an allowed epoch are what some tokens are signed as. -/
theorem tokens_of_entries (allowed : Uuid → Nat → Prop) {entries : List (Uuid × String)}
    (signed : ∀ entry ∈ entries, ∃ epoch, entry.2 = signUploadId keys entry.1 epoch ∧
      allowed entry.1 epoch) :
    ∃ tokens : List (Uuid × Nat),
      (tokens.map fun token => (token.1, signUploadId keys token.1 token.2)) = entries ∧
      ∀ token ∈ tokens, allowed token.1 token.2 := by
  induction entries with
  | nil => exact ⟨[], rfl, fun token inside => absurd inside List.not_mem_nil⟩
  | cons entry rest ih =>
    obtain ⟨epoch, same, fits⟩ := signed entry List.mem_cons_self
    obtain ⟨tokens, made, all⟩ := ih fun other inside => signed other (List.mem_cons_of_mem _ inside)
    refine ⟨(entry.1, epoch) :: tokens, ?_, ?_⟩
    · rw [List.map_cons, made, ← same]
    · intro token inside
      rcases List.mem_cons.mp inside with rfl | inside
      · exact fits
      · exact all token inside

/-- A read issues tokens. -/
theorem issue_of_read {sent : Read} {s s' : World × List (Uuid × String)} (drawn : Drawn s.1)
    (taken : (handing keys settings).next s (.read sent) = some s') :
    ∃ tokens, (EpochTokens.machine (signUploadId keys)).next (view s) (.issue tokens) =
      some (view s') := by
  obtain rfl : (s.1, s.2 ++ issued keys settings s.1 (.read sent)) = s' := Option.some.inj taken
  have moved : next settings s.1 (.read sent) = some s.1 := rfl
  have signed : ∀ entry ∈ issued keys settings s.1 (.read sent),
      ∃ epoch, entry.2 = signUploadId keys entry.1 epoch ∧
        (epoch = 0 ∨ (view s).epoch entry.1 = some epoch) := by
    intro entry inside
    obtain ⟨epoch, signed, made⟩ := epoch_of_issued drawn moved inside
    refine ⟨epoch, signed, ?_⟩
    split at made
    · obtain ⟨upload, found, rfl⟩ := made
      exact .inr (congrArg (Option.map Upload.linkEpoch) found)
    · exact .inl made
  obtain ⟨tokens, made, fair⟩ := tokens_of_entries
    (fun name epoch => epoch = 0 ∨ (view s).epoch name = some epoch) signed
  refine ⟨tokens, ?_⟩
  show (if _ then _ else none) = _
  rw [if_pos fair, made]
  rfl

/-- The epoch machine simulates the uploads. -/
def epochs (keys : Keyring) (settings : Settings) : Machine.Simulation (handing keys settings)
    (EpochTokens.machine (signUploadId keys)) Machine.anyStep Machine.anyStep where
  view := view
  invariant s := Drawn s.1
  start := by
    rintro ⟨w, log⟩ ⟨empty, none⟩
    have noUploads : w.uploads = [] := empty
    refine ⟨⟨fun uploadId => ?_, none⟩, fun upload inside => ?_⟩
    · show (get w.uploads uploadId).map Upload.linkEpoch = Option.none
      rw [noUploads]
      rfl
    · rw [noUploads] at inside
      cases inside
  step := by
    intro s label s' drawn _ taken
    refine ⟨?_, .inr ?_⟩
    · obtain ⟨w', moved, rfl⟩ := next_of_handing taken
      exact drawn.next moved
    cases label with
    | store user uploadId file now => exact ⟨_, trivial, create_of_store drawn taken⟩
    | regenerate user uploadId => exact ⟨_, trivial, bump_of_regenerate taken⟩
    | delete user uploadId => exact ⟨_, trivial, drop_of_delete taken⟩
    | read sent =>
      obtain ⟨tokens, moved⟩ := issue_of_read drawn taken
      exact ⟨_, trivial, moved⟩

/-! ## Every history -/

/-- Every upload of a history has an identifier that was drawn. -/
theorem drawn_of_reachable (reached : (machine settings).Reachable Machine.anyStep w) : Drawn w := by
  apply reached.invariant Drawn
  · intro w empty upload inside
    rw [show w.uploads = [] from empty] at inside
    cases inside
  · exact fun w label w' drawn _ taken => drawn.next taken

/-- In every history of uploads, regenerations, deletions and reads: of the links a request hands
out to an upload that exists, the download endpoint accepts in the state after it exactly those made
from the row's epoch and those to an upload whose link was never regenerated; and no signature
handed out for an upload before its link is regenerated is ever accepted again. -/
theorem links_work_and_die (injective : Function.Injective keys.digest) :
    (∀ w label w' uploadId sig upload, (machine settings).Reachable Machine.anyStep w →
      (machine settings).next w label = some w' →
      (uploadId, sig) ∈ issued keys settings w label → get w'.uploads uploadId = some upload →
      (Accepted keys w' uploadId sig ↔ label.carriesEpoch = true ∨ upload.linkEpoch = 0)) ∧
    ∀ w log user uploadId sig w' labels last,
      (handing keys settings).Reachable Machine.anyStep (w, log) → (uploadId, sig) ∈ log →
      (machine settings).next w (.regenerate user uploadId) = some w' →
      (machine settings).Run Machine.anyStep w' labels last → ¬Accepted keys last uploadId sig := by
  refine ⟨?_, ?_⟩
  · intro w label w' uploadId sig upload reached taken inside found
    exact accepted_of_issued injective (drawn_of_reachable reached) taken inside found
  · intro w log user uploadId sig w' labels last reached handed taken run accepted
    obtain ⟨abstract, drawn⟩ := (epochs keys settings).reachable reached
    have regenerated : (handing keys settings).next (w, log) (.regenerate user uploadId) =
        some (w', log ++ issued keys settings w (.regenerate user uploadId)) :=
      Option.map_eq_some_iff.mpr ⟨w', taken, rfl⟩
    have bumped := bump_of_regenerate regenerated
    obtain ⟨later, logged⟩ := run.log (log ++ issued keys settings w (.regenerate user uploadId))
    have moved : next settings w (.regenerate user uploadId) = some w' := taken
    have drawn' : Drawn w' := Drawn.next drawn moved
    have before : (epochs keys settings).invariant
        (w', log ++ issued keys settings w (.regenerate user uploadId)) := drawn'
    obtain ⟨seen, abstractRun⟩ := (epochs keys settings).run before logged
    refine revoked_for_good (sign_injective injective) abstract handed bumped abstractRun ?_
    exact accepted_iff_accepts.mp accepted

/-- A digest that is its text, and identifiers in their printed form. -/
def plainKeys : Keyring := ⟨id, Uuid.parse⟩

/-- Settings that allow every file of up to a hundred bytes. -/
def smallFiles : Settings := ⟨.ascii, none, "uploads", 100, ["*"]⟩

/-- An admin. -/
def owner : User := ⟨1, "admin@example.com", "Admin", .admin, true, 0⟩

/-- A picture. -/
def picture : Incoming := ⟨"logo.png", "image/png", 10, none, none⟩

/-- The record of the picture in a chat message. -/
def pictureRecord : AttachmentRecord :=
  ⟨Uuid.print 7, some "logo.png", some "image/png", some 10⟩

/-- The empty table. -/
def noUploads : World := ⟨[], []⟩

/-- After a regeneration the new link of the upload is accepted, and the first one is not. -/
theorem links_work_and_die_once : ∃ w w',
    (machine smallFiles).Run Machine.anyStep noUploads [.store owner 7 picture 0] w ∧
      (machine smallFiles).next w (.regenerate owner 7) = some w' ∧
      Accepted plainKeys w' 7 (signUploadId plainKeys 7 1) ∧
      ¬Accepted plainKeys w' 7 (signUploadId plainKeys 7 0) := by
  have injective : Function.Injective plainKeys.digest := Function.injective_id
  obtain ⟨works, dies⟩ := @links_work_and_die plainKeys smallFiles injective
  obtain ⟨w, w', upload, stored, taken, found, handed, first⟩ : ∃ w w' upload,
      (machine smallFiles).next noUploads (.store owner 7 picture 0) = some w ∧
      (machine smallFiles).next w (.regenerate owner 7) = some w' ∧
      get w'.uploads 7 = some upload ∧
      (7, signUploadId plainKeys 7 1) ∈ issued plainKeys smallFiles w (.regenerate owner 7) ∧
      issued plainKeys smallFiles noUploads (.store owner 7 picture 0) =
        [(7, signUploadId plainKeys 7 0)] :=
    ⟨_, _, _, rfl, rfl, rfl, List.mem_singleton_self _, rfl⟩
  have run : (machine smallFiles).Run Machine.anyStep noUploads [.store owner 7 picture 0] w :=
    .cons trivial stored (.nil _)
  refine ⟨w, w', run, taken, ?_, ?_⟩
  · exact (works w _ w' 7 _ upload ⟨noUploads, _, rfl, run⟩ taken handed found).mpr (.inl rfl)
  · have logged : (handing plainKeys smallFiles).next (noUploads, []) (.store owner 7 picture 0) =
        some (w, [(7, signUploadId plainKeys 7 0)]) := by
      show ((machine smallFiles).next noUploads (.store owner 7 picture 0)).map (fun after =>
        (after, [] ++ issued plainKeys smallFiles noUploads (.store owner 7 picture 0))) = _
      rw [stored, first]
      rfl
    have reached : (handing plainKeys smallFiles).Reachable Machine.anyStep
        (w, [(7, signUploadId plainKeys 7 0)]) :=
      ⟨(noUploads, []), _, ⟨rfl, rfl⟩, .cons trivial logged (.nil _)⟩
    exact dies w _ owner 7 _ w' [] w' reached (List.mem_singleton_self _) taken (.nil _)

/-- After a regeneration the chat message and the client's logo still carry the revoked link. -/
theorem dead_links_handed_out :
    ∃ w, (machine smallFiles).Run Machine.anyStep noUploads
        [.store owner 7 picture 0, .regenerate owner 7] w ∧
      (∃ upload, get w.uploads 7 = some upload) ∧
      links plainKeys w.uploads (.message [pictureRecord]) =
        .ok [.upload 7 (signUploadId plainKeys 7 0)] ∧
      links plainKeys w.uploads (.logo (some (Uuid.print 7))) =
        .ok [.upload 7 (signUploadId plainKeys 7 0)] ∧
      ¬Accepted plainKeys w 7 (signUploadId plainKeys 7 0) := by
  obtain ⟨w, played, upload, found, message, logo, refused⟩ : ∃ w,
      (machine smallFiles).play Machine.anyStep noUploads
        [.store owner 7 picture 0, .regenerate owner 7] = some w ∧
      ∃ upload, get w.uploads 7 = some upload ∧
        links plainKeys w.uploads (.message [pictureRecord]) =
          .ok [.upload 7 (signUploadId plainKeys 7 0)] ∧
        links plainKeys w.uploads (.logo (some (Uuid.print 7))) =
          .ok [.upload 7 (signUploadId plainKeys 7 0)] ∧
        downloadUpload plainKeys w.uploads 7 (signUploadId plainKeys 7 0) =
          notFound "Upload not found." :=
    ⟨_, rfl, _, rfl, by decide +kernel, by decide +kernel, by decide +kernel⟩
  refine ⟨w, Machine.run_of_play played, ⟨upload, found⟩, message, logo, ?_⟩
  rintro ⟨key, accepted⟩
  rw [refused] at accepted
  cases accepted

end MarketingOS.UploadService
