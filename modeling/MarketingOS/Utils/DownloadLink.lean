import MarketingOS.Models.Values

/-!
# Download links

The signatures of permanent download links. A link is given as its parts: the endpoint it leads to
and the signature it carries; the base address and the escaping of the query are left out.
-/
namespace MarketingOS.DownloadLink

/-- What the signatures rest on. -/
structure Keyring where
  /-- `_digest`, under the secret key of the settings. -/
  digest : String → String
  /-- `uuid.UUID(text)` -/
  parseUuid : String → Option Uuid

/-- `_upload_sign_input` — the bare identifier at epoch 0. -/
def uploadSignInput (uploadId : Uuid) (epoch : Nat) : String :=
  if epoch = 0 then Uuid.print uploadId else s!"{Uuid.print uploadId}:{epoch}"

variable (keys : Keyring)

/-- `sign_upload_id` -/
def signUploadId (uploadId : Uuid) (epoch : Nat) : String :=
  keys.digest (uploadSignInput uploadId epoch)

/-- `verify_upload_signature` -/
def verifyUploadSignature (uploadId : Uuid) (signature : String) (epoch : Nat) : Bool :=
  keys.digest (uploadSignInput uploadId epoch) = signature

/-- The text signed for a storage key. -/
def keySignInput (key : String) : String := "key:" ++ key

/-- `sign_storage_key` -/
def signStorageKey (key : String) : String := keys.digest (keySignInput key)

/-- `verify_storage_key_signature` -/
def verifyStorageKeySignature (key signature : String) : Bool :=
  keys.digest (keySignInput key) = signature

/-- A link the API hands out. -/
inductive Link where
  /-- `/uploads/<id>/download?sig=<signature>` -/
  | upload (uploadId : Uuid) (signature : String)
  /-- `/uploads/by-key/download?key=<key>&sig=<signature>` -/
  | key (key signature : String)
  /-- An address outside the API. -/
  | external (url : String)
deriving DecidableEq

/-- `upload_permalink`, of an identifier. -/
def uploadPermalink (uploadId : Uuid) (epoch : Nat) : Link :=
  .upload uploadId (signUploadId keys uploadId epoch)

/-- `key_permalink` -/
def keyPermalink (key : String) : Link := .key key (signStorageKey keys key)

/-- The default of `epoch` in `sign_upload_id`, `verify_upload_signature` and `upload_permalink`. -/
def defaultEpoch : Nat := 0

/-- `resolve_logo_url` -/
def resolveLogoUrl (value : Option String) : Option Link :=
  let text := value.getD ""
  if text = "" then none
  else if text.startsWith "http://" ∨ text.startsWith "https://" then some (.external text)
  else
    match keys.parseUuid text with
    | none => some (keyPermalink keys text)
    | some uploadId => some (uploadPermalink keys uploadId defaultEpoch)

/-! ## What is signed -/

/-- A printed identifier has 36 characters. -/
theorem length_print (id : Uuid) : (Uuid.print id).toList.length = 36 := by
  simp [Uuid.print, Uuid.hyphenated]

/-- The characters signed at a later epoch. -/
theorem toList_later (id : Uuid) {epoch : Nat} (later : epoch ≠ 0) :
    (uploadSignInput id epoch).toList =
      (Uuid.print id).toList ++ ':' :: (toString epoch).toList := by
  rw [uploadSignInput, if_neg later]
  simp only [String.toList_append, List.append_assoc]
  rfl

/-- The text signed at a later epoch is longer than the one signed at the first. -/
theorem print_ne_later (id : Uuid) {epoch : Nat} (later : epoch ≠ 0) :
    Uuid.print id ≠ uploadSignInput id epoch := by
  intro same
  have lengths := congrArg (fun text : String => text.toList.length) same
  simp only [toList_later id later, List.length_append, List.length_cons] at lengths
  omega

/-- What is signed for an upload tells its epoch. -/
theorem uploadSignInput_injective (id : Uuid) : Function.Injective (uploadSignInput id) := by
  intro left right same
  by_cases first : left = 0
  · by_cases first' : right = 0
    · rw [first, first']
    · rw [first, uploadSignInput, if_pos rfl] at same
      exact absurd same (print_ne_later id first')
  · by_cases first' : right = 0
    · rw [first'] at same
      rw [show uploadSignInput id 0 = Uuid.print id from rfl] at same
      exact absurd same.symm (print_ne_later id first)
    · have chars := congrArg String.toList same
      rw [toList_later id first, toList_later id first'] at chars
      have digits := (List.cons.inj (List.append_cancel_left chars)).2
      exact Digits.toString_injective (String.toList_inj.mp digits)

/-- A printed identifier begins with a digit. -/
theorem print_begins (id : Uuid) :
    ∃ c rest, (Uuid.print id).toList = c :: rest ∧ (Digits.digitValue c).isSome := by
  rw [Uuid.print, String.toList_ofList]
  cases written : Digits.write 16 32 id.toNat with
  | nil =>
    have length := Digits.length_write 16 32 id.toNat
    rw [written] at length
    cases length
  | cons c rest =>
    have inside : c ∈ Digits.write 16 32 id.toNat := written ▸ List.mem_cons_self
    exact ⟨c, _, rfl, Digits.digitValue_of_mem_write (by decide) (by decide) inside⟩

/-- What is signed for a storage key is signed for no upload. -/
theorem keySignInput_ne (key : String) (id : Uuid) (epoch : Nat) :
    keySignInput key ≠ uploadSignInput id epoch := by
  intro same
  obtain ⟨c, rest, begins, digit⟩ := print_begins id
  have front : ∃ tail, (uploadSignInput id epoch).toList = c :: tail := by
    by_cases first : epoch = 0
    · rw [uploadSignInput, if_pos first]
      exact ⟨rest, begins⟩
    · rw [toList_later id first, begins]
      exact ⟨_, rfl⟩
  obtain ⟨tail, front⟩ := front
  have chars := congrArg String.toList same
  rw [front, keySignInput, String.toList_append] at chars
  have letter : 'k' = c := (List.cons.inj chars).1
  rw [← letter] at digit
  exact absurd digit (by decide)

end MarketingOS.DownloadLink
