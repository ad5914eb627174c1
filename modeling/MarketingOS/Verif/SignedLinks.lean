import MarketingOS.Verif.DownloadLinks
import MarketingOS.Verif.OAuthStates

/-!
# Signatures under one key

Uploads, storage keys and OAuth states are signed with the same secret key. What is signed for one
of them is signed for nothing else, so a signature is accepted where it was made for and nowhere
else. The signature of a state is half a digest, which is shorter than any whole one.
-/
namespace MarketingOS.SignedLinks

open DownloadLink UploadService OAuthState

/-! ## What is signed -/

/-- What is signed for an upload begins with its printed identifier. -/
theorem print_prefix (id : Uuid) (epoch : Nat) :
    ∃ suffix, (uploadSignInput id epoch).toList = (Uuid.print id).toList ++ suffix := by
  by_cases first : epoch = 0
  · rw [uploadSignInput, if_pos first]
    exact ⟨[], (List.append_nil _).symm⟩
  · exact ⟨_, toList_later id first⟩

/-- What is signed for an upload tells the upload and its epoch. -/
theorem uploadSignInput_eq {id id' : Uuid} {epoch epoch' : Nat} :
    uploadSignInput id epoch = uploadSignInput id' epoch' ↔ id = id' ∧ epoch = epoch' := by
  constructor
  · intro same
    obtain ⟨suffix, begins⟩ := print_prefix id epoch
    obtain ⟨suffix', begins'⟩ := print_prefix id' epoch'
    have chars := congrArg String.toList same
    rw [begins, begins'] at chars
    have lengths : (Uuid.print id).toList.length = (Uuid.print id').toList.length := by
      rw [length_print, length_print]
    have prints := (List.append_inj chars lengths).1
    obtain rfl := Uuid.print_injective (String.toList_inj.mp prints)
    exact ⟨rfl, uploadSignInput_injective id same⟩
  · rintro ⟨rfl, rfl⟩
    rfl

/-- What is signed for a storage key tells the key. -/
theorem keySignInput_injective : Function.Injective keySignInput := by
  intro left right same
  have chars := congrArg String.toList same
  rw [keySignInput, keySignInput, String.toList_append, String.toList_append] at chars
  exact String.toList_inj.mp (List.append_cancel_left chars)

/-! ## Where a signature is accepted -/

/-- The links are signed under the key of the states. -/
def linkKeys (states : StateKeys) (parseUuid : String → Option Uuid) : Keyring where
  digest := states.hexdigest
  parseUuid := parseUuid

/-- The by-key route accepts a signature for a storage key. -/
def AcceptedByKey (keys : Keyring) (key sig : String) : Prop :=
  ∃ storageKey, downloadByKey keys key sig = .ok storageKey

/-- The by-key route accepts the signature of the key. -/
theorem acceptedByKey_iff {keys : Keyring} {key sig : String} :
    AcceptedByKey keys key sig ↔ sig = signStorageKey keys key := by
  unfold AcceptedByKey downloadByKey
  by_cases verified : verifyStorageKeySignature keys key sig = true
  · have same : signStorageKey keys key = sig := of_decide_eq_true verified
    simp [verified, same]
  · have other : signStorageKey keys key ≠ sig := fun same => verified (decide_eq_true same)
    simp [verified, notFound, other.symm]

/-- Every signature is accepted where it was made for, and nowhere else. -/
structure Separated (states : StateKeys) (keys : Keyring) : Prop where
  /-- A signature for an upload is accepted for that upload at that epoch only. -/
  upload : ∀ id epoch id' epoch',
    verifyUploadSignature keys id' (signUploadId keys id epoch) epoch' = true ↔
      id' = id ∧ epoch' = epoch
  /-- A signature for a storage key is accepted for that key only. -/
  key : ∀ key key',
    verifyStorageKeySignature keys key' (signStorageKey keys key) = true ↔ key' = key
  /-- The by-key route accepts no signature for an upload. -/
  uploadByKey : ∀ id epoch key, ¬AcceptedByKey keys key (signUploadId keys id epoch)
  /-- The upload route accepts no signature for a storage key. -/
  keyByUpload : ∀ key w id, ¬Accepted keys w id (signStorageKey keys key)
  /-- The by-key route accepts no signature of a state. -/
  stateByKey : ∀ raw key, ¬AcceptedByKey keys key (hmac states raw)
  /-- The upload route accepts no signature of a state. -/
  stateByUpload : ∀ raw w id, ¬Accepted keys w id (hmac states raw)

/-- A signature of a state is no whole digest. -/
theorem hmac_ne_hexdigest {states : StateKeys}
    (long : ∀ raw, 32 < (states.hexdigest raw).toList.length) (raw other : String) :
    hmac states raw ≠ states.hexdigest other := by
  intro same
  have lengths := congrArg (fun text : String => text.toList.length) same
  rw [hmac, String.toList_ofList, List.length_take] at lengths
  have short : min 32 (states.hexdigest raw).toList.length ≤ 32 := Nat.min_le_left _ _
  exact absurd (lengths ▸ short) (Nat.not_le.mpr (long other))

/-- Where different texts have different digests of more than 32 characters, the signatures of
uploads, of storage keys and of states are kept apart, for all identifiers, epochs, storage keys and
signed texts. -/
theorem signatures_separated (states : StateKeys) (parseUuid : String → Option Uuid)
    (injective : Function.Injective states.hexdigest)
    (long : ∀ raw, 32 < (states.hexdigest raw).toList.length) :
    Separated states (linkKeys states parseUuid) where
  upload id epoch id' epoch' := by
    rw [verifyUploadSignature, decide_eq_true_iff]
    exact injective.eq_iff.trans uploadSignInput_eq
  key key key' := by
    rw [verifyStorageKeySignature, decide_eq_true_iff]
    exact injective.eq_iff.trans keySignInput_injective.eq_iff
  uploadByKey id epoch key := by
    rw [acceptedByKey_iff]
    intro same
    exact keySignInput_ne key id epoch (injective same).symm
  keyByUpload key w id := key_not_accepted injective key
  stateByKey raw key := by
    rw [acceptedByKey_iff]
    exact hmac_ne_hexdigest long raw _
  stateByUpload raw w id := by
    rw [accepted_iff]
    rintro ⟨upload, -, same⟩
    exact hmac_ne_hexdigest long raw _ same

/-! ## The development key -/

/-- Digests under the development placeholder of `SECRET_KEY`: of an upload at its first two epochs,
of a storage key and of a state. -/
def recorded : List (String × Nat) :=
  [("7c9e6679-7425-40de-944b-e07fc1f90ae7",
      0x8db18fbdf5f24894ceaccd87ad99706cf7de0eb8bae4d24f5ae6882de51711a3),
    ("7c9e6679-7425-40de-944b-e07fc1f90ae7:1",
      0x79ab2522183a5e80ffe5d46c788a7fdf1118e980c344805be8e84c438fdd2af0),
    ("key:logos/acme.png",
      0x30a94e7f4092265da49881088c716863d86a6e4be33fd095d005e6ff13807a4f),
    ("7c9e6679-7425-40de-944b-e07fc1f90ae7:meta:1700000000",
      0x5ee479d4d48129f70d153211610d41294465a72b4a720a30e9e84618501d4d46)]

/-- The characters of a text, each by the six hexadecimal digits of its code. -/
def writeChars (text : List Char) : List Char := text.flatMap fun c => Digits.write 16 6 c.toNat

/-- Different texts are written differently. -/
theorem writeChars_injective : Function.Injective writeChars := by
  intro left right same
  induction left generalizing right with
  | nil =>
    cases right with
    | nil => rfl
    | cons c rest => exact absurd (congrArg List.length same) (by simp +arith [writeChars])
  | cons c rest ih =>
    cases right with
    | nil => exact absurd (congrArg List.length same) (by simp +arith [writeChars])
    | cons c' rest' =>
      have small (c : Char) : c.toNat < 16 ^ 6 := by
        have valid : c.toNat < 55296 ∨ 57343 < c.toNat ∧ c.toNat < 1114112 := c.valid
        omega
      obtain ⟨first, others⟩ := List.append_inj same (by simp)
      have code := Digits.write_injective (by decide) (by decide) (small c) (small c') first
      rw [Char.toNat_inj.mp code, ih others]

/-- The digits of a recorded digest, and of any other text a longer spelling of its own. -/
def sampleDigits (raw : String) : List Char :=
  match recorded.lookup raw with
  | some digest => Digits.write 16 64 digest
  | none => List.replicate 65 '0' ++ writeChars raw.toList

/-- A recorded digest belongs to one text. -/
theorem recorded_injective {raw other : String} {digest digest' : Nat}
    (one : recorded.lookup raw = some digest) (two : recorded.lookup other = some digest')
    (same : Digits.write 16 64 digest = Digits.write 16 64 digest') : raw = other := by
  have small : ∀ entry ∈ recorded, entry.2 < 16 ^ 64 := by decide
  have apart : ∀ entry ∈ recorded, ∀ entry' ∈ recorded, entry.2 = entry'.2 →
      entry.1 = entry'.1 := by decide +kernel
  have listed {text : String} {n : Nat} (found : recorded.lookup text = some n) :
      (text, n) ∈ recorded := by
    obtain ⟨front, back, split, -⟩ := List.lookup_eq_some_iff.mp found
    rw [split]
    exact List.mem_append_right _ List.mem_cons_self
  have inside := listed one
  have inside' := listed two
  exact apart _ inside _ inside' (Digits.write_injective (by decide) (by decide)
    (small _ inside) (small _ inside') same)

/-- Every sample digest has at least 64 digits. -/
theorem length_sampleDigits (raw : String) : 64 ≤ (sampleDigits raw).length := by
  unfold sampleDigits
  split <;> simp +arith

/-- Different texts have different sample digests. -/
theorem sampleDigits_injective : Function.Injective sampleDigits := by
  intro raw other same
  unfold sampleDigits at same
  split at same
  · next found =>
    split at same
    · next found' => exact recorded_injective found found' same
    · exact absurd (congrArg List.length same) (by simp +arith)
  · split at same
    · exact absurd (congrArg List.length same) (by simp +arith)
    · exact String.toList_inj.mp (writeChars_injective (List.append_cancel_left same))

/-- The development key. -/
def developmentKeys : StateKeys where
  hexdigest raw := String.ofList (sampleDigits raw)
  hexadecimal raw c inside := by
    rw [String.toList_ofList, sampleDigits] at inside
    split at inside
    · exact Digits.digitValue_of_mem_write (by decide) (by decide) inside
    · rcases List.mem_append.mp inside with zero | written
      · rw [List.eq_of_mem_replicate zero]
        rfl
      · obtain ⟨letter, -, digit⟩ := List.mem_flatMap.mp written
        exact Digits.digitValue_of_mem_write (by decide) (by decide) digit
  int := sampleInt
  int_second n _ := sampleInt_toString n

/-- The links under the development key. -/
def developmentLinks : Keyring := linkKeys developmentKeys Uuid.parse

/-- The link of an upload is good for its first epoch and not for the second, and neither the
signature of a storage key nor that of a state is good for an upload. -/
theorem development_links_separated :
    signUploadId developmentLinks OAuthState.sampleClient 0 =
        "8db18fbdf5f24894ceaccd87ad99706cf7de0eb8bae4d24f5ae6882de51711a3" ∧
      verifyUploadSignature developmentLinks OAuthState.sampleClient
        (signUploadId developmentLinks OAuthState.sampleClient 0) 0 = true ∧
      ¬verifyUploadSignature developmentLinks OAuthState.sampleClient
        (signUploadId developmentLinks OAuthState.sampleClient 0) 1 = true ∧
      ¬AcceptedByKey developmentLinks "logos/acme.png"
        (hmac developmentKeys (stateRaw OAuthState.sampleClient .metaAds sampleBegin)) ∧
      ¬Accepted developmentLinks noUploads OAuthState.sampleClient
        (signStorageKey developmentLinks "logos/acme.png") := by
  have injective : Function.Injective developmentKeys.hexdigest := fun left right same =>
    sampleDigits_injective (String.ofList_inj.mp same)
  have long (raw : String) : 32 < (developmentKeys.hexdigest raw).toList.length := by
    show 32 < (String.ofList (sampleDigits raw)).toList.length
    rw [String.toList_ofList]
    exact Nat.lt_of_lt_of_le (by decide) (length_sampleDigits raw)
  have apart := signatures_separated developmentKeys Uuid.parse injective long
  refine ⟨by decide +kernel, (apart.upload _ _ _ _).mpr ⟨rfl, rfl⟩, ?_, apart.stateByKey _ _,
    apart.keyByUpload _ _ _⟩
  intro accepted
  exact absurd ((apart.upload _ _ _ _).mp accepted).2 (by decide)

end MarketingOS.SignedLinks
