import Mathlib.Data.Option.Basic

/-!
# Grants and their holders

An entry is granted or not, and may name a holder. A log of grants says to whom each key was granted
last. Granting writes both columns and clearing empties both; denying takes the grant back and
leaves the holder, so that the columns agree afterwards only if there was nothing to take back.
-/
namespace MarketingOS.GrantLedger

variable {κ υ : Type}

/-- One entry. -/
structure Entry (κ υ : Type) where
  key : κ
  granted : Bool
  holder : Option υ

/-- What is done to the entries of some keys. -/
inductive Op (κ υ : Type) where
  | enter (keys : List κ)
  | grant (keys : List κ) (holder : υ)
  | clear (keys : List κ)
  | deny (keys : List κ)

/-- The grants an operation makes. -/
def Op.grants : Op κ υ → List (κ × υ)
  | .grant keys holder => keys.map fun key => (key, holder)
  | .enter _ | .clear _ | .deny _ => []

/-- Operations that take no grant back and leave its holder. -/
def Op.Spares (entries : List (Entry κ υ)) : Op κ υ → Prop
  | .deny keys => ∀ entry ∈ entries, entry.key ∈ keys → entry.granted = false
  | .enter _ | .grant _ _ | .clear _ => True

variable [DecidableEq κ]

/-- The holder of the last grant of a key. -/
def latest : List (κ × υ) → κ → Option υ
  | [], _ => none
  | (granted, holder) :: rest, key =>
    (latest rest key).or (if granted = key then some holder else none)

/-- Rewrite the entries of some keys. -/
def update (keys : List κ) (change : Entry κ υ → Entry κ υ) (entries : List (Entry κ υ)) :
    List (Entry κ υ) :=
  entries.map fun entry => if entry.key ∈ keys then change entry else entry

/-- An entry that is granted. -/
def Entry.grantTo (holder : υ) (entry : Entry κ υ) : Entry κ υ :=
  { entry with granted := true, holder := some holder }

/-- An entry that is cleared. -/
def Entry.cleared (entry : Entry κ υ) : Entry κ υ := { entry with granted := false, holder := none }

/-- An entry that is denied. -/
def Entry.denied (entry : Entry κ υ) : Entry κ υ := { entry with granted := false }

/-- The entries after an operation. -/
def Op.apply (entries : List (Entry κ υ)) : Op κ υ → List (Entry κ υ)
  | .enter keys => entries ++ keys.map fun key => ⟨key, false, none⟩
  | .grant keys holder => update keys (Entry.grantTo holder) entries
  | .clear keys => update keys Entry.cleared entries
  | .deny keys => update keys Entry.denied entries

/-- The columns of an entry agree with each other and with the log. -/
def Entry.Sound (log : List (κ × υ)) (entry : Entry κ υ) : Prop :=
  (entry.holder.isSome ↔ entry.granted = true) ∧
    ∀ holder ∈ entry.holder, latest log entry.key = some holder

/-- Every entry is sound. -/
def Sound (log : List (κ × υ)) (entries : List (Entry κ υ)) : Prop :=
  ∀ entry ∈ entries, entry.Sound log

variable {log : List (κ × υ)} {entries : List (Entry κ υ)} {keys : List κ}

/-! ## The last grant -/

/-- A later log comes first. -/
theorem latest_append (early late : List (κ × υ)) (key : κ) :
    latest (early ++ late) key = (latest late key).or (latest early key) := by
  induction early with
  | nil => simp [latest]
  | cons first rest ih => simp only [List.cons_append, latest, ih, Option.or_assoc]

/-- The last of some grants to one holder. -/
theorem latest_grants (keys : List κ) (holder : υ) (key : κ) :
    latest (keys.map fun key => (key, holder)) key = if key ∈ keys then some holder else none := by
  induction keys with
  | nil => rfl
  | cons first rest ih =>
    simp only [List.map_cons, latest, ih, List.mem_cons]
    by_cases same : first = key
    · subst same
      by_cases later : first ∈ rest <;> simp [later]
    · have apart : ¬key = first := fun h => same h.symm
      by_cases later : key ∈ rest <;> simp [same, apart, later]

/-! ## Rewrites -/

/-- A rewritten entry is a kept entry or a rewritten one. -/
theorem mem_update {change : Entry κ υ → Entry κ υ} {entry : Entry κ υ} :
    entry ∈ update keys change entries ↔
      (entry ∈ entries ∧ entry.key ∉ keys) ∨
        ∃ old ∈ entries, old.key ∈ keys ∧ entry = change old := by
  simp only [update, List.mem_map]
  constructor
  · rintro ⟨old, inside, rfl⟩
    by_cases listed : old.key ∈ keys
    · exact .inr ⟨old, inside, listed, if_pos listed⟩
    · rw [if_neg listed]
      exact .inl ⟨inside, listed⟩
  · rintro (⟨inside, other⟩ | ⟨old, inside, listed, rfl⟩)
    · exact ⟨entry, inside, if_neg other⟩
    · exact ⟨old, inside, if_pos listed⟩

/-- No key, no rewrite. -/
@[simp] theorem update_nil (change : Entry κ υ → Entry κ υ) : update [] change entries = entries := by
  simp [update]

/-- Rewriting the entries of one list of keys after another is rewriting those of both, when a
rewrite keeps keys and a second one changes nothing more. -/
theorem update_update (change : Entry κ υ → Entry κ υ) (first later : List κ)
    (keeps : ∀ entry, (change entry).key = entry.key)
    (again : ∀ entry, change (change entry) = change entry) :
    update later change (update first change entries) = update (first ++ later) change entries := by
  simp only [update, List.map_map]
  apply List.map_congr_left
  intro entry _
  by_cases early : entry.key ∈ first <;> by_cases late : entry.key ∈ later <;>
    simp [early, late, keeps, again]

/-! ## What an operation keeps -/

/-- An entry of a key that is not granted again stays sound. -/
theorem Entry.Sound.later {entry : Entry κ υ} (sound : entry.Sound log) {grants : List (κ × υ)}
    (other : latest grants entry.key = none) : entry.Sound (log ++ grants) := by
  refine ⟨sound.1, ?_⟩
  intro holder named
  rw [latest_append, other, Option.none_or]
  exact sound.2 holder named

/-- From a sound ledger, an operation leads to a sound ledger exactly if it denies nothing that is
granted. -/
theorem sound_apply_iff (sound : Sound log entries) (op : Op κ υ) :
    Sound (log ++ op.grants) (op.apply entries) ↔ op.Spares entries := by
  cases op with
  | enter keys =>
    refine iff_of_true ?_ trivial
    intro entry inside
    rw [Op.grants, List.append_nil]
    obtain old | new := List.mem_append.mp inside
    · exact sound entry old
    · obtain ⟨key, -, rfl⟩ := List.mem_map.mp new
      simp [Entry.Sound]
  | grant keys holder =>
    refine iff_of_true ?_ trivial
    intro entry inside
    obtain ⟨old, other⟩ | ⟨old, -, listed, rfl⟩ := mem_update.mp inside
    · apply (sound entry old).later
      rw [Op.grants, latest_grants, if_neg other]
    · refine ⟨by simp [Entry.grantTo], ?_⟩
      intro named same
      obtain rfl := Option.some.inj same
      have key : (old.grantTo holder).key = old.key := rfl
      rw [latest_append, Op.grants, latest_grants, key, if_pos listed, Option.some_or]
  | clear keys =>
    refine iff_of_true ?_ trivial
    intro entry inside
    rw [Op.grants, List.append_nil]
    obtain ⟨old, -⟩ | ⟨old, -, -, rfl⟩ := mem_update.mp inside
    · exact sound entry old
    · simp [Entry.Sound, Entry.cleared]
  | deny keys =>
    rw [Op.grants, List.append_nil]
    constructor
    · intro after entry inside listed
      have denied := after entry.denied (mem_update.mpr (.inr ⟨entry, inside, listed, rfl⟩))
      have empty : ¬entry.holder.isSome := fun held => Bool.false_ne_true (denied.1.mp held)
      exact Bool.eq_false_iff.mpr fun granted => empty ((sound entry inside).1.mpr granted)
    · intro spares entry inside
      obtain ⟨old, -⟩ | ⟨old, member, listed, rfl⟩ := mem_update.mp inside
      · exact sound entry old
      · have same : old.denied = old := by
          rw [Entry.denied, ← spares old member listed]
        rw [same]
        exact sound old member

end MarketingOS.GrantLedger
