import MarketingOS.Services.Intelligence.Service

/-!
# Capability flags of a set of directives

What the fold of capability flags finds under a flag: something exactly when some directive carries
the flag, and for boolean flags `false` exactly when some directive says so. The order of the
directives does not matter then.
-/
namespace MarketingOS.Intelligence

/-- Every value the dictionaries have under a flag is a boolean. -/
def Switches (all : List Flags) (flag : String) : Prop :=
  ∀ flags ∈ all, ∀ value, flags.get flag = some value → ∃ b, value = .bool b

/-- A lookup after the flags of one more directive. -/
theorem get_foldFlags (flags added : Flags) (flag : String) :
    (foldFlags flags added).get flag =
      match added.get flag with
      | none => flags.get flag
      | some value => some (mergeValue (flags.get flag) value) := by
  rw [foldFlags, Dict.get_merge]
  cases added.get flag with
  | none => rfl
  | some value => rfl

/-- The folded flags of a list with one more directive. -/
theorem foldl_foldFlags_concat (all : List Flags) (flags : Flags) :
    (all ++ [flags]).foldl foldFlags .empty = foldFlags (all.foldl foldFlags .empty) flags := by
  rw [List.foldl_append, List.foldl_cons, List.foldl_nil]

/-- The folded flags carry what some directive carries. -/
theorem carries_foldl {all : List Flags} {flag : String} :
    (all.foldl foldFlags .empty).Has flag ↔ ∃ flags ∈ all, flags.Has flag := by
  induction all using List.reverseRecOn with
  | nil => simp [Dict.Has]
  | append_singleton all flags ih =>
    rw [foldl_foldFlags_concat, Dict.Has, get_foldFlags]
    constructor
    · rintro ⟨value, found⟩
      split at found
      · obtain ⟨earlier, inside, carried⟩ := ih.mp ⟨value, found⟩
        exact ⟨earlier, List.mem_append_left _ inside, carried⟩
      · next own carried => exact ⟨flags, by simp, own, carried⟩
    · rintro ⟨earlier, inside, carried⟩
      split
      · next absent =>
        rcases List.mem_append.mp inside with before | last
        · exact ih.mpr ⟨earlier, before, carried⟩
        · obtain ⟨value, found⟩ := carried
          rw [List.mem_singleton.mp last, absent] at found
          cases found
      · exact ⟨_, rfl⟩

/-- Boolean flags fold to a boolean, which is `false` exactly when some directive says so. -/
theorem switch_foldl {all : List Flags} {flag : String} (switches : Switches all flag) :
    (∀ value, (all.foldl foldFlags .empty).get flag = some value → ∃ b, value = .bool b) ∧
      ((all.foldl foldFlags .empty).get flag = some (.bool false) ↔
        ∃ flags ∈ all, flags.get flag = some (.bool false)) := by
  induction all using List.reverseRecOn with
  | nil => simp
  | append_singleton all flags ih =>
    obtain ⟨boolean, off⟩ := ih fun earlier inside =>
      switches earlier (List.mem_append_left _ inside)
    have split : (∃ other ∈ all ++ [flags], Dict.get other flag = some (.bool false)) ↔
        (∃ other ∈ all, Dict.get other flag = some (.bool false)) ∨
          flags.get flag = some (.bool false) := by
      simp only [List.mem_append, List.mem_singleton, or_and_right, exists_or, exists_eq_left]
    rw [foldl_foldFlags_concat, get_foldFlags, split, ← off]
    cases own : flags.get flag with
    | none =>
      refine ⟨boolean, ?_⟩
      simp
    | some value =>
      obtain ⟨b, rfl⟩ := switches flags (by simp) value own
      cases before : (all.foldl foldFlags .empty).get flag with
      | none => simp [mergeValue]
      | some old =>
        obtain ⟨a, rfl⟩ := boolean old before
        cases a <;> cases b <;> simp [mergeValue]

/-- Two lists of directives with the same boolean flags fold to the same flags, in any order. -/
theorem get_foldl_congr {left right : List Flags} {flag : String}
    (same : ∀ flags, flags ∈ left ↔ flags ∈ right) (switches : Switches left flag) :
    (left.foldl foldFlags .empty).get flag = (right.foldl foldFlags .empty).get flag := by
  have switches' : Switches right flag := fun flags inside =>
    switches flags ((same flags).mpr inside)
  obtain ⟨boolean, off⟩ := switch_foldl switches
  obtain ⟨boolean', off'⟩ := switch_foldl switches'
  have carried : (left.foldl foldFlags .empty).Has flag ↔
      (right.foldl foldFlags .empty).Has flag := by
    rw [carries_foldl, carries_foldl]
    simp only [same]
  have agree : (left.foldl foldFlags .empty).get flag = some (.bool false) ↔
      (right.foldl foldFlags .empty).get flag = some (.bool false) := by
    rw [off, off']
    simp only [same]
  unfold Dict.Has at carried
  cases one : (left.foldl foldFlags .empty).get flag with
  | none =>
    cases other : (right.foldl foldFlags .empty).get flag with
    | none => rfl
    | some value =>
      rw [one, other] at carried
      simp at carried
  | some value =>
    cases other : (right.foldl foldFlags .empty).get flag with
    | none =>
      rw [one, other] at carried
      simp at carried
    | some value' =>
      obtain ⟨a, rfl⟩ := boolean value one
      obtain ⟨b, rfl⟩ := boolean' value' other
      rw [one, other] at agree
      cases a <;> cases b <;> simp at agree ⊢

end MarketingOS.Intelligence
