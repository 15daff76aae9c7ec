/-
  Breadcrumb.Text.Search
  ──────────────────────
  **WHETHER A TEXT HAS A PART.**

  `occursIn` tries every place of a text; `occursIn_iff` says what it finds out.
-/
namespace Breadcrumb.Text

/-- Whether one text occurs in another. -/
def occursIn (part : List Char) : List Char → Bool
  | [] => part.isEmpty
  | c :: rest => part.isPrefixOf (c :: rest) || occursIn part rest

/-- A text occurs in another if the other is that text with something before and after it. -/
theorem occursIn_iff (part cs : List Char) :
    occursIn part cs = true ↔ ∃ before after, cs = before ++ part ++ after := by
  induction cs with
  | nil =>
    simp only [occursIn, List.isEmpty_iff]
    constructor
    · intro h
      exact ⟨[], [], by simp [h]⟩
    · rintro ⟨before, after, h⟩
      simp_all
  | cons c cs ih =>
    simp only [occursIn, Bool.or_eq_true, ih, List.isPrefixOf_iff_prefix]
    constructor
    · rintro (⟨after, h⟩ | ⟨before, after, h⟩)
      · exact ⟨[], after, by simp [h]⟩
      · exact ⟨c :: before, after, by simp [h]⟩
    · rintro ⟨before, after, h⟩
      match before, h with
      | [], h => exact Or.inl ⟨after, by simpa using h.symm⟩
      | b :: before, h =>
        refine Or.inr ⟨before, after, ?_⟩
        simp only [List.cons_append, List.cons.injEq] at h
        exact h.2

end Breadcrumb.Text
