import PerlAudit.Source.Pragma

namespace PerlAudit.Source

open Text

theorem after?_eq_some_iff {word s rest : List Char} :
    after? word s = some rest ↔ s = word ++ rest := by
  induction word generalizing s with
  | nil => simp [after?]
  | cons w word ih =>
    cases s with
    | nil => simp [after?]
    | cons c s =>
      by_cases same : w = c
      · simp [after?, same, ih]
      · simp [after?, same, Ne.symm same]

/-- The three commands that close documentation are words, so they open it as well. -/
theorem closesDoc_opensDoc {s : Line} (closes : closesDoc s = true) : opensDoc s = true := by
  unfold closesDoc at closes
  split at closes
  · rename_i rest start
    simp only [List.any_cons, List.any_nil, Bool.or_false, Bool.or_eq_true,
      Option.isSome_iff_exists, after?_eq_some_iff] at closes
    unfold opensDoc
    rw [start]
    obtain ⟨more, rfl⟩ | ⟨more, rfl⟩ | ⟨more, rfl⟩ := closes
    · exact (by decide : isWord 'c' = true)
    · exact (by decide : isWord 'b' = true)
    · exact (by decide : isWord 'e' = true)
  · cases closes

theorem isComment_not_opensDoc {s : Line} (comment : isComment s = true) : opensDoc s = false := by
  have start : (trimStart s).head? = some '#' := by simpa [isComment] using comment
  unfold opensDoc
  split
  · rename_i equals
    simp [equals] at start
  · rfl

end PerlAudit.Source
