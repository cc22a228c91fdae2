import PerlAudit.Proofs.Path.Normal


namespace PerlAudit.Path

open Text

/-- A text that can be the name of one entry. -/
structure IsName (name : Text) : Prop where
  filled : name ≠ []
  flat : CodePoint.char '/' ∉ name
  other : name ≠ "." ∧ name ≠ ".."

/-- A path with names joined to it. -/
def below (base : Text) (r : List Text) : Text := r.foldl join base

section Joining

variable {base name : Text}

theorem not_isAbsolute (named : IsName name) : isAbsolute name = false := by
  cases name with
  | nil => rfl
  | cons c rest =>
    have : c ≠ .char '/' := fun same => named.flat (same ▸ List.mem_cons_self)
    simpa [isAbsolute] using this

theorem join_ne_nil (base : Text) (named : IsName name) : join base name ≠ [] := by
  obtain ⟨-, joined⟩ | ⟨front, -, joined⟩ | ⟨-, -, joined⟩ :=
    join_cases base (not_isAbsolute named)
  · rw [joined]
    exact named.filled
  · simp [joined]
  · simp [joined]

theorem names_name (named : IsName name) : names name = [name] := splitAt_last named.flat

theorem tidy_join (rooted : Bool) (base : Text) (named : IsName name) :
    tidy rooted (names (join base name)) = tidy rooted (names base) ++ [name] := by
  have taken : ¬ IsIdle name := by
    rintro (empty | dot)
    · exact named.filled empty
    · exact named.other.1 dot
  rw [tidy, tidy, foldl_join rooted base (not_isAbsolute named), names_name named, List.foldl_cons,
    List.foldl_nil, tidyStep_name taken named.other.2, List.reverse_cons]

end Joining

section Normal

variable {base : Text} {r : List Text}

theorem tidy_flat (rooted : Bool) (base : Text) (named : ∀ n ∈ r, IsName n) :
    ∀ part ∈ tidy rooted (names base) ++ r, CodePoint.char '/' ∉ part := by
  refine List.forall_mem_append.mpr ⟨fun part member => ?_, fun n member => (named n member).flat⟩
  exact splitAt_clean (tidy_subset rooted _ part member)

theorem below_parts (rooted : Bool) (base : Text) (named : ∀ n ∈ r, IsName n) :
    rootOf (below base r) = rootOf base ∧
      tidy rooted (names (below base r)) = tidy rooted (names base) ++ r := by
  induction r generalizing base with
  | nil => exact ⟨rfl, (List.append_nil _).symm⟩
  | cons n r ih =>
    obtain ⟨first, others⟩ := List.forall_mem_cons.mp named
    obtain ⟨root, tidied⟩ := ih (join base n) others
    refine ⟨root.trans (rootOf_join base (not_isAbsolute first)), tidied.trans ?_⟩
    rw [tidy_join rooted base first, List.append_assoc]
    rfl

theorem below_concat (base : Text) (front : List Text) (name : Text) :
    below base (front ++ [name]) = join (below base front) name := List.foldl_append

/-- The names come last in the normal form. -/
theorem normalize_below (base : Text) (nonempty : r ≠ []) (named : ∀ n ∈ r, IsName n) :
    normalize (below base r) =
      rootOf base ++ joinNames (tidy (!(rootOf base).isEmpty) (names base) ++ r) := by
  obtain ⟨root, tidied⟩ := below_parts (!(rootOf base).isEmpty) base named
  unfold normalize
  dsimp only
  rw [root, tidied, if_neg]
  intro empty
  have nothing := (List.append_eq_nil_iff.mp (List.isEmpty_iff.mp empty)).2
  have parts := names_joinNames (by simp [nonempty]) (tidy_flat (!(rootOf base).isEmpty) base named)
  rw [nothing] at parts
  have last : r.getLast nonempty = [] := by
    have member : r.getLast nonempty ∈ names [] := by
      rw [parts]
      exact List.mem_append_right _ (List.getLast_mem nonempty)
    simpa [names, splitAt] using member
  exact (named _ (List.getLast_mem nonempty)).filled last

/-- Different names below a directory have different normal forms. -/
theorem normalize_below_inj {others : List Text} (nonempty : r ≠ []) (more : others ≠ [])
    (named : ∀ n ∈ r, IsName n) (alsoNamed : ∀ n ∈ others, IsName n)
    (same : normalize (below base r) = normalize (below base others)) : r = others := by
  rw [normalize_below base nonempty named, normalize_below base more alsoNamed,
    List.append_cancel_left_eq] at same
  have parts := congrArg names same
  rw [names_joinNames (by simp [nonempty]) (tidy_flat _ base named),
    names_joinNames (by simp [more]) (tidy_flat _ base alsoNamed)] at parts
  exact List.append_cancel_left parts

end Normal

end PerlAudit.Path
