import PerlAudit.Proofs.Files.Naming
import PerlAudit.Proofs.Text.Pieces


/-!
The normal form of a path. It is made of the slashes that make the path absolute and of the names
that are left when it is tidied, which may climb above the working directory.
-/

namespace PerlAudit.Path

open Text

section Joining

variable {base p : Text}

/-- What is not absolute is joined by one slash, which may be there. -/
theorem join_cases (base : Text) (relative : isAbsolute p = false) :
    base = [] ∧ join base p = p ∨
    (∃ front, base = front ++ [.char '/'] ∧ join base p = front ++ .char '/' :: p) ∨
    base ≠ [] ∧ base.getLast? ≠ some (.char '/') ∧ join base p = base ++ .char '/' :: p := by
  unfold join
  rw [relative]
  by_cases empty : base = []
  · subst empty
    exact .inl ⟨rfl, rfl⟩
  · by_cases ended : base.getLast? = some (.char '/')
    · obtain ⟨front, rfl⟩ := List.getLast?_eq_some_iff.mp ended
      exact .inr (.inl ⟨front, rfl, by simp⟩)
    · refine .inr (.inr ⟨empty, ended, ?_⟩)
      have inside : ¬(base.isEmpty || base.getLast? == some (CodePoint.char '/')) = true := by
        simp [empty, ended]
      exact (if_neg inside).trans (List.append_assoc base _ p)

theorem join_absolute (base : Text) (rooted : isAbsolute p = true) : join base p = p := by
  simp [join, rooted]

theorem names_slash (p q : Text) : names (p ++ .char '/' :: q) = names p ++ names q :=
  splitAt_append _ p q

theorem names_joinNames {parts : List Text} (nonempty : parts ≠ [])
    (flat : ∀ part ∈ parts, CodePoint.char '/' ∉ part) : names (joinNames parts) = parts :=
  splitAt_intercalate nonempty flat

theorem rootOf_eq (p : Text) : rootOf p =
    if p[0]? = some (.char '/') then
      if p[1]? = some (.char '/') ∧ p[2]? ≠ some (.char '/') then ofString "//" else ofString "/"
    else [] := by
  unfold rootOf
  split
  · simp
  · rename_i more _
    cases more <;> simp_all
  · rename_i more _ _
    cases more <;> simp_all
  · cases p <;> simp_all

theorem rootOf_append (p rest : Text) {c : CodePoint} (other : c ≠ .char '/') :
    rootOf (p ++ c :: rest) = rootOf p := by
  rw [rootOf_eq, rootOf_eq]
  match p with
  | [] | [_] | [_, _] => simp [other]
  | _ :: _ :: _ :: _ => simp

theorem isAbsolute_iff : isAbsolute p = true ↔ rootOf p ≠ [] := by
  rw [rootOf_eq]
  cases p with
  | nil => simp [isAbsolute]
  | cons c p =>
    by_cases slash : c = .char '/'
    · simp only [isAbsolute, slash, List.head?_cons, List.getElem?_cons_zero, if_true]
      split <;> simp [ofString, ofChars]
    · simp [isAbsolute, slash]

/-- What makes a path absolute stands at its beginning. -/
theorem rootOf_join (base : Text) (relative : isAbsolute p = false) :
    rootOf (join base p) = rootOf base := by
  have bare : rootOf p = [] := by
    by_contra rooted
    simp [isAbsolute_iff.mpr rooted] at relative
  obtain ⟨rfl, joined⟩ | ⟨front, rfl, joined⟩ | ⟨filled, ended, joined⟩ := join_cases base relative
  · rw [joined, bare]
    rfl
  · rw [joined]
    cases p with
    | nil => rfl
    | cons c rest =>
      have other : c ≠ .char '/' := by simpa [isAbsolute] using relative
      have same := rootOf_append (front ++ [.char '/']) rest other
      rwa [List.append_assoc] at same
  · obtain ⟨front, last, rfl⟩ := (List.eq_nil_or_concat base).resolve_left filled
    have other : last ≠ .char '/' := by simpa using ended
    rw [joined, List.concat_eq_append, List.append_assoc]
    exact (rootOf_append front _ other).trans (rootOf_append front [] other).symm

end Joining

section Tidying

variable {rooted : Bool} {kept : List Text} {name : Text}

/-- A name that leaves everything as it is. -/
def IsIdle (name : Text) : Prop := name = "" ∨ name = "."

theorem tidyStep_idle (idle : IsIdle name) : tidyStep rooted kept name = kept := by
  obtain rfl | rfl := idle
  · rfl
  · rfl

theorem tidyStep_name (taken : ¬ IsIdle name) (other : name ≠ "..") :
    tidyStep rooted kept name = name :: kept := by
  unfold IsIdle at taken
  simp_all [tidyStep]

/-- Above a path that is not absolute one can climb on. -/
theorem tidyStep_climb (high : kept = [] ∧ rooted = false ∨ kept.head? = some (ofString "..")) :
    tidyStep rooted kept ".." = ofString ".." :: kept := by
  obtain ⟨rfl, rfl⟩ | last := high
  · rfl
  · obtain ⟨rest, rfl⟩ := List.head?_eq_some_iff.mp last
    rfl

theorem tidyStep_cancel (other : name ≠ "..") : tidyStep rooted (name :: kept) ".." = kept := by
  have climbs : ¬(ofString ".." == ofString "" || ofString ".." == ofString ".") = true := by decide
  unfold tidyStep
  rw [if_neg climbs, if_neg (by simp)]
  exact if_neg (by simpa using other)

/-- Names that are kept are not idle. -/
theorem kept_taken (rooted : Bool) (all : List Text) :
    ∀ name ∈ all.foldl (tidyStep rooted) [], ¬ IsIdle name := by
  have fold (kept : List Text) (taken : ∀ name ∈ kept, ¬ IsIdle name) :
      ∀ name ∈ all.foldl (tidyStep rooted) kept, ¬ IsIdle name := by
    induction all generalizing kept with
    | nil => exact taken
    | cons next rest ih =>
      apply ih
      by_cases idle : IsIdle next
      · rwa [tidyStep_idle idle]
      · intro name member
        obtain early | rfl := tidyStep_subset rooted kept next name member
        · exact taken name early
        · exact idle
  exact fold [] (List.forall_mem_nil _)

/-- Tidying in two goes is tidying in one. What climbs out of a path that is not absolute climbs on
from where the path is joined to; above the top there is nowhere to climb. -/
theorem foldl_tidy {tidied : Bool} (top : tidied = true → rooted = true ∧ kept = [])
    (all : List Text) :
    (tidy tidied all).foldl (tidyStep rooted) kept = all.foldl (tidyStep rooted) kept := by
  induction all using List.reverseRecOn with
  | nil => rfl
  | append_singleton all name ih =>
    have taken := kept_taken tidied all
    unfold tidy at ih ⊢
    rw [List.foldl_append, List.foldl_append, List.foldl_cons, List.foldl_nil, List.foldl_cons,
      List.foldl_nil, ← ih]
    generalize all.foldl (tidyStep tidied) [] = tidy at taken
    -- A name that stays behind the others is met last on the second go.
    have pushed (stays : tidyStep tidied tidy name = name :: tidy) :
        (tidyStep tidied tidy name).reverse.foldl (tidyStep rooted) kept =
          tidyStep rooted (tidy.reverse.foldl (tidyStep rooted) kept) name := by
      rw [stays, List.reverse_cons, List.foldl_append, List.foldl_cons, List.foldl_nil]
    by_cases idle : IsIdle name
    · rw [tidyStep_idle idle, tidyStep_idle idle]
    by_cases climbs : name = ".."
    · subst climbs
      cases tidy with
      | nil =>
        cases tidied with
        | false => exact pushed (tidyStep_climb (.inl ⟨rfl, rfl⟩))
        | true =>
          obtain ⟨rfl, rfl⟩ := top rfl
          rfl
      | cons last rest =>
        by_cases again : last = ".."
        · exact pushed (tidyStep_climb (.inr (by rw [again]; rfl)))
        · rw [tidyStep_cancel again, List.reverse_cons, List.foldl_append, List.foldl_cons,
            List.foldl_nil, tidyStep_name (taken last List.mem_cons_self) again,
            tidyStep_cancel again]
    · exact pushed (tidyStep_name idle climbs)

end Tidying

section Normal

variable {p q : Text}

/-- The names that are left when a path is tidied. -/
def parts (p : Text) : List Text := tidy (!(rootOf p).isEmpty) (names p)

theorem parts_taken (p : Text) : ∀ part ∈ parts p, ¬ IsIdle part := by
  intro part member
  exact kept_taken _ (names p) part (List.mem_reverse.mp member)

theorem parts_flat (p : Text) : ∀ part ∈ parts p, CodePoint.char '/' ∉ part := by
  intro part member
  exact splitAt_clean (tidy_subset _ _ part member)

/-- The first part, if there is one, does not begin with a slash. -/
theorem joinNames_parts (p : Text) :
    parts p = [] ∨ ∃ c rest, joinNames (parts p) = c :: rest ∧ c ≠ .char '/' := by
  cases split : parts p with
  | nil => exact .inl rfl
  | cons part more =>
    have member : part ∈ parts p := by simp [split]
    have filled : part ≠ [] := fun empty => parts_taken p part member (.inl empty)
    obtain ⟨c, tail, rfl⟩ := List.exists_cons_of_ne_nil filled
    have other : c ≠ .char '/' := by
      rintro rfl
      exact parts_flat p _ member List.mem_cons_self
    right
    cases more with
    | nil => exact ⟨c, tail, by simp [joinNames, joinWith], other⟩
    | cons next more =>
      have written : joinNames ((c :: tail) :: next :: more) =
          c :: (tail ++ (ofString "/" ++ joinNames (next :: more))) := by
        simp [joinNames, joinWith, List.intercalate_cons_cons]
      exact ⟨c, _, written, other⟩

/-- A path is the current directory, or it is written from its root and its parts. -/
theorem normalize_cases (p : Text) :
    rootOf p = [] ∧ parts p = [] ∧ normalize p = "." ∨
    normalize p = rootOf p ++ joinNames (parts p) := by
  have unfolded : normalize p = if (rootOf p ++ joinNames (parts p)).isEmpty then ofString "."
      else rootOf p ++ joinNames (parts p) := rfl
  rw [unfolded]
  split
  · rename_i empty
    obtain ⟨bare, nothing⟩ := List.append_eq_nil_iff.mp (List.isEmpty_iff.mp empty)
    obtain empty | ⟨c, rest, nonempty, -⟩ := joinNames_parts p
    · exact .inl ⟨bare, empty, rfl⟩
    · simp [nonempty] at nothing
  · exact .inr rfl

theorem rootOf_rootOf (p : Text) : rootOf (rootOf p) = rootOf p := by
  rw [rootOf_eq p]
  split
  · split <;> rfl
  · rfl

theorem rootOf_normalize (p : Text) : rootOf (normalize p) = rootOf p := by
  obtain ⟨bare, -, dot⟩ | written := normalize_cases p
  · rw [dot, bare]
    rfl
  · rw [written]
    obtain empty | ⟨c, rest, nonempty, other⟩ := joinNames_parts p
    · rw [empty]
      simp [joinNames, joinWith, rootOf_rootOf]
    · rw [nonempty, rootOf_append _ _ other, rootOf_rootOf]

/-- The slashes in front of a path are no names. -/
theorem foldl_root (rooted : Bool) (kept : List Text) (p q : Text) :
    (names (rootOf p ++ q)).foldl (tidyStep rooted) kept =
      (names q).foldl (tidyStep rooted) kept := by
  rw [rootOf_eq]
  split
  · split
    · have slashes : ofString "//" ++ q = [] ++ .char '/' :: ([] ++ .char '/' :: q) := rfl
      rw [slashes, names_slash, names_slash]
      rfl
    · have slash : ofString "/" ++ q = [] ++ .char '/' :: q := rfl
      rw [slash, names_slash]
      rfl
  · rfl

theorem foldl_joinNames (rooted : Bool) (p : Text) :
    (names (joinNames (parts p))).foldl (tidyStep rooted) [] =
      (parts p).foldl (tidyStep rooted) [] := by
  by_cases empty : parts p = []
  · rw [empty]
    rfl
  · rw [names_joinNames empty (parts_flat p)]

theorem parts_normalize (p : Text) : parts (normalize p) = parts p := by
  unfold parts
  rw [rootOf_normalize]
  generalize rooting : (!(rootOf p).isEmpty) = rooted
  obtain ⟨-, empty, dot⟩ | written := normalize_cases p
  · rw [parts, rooting] at empty
    rw [empty, dot]
    rfl
  · have again : (parts p).foldl (tidyStep rooted) [] = (names p).foldl (tidyStep rooted) [] := by
      rw [parts, rooting]
      exact foldl_tidy (fun top => ⟨top, rfl⟩) (names p)
    rw [written, tidy, tidy, foldl_root, foldl_joinNames, again]

theorem normalize_eq_iff : normalize p = normalize q ↔ rootOf p = rootOf q ∧ parts p = parts q := by
  constructor
  · intro same
    constructor
    · rw [← rootOf_normalize p, same, rootOf_normalize]
    · rw [← parts_normalize p, same, parts_normalize]
  · rintro ⟨root, names⟩
    have written (p : Text) : normalize p =
        if (rootOf p ++ joinNames (parts p)).isEmpty then ofString "."
        else rootOf p ++ joinNames (parts p) := rfl
    rw [written, written, root, names]

end Normal

section Elsewhere

variable {p q : Text}

/-- A path that is not absolute is tidied from where the tidied base ends. -/
theorem foldl_join (rooted : Bool) (base : Text) (relative : isAbsolute p = false) :
    (names (join base p)).foldl (tidyStep rooted) [] =
      (names p).foldl (tidyStep rooted) ((names base).foldl (tidyStep rooted) []) := by
  obtain ⟨rfl, joined⟩ | ⟨front, rfl, joined⟩ | ⟨-, -, joined⟩ := join_cases base relative
  · rw [joined]
    rfl
  · rw [joined, names_slash, names_slash, List.foldl_append, List.foldl_append]
    rfl
  · rw [joined, names_slash, List.foldl_append]

theorem parts_join (base : Text) (relative : isAbsolute p = false) :
    let rooted := !(rootOf base).isEmpty
    parts (join base p) = ((parts p).foldl (tidyStep rooted)
      ((names base).foldl (tidyStep rooted) [])).reverse := by
  intro rooted
  have bare : (rootOf p).isEmpty = true := by
    by_contra filled
    have root : rootOf p ≠ [] := by simpa using filled
    simp [isAbsolute_iff.mpr root] at relative
  have tidied : parts p = tidy false (names p) := by rw [parts, bare]; rfl
  rw [parts, rootOf_join base relative, tidy, foldl_join _ base relative, tidied,
    foldl_tidy (by simp) (names p)]

/-- Paths with one normal form have one normal form below every base. -/
theorem normalize_join_congr (same : normalize p = normalize q) (base : Text) :
    normalize (join base p) = normalize (join base q) := by
  obtain ⟨root, left⟩ := normalize_eq_iff.mp same
  have alike : isAbsolute p = isAbsolute q := by
    rw [Bool.eq_iff_iff, isAbsolute_iff, isAbsolute_iff, root]
  cases rooted : isAbsolute p with
  | true => rw [join_absolute base rooted, join_absolute base (alike ▸ rooted), same]
  | false =>
    have relative : isAbsolute q = false := alike ▸ rooted
    apply normalize_eq_iff.mpr
    rw [rootOf_join base rooted, rootOf_join base relative, parts_join base rooted,
      parts_join base relative, left]
    exact ⟨rfl, rfl⟩

theorem absolute_eq (cwd p : Text) : absolute cwd p = normalize (join cwd p) := by
  unfold absolute
  split
  · rename_i rooted
    rw [join_absolute cwd rooted]
  · rfl

/-- Paths with one normal form are one path from every working directory. -/
theorem absolute_congr (same : normalize p = normalize q) (cwd : Text) :
    absolute cwd p = absolute cwd q := by
  rw [absolute_eq, absolute_eq, normalize_join_congr same]

end Elsewhere

end PerlAudit.Path
