import PerlAudit.Proofs.Path.Normal
import PerlAudit.Settings.Basic

namespace PerlAudit.Settings

section Patterns

variable {s : Settings} {cwd path : Text} {patterns : List Text}

theorem excludes_iff : s.excludes cwd path = true ↔
    ∃ pattern ∈ s.exclude, excludedBy cwd s.root path pattern = true := by
  simp [excludes]

theorem excludes_mono (more : ∀ pattern ∈ s.exclude, pattern ∈ patterns)
    (excluded : s.excludes cwd path = true) :
    excludes { s with exclude := patterns } cwd path = true := by
  obtain ⟨pattern, member, holds⟩ := excludes_iff.mp excluded
  exact excludes_iff.mpr ⟨pattern, more pattern member, holds⟩

theorem excludes_same_patterns (same : ∀ pattern, pattern ∈ patterns ↔ pattern ∈ s.exclude) :
    excludes { s with exclude := patterns } cwd path = s.excludes cwd path := by
  rw [Bool.eq_iff_iff, excludes_iff, excludes_iff]
  constructor
  · rintro ⟨pattern, member, holds⟩
    exact ⟨pattern, (same pattern).mp member, holds⟩
  · rintro ⟨pattern, member, holds⟩
    exact ⟨pattern, (same pattern).mpr member, holds⟩

end Patterns

/-- A pattern sees a path in its normal form, and from the root as the absolute path that the normal
form stands for. -/
theorem excludedBy_congr {p q : Text} (same : Path.normalize p = Path.normalize q)
    (cwd root : Text) : excludedBy cwd root p = excludedBy cwd root q := by
  funext pattern
  unfold excludedBy
  rw [same, Path.absolute_congr same cwd]

/-- Exclusion does not depend on how a path is spelled, nor on the order of patterns or on how often
each is given. More patterns exclude more, every spelling of a pattern that is a path is excluded,
and without patterns nothing is. -/
theorem exclusion_ignores_spelling (s : Settings) (cwd : Text) :
    (∀ p q, Path.normalize p = Path.normalize q → s.excludes cwd p = s.excludes cwd q) ∧
    (∀ patterns path, (∀ pattern, pattern ∈ patterns ↔ pattern ∈ s.exclude) →
      excludes { s with exclude := patterns } cwd path = s.excludes cwd path) ∧
    (∀ patterns path, (∀ pattern ∈ s.exclude, pattern ∈ patterns) →
      s.excludes cwd path = true → excludes { s with exclude := patterns } cwd path = true) ∧
    (∀ pattern ∈ s.exclude, ∀ path, Path.normalize path = Path.normalize pattern →
      s.excludes cwd path = true) ∧
    ∀ path, excludes { s with exclude := [] } cwd path = false := by
  refine ⟨?_, ?_, ?_, ?_, fun _ => rfl⟩
  · intro p q same
    rw [excludes, excludes, excludedBy_congr same]
  · intro patterns path
    exact excludes_same_patterns
  · intro patterns path
    exact excludes_mono
  · intro pattern member path same
    have named : excludedBy cwd s.root path pattern = true := by simp [excludedBy, same]
    exact excludes_iff.mpr ⟨pattern, member, named⟩

example : Path.normalize "../a//./b/../" = Path.normalize "..//x/../a" := by decide

end PerlAudit.Settings
