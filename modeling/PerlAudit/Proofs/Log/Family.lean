import Mathlib.Data.List.Basic
import Mathlib.Data.List.Induction
import PerlAudit.Log


namespace PerlAudit.Log

open Text

/-- The full name of a logger with a name of its own. -/
def below (name : Text) : Text := ofString family ++ .char '.' :: name

/-- The loggers that the family always hears: itself, and those whose name begins with no dot. -/
def IsKin (logger : Text) : Prop :=
  logger = family ∨ ∃ name : Text, name.head? ≠ some (.char '.') ∧ logger = below name

theorem loggerName_cases (name : Option Text) :
    loggerName name = family ∨
      ∃ part, part ≠ [] ∧ name = some part ∧ loggerName name = below part := by
  cases name with
  | none => exact .inl rfl
  | some part =>
    cases part with
    | nil => exact .inl rfl
    | cons c rest => exact .inr ⟨c :: rest, List.cons_ne_nil c rest, rfl, rfl⟩

theorem isKin_loggerName {name : Option Text}
    (plain : ∀ part, name = some part → part.head? ≠ some (.char '.')) :
    IsKin (loggerName name) := by
  obtain same | ⟨part, -, given, same⟩ := loggerName_cases name
  · exact .inl same
  · exact .inr ⟨part, plain part given, same⟩

theorem below_ne_family (name : Text) : below name ≠ family := by
  intro same
  have longer := congrArg List.length same
  simp [below] at longer

theorem below_injective {name other : Text} (same : below name = below other) : name = other := by
  simpa [below] using same

/-- No logger is named by the family and a dot alone. -/
theorem loggerName_ne_below_nil (name : Option Text) : loggerName name ≠ below [] := by
  intro same
  obtain whole | ⟨part, filled, -, full⟩ := loggerName_cases name
  · exact below_ne_family [] (same.symm.trans whole)
  · exact filled (below_injective (full.symm.trans same))

theorem namesAbove_dot (last : CodePoint) (rest : Text) :
    namesAbove (.char '.' :: last :: rest) = (last :: rest).reverse :: namesAbove rest := rfl

theorem namesAbove_other {c : CodePoint} (other : c ≠ .char '.') (rest : Text) :
    namesAbove (c :: rest) = namesAbove rest := by
  rw [namesAbove]
  rintro last more rfl
  exact absurd rfl other

/-- A name given from its end, in front of the family, is the full name. -/
theorem reverse_full (u : Text) :
    (u ++ .char '.' :: (ofString family).reverse).reverse = below u.reverse := by
  simp [below]

namespace Loggers

variable {l : Loggers}

/-- The first of some names that is known. -/
def nearest? (l : Loggers) (names : List Text) : Option Text := names.find? l.known.contains

theorem nearest?_cons (first : Text) (more : List Text) : l.nearest? (first :: more) =
    if first ∈ l.known then some first else l.nearest? more := by
  by_cases known : first ∈ l.known
  · simp [nearest?, known]
  · simp [nearest?, known]

/-- The nearest name above a name that is given from its end. It lies within the front part, or else
it is found as if the front part were not there; a dot at the end of the front part takes the whole
rest for a name first. -/
theorem nearest?_append (u : Text) {rest : Text} (filled : rest ≠ []) :
    (∃ v, v ≠ [] ∧ v <:+ u ∧ v.length < u.length ∧
      l.nearest? (namesAbove (u ++ rest)) = some (v ++ rest).reverse) ∨
    l.nearest? (namesAbove (u ++ rest)) = l.nearest? (namesAbove rest) ∨
    (u.getLast? = some (.char '.') ∧ l.nearest? (namesAbove (u ++ rest)) =
      l.nearest? (rest.reverse :: namesAbove rest.tail)) := by
  -- A dot takes the code point before it along, so the induction goes by two.
  induction u using List.twoStepInduction with
  | nil => exact .inr (.inl rfl)
  | singleton c =>
    by_cases dot : c = .char '.'
    · subst dot
      obtain ⟨last, more, rfl⟩ := List.exists_cons_of_ne_nil filled
      exact .inr (.inr ⟨rfl, rfl⟩)
    · right
      left
      rw [List.singleton_append, namesAbove_other dot]
  | cons_cons c e u skipped next =>
    by_cases dot : c = .char '.'
    · subst dot
      rw [List.cons_append, List.cons_append, namesAbove_dot, nearest?_cons]
      split
      · left
        exact ⟨e :: u, List.cons_ne_nil e u, List.suffix_cons _ _, by simp, rfl⟩
      · obtain ⟨v, nonempty, suffix, shorter, found⟩ | same | ⟨ends, found⟩ := skipped
        · left
          refine ⟨v, nonempty, suffix.trans (List.suffix_append [_, e] u), ?_, found⟩
          simp only [List.length_cons]
          omega
        · exact .inr (.inl same)
        · right
          right
          refine ⟨?_, found⟩
          rw [List.getLast?_cons_cons, List.getLast?_cons, ends]
          rfl
    · rw [List.cons_append, namesAbove_other dot]
      obtain ⟨v, nonempty, suffix, shorter, found⟩ | same | ⟨ends, found⟩ := next e
      · left
        refine ⟨v, nonempty, suffix.trans (List.suffix_cons c _), ?_, found⟩
        simp only [List.length_cons] at shorter ⊢
        omega
      · exact .inr (.inl same)
      · right
        right
        exact ⟨by rw [List.getLast?_cons_cons, ends], found⟩

theorem above?_below (l : Loggers) (name : Text) : l.above? (below name) =
    l.nearest? (namesAbove (name.reverse ++ .char '.' :: (ofString family).reverse)) := by
  rw [above?, below, List.reverse_append, List.reverse_cons, List.append_assoc]
  rfl

/-- The next logger above is the family, or nearer to it and of the same kind. -/
theorem above?_plain (known : ofString family ∈ l.known) {name : Text}
    (plain : name.head? ≠ some (.char '.')) :
    l.above? (below name) = some (ofString family) ∨
    ∃ shorter : Text, shorter.head? ≠ some (.char '.') ∧ shorter.length < name.length ∧
      l.above? (below name) = some (below shorter) := by
  have top : l.nearest? (namesAbove (.char '.' :: (ofString family).reverse)) =
      some (ofString family) := by
    have names : namesAbove (.char '.' :: (ofString family).reverse) = [ofString family] := by
      decide
    rw [names, nearest?_cons, if_pos known]
  rw [above?_below]
  obtain ⟨v, nonempty, suffix, shorter, found⟩ | same | ⟨ends, -⟩ := l.nearest?_append name.reverse
    (List.cons_ne_nil (.char '.') (ofString family).reverse)
  · right
    rw [reverse_full] at found
    refine ⟨v.reverse, ?_, by simpa using shorter, found⟩
    obtain ⟨front, whole⟩ := suffix
    have ends : v.getLast? = name.head? := by
      rw [← List.getLast?_reverse, ← whole, List.getLast?_append_of_ne_nil front nonempty]
    rw [List.head?_reverse, ends]
    exact plain
  · exact .inl (same.trans top)
  · rw [List.getLast?_reverse] at ends
    exact absurd ends plain

theorem reachesIn_family (steps : Nat) : l.reachesIn steps family = true := by
  cases steps <;> simp [reachesIn]

theorem reachesIn_plain (known : ofString family ∈ l.known) {steps : Nat} {name : Text}
    (plain : name.head? ≠ some (.char '.')) (enough : name.length < steps) :
    l.reachesIn steps (below name) = true := by
  induction steps generalizing name with
  | zero => omega
  | succ steps ih =>
    rw [reachesIn, Bool.or_eq_true]
    right
    obtain found | ⟨shorter, ok, less, found⟩ := above?_plain known plain
    · rw [found]
      exact reachesIn_family steps
    · rw [found]
      exact ih ok (by omega)

/-- The family hears its kin whatever other loggers are known. -/
theorem reaches_kin (known : ofString family ∈ l.known) {logger : Text} (kin : IsKin logger) :
    l.reaches logger = true := by
  obtain rfl | ⟨name, plain, rfl⟩ := kin
  · exact reachesIn_family _
  · apply reachesIn_plain known plain
    simp only [below, List.length_append, List.length_cons]
    omega

/-- Once the logger of a single dot is known, the next logger above one whose name begins with a dot
has such a name too, or there is none. -/
theorem above?_dotted (dot : below [.char '.'] ∈ l.known) (bare : below [] ∉ l.known)
    (name : Text) :
    ∀ above ∈ l.above? (below (.char '.' :: name)),
      ∃ shorter : Text, above = below (.char '.' :: shorter) := by
  intro above found
  rw [above?_below, List.reverse_cons, List.append_assoc] at found
  obtain ⟨v, -, -, -, same⟩ | same | ⟨-, same⟩ := l.nearest?_append name.reverse
    (List.cons_ne_nil (.char '.') (.char '.' :: (ofString family).reverse))
  · obtain rfl := Option.some.inj (same.symm.trans found)
    refine ⟨v.reverse, ?_⟩
    simp [below]
  · have names : namesAbove (.char '.' :: .char '.' :: (ofString family).reverse) = [below []] := by
      decide
    rw [names, nearest?_cons, if_neg bare] at same
    cases same.symm.trans found
  · have first : (.char '.' :: .char '.' :: (ofString family).reverse).reverse =
        below [.char '.'] := by decide
    rw [first, nearest?_cons, if_pos dot] at same
    exact ⟨[], Option.some.inj (found.symm.trans same)⟩

theorem reachesIn_dotted (dot : below [.char '.'] ∈ l.known) (bare : below [] ∉ l.known)
    (steps : Nat) (name : Text) : l.reachesIn steps (below (.char '.' :: name)) = false := by
  have other (name : Text) : (below name == ofString family) = false :=
    beq_eq_false_iff_ne.mpr (below_ne_family name)
  induction steps generalizing name with
  | zero => exact other _
  | succ steps ih =>
    rw [reachesIn, other, Bool.false_or]
    cases found : l.above? (below (.char '.' :: name)) with
    | none => rfl
    | some above =>
      obtain ⟨shorter, rfl⟩ := above?_dotted dot bare name above found
      exact ih shorter

/-- Once the logger of a single dot is known, the family hears no logger whose name begins with a
dot. -/
theorem reaches_dotted (dot : below [.char '.'] ∈ l.known) (bare : below [] ∉ l.known)
    (name : Text) : l.reaches (below (.char '.' :: name)) = false :=
  reachesIn_dotted dot bare _ name

end Loggers

end PerlAudit.Log
