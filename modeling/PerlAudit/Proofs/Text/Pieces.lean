import Mathlib.Data.List.Infix
import Mathlib.Data.List.TakeWhile
import PerlAudit.Text.Blank
import PerlAudit.Text.Lines

namespace PerlAudit.Text

variable {α : Type}

theorem splitAt_part [DecidableEq α] {separator : α} {part : List α} (rest : List α)
    (clean : separator ∉ part) :
    splitAt separator (part ++ separator :: rest) = part :: splitAt separator rest := by
  induction part with
  | nil => simp [splitAt]
  | cons c part ih =>
    obtain ⟨other, clean⟩ : separator ≠ c ∧ separator ∉ part := by simpa using clean
    simp [splitAt, Ne.symm other, ih clean]

theorem splitAt_last [DecidableEq α] {separator : α} {part : List α} (clean : separator ∉ part) :
    splitAt separator part = [part] := by
  induction part with
  | nil => rfl
  | cons c part ih =>
    obtain ⟨other, clean⟩ : separator ≠ c ∧ separator ∉ part := by simpa using clean
    simp [splitAt, Ne.symm other, ih clean]

/-- A text is one part, or a part and a separator in front of a text. -/
@[elab_as_elim]
theorem parts_induction (separator : α) {motive : List α → Prop}
    (last : ∀ part, separator ∉ part → motive part)
    (next : ∀ part rest, separator ∉ part → motive rest → motive (part ++ separator :: rest))
    (s : List α) : motive s := by
  induction length : s.length using Nat.strong_induction_on generalizing s with
  | _ n ih =>
    by_cases separated : separator ∈ s
    · obtain ⟨part, rest, rfl, clean⟩ := List.eq_append_cons_of_mem separated
      refine next part rest clean (ih rest.length ?_ rest rfl)
      rw [← length, List.length_append, List.length_cons]
      omega
    · exact last s separated

/-- Parts that each end in the separator are the parts of the whole, and nothing is left over. -/
theorem splitAt_ended [DecidableEq α] {separator : α} {parts : List (List α)}
    (clean : ∀ part ∈ parts, separator ∉ part) :
    splitAt separator (parts.flatMap (· ++ [separator])) = parts ++ [[]] := by
  induction parts with
  | nil => rfl
  | cons part parts ih =>
    have first := clean part (by simp)
    have rest := ih fun other member => clean other (List.mem_cons_of_mem _ member)
    rw [List.flatMap_cons, List.append_assoc, List.singleton_append, splitAt_part _ first, rest]
    rfl

/-- Parts with a separator between them are the parts of the whole. -/
theorem splitAt_intercalate [DecidableEq α] {separator : α} {parts : List (List α)}
    (nonempty : parts ≠ []) (clean : ∀ part ∈ parts, separator ∉ part) :
    splitAt separator (List.intercalate [separator] parts) = parts := by
  induction parts with
  | nil => exact absurd rfl nonempty
  | cons part parts ih =>
    obtain ⟨first, others⟩ := List.forall_mem_cons.mp clean
    cases parts with
    | nil => rw [List.intercalate_singleton, splitAt_last first]
    | cons next parts =>
      rw [List.intercalate_cons_cons, List.append_assoc, List.singleton_append,
        splitAt_part _ first, ih (List.cons_ne_nil next parts) others]

/-- A separator divides the parts before it from those behind it. -/
theorem splitAt_append [DecidableEq α] (separator : α) (s rest : List α) :
    splitAt separator (s ++ separator :: rest) = splitAt separator s ++ splitAt separator rest := by
  induction s using parts_induction separator with
  | last part clean => rw [splitAt_part rest clean, splitAt_last clean, List.singleton_append]
  | next part more clean ih =>
    rw [List.append_assoc, List.cons_append, splitAt_part _ clean, splitAt_part _ clean, ih,
      List.cons_append]

theorem splitAt_clean [DecidableEq α] {separator : α} {s part : List α}
    (member : part ∈ splitAt separator s) : separator ∉ part := by
  induction s using parts_induction separator with
  | last only clean =>
    rw [splitAt_last clean, List.mem_singleton] at member
    exact member ▸ clean
  | next first more clean ih =>
    rw [splitAt_part more clean, List.mem_cons] at member
    obtain rfl | later := member
    · exact clean
    · exact ih later

theorem occurs_iff [BEq α] [LawfulBEq α] {word s : List α} :
    occurs word s = true ↔ word <:+: s := by
  induction s with
  | nil => simp [occurs]
  | cons c s ih => rw [occurs, Bool.or_eq_true, ih, List.isPrefixOf_iff_prefix, List.infix_cons_iff]

/-- Nothing is left of a text without the blanks around it exactly if it is nothing but blanks. -/
theorem dropBlanks_eq_nil_iff {t : Text} : dropBlanks t = [] ↔ ∀ c ∈ t, c.isIn isBlank = true := by
  simp only [dropBlanks, dropEndBlanks, dropEndWhile, List.reverse_eq_nil_iff,
    List.dropWhile_eq_nil_iff, List.mem_reverse]
  constructor
  · intro rest c member
    rw [← List.takeWhile_append_dropWhile (p := (·.isIn isBlank)) (l := t)] at member
    obtain early | late := List.mem_append.mp member
    · exact List.mem_takeWhile_imp early
    · exact rest c late
  · intro all c member
    exact all c ((List.dropWhile_sublist _).mem member)

end PerlAudit.Text
