import Mathlib.Data.List.Forall2
import Mathlib.Data.Nat.Init
import PerlAudit.Source.Scan

/-!
Where bytes can be cut so that their two parts are read apart. No byte below 0x80 is part of a
longer character, damaged or not, so what stands before one is read in the same way whatever follows
it. A line feed ends a line too: what follows it is read as a file of its own.
-/

namespace PerlAudit.Text

/-- The second byte of a character is never below 0x80. -/
theorem lead_low {b : UInt8} {lead : Lead} (h : lead? b = some lead) : 0x80 ≤ lead.low := by
  unfold lead? at h
  repeat' split at h
  all_goals cases h
  all_goals
    dsimp only
    decide

theorem ascii_not_continuation {b : UInt8} (ascii : b < 0x80) : isContinuation b = false := by
  have above : ¬0x80 ≤ b := UInt8.not_le.mpr ascii
  simp [isContinuation, above]

/-- Two pieces that differ at most in why they are damaged. -/
inductive Piece.Alike : Piece → Piece → Prop where
  | char (c : Char) (size : Nat) : Alike (.char c size) (.char c size)
  | flaw (kind other : Flaw) (bytes : Bytes) : Alike (.flaw kind bytes) (.flaw other bytes)

theorem Piece.Alike.refl (one : Piece) : one.Alike one := by
  cases one with
  | char c size => exact .char c size
  | flaw kind bytes => exact .flaw kind kind bytes

/-- The bytes of a character end before a byte below 0x80, whatever comes after it. -/
theorem continuations_seam {b : UInt8} (ascii : b < 0x80) (further payload : Nat)
    (read front : Bytes) :
    ∃ one, (continuations further payload read front).1.Alike one ∧
      ∀ rest, continuations further payload read (front ++ b :: rest) =
        (one, (continuations further payload read front).2 ++ b :: rest) := by
  induction further generalizing payload read front with
  | zero => exact ⟨_, .refl _, fun _ => rfl⟩
  | succ n ih =>
    cases front with
    | nil =>
      refine ⟨.flaw .continuation read, .flaw _ _ _, fun rest => ?_⟩
      simp [continuations, ascii_not_continuation ascii]
    | cons c front =>
      simp only [List.cons_append, continuations]
      cases isContinuation c with
      | true => exact ih _ _ front
      | false => exact ⟨_, .refl _, fun _ => rfl⟩

theorem piece_seam {b : UInt8} (ascii : b < 0x80) (first : UInt8) (front : Bytes) :
    ∃ one, (piece first front).1.Alike one ∧
      ∀ rest, piece first (front ++ b :: rest) = (one, (piece first front).2 ++ b :: rest) := by
  unfold piece
  split
  · exact ⟨_, .refl _, fun _ => rfl⟩
  · cases leading : lead? first with
    | none => exact ⟨_, .refl _, fun _ => rfl⟩
    | some lead =>
      cases front with
      | nil =>
        have outside : ¬lead.low ≤ b := by
          intro within
          exact absurd (UInt8.le_trans (lead_low leading) within) (UInt8.not_le.mpr ascii)
        exact ⟨.flaw .continuation [first], .flaw _ _ _, fun rest => by simp [outside]⟩
      | cons second front =>
        dsimp only [List.cons_append]
        split
        · exact continuations_seam ascii _ _ _ front
        · exact ⟨_, .refl _, fun _ => rfl⟩

/-- Before a byte below 0x80 the pieces end. -/
theorem utf8Pieces_seam {b : UInt8} (ascii : b < 0x80) (front : Bytes) :
    ∃ pieces, List.Forall₂ Piece.Alike (utf8Pieces front) pieces ∧
      ∀ rest, utf8Pieces (front ++ b :: rest) = pieces ++ utf8Pieces (b :: rest) := by
  -- Over the bytes in front: one piece takes some of them, and never the byte below 0x80.
  induction length : front.length using Nat.strong_induction_on generalizing front with
  | _ n ih =>
    cases front with
    | nil => exact ⟨[], by rw [utf8Pieces]; exact .nil, fun _ => rfl⟩
    | cons first front =>
      obtain ⟨one, alike, same⟩ := piece_seam ascii first front
      have short := piece_length first front
      obtain ⟨pieces, others, more⟩ := ih _ (by simp at length; omega) (piece first front).2 rfl
      refine ⟨one :: pieces, ?_, fun rest => ?_⟩
      · rw [utf8Pieces]
        exact .cons alike others
      · rw [List.cons_append, utf8Pieces, same, more]
        rfl

/-- What comes before a line feed is decoded apart from what comes after it. -/
theorem decode_feed (front : Bytes) :
    ∃ text, ∀ rest, decode (front ++ 10 :: rest) = text ++ '\n' :: decode rest := by
  obtain ⟨pieces, -, same⟩ := utf8Pieces_seam (b := 10) (by decide) front
  have feed (rest : Bytes) : piece 10 rest = (.char '\n' 1, rest) := rfl
  refine ⟨pieces.map Piece.shown, fun rest => ?_⟩
  rw [decode, same, utf8Pieces, feed, List.map_append]
  rfl

theorem unifyNewlines_feed (front : List Char) :
    ∃ text, ∀ rest, unifyNewlines (front ++ '\n' :: rest) = text ++ '\n' :: unifyNewlines rest := by
  induction front using unifyNewlines.induct with
  | case1 => exact ⟨[], fun rest => by simp [unifyNewlines]⟩
  | case2 front ih =>
    obtain ⟨text, same⟩ := ih
    exact ⟨'\n' :: text, fun rest => by simp [unifyNewlines, same]⟩
  | case3 front other ih =>
    cases front with
    | nil => exact ⟨[], fun rest => by simp [unifyNewlines]⟩
    | cons c front =>
      obtain ⟨text, same⟩ := ih
      have apart : c ≠ '\n' := fun feed => other front (by rw [feed])
      refine ⟨'\n' :: text, fun rest => ?_⟩
      have onward := same rest
      simp_all [unifyNewlines]
  | case4 c front other single ih =>
    obtain ⟨text, same⟩ := ih
    refine ⟨c :: text, fun rest => ?_⟩
    have plain : c ≠ '\r' := by
      rintro rfl
      exact single rfl
    simp [unifyNewlines, same, plain]

/-- A line feed ends a line, and there is a line that it ends. -/
theorem lines_feed (front : List Char) :
    ∃ first ended, ∀ rest, lines (front ++ '\n' :: rest) = first :: ended ++ lines rest := by
  induction front with
  | nil => exact ⟨['\n'], [], fun rest => by simp [lines]⟩
  | cons c front ih =>
    obtain ⟨first, ended, same⟩ := ih
    by_cases feed : c = '\n'
    · subst feed
      exact ⟨['\n'], first :: ended, fun rest => by simp [lines, same]⟩
    · exact ⟨c :: first, ended, fun rest => by simp [lines, same]⟩

end PerlAudit.Text

namespace PerlAudit.Source

open Text

/-- The lines of a file that is cut behind a line feed are those of its parts, and the first part
has some. -/
theorem linesOf_feed (front rest : Bytes) :
    linesOf (front ++ 10 :: rest) = linesOf (front ++ [10]) ++ linesOf rest ∧
      linesOf (front ++ [10]) ≠ [] := by
  obtain ⟨decoded, decodes⟩ := decode_feed front
  obtain ⟨unified, unifies⟩ := unifyNewlines_feed decoded
  obtain ⟨first, ended, ends⟩ := lines_feed unified
  have cut (rest : Bytes) : linesOf (front ++ 10 :: rest) = first :: ended ++ linesOf rest := by
    rw [linesOf, decodes, unifies, ends]
    rfl
  have alone : linesOf (front ++ [10]) = first :: ended := by
    have nothing : linesOf [] = [] := by simp [linesOf, decode, utf8Pieces, unifyNewlines, lines]
    rw [cut, nothing, List.append_nil]
  rw [cut, alone]
  exact ⟨rfl, List.cons_ne_nil first ended⟩

end PerlAudit.Source
