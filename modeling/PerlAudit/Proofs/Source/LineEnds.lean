import PerlAudit.Proofs.Source.FirstLine
import PerlAudit.Proofs.Text.Pieces


namespace PerlAudit.Source

open Text Files

/-- How lines end: in a line feed, a carriage return and a line feed, or a carriage return. -/
inductive Ending where
  | feed
  | both
  | carriage
  deriving DecidableEq, Repr

namespace Ending

def bytes : Ending → Bytes
  | feed => [10]
  | both => [13, 10]
  | carriage => [13]

/-- A file with each line feed replaced by the line end of a style. -/
def written (style : Ending) (content : Bytes) : Bytes :=
  content.flatMap fun b => if b = 10 then style.bytes else [b]

variable (style : Ending) {content row : Bytes}

theorem written_last (clean : 10 ∉ row) : style.written row = row := by
  induction row with
  | nil => rfl
  | cons b row ih =>
    obtain ⟨other, clean⟩ : 10 ≠ b ∧ 10 ∉ row := by simpa using clean
    rw [written, List.flatMap_cons, if_neg (Ne.symm other)]
    exact congrArg (b :: ·) (ih clean)

theorem written_row (clean : 10 ∉ row) (rest : Bytes) :
    style.written (row ++ 10 :: rest) = row ++ (style.bytes ++ style.written rest) := by
  have front := style.written_last clean
  unfold written at *
  rw [List.flatMap_append, front, List.flatMap_cons, if_pos rfl]

theorem feed_not_mem_written (content : Bytes) : 10 ∉ carriage.written content := by
  simp only [written, List.mem_flatMap, not_exists, not_and]
  intro b member
  by_cases feed : b = 10
  · simp [feed, bytes]
  · simpa [feed] using Ne.symm feed

/-- A row and a line end of whatever style are read as the row and a line feed. A carriage return
takes a line feed that follows with it, so none may follow where it is a line end by itself. -/
theorem unifyNewlines_row (clean : 13 ∉ row) {rest : Bytes} (apart : style = carriage → 10 ∉ rest) :
    unifyNewlines (decode (row ++ (style.bytes ++ rest))) =
      decode row ++ '\n' :: unifyNewlines (decode rest) := by
  have noReturn : '\r' ∉ decode row := fun member =>
    clean ((mem_decode_iff (b := 13) (by decide)).mp member)
  cases style with
  | feed =>
    rw [bytes, List.singleton_append, decode_seam (by decide), unifyNewlines_clean noReturn]
    simp [unifyNewlines]
  | both =>
    rw [bytes, List.cons_append, List.singleton_append, decode_seam (by decide),
      unifyNewlines_clean noReturn, decode_ascii (by decide)]
    simp [unifyNewlines]
  | carriage =>
    have noFeed : '\n' ∉ decode rest := fun member =>
      apart rfl ((mem_decode_iff (b := 10) (by decide)).mp member)
    rw [bytes, List.singleton_append, decode_seam (by decide), unifyNewlines_clean noReturn]
    cases shown : decode rest with
    | nil => simp [unifyNewlines]
    | cons c behind =>
      have other : c ≠ '\n' := by
        rintro rfl
        exact noFeed (shown ▸ List.mem_cons_self)
      simp [unifyNewlines, other]

/-- Whatever the style of the line ends, the text is the same, and so it is with more behind it
unless lone carriage returns are the line ends. -/
theorem unifyNewlines_written (clean : 13 ∉ content) {rest : Bytes}
    (apart : style = carriage → rest = []) :
    unifyNewlines (decode (style.written content ++ rest)) =
      unifyNewlines (decode (content ++ rest)) := by
  induction content using parts_induction (10 : UInt8) with
  | last row noFeed => rw [style.written_last noFeed]
  | next row more noFeed ih =>
    obtain ⟨cleanRow, cleanMore⟩ : 13 ∉ row ∧ 13 ∉ more := by simpa using clean
    have apart' : style = carriage → 10 ∉ style.written more ++ rest := by
      intro alone
      rw [alone, apart alone, List.append_nil]
      exact feed_not_mem_written more
    calc unifyNewlines (decode (style.written (row ++ 10 :: more) ++ rest))
        = decode row ++ '\n' :: unifyNewlines (decode (style.written more ++ rest)) := by
          rw [style.written_row noFeed, List.append_assoc, List.append_assoc,
            style.unifyNewlines_row cleanRow apart']
      _ = decode row ++ '\n' :: unifyNewlines (decode (more ++ rest)) := by rw [ih cleanMore]
      _ = unifyNewlines (decode ((row ++ 10 :: more) ++ rest)) := by
          rw [← feed.unifyNewlines_row cleanRow (fun other => by cases other), bytes,
            List.append_assoc]
          rfl

theorem linesOf_written (clean : 13 ∉ content) {rest : Bytes}
    (apart : style = carriage → rest = []) :
    linesOf (style.written content ++ rest) = linesOf (content ++ rest) :=
  congrArg lines (style.unifyNewlines_written clean apart)

end Ending

/-- A carriage return in front of each line feed does not change what the first line tells about the
kind of file. -/
theorem isShebang_firstBytes_written {content : Bytes} (clean : 13 ∉ content) :
    isShebang (decode (firstBytes (Ending.both.written content))) =
      isShebang (decode (firstBytes content)) := by
  induction content using parts_induction (10 : UInt8) with
  | last row noFeed => rw [Ending.written_last _ noFeed]
  | next row more noFeed _ =>
    obtain ⟨noReturn, -⟩ : 13 ∉ row ∧ 13 ∉ more := by simpa using clean
    have other (b : UInt8) (member : b ∈ row) : b ≠ 10 ∧ b ≠ 13 := by
      constructor
      · rintro rfl
        exact noFeed member
      · rintro rfl
        exact noReturn member
    have plain : ∀ b ∈ row, endsRow b = false := fun b member => by simp [endsRow, other b member]
    have upTo (rest : Bytes) :
        (row ++ rest).takeWhile (· != 10) = row ++ rest.takeWhile (· != 10) :=
      List.takeWhile_append_of_pos fun b member => by simp [other b member]
    rw [Ending.written_row _ noFeed, isShebang_firstBytes, isShebang_firstBytes,
      firstRow_append plain, firstRow_append plain]
    · rfl
    · rw [upTo]
      simpa using fun member => noReturn (List.mem_of_mem_dropLast member)
    · rw [upTo]
      simpa [Ending.bytes] using noReturn

end PerlAudit.Source
