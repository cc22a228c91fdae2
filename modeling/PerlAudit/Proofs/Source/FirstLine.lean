import PerlAudit.Proofs.Files.Growth
import PerlAudit.Proofs.Source.DecidingLine
import PerlAudit.Proofs.Source.Recognition
import PerlAudit.Proofs.Text.Ascii
import PerlAudit.Source.Kind

/-!
The first line of a file, which two readers look at. A search takes what comes before the first
line end of any style, however long it is. What kind of file it is, on the other hand, is told by
the bytes up to the first line feed, and by no more than so many of them. Both see what stands in
the bytes before the first line end and within the limit; and where a carriage return stands nowhere
but at the end of the line, the second sees nothing more.
-/

namespace PerlAudit

namespace Text

theorem unifyNewlines_clean {text : List Char} (clean : '\r' ∉ text) (rest : List Char) :
    unifyNewlines (text ++ rest) = text ++ unifyNewlines rest := by
  induction text with
  | nil => rfl
  | cons c text ih =>
    obtain ⟨other, clean⟩ : '\r' ≠ c ∧ '\r' ∉ text := by simpa using clean
    simp [unifyNewlines, Ne.symm other, ih clean]

/-- A carriage return ends a line, whether a line feed comes with it or not. -/
theorem unifyNewlines_return (rest : List Char) :
    ∃ more, unifyNewlines ('\r' :: rest) = '\n' :: more := by
  cases rest with
  | nil => exact ⟨[], by simp [unifyNewlines]⟩
  | cons c rest =>
    by_cases feed : c = '\n'
    · subst feed
      exact ⟨unifyNewlines rest, by rw [unifyNewlines]⟩
    · exact ⟨unifyNewlines (c :: rest), by simp [unifyNewlines, feed]⟩

theorem lines_line {text : List Char} (clean : '\n' ∉ text) (rest : List Char) :
    lines (text ++ '\n' :: rest) = (text ++ ['\n']) :: lines rest := by
  induction text with
  | nil => simp [lines]
  | cons c text ih =>
    obtain ⟨other, clean⟩ : '\n' ≠ c ∧ '\n' ∉ text := by simpa using clean
    simp [lines, Ne.symm other, ih clean]

theorem lines_last {text : List Char} (clean : '\n' ∉ text) (nonempty : text ≠ []) :
    lines text = [text] := by
  induction text with
  | nil => exact absurd rfl nonempty
  | cons c text ih =>
    obtain ⟨other, clean⟩ : '\n' ≠ c ∧ '\n' ∉ text := by simpa using clean
    cases text with
    | nil => simp [lines, Ne.symm other]
    | cons d text =>
      rw [lines, ih clean (List.cons_ne_nil d text)]
      exact fun feed => other feed.symm

/-- A character that stands in a text but not at its end stands before that end. -/
theorem split_before_end {c : Char} {before behind text ending : List Char}
    (split : text ++ ending = before ++ c :: behind) (apart : c ∉ ending) :
    ∃ more, text = before ++ c :: more := by
  obtain ⟨rest, rfl, rfl⟩ | ⟨rest, rfl, more⟩ := List.append_eq_append_iff.mp split
  · exact absurd (List.mem_append_right rest List.mem_cons_self) apart
  · cases rest with
    | nil =>
      rw [List.nil_append] at more
      exact absurd (more ▸ List.mem_cons_self) apart
    | cons d rest =>
      cases more
      exact ⟨rest, rfl⟩

end Text

namespace Source

open Text Files

/-- Whether a byte ends a line, in whatever style. -/
def endsRow (b : UInt8) : Bool := b == 10 || b == 13

/-- The bytes before the first line end. -/
def firstRow (content : Bytes) : Bytes := content.takeWhile fun b => !endsRow b

theorem endsRow_ascii {b : UInt8} (ends : endsRow b = true) : b < 0x80 := by
  obtain rfl | rfl : b = 10 ∨ b = 13 := by simpa [endsRow] using ends
  · decide
  · decide

theorem firstRow_clean (content : Bytes) : ∀ b ∈ firstRow content, endsRow b = false := by
  intro b member
  simpa using List.mem_takeWhile_imp member

/-- A file is its first row alone, or a line end follows. -/
theorem firstRow_cases (content : Bytes) :
    content = firstRow content ∨
      ∃ b rest, content = firstRow content ++ b :: rest ∧ endsRow b = true := by
  have whole := List.takeWhile_append_dropWhile (p := fun b => !endsRow b) (l := content)
  cases rest : content.dropWhile fun b => !endsRow b with
  | nil =>
    left
    rw [rest, List.append_nil] at whole
    exact whole.symm
  | cons b rest' =>
    right
    have stops := List.head?_dropWhile_not (fun b => !endsRow b) content
    rw [rest] at whole stops
    exact ⟨b, rest', whole.symm, by simpa using stops⟩

theorem firstRow_append {front : Bytes} (clean : ∀ b ∈ front, endsRow b = false) (rest : Bytes) :
    firstRow (front ++ rest) = front ++ firstRow rest :=
  List.takeWhile_append_of_pos fun b member => by simp [clean b member]

/-- Bytes without a line end are read as a text without one. -/
theorem decode_clean {row : Bytes} (clean : ∀ b ∈ row, endsRow b = false) :
    '\n' ∉ decode row ∧ '\r' ∉ decode row := by
  constructor
  · intro feed
    have member : (10 : UInt8) ∈ row := (mem_decode_iff (by decide)).mp feed
    exact absurd (clean 10 member) (by decide)
  · intro feed
    have member : (13 : UInt8) ∈ row := (mem_decode_iff (by decide)).mp feed
    exact absurd (clean 13 member) (by decide)

/-- The first line of a file, as a search sees it, is what its first row is read as, with a line
feed if the row is ended. -/
theorem linesOf_first {content : Bytes} (nonempty : content ≠ []) :
    ∃ ending more, linesOf content = (decode (firstRow content) ++ ending) :: more ∧
      (ending = [] ∨ ending = ['\n']) := by
  obtain ⟨noFeed, noReturn⟩ := decode_clean (firstRow_clean content)
  obtain whole | ⟨b, rest, whole, ends⟩ := firstRow_cases content
  · have row : linesOf content = lines (unifyNewlines (decode (firstRow content) ++ [])) := by
      rw [List.append_nil, ← whole]
      rfl
    have shown : decode (firstRow content) ≠ [] := by
      rw [← whole]
      obtain ⟨first, others, rfl⟩ := List.exists_cons_of_ne_nil nonempty
      rw [decode_cons]
      exact List.cons_ne_nil _ _
    refine ⟨[], [], ?_, .inl rfl⟩
    rw [row, unifyNewlines_clean noReturn, unifyNewlines, List.append_nil, lines_last noFeed shown]
  · have feed : ∃ more, unifyNewlines (Char.ofNat b.toNat :: decode rest) = '\n' :: more := by
      obtain rfl | rfl : b = 10 ∨ b = 13 := by simpa [endsRow] using ends
      · exact ⟨unifyNewlines (decode rest), by simp [unifyNewlines]⟩
      · exact unifyNewlines_return (decode rest)
    obtain ⟨more, feed⟩ := feed
    have row : linesOf content =
        lines (unifyNewlines (decode (firstRow content) ++ Char.ofNat b.toNat :: decode rest)) := by
      rw [← decode_seam (endsRow_ascii ends), ← whole]
      rfl
    refine ⟨['\n'], lines more, ?_, .inr rfl⟩
    rw [row, unifyNewlines_clean noReturn, feed, lines_line noFeed]

/-- What stands in the first line stands in the bytes before the first line end. -/
theorem split_first_line {b : UInt8} (ascii : b < 0x80) (plain : endsRow b = false)
    {content : Bytes} {line before behind : Line} {more : List Line}
    (first : linesOf content = line :: more)
    (split : line = before ++ Char.ofNat b.toNat :: behind) :
    ∃ front rest, content = front ++ b :: rest ∧ decode front = before ∧
      (∀ x ∈ front, endsRow x = false) ∧
      extent content (before.length + 1) = front.length + 1 := by
  have nonempty : content ≠ [] := by
    rintro rfl
    simp [linesOf, decode_nil, unifyNewlines, lines] at first
  obtain ⟨ending, others, lines, feed⟩ := linesOf_first nonempty
  obtain ⟨noFeed, noReturn⟩ := decode_clean (firstRow_clean content)
  have apart : Char.ofNat b.toNat ∉ ending := by
    intro member
    obtain rfl | rfl := feed
    · cases member
    · obtain rfl : b = 10 := ofNat_inj ascii (by decide) (List.mem_singleton.mp member)
      cases plain
  obtain ⟨more, row⟩ :
      ∃ more, decode (firstRow content) = before ++ Char.ofNat b.toNat :: more := by
    rw [lines, List.cons.injEq] at first
    exact split_before_end (first.1.trans split) apart
  have whole : ∃ behind, decode content = before ++ Char.ofNat b.toNat :: behind := by
    obtain whole | ⟨last, rest, whole, ends⟩ := firstRow_cases content
    · exact ⟨more, by rw [← row, ← whole]⟩
    · refine ⟨more ++ Char.ofNat last.toNat :: decode rest, ?_⟩
      rw [whole, decode_seam (endsRow_ascii ends), row]
      simp
  obtain ⟨behind, whole⟩ := whole
  obtain ⟨front, rest, cut, decoded, size⟩ := decode_split ascii whole
  refine ⟨front, rest, cut, decoded, ?_, size⟩
  -- A line end in front of the byte would have been read in front of the character.
  intro x member
  cases ends : endsRow x with
  | false => rfl
  | true =>
    have read : Char.ofNat x.toNat ∈ decode (firstRow content) := by
      rw [row, ← decoded]
      exact List.mem_append_left _ ((mem_decode_iff (endsRow_ascii ends)).mpr member)
    have inRow := (mem_decode_iff (endsRow_ascii ends)).mp read
    rw [firstRow_clean content x inRow] at ends
    cases ends

/-- Whatever follows, such a beginning is the beginning of the first line. -/
theorem first_line_front {front : Bytes} (clean : ∀ x ∈ front, endsRow x = false) {b : UInt8}
    (ascii : b < 0x80) (plain : endsRow b = false) (rest : Bytes) :
    ∃ behind more,
      linesOf (front ++ b :: rest) = (decode front ++ Char.ofNat b.toNat :: behind) :: more := by
  have row : firstRow (front ++ b :: rest) = front ++ b :: firstRow rest := by
    rw [firstRow_append clean]
    simp [firstRow, plain]
  obtain ⟨ending, more, lines, -⟩ := @linesOf_first (front ++ b :: rest) (by simp)
  refine ⟨decode (firstRow rest) ++ ending, more, ?_⟩
  rw [lines, row, decode_seam ascii, List.append_assoc, List.cons_append]

section Limit

theorem firstBytes_eq (content : Bytes) :
    firstBytes content = (content.takeWhile (· != 10) ++
      (content.dropWhile (· != 10)).take 1).take firstLineLimit := by
  have whole := List.takeWhile_append_dropWhile (p := (· != 10)) (l := content)
  have inside : ∀ b ∈ content.takeWhile (· != 10), (b != 10) = true :=
    fun _ => List.mem_takeWhile_imp
  have stops := List.head?_dropWhile_not (· != 10) content
  unfold firstBytes
  generalize content.takeWhile (· != 10) = line at *
  generalize content.dropWhile (· != 10) = rest at *
  subst whole
  by_cases long : firstLineLimit ≤ line.length
  · have all : (line.take firstLineLimit).takeWhile (· != 10) = line.take firstLineLimit :=
      List.takeWhile_eq_self_iff.mpr fun b member => inside b (List.mem_of_mem_take member)
    simp only [List.take_append_of_le_length long, all]
    exact List.take_of_length_le (Nat.le_succ _)
  · have short : 1 ≤ firstLineLimit - line.length := by omega
    have ended : (rest.take (firstLineLimit - line.length)).takeWhile (· != 10) = [] := by
      cases rest with
      | nil => simp
      | cons b rest =>
        have feed : b = 10 := by simpa using stops
        obtain ⟨n, more⟩ :=
          Nat.exists_eq_add_one_of_ne_zero (by omega : firstLineLimit - line.length ≠ 0)
        simp [more, feed]
    have start : (line ++ rest).take firstLineLimit =
        line ++ rest.take (firstLineLimit - line.length) := by
      rw [List.take_append, List.take_of_length_le (by omega)]
    have row : (line ++ rest.take (firstLineLimit - line.length)).takeWhile (· != 10) = line := by
      rw [List.takeWhile_append_of_pos inside, ended, List.append_nil]
    simp only [start, row]
    calc (line ++ rest.take (firstLineLimit - line.length)).take (line.length + 1)
        = line ++ (rest.take (firstLineLimit - line.length)).take 1 := by
          rw [List.take_append, List.take_of_length_le (Nat.le_succ _), Nat.add_sub_cancel_left]
      _ = line ++ rest.take 1 := by rw [List.take_take, Nat.min_eq_left short]
      _ = (line ++ rest.take 1).take firstLineLimit := by
          refine (List.take_of_length_le ?_).symm
          simp only [List.length_append, List.length_take]
          omega

/-- A beginning within the limit is read whole. -/
theorem firstBytes_front {front : Bytes} (clean : ∀ x ∈ front, endsRow x = false) {b : UInt8}
    (plain : endsRow b = false) (short : front.length + 1 ≤ firstLineLimit) (rest : Bytes) :
    ∃ behind, firstBytes (front ++ b :: rest) = front ++ b :: behind := by
  have noFeed {x : UInt8} (other : endsRow x = false) : (x != 10) = true := by
    simp only [endsRow, Bool.or_eq_false_iff] at other
    simp [bne, other.1]
  have line : (front ++ b :: rest).takeWhile (· != 10) =
      front ++ b :: rest.takeWhile (· != 10) := by
    rw [List.takeWhile_append_of_pos fun x member => noFeed (clean x member), List.takeWhile_cons,
      if_pos (noFeed plain)]
  obtain ⟨left, room⟩ :=
    Nat.exists_eq_add_one_of_ne_zero (by omega : firstLineLimit - front.length ≠ 0)
  rw [firstBytes_eq, line, List.append_assoc, List.take_append,
    List.take_of_length_le (Nat.le_of_succ_le short), room, List.cons_append, List.take_succ_cons]
  exact ⟨_, rfl⟩

/-- Line ends are read as such. -/
theorem decode_ends {ends : Bytes} (all : ∀ b ∈ ends, endsRow b = true) (front : Bytes) :
    ∃ shown, decode (front ++ ends) = decode front ++ shown ∧ ∀ c ∈ shown, c = '\n' ∨ c = '\r' := by
  induction ends generalizing front with
  | nil => exact ⟨[], by simp, List.forall_mem_nil _⟩
  | cons b ends ih =>
    obtain ⟨first, others⟩ := List.forall_mem_cons.mp all
    obtain ⟨shown, decoded, breaks⟩ := ih others []
    rw [List.nil_append, decode_nil, List.nil_append] at decoded
    refine ⟨Char.ofNat b.toNat :: shown, ?_, List.forall_mem_cons.mpr ⟨?_, breaks⟩⟩
    · rw [decode_seam (endsRow_ascii first), decoded]
    · obtain rfl | rfl : b = 10 ∨ b = 13 := by simpa [endsRow] using first
      · exact .inl rfl
      · exact .inr rfl

/-- A line end behind a first line does not make it one that names Perl. -/
theorem isShebang_ended {ending : Line} (breaks : ∀ c ∈ ending, c = '\n' ∨ c = '\r') (line : Line) :
    isShebang (line ++ ending) = isShebang line := by
  rw [Bool.eq_iff_iff, isShebang_iff, isShebang_iff]
  constructor
  · rintro ⟨skipped, rest, split, clean⟩
    have apart : 'l' ∉ ending := by
      intro member
      obtain same | same := breaks 'l' member
      · cases same
      · cases same
    have last : line ++ ending = ("#!".toList ++ skipped ++ "per".toList) ++ 'l' :: rest := by
      simp [split]
    obtain ⟨more, whole⟩ := split_before_end last apart
    exact ⟨skipped, more, by simp [whole], clean⟩
  · rintro ⟨skipped, rest, rfl, clean⟩
    exact ⟨skipped, rest ++ ending, by simp, clean⟩

/-- If a carriage return stands nowhere but at the end of the first line, nothing but line ends is
read behind the first row. -/
theorem firstBytes_row {content : Bytes} (clean : 13 ∉ (content.takeWhile (· != 10)).dropLast) :
    ∃ ends, firstBytes content = (firstRow content).take firstLineLimit ++ ends ∧
      ∀ b ∈ ends, endsRow b = true := by
  have row : firstRow content = (content.takeWhile (· != 10)).takeWhile (· != 13) := by
    rw [List.takeWhile_takeWhile, firstRow]
    congr 1
    funext b
    rw [Bool.eq_iff_iff]
    simp [endsRow, and_comm]
  have stops := List.head?_dropWhile_not (· != 10) content
  have returns := List.head?_dropWhile_not (· != 13) (content.takeWhile (· != 10))
  have whole := List.takeWhile_append_dropWhile (p := (· != 13)) (l := content.takeWhile (· != 10))
  rw [firstBytes_eq, row]
  generalize content.dropWhile (· != 10) = rest at *
  generalize content.takeWhile (· != 10) = line at *
  generalize line.takeWhile (· != 13) = front at *
  generalize line.dropWhile (· != 13) = back at *
  subst whole
  have ended : ∀ b ∈ back, endsRow b = true := by
    cases back with
    | nil => exact List.forall_mem_nil _
    | cons b back =>
      obtain rfl : b = 13 := by simpa using returns
      cases back with
      | nil => exact List.forall_mem_singleton.mpr rfl
      | cons c back => exact absurd (by simp) clean
  have fed : ∀ b ∈ rest.take 1, endsRow b = true := by
    cases rest with
    | nil => exact List.forall_mem_nil _
    | cons b rest =>
      obtain rfl : b = 10 := by simpa using stops
      exact List.forall_mem_singleton.mpr rfl
  refine ⟨(back ++ rest.take 1).take (firstLineLimit - front.length), ?_, ?_⟩
  · rw [List.append_assoc, List.take_append]
  · intro b member
    exact List.forall_mem_append.mpr ⟨ended, fed⟩ b (List.mem_of_mem_take member)

/-- If a carriage return stands nowhere but at the end of the first line, what is read to tell the
kind of file names Perl exactly if the first row does, as far as the limit. -/
theorem isShebang_firstBytes {content : Bytes}
    (clean : 13 ∉ (content.takeWhile (· != 10)).dropLast) :
    isShebang (decode (firstBytes content)) =
      isShebang (decode ((firstRow content).take firstLineLimit)) := by
  obtain ⟨ends, read, all⟩ := firstBytes_row clean
  obtain ⟨shown, decoded, breaks⟩ := decode_ends all ((firstRow content).take firstLineLimit)
  rw [read, decoded, isShebang_ended breaks]

end Limit

section Agreement

variable {content : Bytes} {start tail line : Line} {more : List Line}

/-- A first line that names Perl does so in the bytes up to an `l` before the first line end.
Whoever reads these bytes first reads the name. -/
theorem namesPerl_front (first : linesOf content = (start ++ tail) :: more)
    (names : NamesPerl start) :
    ∃ front rest, content = front ++ 108 :: rest ∧ (∀ x ∈ front, endsRow x = false) ∧
      front.length + 1 ≤ extent content start.length ∧
      ∀ behind, NamesPerl (decode (front ++ 108 :: behind)) := by
  obtain ⟨skipped, behind, split, clean⟩ := names
  have last : start ++ tail = ("#!".toList ++ skipped ++ "per".toList) ++
      Char.ofNat (108 : UInt8).toNat :: (behind ++ tail) := by
    rw [split]
    simp
  obtain ⟨front, rest, cut, decoded, plain, size⟩ :=
    split_first_line (by decide) (by decide) first last
  refine ⟨front, rest, cut, plain, ?_, ?_⟩
  · rw [← size]
    apply Piece.extent_mono
    have letters : "perl".toList.length = "per".toList.length + 1 := rfl
    rw [split]
    simp only [List.length_append]
    omega
  · intro other
    refine ⟨skipped, decode other, ?_, clean⟩
    rw [decode_seam (by decide), decoded]
    simp

/-- What is read to tell the kind of file names Perl if those bytes are within the limit. -/
theorem isShebang_of_front {front rest : Bytes} (plain : ∀ x ∈ front, endsRow x = false)
    (names : ∀ behind, NamesPerl (decode (front ++ 108 :: behind)))
    (short : front.length + 1 ≤ firstLineLimit) :
    isShebang (decode (firstBytes (front ++ 108 :: rest))) = true := by
  obtain ⟨behind, read⟩ := firstBytes_front plain (by decide : endsRow 108 = false) short rest
  rw [read]
  exact (isShebang_iff _).mpr (names behind)

/-- Where the first line names Perl within the limit, the kind of file is told by it. -/
theorem isShebang_within {n : Nat} (first : linesOf content = line :: more)
    (names : isShebang (line.take n) = true) (within : extent content n ≤ firstLineLimit) :
    isShebang (decode (firstBytes content)) = true := by
  have parts : linesOf content = (line.take n ++ line.drop n) :: more := by
    rw [List.take_append_drop, first]
  obtain ⟨front, rest, rfl, plain, size, named⟩ :=
    namesPerl_front parts ((isShebang_iff _).mp names)
  apply isShebang_of_front plain named
  calc front.length + 1 ≤ extent _ (line.take n).length := size
    _ ≤ extent _ n := Piece.extent_mono _ (List.length_take_le n line)
    _ ≤ firstLineLimit := within

/-- Where the first line is within the limit and no carriage return stands in it, the kind of file
is told by it alone. -/
theorem isShebang_short (clean : 13 ∉ (content.takeWhile (· != 10)).dropLast)
    (short : (firstRow content).length ≤ firstLineLimit) :
    isShebang (decode (firstBytes content)) = (linesOf content).head?.any isShebang := by
  rw [isShebang_firstBytes clean, List.take_of_length_le short]
  by_cases empty : content = []
  · subst empty
    simp [firstRow, linesOf, decode_nil, unifyNewlines, lines, isShebang, after?]
  · obtain ⟨ending, others, lines, feed⟩ := linesOf_first empty
    have breaks : ∀ c ∈ ending, c = '\n' ∨ c = '\r' := by
      obtain rfl | rfl := feed
      · exact List.forall_mem_nil _
      · exact List.forall_mem_singleton.mpr (.inl rfl)
    rw [lines, List.head?_cons, Option.any_some, isShebang_ended breaks]

/-- Where the first line is within the limit, the kind of file is told by a name in it. -/
theorem isShebang_of_short (first : linesOf content = line :: more)
    (names : isShebang line = true) (short : (firstRow content).length ≤ firstLineLimit) :
    isShebang (decode (firstBytes content)) = true := by
  have parts : linesOf content = (line ++ []) :: more := by rw [List.append_nil, first]
  obtain ⟨front, rest, rfl, plain, -, named⟩ := namesPerl_front parts ((isShebang_iff _).mp names)
  apply isShebang_of_front plain named
  have row : firstRow (front ++ 108 :: rest) = front ++ 108 :: firstRow rest := by
    rw [firstRow_append plain]
    rfl
  rw [row, List.length_append, List.length_cons] at short
  omega

theorem isScript_opened {disk : Disk} {path : Text} (opened : disk.read path = .ok content) :
    isScript disk path = .ok (isScriptName path || isShebang (decode (firstBytes content))) := by
  have first : firstLine disk path =
      .ok (if (firstBytes content).isEmpty then none else some (decode (firstBytes content))) := by
    rw [firstLine, Disk.nameable_of_read opened, opened]
  have silent : isShebang (decode []) = false := by
    rw [decode_nil]
    rfl
  rw [isScript, first]
  cases isScriptName path with
  | true => rfl
  | false =>
    cases firstBytes content with
    | nil => exact congrArg Except.ok silent.symm
    | cons b rest => rfl

/-- A first line that switches warnings on does so up to a `w`, whatever follows it. -/
theorem shebangWarns_front (warns : shebangWarns line = true) :
    ∃ front c behind, line = front ++ c :: behind ∧ (c = 'w' ∨ c = 'W') ∧
      ('\n' ∉ front → ∀ other, shebangWarns (front ++ c :: other) = true) := by
  obtain ⟨⟨skipped, rest, named, -⟩, before, gap, switches, behind, split, blanks, blank, words, -,
    either⟩ := (shebangWarns_iff line).mp warns
  obtain ⟨c, member, isW⟩ : ∃ c ∈ switches, c = 'w' ∨ c = 'W' := by
    obtain lower | upper := either
    · exact ⟨'w', lower, .inl rfl⟩
    · exact ⟨'W', upper, .inr rfl⟩
  obtain ⟨early, late, rfl⟩ := List.append_of_mem member
  -- The switch stands behind a `perl` of its own, and that one names Perl too.
  obtain ⟨skips, rfl⟩ : ∃ skips, before = "#!".toList ++ skips := by
    rw [named] at split
    cases before with
    | nil => simp at split
    | cons a before =>
      cases before with
      | nil => simp at split
      | cons b before =>
        obtain ⟨rfl, rfl, -⟩ : '#' = a ∧ '!' = b ∧ _ := by simpa using split
        exact ⟨before, rfl⟩
  refine ⟨"#!".toList ++ skips ++ "perl".toList ++ gap ++ '-' :: early, c, late ++ behind,
    by simp [split], isW, ?_⟩
  intro noFeed other
  rw [shebangWarns_iff]
  constructor
  · refine ⟨skips, gap ++ '-' :: early ++ c :: other, by simp, fun feed => noFeed ?_⟩
    simp [feed]
  · obtain ⟨wordsEarly, wordsLate⟩ := List.forall_mem_append.mp words
    refine ⟨"#!".toList ++ skips, gap, early ++ c :: other.takeWhile isWord,
      other.dropWhile isWord, ?_, blanks, blank, ?_, head?_dropWhile_isWord other, ?_⟩
    · simp
    · have wordsOther : ∀ d ∈ other.takeWhile isWord, isWord d = true :=
        fun _ => List.mem_takeWhile_imp
      exact List.forall_mem_append.mpr
        ⟨wordsEarly, List.forall_mem_cons.mpr ⟨(List.forall_mem_cons.mp wordsLate).1, wordsOther⟩⟩
    · obtain rfl | rfl := isW
      · simp
      · simp

/-- Warnings that the first line switches on stay on while the file grows. -/
theorem shebangWarns_grown (first : linesOf content = line :: more)
    (warns : shebangWarns line = true) (added : Bytes) :
    ∃ line more, linesOf (content ++ added) = line :: more ∧ shebangWarns line = true := by
  obtain ⟨front, c, behind, split, isW, lasts⟩ := shebangWarns_front warns
  obtain ⟨b, ascii, plain, rfl⟩ :
      ∃ b : UInt8, b < 0x80 ∧ endsRow b = false ∧ c = Char.ofNat b.toNat := by
    obtain rfl | rfl := isW
    · exact ⟨119, by decide, by decide, rfl⟩
    · exact ⟨87, by decide, by decide, rfl⟩
  obtain ⟨bytes, rest, rfl, rfl, clean, -⟩ := split_first_line ascii plain first split
  obtain ⟨other, others, lines⟩ := first_line_front clean ascii plain (rest ++ added)
  refine ⟨_, others, ?_, lasts (decode_clean clean).1 other⟩
  rw [List.append_assoc, List.cons_append, lines]

end Agreement

end Source

end PerlAudit
