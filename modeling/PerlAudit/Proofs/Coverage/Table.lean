import PerlAudit.Proofs.Coverage.TotalLine
import PerlAudit.Proofs.Number.Readback

namespace PerlAudit.Coverage

open Text Number Source

/-- A decimal: digits of any script, perhaps with a point among them. -/
structure Figure where
  whole : List Char
  places : Option (List Char)
  digits : ∀ c ∈ whole ++ places.getD [], isDigit c = true
  filled : whole ++ places.getD [] ≠ []

/-- The blanks before a column. They do not end the line. -/
structure Gap where
  text : List Char
  filled : text ≠ []
  blank : ∀ c ∈ text, isBlank c = true ∧ c ≠ '\n'

/-- A column holds a decimal, or says that there is none. -/
inductive Column where
  | figure (figure : Figure)
  | absent

/-- A name, columns of which the last holds a decimal, and perhaps blanks at the end of the line. -/
structure Row where
  name : List Char
  columns : List (Gap × Column)
  gap : Gap
  last : Figure
  slack : List Char
  named : name ≠ [] ∧ ∀ c ∈ name, isBlank c = false
  idle : ∀ c ∈ slack, isBlank c = true ∧ c ≠ '\n'

namespace Figure

def text (f : Figure) : List Char := f.whole ++ (f.places.map ('.' :: ·)).getD []

/-- The value of digits of any script. -/
def digitsValue (digits : List Char) : Nat :=
  digits.foldl (fun n c => n * 10 + (digitValue? c).getD 0) 0

/-- The number nearest to the decimal. -/
def value (f : Figure) : Binary64 :=
  .ofDecimal false (digitsValue (f.whole ++ f.places.getD [])) (-(f.places.getD []).length)

end Figure

def Column.text : Column → List Char
  | figure f => f.text
  | absent => "n/a".toList

/-- What stands before the last column. -/
def Row.front (row : Row) : List Char :=
  row.columns.flatMap (fun (gap, column) => gap.text ++ column.text) ++ row.gap.text

def Row.text (row : Row) : Line := row.name ++ row.front ++ row.last.text ++ row.slack

/-- Whether the name of a row begins with `Total`. -/
def Row.headed (row : Row) : Bool := "Total".toList.isPrefixOf row.name

/-- A report. The row with the totals is the one named `Total`, and no line before the rows begins
with that word. -/
structure Table where
  header : List Line
  files : List Row
  summary : Row
  trailer : List Line
  headerLines : ∀ line ∈ header, '\n' ∉ line ∧ ¬"Total".toList <+: line
  fileNames : ∀ row ∈ files, row.name ≠ "Total".toList
  summaryName : summary.name = "Total".toList
  trailerLines : ∀ line ∈ trailer, '\n' ∉ line

namespace Table

def lines (t : Table) : List Line :=
  t.header ++ t.files.map Row.text ++ t.summary.text :: t.trailer

def text (t : Table) : List Char := List.intercalate ['\n'] t.lines

/-- The first row whose name begins with `Total`. -/
def counted (t : Table) : Row := (t.files.find? Row.headed).getD t.summary

end Table

section Figures

/-- A digit of any script stands for one of the ten. -/
theorem plainChar_digit {c : Char} (digit : isDigit c = true) :
    ∃ k < 10, digitValue? c = some k ∧ plainChar c = Char.ofNat (48 + k) := by
  have only : ∀ first ∈ zeros, first < 0x7F → first = 48 := by decide
  have solid : isBlank c = false := isFigure_not_isBlank (by simp [isFigure, digit])
  obtain ⟨k, value⟩ := Option.isSome_iff_exists.mp digit
  obtain ⟨first, found, rfl⟩ := Option.map_eq_some_iff.mp value
  have range : first ≤ c.toNat ∧ c.toNat < first + 10 := by simpa using List.find?_some found
  refine ⟨c.toNat - first, by omega, value, ?_⟩
  unfold plainChar
  split
  · rename_i ascii
    have start := only first (List.mem_of_find?_eq_some found) (by omega)
    rw [← start, Nat.add_sub_cancel' range.1, Char.ofNat_toNat]
  · rw [solid, value]
    rfl

/-- What the digits stand for are digits of numerals, of the same value. -/
theorem plain_digits {digits : List Char} (all : ∀ c ∈ digits, isDigit c = true) :
    (∀ c ∈ digits.map plainChar, c.isDigit = true) ∧
      decimalDigits (digits.map plainChar) = Figure.digitsValue digits := by
  have ten : ∀ k < 10, (Char.ofNat (48 + k)).isDigit = true ∧
      (Char.ofNat (48 + k)).toNat - '0'.toNat = k := by decide
  have each : ∀ c ∈ digits, (plainChar c).isDigit = true ∧
      (plainChar c).toNat - '0'.toNat = (digitValue? c).getD 0 := by
    intro c member
    obtain ⟨k, small, value, plain⟩ := plainChar_digit (all c member)
    rw [plain, value]
    exact ten k small
  refine ⟨List.forall_mem_map.mpr fun c member => (each c member).1, ?_⟩
  rw [decimalDigits, List.foldl_map, Figure.digitsValue]
  exact List.foldl_ext _ _ 0 fun n c member => by rw [(each c member).2]

theorem plainChar_point : plainChar '.' = '.' := rfl

/-- What a figure stands for is written with the characters of a numeral. -/
theorem plainNumeral_figures {s : List Char} (figures : ∀ c ∈ s, isFigure c = true) :
    plainNumeral s = s.map plainChar := by
  have ten : ∀ k < 10, isAsciiBlank (Char.ofNat (48 + k)) = false := by decide
  refine plainNumeral_of_solid fun c member => ?_
  obtain rfl | digit : c = '.' ∨ isDigit c = true := by simpa [isFigure] using figures c member
  · rfl
  · obtain ⟨k, small, -, plain⟩ := plainChar_digit digit
    rw [plain]
    exact ten k small

namespace Figure

variable (f : Figure)

theorem text_figures : ∀ c ∈ f.text, isFigure c = true := by
  obtain ⟨whole, places, digits, filled⟩ := f
  obtain ⟨before, behind⟩ := List.forall_mem_append.mp digits
  have figure {c : Char} (digit : isDigit c = true) : isFigure c = true := by simp [isFigure, digit]
  refine List.forall_mem_append.mpr ⟨fun c member => figure (before c member), ?_⟩
  cases places with
  | none => simp
  | some places =>
    exact List.forall_mem_cons.mpr ⟨rfl, fun c member => figure (behind c member)⟩

theorem text_ne_nil : f.text ≠ [] := by
  obtain ⟨whole, places, digits, filled⟩ := f
  cases places with
  | none => simpa [text] using filled
  | some places => simp [text]

/-- The digits are read with as many places as stand behind the point. -/
theorem decimal?_plain : decimal? (f.text.map plainChar) =
    some ⟨(f.whole ++ f.places.getD []).map plainChar, -(f.places.getD []).length⟩ := by
  obtain ⟨whole, places, digits, filled⟩ := f
  have all := (plain_digits digits).1
  have filled : (whole ++ places.getD []).map plainChar ≠ [] := by simpa using filled
  rw [List.map_append] at all filled
  cases places with
  | none =>
    have read : decimal? (whole.map plainChar ++ []) = some ⟨whole.map plainChar, 0⟩ :=
      decimal?_whole (by simpa using filled) (by simpa using all) (by simp) rfl
    simpa [text] using read
  | some places =>
    have read : decimal? (whole.map plainChar ++ '.' :: (places.map plainChar ++ [])) = _ :=
      decimal?_point (e := 0) filled all (by simp) rfl
    simpa [text, plainChar_point] using read

/-- A decimal is read as the number nearest to it. -/
theorem parse?_text : Binary64.parse? f.text = some f.value := by
  have plain := plainNumeral_figures f.text_figures
  obtain ⟨all, same⟩ := plain_digits f.digits
  have numeral : ∀ c ∈ f.text.map plainChar, c.isDigit = true ∨ c = '.' := by
    refine List.forall_mem_map.mpr fun c member => ?_
    obtain rfl | digit : c = '.' ∨ isDigit c = true := by
      simpa [isFigure] using f.text_figures c member
    · exact .inr rfl
    · exact .inl ((plain_digits (List.forall_mem_singleton.mpr digit)).1 _ (by simp))
  have joined : '_' ∉ f.text.map plainChar := by
    intro member
    obtain digit | point := numeral '_' member
    · cases digit
    · cases point
  obtain ⟨c, first⟩ : ∃ c, (f.text.map plainChar).head? = some c := by
    rw [← Option.isSome_iff_exists, List.isSome_head?]
    simpa using f.text_ne_nil
  have read : Binary64.parse? f.text = some (Decimal.toBinary64 false _) :=
    parse?_decimal plain joined first (numeral c (List.mem_of_mem_head? first)) f.decimal?_plain
  rw [read, Decimal.toBinary64_eq false all, same]
  rfl

end Figure

end Figures

section Rows

theorem solid_of_all {s : List Char} (all : (s.all fun c => !isBlank c) = true) :
    ∀ c ∈ s, isBlank c = false := by
  simpa using all

theorem isFigure_ne_feed {c : Char} (figure : isFigure c = true) : c ≠ '\n' := by
  rintro rfl
  exact absurd (isFigure_not_isBlank figure) (by decide)

theorem Column.no_feed (column : Column) : '\n' ∉ column.text := by
  cases column with
  | figure f => exact fun member => isFigure_ne_feed (f.text_figures _ member) rfl
  | absent => decide

namespace Row

variable (row : Row)

/-- There are blanks behind the name. -/
theorem front_head : ∃ c rest, row.front = c :: rest ∧ isBlank c = true := by
  have head (gap : Gap) (rest : List Char) :
      ∃ c more, gap.text ++ rest = c :: more ∧ isBlank c = true := by
    obtain ⟨c, more, same⟩ := List.exists_cons_of_ne_nil gap.filled
    exact ⟨c, more ++ rest, by rw [same, List.cons_append],
      (gap.blank c (same ▸ List.mem_cons_self)).1⟩
  rw [front]
  cases row.columns with
  | nil => simpa using head row.gap []
  | cons column columns =>
    rw [List.flatMap_cons, List.append_assoc, List.append_assoc]
    exact head column.1 _

/-- There are blanks before the last column. -/
theorem front_last : ∃ init c, row.front = init ++ [c] ∧ isBlank c = true := by
  obtain ⟨init, c, gap⟩ : ∃ init c, row.gap.text = init ++ [c] :=
    ⟨_, _, (List.dropLast_append_getLast row.gap.filled).symm⟩
  have blank := (row.gap.blank c (by simp [gap])).1
  exact ⟨_, c, by rw [front, gap, ← List.append_assoc], blank⟩

theorem no_feed : '\n' ∉ row.text := by
  have named : '\n' ∉ row.name := fun member => absurd (row.named.2 _ member) (by decide)
  have gap (gap : Gap) : '\n' ∉ gap.text := fun member => (gap.blank _ member).2 rfl
  have front : '\n' ∉ row.front := by
    simp only [Row.front, List.mem_append, List.mem_flatMap, not_or, not_exists, not_and]
    exact ⟨fun column _ => ⟨gap column.1, column.2.no_feed⟩, gap row.gap⟩
  have last : '\n' ∉ row.last.text := (Column.figure row.last).no_feed
  have slack : '\n' ∉ row.slack := fun member => (row.idle _ member).2 rfl
  simp [text, named, front, last, slack]

theorem headed_iff : row.headed = true ↔ "Total".toList <+: row.name := List.isPrefixOf_iff_prefix

/-- A row that begins with `Total` has a name that does: what follows the name is a blank. -/
theorem headed_of_text (total : "Total".toList <+: row.text) : row.headed = true := by
  obtain ⟨c, rest, front, blank⟩ := row.front_head
  have text : row.text = row.name ++ c :: (rest ++ row.last.text ++ row.slack) := by
    simp [Row.text, front]
  rw [headed_iff]
  obtain longer | ⟨more, shorter⟩ :=
    List.prefix_or_prefix_of_prefix total ⟨_, text.symm⟩
  · exact longer
  · cases more with
    | nil => exact ⟨[], by rw [← shorter, List.append_nil, List.append_nil]⟩
    | cons d more =>
      obtain ⟨remainder, total⟩ := total
      rw [text, ← shorter, List.append_assoc, List.append_cancel_left_eq, List.cons_append] at total
      obtain ⟨rfl, -⟩ := List.cons_eq_cons.mp total
      have member : d ∈ "Total".toList := by simp [← shorter]
      rw [solid_of_all (by decide) d member] at blank
      cases blank

theorem trimStart_text : trimStart row.text = row.text := by
  obtain ⟨c, rest, name⟩ := List.exists_cons_of_ne_nil row.named.1
  have solid := row.named.2 c (name ▸ List.mem_cons_self)
  rw [text, name, trimStart, List.cons_append, List.cons_append, List.cons_append,
    List.dropWhile_cons_of_neg (by simp [solid])]

/-- The blanks at the end of the row do not count. -/
theorem trimEnd_slack (front : List Char) :
    trimEnd (front ++ row.last.text ++ row.slack) = front ++ row.last.text := by
  have slack : ∀ c ∈ row.slack.reverse, isBlank c = true := fun c member =>
    (row.idle c (List.mem_reverse.mp member)).1
  obtain ⟨init, c, last⟩ : ∃ init c, row.last.text = init ++ [c] :=
    ⟨_, _, (List.dropLast_append_getLast row.last.text_ne_nil).symm⟩
  have solid : isBlank c = false :=
    isFigure_not_isBlank (row.last.text_figures c (by simp [last]))
  rw [trimEnd, dropEndWhile, List.reverse_append, List.dropWhile_append_of_pos slack, last]
  simp [solid]

/-- Behind the word and one character more, the figures are those of the last column. -/
theorem endFigures?_last (more : List Char) :
    endFigures? (more ++ row.front ++ row.last.text).tail = some row.last.text := by
  obtain ⟨init, c, front, blank⟩ := row.front_last
  have other : isFigure c = false := by
    by_contra figure
    rw [isFigure_not_isBlank (by simpa using figure)] at blank
    cases blank
  have reversed : ∀ d ∈ row.last.text.reverse, isFigure d = true := by
    simpa using row.last.text_figures
  have before (s : List Char) : endFigures? (s ++ [c] ++ row.last.text) = some row.last.text := by
    have taken : (s ++ [c] ++ row.last.text).rtakeWhile isFigure = row.last.text := by
      rw [List.rtakeWhile, List.reverse_append, List.takeWhile_append_of_pos reversed]
      simp [other]
    rw [endFigures?, taken, if_neg (by simpa using row.last.text_ne_nil)]
  rw [front, ← List.append_assoc]
  cases more ++ init with
  | nil => exact endFigures?_all row.last.text_ne_nil row.last.text_figures
  | cons d s => exact before s

/-- A row has a total exactly if its name begins with `Total`, and that is its last column. -/
theorem lineFigures?_text :
    lineFigures? row.text = if row.headed then some row.last.text else none := by
  rw [lineFigures?, trimStart_text]
  cases found : after? "Total".toList row.text with
  | none =>
    have other : ¬row.headed = true := by
      intro headed
      obtain ⟨more, name⟩ := row.headed_iff.mp headed
      have total : row.text =
          "Total".toList ++ (more ++ row.front ++ row.last.text ++ row.slack) := by
        simp [text, ← name]
      rw [after?_eq_some_iff.mpr total] at found
      cases found
    rw [if_neg other, Option.bind_none]
  | some remainder =>
    have total := after?_eq_some_iff.mp found
    have headed := row.headed_of_text ⟨remainder, total.symm⟩
    obtain ⟨more, name⟩ := row.headed_iff.mp headed
    have rest : remainder = more ++ row.front ++ row.last.text ++ row.slack := by
      rw [text, ← name] at total
      simpa using total.symm
    rw [if_pos headed, Option.bind_some, rest, trimEnd_slack, endFigures?_last]

end Row

theorem findSome?_rows (rows : List Row) :
    (rows.map Row.text).findSome? lineFigures? =
      (rows.find? Row.headed).map fun row => row.last.text := by
  induction rows with
  | nil => rfl
  | cons row rows ih =>
    rw [List.map_cons, List.findSome?_cons, row.lineFigures?_text, List.find?_cons]
    cases row.headed with
    | true => rfl
    | false => exact ih

namespace Table

variable (t : Table)

theorem splitAt_text : splitAt '\n' t.text = t.lines := by
  refine splitAt_intercalate (by simp [lines]) ?_
  simp only [lines, List.forall_mem_append, List.forall_mem_map, List.forall_mem_cons]
  exact ⟨⟨fun line member => (t.headerLines line member).1, fun row _ => row.no_feed⟩,
    t.summary.no_feed, t.trailerLines⟩

theorem summary_headed : t.summary.headed = true := by
  rw [Row.headed_iff, t.summaryName]

/-- The lines before the rows come first, and then the row that counts. -/
theorem findSome?_lines : t.lines.findSome? lineFigures? =
    (t.header.findSome? lineFigures?).or (some t.counted.last.text) := by
  rw [lines, List.findSome?_append, List.findSome?_append, findSome?_rows, List.findSome?_cons,
    t.summary.lineFigures?_text, if_pos t.summary_headed, Option.or_assoc]
  congr 1
  rw [counted]
  cases t.files.find? Row.headed <;> rfl

theorem counted_eq_summary_iff :
    t.counted = t.summary ↔ ∀ row ∈ t.files, ¬"Total".toList <+: row.name := by
  simp only [← Row.headed_iff]
  rw [← List.find?_eq_none, counted]
  cases found : t.files.find? Row.headed with
  | none => simp
  | some row =>
    have other : row ≠ t.summary := by
      rintro rfl
      exact t.fileNames _ (List.mem_of_find?_eq_some found) t.summaryName
    simpa using other

end Table

variable {t : Table} {report : Text}

theorem totalText?_table (written : report.chars = t.text) :
    totalText? report =
      ((t.header.findSome? lineFigures?).or (some t.counted.last.text)).map String.ofList := by
  rw [totalText?, written, firstTotal?_eq_lines, t.splitAt_text, t.findSome?_lines]

theorem total?_counted (written : report.chars = t.text)
    (plain : ∀ line ∈ t.header, ¬IsTotalLine line) :
    totalText? report = some (String.ofList t.counted.last.text) ∧
      total? report = some t.counted.last.value := by
  have missing : t.header.findSome? lineFigures? = none :=
    List.findSome?_eq_none_iff.mpr fun line member =>
      lineFigures?_eq_none_iff.mpr (plain line member)
  have text : totalText? report = some (String.ofList t.counted.last.text) := by
    rw [totalText?_table written, missing]
    rfl
  refine ⟨text, ?_⟩
  rw [total?, text, Option.bind_some, String.toList_ofList, Figure.parse?_text]

end Rows

section Totals

/-- The total of a table is the last column of the first row whose name begins with `Total`, unless
a line before the rows has a total. That row is the one with the totals exactly if no file has such
a name. -/
theorem total_of_first_headed_row (t : Table) (report : Text) (written : report.chars = t.text) :
    (∀ figures, FirstTotal t.header figures → totalText? report = some (String.ofList figures)) ∧
    ((∀ line ∈ t.header, ¬IsTotalLine line) →
      totalText? report = some (String.ofList t.counted.last.text) ∧
      total? report = some t.counted.last.value) ∧
    (t.counted = t.summary ↔ ∀ row ∈ t.files, ¬"Total".toList <+: row.name) := by
  refine ⟨?_, total?_counted written, t.counted_eq_summary_iff⟩
  intro figures first
  rw [totalText?_table written, findSome?_lineFigures?_iff.mpr first]
  rfl

/-- A gap of one space. -/
def Gap.space : Gap := ⟨[' '], by decide, List.forall_mem_singleton.mpr (by decide)⟩

/-- A table of one file, with a column that is not measured. -/
def Table.ofFile (name : List Char) (named : name ≠ [] ∧ ∀ c ∈ name, isBlank c = false)
    (other : name ≠ "Total".toList) (file total : Figure) : Table where
  header := ["File stmt total".toList]
  files := [⟨name, [(.space, .absent)], .space, file, [], named, by simp⟩]
  summary := ⟨"Total".toList, [(.space, .absent)], .space, total, [],
    ⟨by decide, solid_of_all (by decide)⟩, by simp⟩
  trailer := []
  headerLines := List.forall_mem_singleton.mpr (by decide)
  fileNames := List.forall_mem_singleton.mpr other
  summaryName := rfl
  trailerLines := by simp

def Figure.ten : Figure :=
  ⟨['1', '0'], some ['0'], List.all_eq_true.mp (by decide), by decide⟩

def Figure.eighty : Figure :=
  ⟨['8', '0'], some ['0'], List.all_eq_true.mp (by decide), by decide⟩

/-- A word of which `Total` is only a part heads no row. -/
theorem total_of_first_headed_row_subtotal :
    let t := Table.ofFile "lib/Total.pm".toList ⟨by decide, solid_of_all (by decide)⟩
      (by decide) .ten .eighty
    let report : Text := "File stmt total\nlib/Total.pm n/a 10.0\nTotal n/a 80.0"
    report.chars = t.text ∧ (∀ line ∈ t.header, ¬IsTotalLine line) ∧ t.counted = t.summary ∧
    total? report = some (.ofDecimal false 800 (-1)) := by
  intro t report
  have written : report.chars = t.text := by decide +kernel
  have plain : ∀ line ∈ t.header, ¬IsTotalLine line :=
    List.forall_mem_singleton.mpr (lineFigures?_eq_none_iff.mp (by decide +kernel))
  obtain ⟨-, read, counts⟩ := total_of_first_headed_row t report written
  have counted : t.counted = t.summary := counts.mpr (List.forall_mem_singleton.mpr (by decide))
  refine ⟨written, plain, counted, ?_⟩
  rw [(read plain).2, counted]
  rfl

/-- A file whose name goes on behind `Total` is taken for the row with the totals. -/
theorem total_of_lookalike_file :
    ¬∀ (t : Table) (report : Text), report.chars = t.text →
      total? report = some t.summary.last.value := by
  intro reads
  let t := Table.ofFile "Totals.pm".toList ⟨by decide, solid_of_all (by decide)⟩ (by decide)
    .ten .eighty
  let report : Text := "File stmt total\nTotals.pm n/a 10.0\nTotal n/a 80.0"
  have written : report.chars = t.text := by decide +kernel
  have plain : ∀ line ∈ t.header, ¬IsTotalLine line :=
    List.forall_mem_singleton.mpr (lineFigures?_eq_none_iff.mp (by decide +kernel))
  have claimed : total? report = some Figure.eighty.value := reads t report written
  have read : total? report = some Figure.ten.value := (total?_counted written plain).2
  have different : some Figure.ten.value ≠ some Figure.eighty.value := by decide +kernel
  exact different (read.symm.trans claimed)

end Totals

end PerlAudit.Coverage
