import Mathlib.Data.Nat.Count
import Mathlib.Order.Bounds.Basic
import PerlAudit.Proofs.Files.Growth
import PerlAudit.Proofs.Source.Forms

/-!
Which lines of a file are code, said line by line and without a scanner. A line is visible if it
neither comments nor opens documentation, and the last line before it that opened documentation, if
there is one, also closed it.
-/

namespace PerlAudit.Source

open Text Files

/-- Line `n`, counted from one. -/
def lineAt? (lines : List Line) : Nat → Option Line
  | 0 => none
  | n + 1 => lines[n]?

/-- Whether code goes on after some lines: none of them opened documentation, or the last that did
closed it at once. -/
def leavesCode (before : List Line) : Bool := (before.filter opensDoc).getLast?.all closesDoc

def isVisible (lines : List Line) (n : Nat) : Bool :=
  (lineAt? lines n).any fun line =>
    !isComment line && !opensDoc line && leavesCode (lines.take (n - 1))

/-- Whether line `n` is visible and ends the code. -/
def isEnd (lines : List Line) (n : Nat) : Bool :=
  isVisible lines n && (lineAt? lines n).any endsCode

/-- The first line that ends the code. Without one it is the number after the last line, which no
line reaches. -/
def codeEnd (lines : List Line) : Nat :=
  ((List.range' 1 lines.length).find? (isEnd lines)).getD (lines.length + 1)

/-- Whether line `n` is visible, comes before the end of the code and enables the pragma. -/
def enablesAt (pragma : Line → Bool) (lines : List Line) (n : Nat) : Bool :=
  isVisible lines n && decide (n < codeEnd lines) && (lineAt? lines n).any pragma

/-- How many visible lines come before line `n`. -/
def visibleBefore (lines : List Line) (n : Nat) : Nat :=
  Nat.count (fun k => isVisible lines k = true) n

/-- What a scan of lines says if it is right. -/
structure Reads (pragma : Line → Bool) (lines : List Line) (scan : Scan) : Prop where
  found : scan.found = true ↔ ∃ n, enablesAt pragma lines n = true
  line : ∀ n, scan.line = some n ↔ IsLeast {n | enablesAt pragma lines n = true} n
  scannedTo : ∀ n, scan.line = some n → scan.scanned = visibleBefore lines (n + 1)
  scannedAll : scan.line = none → scan.scanned = visibleBefore lines (codeEnd lines)
  error : scan.error = none

theorem visible_in_range {lines : List Line} {n : Nat} (visible : isVisible lines n = true) :
    1 ≤ n ∧ n ≤ lines.length := by
  cases n with
  | zero => simp [isVisible, lineAt?] at visible
  | succ n =>
    obtain ⟨line, here, _⟩ := (Option.any_eq_true _ _).mp visible
    have := (List.getElem?_eq_some_iff.mp here).1
    omega

theorem codeEnd_eq {lines : List Line} {e : Nat}
    (stop : isEnd lines e = true ∨ e = lines.length + 1)
    (earlier : ∀ n, n < e → isEnd lines n = false) : codeEnd lines = e := by
  unfold codeEnd
  obtain ends | rfl := stop
  · have range := visible_in_range (Bool.and_eq_true_iff.mp ends).1
    have first : (List.range' 1 lines.length).find? (isEnd lines) = some e := by
      simp only [List.find?_range'_eq_some, List.mem_range'_1]
      exact ⟨ends, by omega, fun j _ before => by simp [earlier j before]⟩
    rw [first, Option.getD_some]
  · have never : (List.range' 1 lines.length).find? (isEnd lines) = none := by
      apply List.find?_eq_none.mpr
      intro n member
      have := List.mem_range'_1.mp member
      simp [earlier n (by omega)]
    rw [never, Option.getD_none]

theorem lt_codeEnd {lines : List Line} {n : Nat} (inside : n ≤ lines.length)
    (goesOn : ∀ k, k ≤ n → isEnd lines k = false) : n < codeEnd lines := by
  unfold codeEnd
  cases first : (List.range' 1 lines.length).find? (isEnd lines) with
  | none => simpa using Nat.lt_succ_of_le inside
  | some e =>
    have ends := List.find?_some first
    by_contra beyond
    simp [goesOn e (by simpa using beyond)] at ends

/-- A hit is right if it is the first. -/
theorem Reads.hit {pragma : Line → Bool} {lines : List Line} {n : Nat}
    (enables : enablesAt pragma lines n = true)
    (earlier : ∀ k, k < n → enablesAt pragma lines k = false) :
    Reads pragma lines (.hit n (visibleBefore lines (n + 1))) := by
  have least : IsLeast {n | enablesAt pragma lines n = true} n := by
    refine ⟨enables, fun k other => ?_⟩
    by_contra below
    have := earlier k (by omega)
    simp_all
  constructor
  · exact ⟨fun _ => ⟨n, enables⟩, fun _ => rfl⟩
  · intro k
    constructor
    · intro same
      obtain rfl : n = k := by simpa [Scan.hit] using same
      exact least
    · intro other
      simp [Scan.hit, least.unique other]
  · intro k same
    obtain rfl : n = k := by simpa [Scan.hit] using same
    rfl
  · intro unhit
    simp [Scan.hit] at unhit
  · rfl

theorem Reads.missing {pragma : Line → Bool} {lines : List Line}
    (nowhere : ∀ n, enablesAt pragma lines n = false) :
    Reads pragma lines (.missing (visibleBefore lines (codeEnd lines))) := by
  constructor
  · simp [Scan.missing, nowhere]
  · intro n
    simp [Scan.missing, nowhere, IsLeast]
  · intro n line
    simp [Scan.missing] at line
  · intro _
    rfl
  · rfl

/-- Nothing to stop at stands among the first `k` lines: no visible one ends the code or enables the
pragma. -/
def Passes (pragma : Line → Bool) (lines : List Line) (k : Nat) : Prop :=
  ∀ n, n ≤ k → isVisible lines n = true →
    (lineAt? lines n).any endsCode = false ∧ (lineAt? lines n).any pragma = false

theorem Passes.not_end {pragma : Line → Bool} {lines : List Line} {k : Nat}
    (passes : Passes pragma lines k) {n : Nat} (within : n ≤ k) : isEnd lines n = false := by
  cases visible : isVisible lines n
  · simp [isEnd, visible]
  · simp [isEnd, visible, (passes n within visible).1]

theorem Passes.not_enables {pragma : Line → Bool} {lines : List Line} {k : Nat}
    (passes : Passes pragma lines k) {n : Nat} (within : n ≤ k) :
    enablesAt pragma lines n = false := by
  cases visible : isVisible lines n
  · simp [enablesAt, visible]
  · simp [enablesAt, (passes n within visible).2]

theorem Passes.next {pragma : Line → Bool} {lines : List Line} {k : Nat}
    (passes : Passes pragma lines k)
    (last : isVisible lines (k + 1) = true →
      (lineAt? lines (k + 1)).any endsCode = false ∧ (lineAt? lines (k + 1)).any pragma = false) :
    Passes pragma lines (k + 1) := by
  intro n within visible
  by_cases earlier : n ≤ k
  · exact passes n earlier visible
  · obtain rfl : n = k + 1 := by omega
    exact last visible

/-- A scan that stops after the first `k` lines, at the end of the code, has found nothing. -/
theorem Passes.missing {pragma : Line → Bool} {lines : List Line} {k : Nat}
    (passes : Passes pragma lines k)
    (stop : isEnd lines (k + 1) = true ∨ k + 1 = lines.length + 1) :
    Reads pragma lines (.missing (visibleBefore lines (k + 1))) := by
  have ends : codeEnd lines = k + 1 := codeEnd_eq stop fun n before => passes.not_end (by omega)
  rw [← ends]
  apply Reads.missing
  intro n
  by_cases within : n ≤ k
  · exact passes.not_enables within
  · have beyond : ¬n < codeEnd lines := by omega
    simp [enablesAt, beyond]

/-- A scan that stops at the line after the first `k`, for its pragma, is right. -/
theorem Passes.hit {pragma : Line → Bool} {lines : List Line} {k : Nat}
    (passes : Passes pragma lines k) (visible : isVisible lines (k + 1) = true)
    (goesOn : (lineAt? lines (k + 1)).any endsCode = false)
    (enables : (lineAt? lines (k + 1)).any pragma = true) :
    Reads pragma lines (.hit (k + 1) (visibleBefore lines (k + 1 + 1))) := by
  have later : k + 1 < codeEnd lines := by
    apply lt_codeEnd (visible_in_range visible).2
    intro n within
    by_cases earlier : n ≤ k
    · exact passes.not_end earlier
    · obtain rfl : n = k + 1 := by omega
      simp [isEnd, goesOn]
  apply Reads.hit
  · simp [enablesAt, visible, later, enables]
  · exact fun n within => passes.not_enables (by omega)

/-- Where the scan is after some lines. -/
def regionAfter (before : List Line) : Region := if leavesCode before then .code else .doc

/-- A line that opens no documentation leaves the region as it is. -/
theorem regionAfter_concat {before : List Line} {line : Line} (opens : opensDoc line = false) :
    regionAfter (before ++ [line]) = regionAfter before := by
  simp [regionAfter, leavesCode, opens]

/-- Documentation goes on until a line closes it, and a line that closes it opens it too. -/
theorem regionAfter_doc {before : List Line} {line : Line}
    (doc : regionAfter before = .doc ∨ opensDoc line = true) :
    regionAfter (before ++ [line]) = if closesDoc line then .code else .doc := by
  cases opens : opensDoc line with
  | true => simp [regionAfter, leavesCode, opens]
  | false =>
    have stays : closesDoc line = false := by
      cases closes : closesDoc line
      · rfl
      · simp [closesDoc_opensDoc closes] at opens
    rw [regionAfter_concat opens, stays]
    simpa [opens] using doc

theorem visible_next {before rest lines : List Line} {line : Line}
    (split : before ++ line :: rest = lines) :
    isVisible lines (before.length + 1) =
      (!isComment line && !opensDoc line && leavesCode before) := by
  subst split
  simp [isVisible, lineAt?]

theorem lineAt_next {before rest lines : List Line} {line : Line}
    (split : before ++ line :: rest = lines) : lineAt? lines (before.length + 1) = some line := by
  subst split
  simp [lineAt?]

theorem visibleBefore_succ (lines : List Line) (n : Nat) :
    visibleBefore lines (n + 1) = visibleBefore lines n + if isVisible lines n then 1 else 0 := by
  simp only [visibleBefore, Nat.count_succ]

/-- The scan is right from every line on, if it comes there in the region and with the count that
the lines before leave behind. -/
theorem scanLines_reads (pragma : Line → Bool) (lines : List Line) {before rest : List Line}
    (split : before ++ rest = lines) (passes : Passes pragma lines before.length) :
    Reads pragma lines
      (scanLines pragma (regionAfter before) (before.length + 1)
        (visibleBefore lines (before.length + 1)) rest) := by
  -- Over the lines that are left; what the scan carries is read off those before.
  induction rest generalizing before with
  | nil => exact passes.missing (Or.inr (by simp [← split]))
  | cons line rest ih =>
    have visible := visible_next split
    have here := lineAt_next split
    have onward := @ih (before ++ [line]) (by simp [split])
    rw [List.length_append, List.length_singleton, visibleBefore_succ] at onward
    rw [scanLines]
    split
    · rename_i comment
      have no : isVisible lines (before.length + 1) = false := by simp [visible, comment]
      rw [regionAfter_concat (isComment_not_opensDoc comment), no] at onward
      exact onward (passes.next (by simp [no]))
    · rename_i comment
      split
      · rename_i doc
        have doc : regionAfter before = .doc ∨ opensDoc line = true := by simpa using doc
        have no : isVisible lines (before.length + 1) = false := by
          rw [visible]
          obtain doc | opens := doc
          · have leaves : leavesCode before = false := by simpa [regionAfter] using doc
            simp [leaves]
          · simp [opens]
        rw [regionAfter_doc doc, no] at onward
        exact onward (passes.next (by simp [no]))
      · rename_i code
        obtain ⟨inCode, opens⟩ : regionAfter before ≠ .doc ∧ opensDoc line = false := by
          simpa using code
        have leaves : leavesCode before = true := by simpa [regionAfter] using inCode
        have yes : isVisible lines (before.length + 1) = true := by
          simp [visible, comment, opens, leaves]
        rw [regionAfter_concat opens, yes] at onward
        split
        · rename_i ends
          exact passes.missing (Or.inl (by simp [isEnd, yes, here, ends]))
        · rename_i ends
          split
          · rename_i enables
            have hit := passes.hit yes (by simp [here, ends]) (by simp [here, enables])
            rwa [visibleBefore_succ, yes] at hit
          · rename_i enables
            exact onward (passes.next (by simp [here, ends, enables]))

theorem lines_reads (pragma : Line → Bool) (shebang : Bool) (lines : List Line)
    (silent : (shebang && (lineAt? lines 1).any shebangWarns) = false) :
    Reads pragma lines (Search.lines ⟨pragma, shebang, true⟩ lines) := by
  have start : Reads pragma lines (scanLines pragma .code 1 0 lines) := by
    have whole := scanLines_reads pragma lines (List.nil_append lines) (by
      intro n within visible
      have := visible_in_range visible
      simp only [List.length_nil] at within
      omega)
    simpa [regionAfter, leavesCode, visibleBefore, Nat.count_succ, isVisible, lineAt?] using whole
  cases lines with
  | nil => exact start
  | cons first rest =>
    have quiet : (shebang && shebangWarns first) = false := silent
    simpa [Search.lines, quiet] using start

/-- A scan of the body finds the first visible line before the end of the code that enables the
pragma. The first line alone may forestall it, if it tells the interpreter to warn and that counts.
A file that can be opened is scanned by its lines. -/
theorem scan_finds_first_visible (pragma : Line → Bool) (shebang : Bool) :
    (∀ lines : List Line,
      ((shebang && (lineAt? lines 1).any shebangWarns) = true →
        Search.lines ⟨pragma, shebang, true⟩ lines = ⟨true, some 1, 0, none⟩) ∧
      ((shebang && (lineAt? lines 1).any shebangWarns) = false →
        Reads pragma lines (Search.lines ⟨pragma, shebang, true⟩ lines))) ∧
    ∀ (disk : Disk) (path : Text) (content : Bytes),
      nameFlaw? path = none → disk.read path = .ok content →
      Search.file ⟨pragma, shebang, true⟩ disk path =
        .ok (Search.lines ⟨pragma, shebang, true⟩ (linesOf content)) := by
  refine ⟨fun lines => ⟨fun warns => ?_, lines_reads pragma shebang lines⟩, ?_⟩
  · cases lines with
    | nil => simp [lineAt?] at warns
    | cons first rest =>
      have warns : (shebang && shebangWarns first) = true := warns
      simp only [Search.lines, warns, if_true, Scan.hit]
  · intro disk path content named opened
    simp only [Search.file, named, opened, Search.content]

/-- Documentation hides a pragma, and the line that closes it is not code. -/
theorem scan_finds_first_visible_behind_doc :
    let content : Bytes := "=pod\nuse strict;\n=cut\n# 1\n1;\nuse strict;\n".toUTF8.toList
    let disk : Disk := ⟨.directory [("f", .file content false)], "/", [], []⟩
    nameFlaw? "f" = none ∧ disk.read "f" = .ok content ∧
      Search.file ⟨enablesStrict, false, true⟩ disk "f" = .ok ⟨true, some 6, 2, none⟩ ∧
      Reads enablesStrict (linesOf content) ⟨true, some 6, 2, none⟩ := by
  intro content disk
  have named : nameFlaw? "f" = none := by decide
  have opened : disk.read "f" = .ok content := Disk.read_eq_ok_iff.mpr
    ⟨_, Disk.holds_entry rfl named (by decide) (by decide) (by decide +kernel)⟩
  obtain ⟨lines, files⟩ := scan_finds_first_visible enablesStrict false
  have found : Search.lines ⟨enablesStrict, false, true⟩ (linesOf content) =
      ⟨true, some 6, 2, none⟩ := by decide +kernel
  refine ⟨named, opened, ?_, ?_⟩
  · rw [files disk "f" content named opened, found]
  · rw [← found]
    exact (lines (linesOf content)).2 rfl

end PerlAudit.Source
