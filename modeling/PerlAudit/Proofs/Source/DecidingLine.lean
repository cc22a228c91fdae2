import PerlAudit.Proofs.Source.VisibleCode
import PerlAudit.Proofs.Text.Seams

/-!
A scan as a walk from line to line that may stop on its way. Once it has stopped, it has said all it
will say.
-/

namespace PerlAudit.Source

open Text Files

/-- Where a scan stands between two lines. -/
structure Progress where
  region : Region
  number : Nat
  scanned : Nat
  deriving DecidableEq, Repr

namespace Progress

def start : Progress := ⟨.code, 1, 0⟩

/-- One line: the scan stops at it and says what it found, or goes on behind it. -/
def pass (pragma : Line → Bool) (p : Progress) (line : Line) : Except Scan Progress :=
  if isComment line then .ok { p with number := p.number + 1 }
  else if p.region = .doc || opensDoc line then
    .ok ⟨if closesDoc line then .code else .doc, p.number + 1, p.scanned⟩
  else if endsCode line then .error (.missing p.scanned)
  else if pragma line then .error (.hit p.number (p.scanned + 1))
  else .ok ⟨p.region, p.number + 1, p.scanned + 1⟩

def passAll (pragma : Line → Bool) (p : Progress) (lines : List Line) : Except Scan Progress :=
  lines.foldlM (pass pragma) p

/-- What is said in the end. A scan that never stopped has found nothing. -/
def close : Except Scan Progress → Scan
  | .error scan => scan
  | .ok p => .missing p.scanned

theorem passAll_cons (pragma : Line → Bool) (p : Progress) (line : Line) (rest : List Line) :
    passAll pragma p (line :: rest) =
      (pass pragma p line).bind fun q => passAll pragma q rest := rfl

/-- The scan of lines is this walk. -/
theorem scanLines_eq (pragma : Line → Bool) (p : Progress) (lines : List Line) :
    scanLines pragma p.region p.number p.scanned lines = close (passAll pragma p lines) := by
  induction lines generalizing p with
  | nil => rfl
  | cons line rest ih =>
    rw [scanLines, passAll_cons, pass]
    split
    · exact ih { p with number := p.number + 1 }
    · split
      · exact ih ⟨if closesDoc line then .code else .doc, p.number + 1, p.scanned⟩
      · split
        · rfl
        · split
          · rfl
          · exact ih ⟨p.region, p.number + 1, p.scanned + 1⟩

theorem passAll_append (pragma : Line → Bool) (p : Progress) (front rest : List Line) :
    passAll pragma p (front ++ rest) =
      (passAll pragma p front).bind fun q => passAll pragma q rest :=
  List.foldlM_append

/-- A scan that has stopped says the same whatever lines follow. -/
theorem scanLines_stopped {pragma : Line → Bool} {p : Progress} {front : List Line} {scan : Scan}
    (stopped : passAll pragma p front = .error scan) (rest : List Line) :
    scanLines pragma p.region p.number p.scanned (front ++ rest) =
      scanLines pragma p.region p.number p.scanned front := by
  rw [scanLines_eq, scanLines_eq, passAll_append, stopped]
  rfl

/-- A scan that goes on behind a line was not at the end of the code there. -/
theorem pass_goes_on {pragma : Line → Bool} {p q : Progress} {before : List Line} {line : Line}
    (region : p.region = regionAfter before) (goesOn : pass pragma p line = .ok q) :
    q.region = regionAfter (before ++ [line]) ∧
      (!isComment line && !opensDoc line && leavesCode before && endsCode line) = false := by
  unfold pass at goesOn
  split at goesOn
  · rename_i comment
    cases goesOn
    exact ⟨region.trans (regionAfter_concat (isComment_not_opensDoc comment)).symm,
      by simp [comment]⟩
  · split at goesOn
    · rename_i doc
      cases goesOn
      have doc : regionAfter before = .doc ∨ opensDoc line = true := by simpa [region] using doc
      refine ⟨(regionAfter_doc doc).symm, ?_⟩
      obtain doc | opens := doc
      · have leaves : leavesCode before = false := by simpa [regionAfter] using doc
        simp [leaves]
      · simp [opens]
    · rename_i code
      obtain ⟨-, opens⟩ : p.region ≠ .doc ∧ opensDoc line = false := by simpa using code
      split at goesOn
      · cases goesOn
      · rename_i ends
        split at goesOn
        · cases goesOn
        · cases goesOn
          exact ⟨region.trans (regionAfter_concat opens).symm, by simp [ends]⟩

/-- A scan that never stops meets no end of the code. -/
theorem passAll_goes_on {pragma : Line → Bool} {p q : Progress} {lines before rest : List Line}
    (split : before ++ rest = lines) (region : p.region = regionAfter before)
    (goesOn : passAll pragma p rest = .ok q) :
    ∀ n, before.length < n → isEnd lines n = false := by
  induction rest generalizing before p with
  | nil =>
    intro n beyond
    cases ends : isEnd lines n with
    | false => rfl
    | true =>
      have := (visible_in_range (Bool.and_eq_true_iff.mp ends).1).2
      simp only [← split, List.append_nil] at this
      omega
  | cons line rest ih =>
    intro n later
    rw [passAll_cons] at goesOn
    cases passed : pass pragma p line with
    | error scan =>
      rw [passed] at goesOn
      cases goesOn
    | ok next =>
      rw [passed] at goesOn
      obtain ⟨onward, notEnd⟩ := pass_goes_on region passed
      by_cases here : n = before.length + 1
      · subst here
        rw [isEnd, visible_next split, lineAt_next split, Option.any_some]
        exact notEnd
      · apply @ih _ (before ++ [line]) (by simpa using split) onward goesOn
        rw [List.length_append, List.length_singleton]
        omega

end Progress

open Progress

/-- A scan of the body that finds the pragma, or whose lines hold an end of the code, has stopped at
one of them. -/
theorem stopped_of_decided {pragma : Line → Bool} {lines : List Line}
    (decided : (scanLines pragma .code 1 0 lines).found = true ∨ ∃ n, isEnd lines n = true) :
    ∃ scan, passAll pragma .start lines = .error scan := by
  cases passed : passAll pragma .start lines with
  | error scan => exact ⟨scan, rfl⟩
  | ok last =>
    obtain found | ⟨n, ends⟩ := decided
    · have all := scanLines_eq pragma .start lines
      rw [passed] at all
      have missing : scanLines pragma .code 1 0 lines = .missing last.scanned := all
      rw [missing] at found
      cases found
    · have goesOn := passAll_goes_on (List.nil_append lines) rfl passed
      have range := visible_in_range (Bool.and_eq_true_iff.mp ends).1
      rw [goesOn n (by simp only [List.length_nil]; omega)] at ends
      cases ends

/-- The lines behind the one that decides do not count. -/
theorem lines_decided (search : Search) {front : List Line} (rest : List Line)
    (nonempty : front ≠ [])
    (decided : (search.lines front).found = true ∨ (∃ n, isEnd front n = true) ∨
      search.body = false) :
    search.lines (front ++ rest) = search.lines front := by
  cases front with
  | nil => exact absurd rfl nonempty
  | cons first more =>
    rw [List.cons_append, Search.lines, Search.lines]
    split
    · rfl
    · rename_i silent
      split
      · rename_i body
        have scanned : search.lines (first :: more) =
            scanLines search.pragma .code 1 0 (first :: more) := by
          rw [Search.lines, if_neg silent, if_pos body]
        have decided : (scanLines search.pragma .code 1 0 (first :: more)).found = true ∨
            ∃ n, isEnd (first :: more) n = true := by
          rw [scanned, body] at decided
          simpa using decided
        obtain ⟨scan, stopped⟩ := stopped_of_decided decided
        exact scanLines_stopped stopped rest
      · rfl

theorem Search.file_opened (search : Search) {disk : Disk} {path : Text} {content : Bytes}
    (named : nameFlaw? path = none) (opened : disk.read path = .ok content) :
    search.file disk path = .ok (search.content content) := by
  rw [Search.file, named, opened]

/-- Let bytes that end in a line feed decide a scan: the pragma is found in them, or they hold the
end of the code, or no line but the first counts. Then no bytes behind them change what the scan
says, and of two files that begin with them it says the same. -/
theorem later_bytes_never_decide (search : Search) (front back : Bytes)
    (ended : front.getLast? = some 10)
    (decided : (search.content front).found = true ∨ (∃ n, isEnd (linesOf front) n = true) ∨
      search.body = false) :
    search.content (front ++ back) = search.content front ∧
    ∀ (disk other : Disk) (path elsewhere : Text),
      nameFlaw? path = none → disk.read path = .ok front →
      nameFlaw? elsewhere = none → other.read elsewhere = .ok (front ++ back) →
      search.file disk path = .ok (search.content front) ∧
      search.file other elsewhere = .ok (search.content front) := by
  have content : search.content (front ++ back) = search.content front := by
    obtain ⟨start, rfl⟩ := List.getLast?_eq_some_iff.mp ended
    obtain ⟨cut, nonempty⟩ := linesOf_feed start back
    rw [List.append_assoc, List.singleton_append, Search.content, Search.content, cut]
    exact lines_decided search _ nonempty decided
  refine ⟨content, ?_⟩
  intro disk other path elsewhere named opened namedElsewhere openedElsewhere
  refine ⟨search.file_opened named opened, ?_⟩
  rw [search.file_opened namedElsewhere openedElsewhere, content]

/-- A pragma that is found stays found on its line, though documentation and damaged bytes
follow. -/
theorem later_bytes_never_decide_damaged :
    let front : Bytes := "#! perl\n\nuse strict;\n".toUTF8.toList
    let back : Bytes := [0xFF, 0xE2, 0x82, 0x0D, 0x00, 0x0A, 0x3D, 0x61]
    let search : Search := ⟨enablesStrict, false, true⟩
    front.getLast? = some 10 ∧ (search.content front).found = true ∧
      search.content (front ++ back) = ⟨true, some 3, 2, none⟩ := by
  intro front back search
  have ended : front.getLast? = some 10 := by decide +kernel
  have here : search.content front = ⟨true, some 3, 2, none⟩ := by decide +kernel
  have found : (search.content front).found = true := by rw [here]
  refine ⟨ended, found, ?_⟩
  rw [(later_bytes_never_decide search front back ended (.inl found)).1, here]

end PerlAudit.Source
