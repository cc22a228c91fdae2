import PerlAudit.Proofs.Source.DecidingLine

/-!
A block of comments leaves the scan where it is, and so does a block of documentation if the scan
comes to it in code: it is in code again behind the line that closes the block.
-/

namespace PerlAudit.Source

open Text Files

/-- What a scan says if some lines are added behind the first `front` lines of a file and none of
them counts. -/
def Scan.pushed (front added : Nat) (scan : Scan) : Scan :=
  { scan with line := scan.line.map fun n => if n ≤ front then n else n + added }

theorem Scan.pushed_front {front : Nat} {scan : Scan} (added : Nat)
    (within : ∀ n ∈ scan.line, n ≤ front) : scan.pushed front added = scan := by
  obtain ⟨found, line, scanned, error⟩ := scan
  cases line with
  | none => rfl
  | some n => simp [pushed, within n rfl]

namespace Progress

/-- The same place in a file that has more lines in front. -/
def later (p : Progress) (added : Nat) : Progress := { p with number := p.number + added }

theorem later_later (p : Progress) (added more : Nat) :
    (p.later added).later more = p.later (added + more) := by
  simp [later, Nat.add_assoc]

/-- What is reached, or said, if lines are added in front. -/
def delayed (added : Nat) : Except Scan Progress → Except Scan Progress
  | .ok p => .ok (p.later added)
  | .error scan => .error { scan with line := scan.line.map (· + added) }

variable {pragma : Line → Bool}

theorem pass_later (p : Progress) (added : Nat) (line : Line) :
    pass pragma (p.later added) line = delayed added (pass pragma p line) := by
  have next : p.number + added + 1 = p.number + 1 + added := by omega
  simp only [pass, later, next, apply_ite (delayed added)]
  rfl

theorem passAll_later (p : Progress) (added : Nat) (lines : List Line) :
    passAll pragma (p.later added) lines = delayed added (passAll pragma p lines) := by
  induction lines generalizing p with
  | nil => rfl
  | cons line rest ih =>
    rw [passAll_cons, passAll_cons, pass_later]
    cases pass pragma p line with
    | error scan => rfl
    | ok q => exact ih q

/-- A scan goes on to the next number, or stops with nothing found or at the line it is at. -/
theorem pass_cases (pragma : Line → Bool) (p : Progress) (line : Line) :
    (∃ q, pass pragma p line = .ok q ∧ q.number = p.number + 1) ∨
      pass pragma p line = .error (.missing p.scanned) ∨
      pass pragma p line = .error (.hit p.number (p.scanned + 1)) := by
  unfold pass
  split
  · exact .inl ⟨_, rfl, rfl⟩
  · split
    · exact .inl ⟨_, rfl, rfl⟩
    · split
      · exact .inr (.inl rfl)
      · split
        · exact .inr (.inr rfl)
        · exact .inl ⟨_, rfl, rfl⟩

theorem passAll_number (pragma : Line → Bool) (p : Progress) (lines : List Line) :
    (∀ q, passAll pragma p lines = .ok q → q.number = p.number + lines.length) ∧
      ∀ scan, passAll pragma p lines = .error scan →
        ∀ n ∈ scan.line, p.number ≤ n ∧ n < p.number + lines.length := by
  induction lines generalizing p with
  | nil =>
    constructor
    · intro q passed
      cases passed
      rfl
    · intro scan stopped
      cases stopped
  | cons line rest ih =>
    rw [passAll_cons, List.length_cons]
    obtain ⟨next, passed, number⟩ | missing | hit := pass_cases pragma p line
    · obtain ⟨reached, stopped⟩ := ih next
      rw [passed]
      constructor
      · intro q passedAll
        have := reached q passedAll
        omega
      · intro scan stoppedAt n line
        have := stopped scan stoppedAt n line
        omega
    · rw [missing]
      constructor
      · intro q passedAll
        cases passedAll
      · intro scan stopped n line
        cases stopped
        cases line
    · rw [hit]
      constructor
      · intro q passedAll
        cases passedAll
      · intro scan stopped n line
        cases stopped
        cases line
        omega

/-- Comments are passed over, in code and in documentation. -/
theorem passAll_comments {block : List Line} (comments : ∀ line ∈ block, isComment line = true)
    (p : Progress) : passAll pragma p block = .ok (p.later block.length) := by
  induction block generalizing p with
  | nil => rfl
  | cons line rest ih =>
    obtain ⟨first, others⟩ := List.forall_mem_cons.mp comments
    have passed : pass pragma p line = .ok (p.later 1) := by
      rw [pass, if_pos first]
      rfl
    rw [passAll_cons, passed, List.length_cons, Nat.add_comm, ← later_later]
    exact ih others (p.later 1)

/-- Documentation is passed over as long as no line closes it, whatever else the lines say. -/
theorem passAll_inside {p : Progress} (doc : p.region = .doc) {lines : List Line}
    (unclosed : ∀ line ∈ lines, closesDoc line = false) :
    passAll pragma p lines = .ok (p.later lines.length) := by
  induction lines generalizing p with
  | nil => rfl
  | cons line rest ih =>
    obtain ⟨first, others⟩ := List.forall_mem_cons.mp unclosed
    have passed : pass pragma p line = .ok (p.later 1) := by
      obtain ⟨region, number, scanned⟩ := p
      cases doc
      by_cases comment : isComment line = true
      · simp [pass, comment, later]
      · simp [pass, comment, first, later]
    rw [passAll_cons, passed, List.length_cons, Nat.add_comm, ← later_later]
    exact @ih (p.later 1) doc others

/-- A line that opens documentation, or would, is never code. What it closes it may have opened. -/
theorem pass_command {line : Line} (opens : opensDoc line = true) (p : Progress) :
    pass pragma p line =
      .ok ⟨if closesDoc line then .code else .doc, p.number + 1, p.scanned⟩ := by
  have plain : isComment line = false := by
    cases comment : isComment line with
    | false => rfl
    | true => simp [isComment_not_opensDoc comment] at opens
  simp [pass, plain, opens]

/-- Behind a block of documentation the scan is in code again. -/
theorem passAll_doc {p : Progress} (code : p.region = .code) {opening closing : Line}
    {inside : List Line} (opens : opensDoc opening = true) (unclosed : closesDoc opening = false)
    (within : ∀ line ∈ inside, closesDoc line = false) (closes : closesDoc closing = true) :
    passAll pragma p (opening :: inside ++ [closing]) = .ok (p.later (inside.length + 2)) := by
  obtain ⟨region, number, scanned⟩ := p
  cases code
  let opened : Progress := ⟨.doc, number + 1, scanned⟩
  have first : pass pragma ⟨.code, number, scanned⟩ opening = .ok opened := by
    simp [pass_command opens, unclosed, opened]
  have reached : passAll pragma opened inside = .ok (opened.later inside.length) :=
    passAll_inside rfl within
  have last : pass pragma (opened.later inside.length) closing =
      .ok (later ⟨.code, number, scanned⟩ (inside.length + 2)) := by
    rw [pass_command (closesDoc_opensDoc closes), if_pos closes]
    simp only [later, opened, Except.ok.injEq, mk.injEq, true_and, and_true]
    omega
  rw [passAll_append, passAll_cons, first]
  change (passAll pragma opened inside).bind _ = _
  rw [reached]
  change (pass pragma (opened.later inside.length) closing).bind _ = _
  rw [last]
  rfl

end Progress

open Progress

/-- Where a search stands after some lines: it has stopped and says what it found, or it goes on. -/
def Search.reach (search : Search) : List Line → Except Scan Progress
  | [] => .ok .start
  | first :: rest =>
    if search.shebang && shebangWarns first then .error (.hit 1 0)
    else if search.body then passAll search.pragma .start (first :: rest)
    else .error (.missing 0)

/-- A block that may be put in behind some lines: comments anywhere, and documentation where the
search has stopped or is in code. The documentation is closed by its last line and not before. -/
inductive Search.Admits (search : Search) (front : List Line) : List Line → Prop where
  | comments {block : List Line} (comments : ∀ line ∈ block, isComment line = true) :
      Admits search front block
  | doc {opening closing : Line} {inside : List Line} (opens : opensDoc opening = true)
      (unclosed : closesDoc opening = false) (within : ∀ line ∈ inside, closesDoc line = false)
      (closes : closesDoc closing = true)
      (place : ∀ p, search.reach front = .ok p → p.region = .code) :
      Admits search front (opening :: inside ++ [closing])

/-- Where the search goes on, it passes over the block. -/
theorem Search.Admits.passed {search : Search} {front block : List Line}
    (admits : search.Admits front block) {p : Progress} (goesOn : search.reach front = .ok p) :
    passAll search.pragma p block = .ok (p.later block.length) := by
  cases admits with
  | comments comments => exact passAll_comments comments p
  | doc opens unclosed within closes place =>
    rw [passAll_doc (place p goesOn) opens unclosed within closes]
    simp

/-- Lines behind those that a walk has passed are reported by their numbers. -/
theorem close_pushed {pragma : Line → Bool} {p : Progress} {front added : Nat}
    (number : p.number = front + 1) (rest : List Line) :
    close (delayed added (passAll pragma p rest)) =
      (close (passAll pragma p rest)).pushed front added := by
  obtain ⟨-, stopped⟩ := passAll_number pragma p rest
  cases passed : passAll pragma p rest with
  | ok q => rfl
  | error scan =>
    have behind := stopped scan passed
    obtain ⟨found, line, scanned, error⟩ := scan
    cases line with
    | none => rfl
    | some n =>
      have later : ¬n ≤ front := by
        have := (behind n rfl).1
        omega
      simp [close, delayed, Scan.pushed, later]

/-- The same for a scan of the body, from its start. -/
theorem scanLines_pushed {pragma : Line → Bool} {front block : List Line} (rest : List Line)
    (passed : ∀ p, passAll pragma .start front = .ok p →
      passAll pragma p block = .ok (p.later block.length)) :
    scanLines pragma .code 1 0 (front ++ block ++ rest) =
      (scanLines pragma .code 1 0 (front ++ rest)).pushed front.length block.length := by
  have walk (lines : List Line) :
      scanLines pragma .code 1 0 lines = close (passAll pragma .start lines) :=
    scanLines_eq pragma .start lines
  obtain ⟨onward, stopped⟩ := passAll_number pragma .start front
  rw [walk, walk, List.append_assoc, passAll_append, passAll_append]
  cases reached : passAll pragma .start front with
  | error scan =>
    refine (Scan.pushed_front _ ?_).symm
    intro n line
    have := (stopped scan reached n line).2
    simp only [start] at this
    omega
  | ok p =>
    have number : p.number = front.length + 1 := by
      rw [onward p reached, Nat.add_comm]
      rfl
    have delays : passAll pragma p (block ++ rest) =
        delayed block.length (passAll pragma p rest) := by
      rw [passAll_append, passed p reached]
      exact passAll_later p block.length rest
    change close (passAll pragma p (block ++ rest)) = _
    rw [delays]
    exact close_pushed number rest

/-- The same for a search, if the block is not put in front of a first line that may count. -/
theorem Search.lines_pushed (search : Search) {front block : List Line} (rest : List Line)
    (behindFirst : search.shebang = true → front ≠ []) (admits : search.Admits front block) :
    search.lines (front ++ block ++ rest) =
      (search.lines (front ++ rest)).pushed front.length block.length := by
  cases front with
  | nil =>
    have silent : search.shebang = false := by
      cases shebang : search.shebang with
      | false => rfl
      | true => exact absurd rfl (behindFirst shebang)
    have plain (lines : List Line) : search.lines lines =
        if search.body then scanLines search.pragma .code 1 0 lines else .missing 0 := by
      cases lines with
      | nil => simp [Search.lines, scanLines]
      | cons first lines => simp [Search.lines, silent]
    rw [plain, plain]
    split
    · apply scanLines_pushed
      intro p reached
      exact admits.passed reached
    · rfl
  | cons first more =>
    simp only [List.cons_append, Search.lines]
    split
    · rfl
    · rename_i silent
      split
      · rename_i body
        have passed : ∀ p, passAll search.pragma .start (first :: more) = .ok p →
            passAll search.pragma p block = .ok (p.later block.length) := by
          intro p reached
          apply admits.passed
          rw [Search.reach, if_neg silent, if_pos body]
          exact reached
        exact scanLines_pushed rest passed
      · rfl

/-- Comments and documentation that are put in between the lines of a file do not change what a
search says of it. Only the number of the line that it names, if that line is behind the block, is
greater by the lines of the block. -/
theorem insertion_keeps_verdict (search : Search) (front block rest : List Line)
    (behindFirst : search.shebang = true → front ≠ []) (admits : search.Admits front block) :
    search.lines (front ++ block ++ rest) =
      (search.lines (front ++ rest)).pushed front.length block.length ∧
    ∀ (disk other : Disk) (path elsewhere : Text) (content longer : Bytes),
      nameFlaw? path = none → disk.read path = .ok content → linesOf content = front ++ rest →
      nameFlaw? elsewhere = none → other.read elsewhere = .ok longer →
      linesOf longer = front ++ block ++ rest →
      ∃ scan, search.file disk path = .ok scan ∧
        search.file other elsewhere = .ok (scan.pushed front.length block.length) := by
  have pushed := search.lines_pushed rest behindFirst admits
  refine ⟨pushed, ?_⟩
  intro disk other path elsewhere content longer named opened lines namedElsewhere openedElsewhere
    moreLines
  refine ⟨search.lines (front ++ rest), ?_, ?_⟩
  · rw [search.file_opened named opened, Search.content, lines]
  · rw [search.file_opened namedElsewhere openedElsewhere, Search.content, moreLines, pushed]

/-- A block of documentation that mentions the pragma and the end of the code moves the line that
counts. -/
theorem insertion_keeps_verdict_moved :
    let search : Search := ⟨enablesStrict, true, true⟩
    let front : List Line := ["#! perl\n".toList, "1;\n".toList]
    let inside : List Line := ["use strict;\n".toList, "__END__\n".toList]
    let block : List Line := "=pod\n".toList :: inside ++ ["=cut\n".toList]
    let rest : List Line := ["use strict;\n".toList]
    search.Admits front block ∧ search.lines (front ++ rest) = ⟨true, some 3, 2, none⟩ ∧
      search.lines (front ++ block ++ rest) = ⟨true, some 7, 2, none⟩ := by
  intro search front inside block rest
  have reached : search.reach front = .ok ⟨.code, 3, 1⟩ := by decide +kernel
  have place : ∀ p, search.reach front = .ok p → p.region = .code := by
    intro p goesOn
    cases reached.symm.trans goesOn
    rfl
  have admits : search.Admits front block :=
    .doc (by decide) (by decide) (by decide) (by decide) place
  have before : search.lines (front ++ rest) = ⟨true, some 3, 2, none⟩ := by decide +kernel
  refine ⟨admits, before, ?_⟩
  rw [(insertion_keeps_verdict search front block rest (fun _ => List.cons_ne_nil _ _) admits).1,
    before]
  rfl

end PerlAudit.Source
