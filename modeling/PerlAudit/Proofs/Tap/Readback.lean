import Mathlib.Data.List.Basic
import PerlAudit.Proofs.Tap.Transcript
import PerlAudit.Proofs.Text.Pieces

/-!
Reading a result stream back. A stream is cut at its line feeds, and each line is read by its form:
a plan, a result that is labelled, or one that is skipped.
-/

namespace PerlAudit.Tap

open Text

/-- What a stream tells about a result: the label, or why it was skipped. -/
inductive Told where
  | pass (label : Text)
  | fail (label : Text)
  | skip (reason : Option Text)
  deriving DecidableEq, Repr

def Told.text : Told → Text
  | pass label => label
  | fail label => label
  | skip reason => reason.getD []

/-- A skipped result without a reason and one with an empty reason are told alike. -/
def Result.told (r : Result) : Told :=
  match r.outcome with
  | .pass => .pass r.label
  | .fail => .fail r.label
  | .skip => .skip r.remark?

/-- What a whole stream tells: the plan that was declared, and the results in order. -/
structure Story where
  plan : Option Nat
  results : List Told
  deriving DecidableEq, Repr

/-- The number a text begins with, and what follows it. -/
def readNumber? (t : Text) : Option (Nat × Text) :=
  let digits := t.takeWhile (·.isIn Char.isDigit)
  if digits.isEmpty then none
  else some (Nat.ofDigitChars 10 (chars digits) 0, t.dropWhile (·.isIn Char.isDigit))

/-- The number a text is. -/
def readWhole? (t : Text) : Option Nat :=
  match readNumber? t with
  | some (number, []) => some number
  | _ => none

/-- The number between two words, and what follows the second. -/
def readBetween? (first second t : Text) : Option (Nat × Text) :=
  ((first.isPrefixOf? t).bind readNumber?).bind fun (number, rest) =>
    (second.isPrefixOf? rest).map (number, ·)

def readPlan? (t : Text) : Option Line := (List.isPrefixOf? "1.." t).map .plan

def readSkip? (t : Text) : Option Line :=
  match readBetween? "ok " " # skip" t with
  | some (number, []) => some (.skip number none)
  | some (number, .char ' ' :: reason) => some (.skip number (some reason))
  | _ => none

def readOk? (t : Text) : Option Line :=
  (readBetween? "ok " " - " t).map fun (number, label) => .ok number label

def readNotOk? (t : Text) : Option Line :=
  (readBetween? "not ok " " - " t).map fun (number, label) => .notOk number label

def readLine? (t : Text) : Option Line :=
  (readPlan? t).or ((readSkip? t).or ((readOk? t).or (readNotOk? t)))

/-- The lines of a stream, each of which ends in a line feed. -/
def readLines? (text : Text) : Option (List Line) :=
  let parts := splitAt (.char '\n') text
  if parts.getLast? = some [] then parts.dropLast.mapM readLine? else none

namespace Line

def told? : Line → Option Told
  | plan _ => none
  | ok _ label => some (.pass label)
  | notOk _ label => some (.fail label)
  | skip _ reason => some (.skip reason)

/-- The number of a plan, if it is written as one. -/
def plan? : Line → Option Nat
  | plan shown => readWhole? shown
  | _ => none

end Line

/-- A plan that was declared leads the stream. -/
def storyOf (lines : List Line) : Story := ⟨lines.head?.bind Line.plan?, lines.filterMap Line.told?⟩

/-- A reader's verdict: no line says `not ok`, and a plan is the number of results. -/
def verdict (lines : List Line) : Bool :=
  !lines.any Line.isNotOk &&
    (lines.filter Line.isPlan).all (·.plan? == some (lines.filter (!·.isPlan)).length)

/-- The text of the result stream. -/
def streamText (said : List Said) : Text := said.flatMap fun s => (Event.said s).outputText

/-- A plan as it is declared. -/
def testsOf (plan : Option Nat) : Option Tests := plan.map fun n : Nat => .number n

/-- A run that may declare a plan and records results. -/
def planned (plan : Option Nat) (results : List Result) : List Operation :=
  (testsOf plan).toList.map .plan ++ results.map .record

/-- A declared plan does not have too many digits. -/
def Writable (plan : Option Nat) : Prop := ∀ n ∈ plan, n < tooLong

theorem shown_number {n : Nat} (short : n < tooLong) :
    (Tests.number n).shown = .ok (toString n) := by
  have written : writeInteger? n = some (toString n) := by
    rw [writeInteger?, if_pos (by simpa using short)]
    rfl
  rw [Tests.shown, integerText, written]

theorem readNumber?_append (n : Nat) {rest : Text}
    (stops : ∀ c ∈ rest.head?, c.isIn Char.isDigit = false) :
    readNumber? (ofString (toString n) ++ rest) = some (n, rest) := by
  have numeral : ofString (toString n) = (Nat.toDigits 10 n).map .char := by
    simp [ofString, ofChars]
  have digits : ∀ c ∈ ofString (toString n), c.isIn Char.isDigit = true := by
    intro c member
    rw [numeral] at member
    obtain ⟨d, digit, rfl⟩ := List.mem_map.mp member
    exact Nat.isDigit_of_mem_toDigits (by decide) (by decide) digit
  have ends : rest.takeWhile (·.isIn Char.isDigit) = [] ∧
      rest.dropWhile (·.isIn Char.isDigit) = rest := by
    cases rest with
    | nil => exact ⟨rfl, rfl⟩
    | cons c rest => simp [stops c rfl]
  have value : Nat.ofDigitChars 10 (chars (ofString (toString n))) 0 = n := by
    rw [numeral]
    simp [chars, Function.comp_def, CodePoint.shown]
  have nonempty : (ofString (toString n)).isEmpty = false := by
    rw [numeral]
    simp [Nat.toDigits_ne_nil]
  unfold readNumber?
  rw [List.takeWhile_append_of_pos digits, List.dropWhile_append_of_pos digits, ends.1, ends.2,
    List.append_nil]
  simp only [nonempty, value, Bool.false_eq_true, if_false]

theorem readWhole?_written (n : Nat) : readWhole? (toString n) = some n := by
  have read := readNumber?_append n (by simp : ∀ c ∈ ([] : Text).head?, _)
  rw [List.append_nil] at read
  rw [readWhole?, read]

theorem readBetween?_written (first second : Text) (n : Nat) {rest : Text}
    (stops : ∀ c ∈ rest.head?, c.isIn Char.isDigit = false) :
    readBetween? first second (first ++ ofString (toString n) ++ rest) =
      (second.isPrefixOf? rest).map (n, ·) := by
  have lead : first.isPrefixOf? (first ++ (ofString (toString n) ++ rest)) =
      some (ofString (toString n) ++ rest) := List.isPrefixOf?_eq_some_iff_append_eq.mpr rfl
  unfold readBetween?
  rw [List.append_assoc, lead, Option.bind_some, readNumber?_append n stops, Option.bind_some]

/-- What follows a number of a result begins with a space. -/
theorem readBetween?_spaced (first second : Text) (n : Nat) (rest : Text) :
    readBetween? first second (first ++ ofString (toString n) ++ .char ' ' :: rest) =
      (second.isPrefixOf? (.char ' ' :: rest)).map (n, ·) := by
  apply readBetween?_written
  intro c head
  cases head
  rfl

theorem readLine?_plan (shown : Text) : readLine? (Line.plan shown).text = some (.plan shown) := by
  have lead : List.isPrefixOf? (ofString "1..") (ofString "1.." ++ shown) = some shown :=
    List.isPrefixOf?_eq_some_iff_append_eq.mpr rfl
  have plan : readPlan? (Line.plan shown).text = some (.plan shown) := by
    rw [readPlan?, Line.text, lead, Option.map_some]
  rw [readLine?, plan, Option.some_or]

theorem readLine?_ok (number : Nat) (label : Text) :
    readLine? (Line.ok number label).text = some (.ok number label) := by
  have text : (Line.ok number label).text =
      ofString "ok " ++ ofString (toString number) ++
        .char ' ' :: .char '-' :: .char ' ' :: label := by
    simp only [Line.text, List.append_assoc]
    rfl
  -- A label may look like a directive, but a directive comes right after the number.
  have skip : readSkip? (Line.ok number label).text = none := by
    rw [text, readSkip?, readBetween?_spaced]
    rfl
  have ok : readOk? (Line.ok number label).text = some (.ok number label) := by
    rw [text, readOk?, readBetween?_spaced]
    rfl
  rw [readLine?, skip, ok]
  rfl

theorem readLine?_notOk (number : Nat) (label : Text) :
    readLine? (Line.notOk number label).text = some (.notOk number label) := by
  have text : (Line.notOk number label).text = ofString "not ok " ++ ofString (toString number) ++
      .char ' ' :: .char '-' :: .char ' ' :: label := by
    simp only [Line.text, List.append_assoc]
    rfl
  have notOk : readNotOk? (Line.notOk number label).text = some (.notOk number label) := by
    rw [text, readNotOk?, readBetween?_spaced]
    rfl
  rw [readLine?, notOk]
  rfl

theorem readLine?_skip (number : Nat) (reason : Option Text) :
    readLine? (Line.skip number reason).text = some (.skip number reason) := by
  have skip : readSkip? (Line.skip number reason).text = some (.skip number reason) := by
    cases reason with
    | none =>
      have text : (Line.skip number none).text = ofString "ok " ++ ofString (toString number) ++
          .char ' ' :: [.char '#', .char ' ', .char 's', .char 'k', .char 'i', .char 'p'] := rfl
      rw [text, readSkip?, readBetween?_spaced]
      rfl
    | some reason =>
      have text : (Line.skip number (some reason)).text =
          ofString "ok " ++ ofString (toString number) ++ .char ' ' ::
            ([.char '#', .char ' ', .char 's', .char 'k', .char 'i', .char 'p', .char ' '] ++
              reason) := by
        simp only [Line.text, List.append_assoc]
        rfl
      rw [text, readSkip?, readBetween?_spaced]
      rfl
  have plan : readPlan? (Line.skip number reason).text = none := by
    cases reason <;> rfl
  rw [readLine?, plan, skip]
  rfl

/-- Every line is read back from its text, whatever its label or reason looks like. -/
theorem readLine?_text (l : Line) : readLine? l.text = some l := by
  cases l with
  | plan count => exact readLine?_plan count
  | ok number label => exact readLine?_ok number label
  | notOk number label => exact readLine?_notOk number label
  | skip number reason => exact readLine?_skip number reason

theorem streamText_eq (said : List Said) :
    streamText said = ((linesOf said).map Line.text).flatMap (· ++ [.char '\n']) := by
  induction said with
  | nil => rfl
  | cons s said ih =>
    rw [streamText, List.flatMap_cons, ← streamText, ih]
    cases s <;> rfl

theorem mapM_readLine? (lines : List Line) : (lines.map Line.text).mapM readLine? = some lines := by
  induction lines with
  | nil => rfl
  | cons l lines ih => simp [readLine?_text, ih]

/-- A stream is read back line by line if no line holds a line feed. -/
theorem readLines?_streamText {said : List Said}
    (clean : ∀ l ∈ linesOf said, CodePoint.char '\n' ∉ l.text) :
    readLines? (streamText said) = some (linesOf said) := by
  have parts : splitAt (.char '\n') (streamText said) = (linesOf said).map Line.text ++ [[]] := by
    rw [streamText_eq]
    apply splitAt_ended
    intro part member
    obtain ⟨l, told, rfl⟩ := List.mem_map.mp member
    exact clean l told
  simp only [readLines?, parts, List.getLast?_append, List.getLast?_singleton, Option.some_or,
    if_true, List.dropLast_concat]
  exact mapM_readLine? (linesOf said)

theorem numeral_one_line (n : Nat) : CodePoint.char '\n' ∉ ofString (toString n) := by
  intro member
  obtain ⟨c, digit, same⟩ := List.mem_map.mp member
  obtain rfl : c = '\n' := by simpa using same
  rw [Nat.toString_eq_repr, Nat.toList_repr] at digit
  exact absurd (Nat.isDigit_of_mem_toDigits (by decide) (by decide) digit) (by decide)

/-- A result is told on one line if its label or reason is one. -/
theorem line_one_line {r : Result} (clean : CodePoint.char '\n' ∉ r.told.text) (number : Nat) :
    CodePoint.char '\n' ∉ (r.line number).text := by
  have numeral := numeral_one_line number
  have ok : CodePoint.char '\n' ∉ ofString "ok " := by decide
  have notOk : CodePoint.char '\n' ∉ ofString "not ok " := by decide
  have dash : CodePoint.char '\n' ∉ ofString " - " := by decide
  have skip : CodePoint.char '\n' ∉ ofString " # skip" := by decide
  have because : CodePoint.char '\n' ∉ ofString " # skip " := by decide
  unfold Result.told at clean
  unfold Result.line
  cases outcome : r.outcome with
  | pass =>
    simp only [outcome, Told.text] at clean
    simp only [Line.text, List.mem_append, ok, numeral, dash, clean, or_self, not_false_eq_true]
  | fail =>
    simp only [outcome, Told.text] at clean
    simp only [Line.text, List.mem_append, notOk, numeral, dash, clean, or_self, not_false_eq_true]
  | skip =>
    simp only [outcome, Told.text] at clean
    cases reason : r.remark? with
    | none => simp only [Line.text, List.mem_append, ok, numeral, skip, or_self, not_false_eq_true]
    | some reason =>
      simp only [reason, Option.getD_some] at clean
      simp only [Line.text, List.mem_append, ok, numeral, because, clean, or_self,
        not_false_eq_true]

theorem mem_numbered {first : Nat} {results : List Result} {l : Line}
    (member : l ∈ numbered first results) : ∃ r ∈ results, ∃ number, l = r.line number := by
  induction results generalizing first with
  | nil => simp [numbered] at member
  | cons r rest ih =>
    obtain rfl | later := List.mem_cons.mp member
    · exact ⟨r, List.mem_cons_self, first, rfl⟩
    · obtain ⟨r, told, number, rfl⟩ := ih later
      exact ⟨r, List.mem_cons_of_mem _ told, number, rfl⟩

/-- The lines of a closed run. A declared plan leads them; otherwise closing adds the count. -/
def closedLines (plan : Option Nat) (results : List Result) : List Line :=
  match plan with
  | some n => .plan (toString n) :: numbered 1 results
  | none => numbered 1 results ++ trailer results.length

theorem testsOf_kept (plan : Option Nat) (count : Nat) :
    (testsOf plan).all (·.value == (count : Int)) = plan.all (· == count) := by
  cases plan with
  | none => rfl
  | some n =>
    rw [Bool.eq_iff_iff]
    change ((n : Int) == (count : Int)) = true ↔ (n == count) = true
    rw [beq_iff_eq, beq_iff_eq, Int.natCast_inj]

/-- How the lines of an open run end up when it is closed. -/
theorem Layout.closedLines {results : List Result} {plan : Option Nat} {lines : List Line}
    (h : Layout results (testsOf plan) false lines) (writable : Writable plan) :
    lines ++ (if (testsOf plan).isNone then trailer results.length else []) =
      Tap.closedLines plan results := by
  cases plan with
  | none =>
    cases h
    rfl
  | some n =>
    have shown := shown_number (writable n rfl)
    cases h with
    | declared written =>
      rw [shown, Except.ok.injEq] at written
      subst written
      exact List.append_nil _
    | unwritten long => simp [shown] at long

theorem recorded_planned (plan : Option Nat) (results : List Result) :
    recorded (planned plan results) = results := by
  have records : (results.map Operation.record).filterMap Operation.result? = results := by
    simp [List.filterMap_map, Function.comp_def, Operation.result?]
  cases plan with
  | none => exact records
  | some n => exact records

theorem after_planned (plan : Option Nat) (results : List Result) :
    (Transcript.after (planned plan results)).reporter.planned = testsOf plan := by
  induction results using List.reverseRecOn with
  | nil =>
    cases plan with
    | none => rfl
    | some n =>
      have natural : ¬(Tests.number n).value < 0 := Int.not_lt.mpr (Int.natCast_nonneg n)
      change (Reporter.fresh.plan (.number n)).1.planned = _
      simp [Reporter.plan, Reporter.fresh, Reporter.hasPlan, natural, testsOf]
  | append_singleton results r ih =>
    have last : planned plan (results ++ [r]) = planned plan results ++ [.record r] := by
      simp [planned]
    rw [last, after_concat]
    exact (record_counters _ r).2.2.2.1.trans ih

/-- What closing makes of a run that was open. -/
theorem after_closed {plan : Option Nat} (writable : Writable plan) (results : List Result) :
    let t := Transcript.after (planned plan results ++ [.finalize])
    linesOf t.said = closedLines plan results ∧
      t.reporter.summary.isOk =
        (!results.any (·.outcome == .fail) && plan.all (· == results.length)) := by
  intro t
  have before := after_coherent (planned plan results)
  have recorded := recorded_planned plan results
  have declared := after_planned plan results
  have opened : (Transcript.after (planned plan results)).reporter.finalized = false := by
    rw [← Bool.not_eq_true, before.closed]
    simp [planned]
  simp only [t, after_concat, Transcript.step, Reporter.perform, Reporter.finalize, opened,
    Bool.false_eq_true, if_false]
  constructor
  · have layout := before.layout
    rw [linesOf_append, closing_lines, before.counted]
    rw [recorded, declared, opened] at layout
    rw [recorded, declared]
    exact layout.closedLines writable
  · have failures : (results.countP (·.outcome == .fail) == 0) =
        !results.any (·.outcome == .fail) := by
      rw [Bool.eq_iff_iff]
      simp
    simp only [Summary.isOk, Reporter.summary, declared, before.failures, before.counted, recorded,
      failures, testsOf_kept]

/-- The text of a closed run is read back, line by line. -/
theorem readLines?_closed {plan : Option Nat} (writable : Writable plan) {results : List Result}
    (clean : ∀ r ∈ results, CodePoint.char '\n' ∉ r.told.text) :
    readLines? (streamText (Transcript.after (planned plan results ++ [.finalize])).said) =
      some (closedLines plan results) := by
  have plans (n : Nat) : CodePoint.char '\n' ∉ (Line.plan (toString n)).text := by
    have lead : CodePoint.char '\n' ∉ ofString "1.." := by decide
    simp only [Line.text, List.mem_append, lead, numeral_one_line n, or_self, not_false_eq_true]
  have tests : ∀ l ∈ numbered 1 results, CodePoint.char '\n' ∉ l.text := by
    intro l member
    obtain ⟨r, told, number, rfl⟩ := mem_numbered member
    exact line_one_line (clean r told) number
  have lines := (after_closed writable results).1
  rw [readLines?_streamText, lines]
  rw [lines]
  intro l member
  cases plan with
  | some n =>
    obtain rfl | test := List.mem_cons.mp member
    · exact plans n
    · exact tests l test
  | none =>
    obtain test | last := List.mem_append.mp member
    · exact tests l test
    · unfold trailer at last
      split at last
      · cases last
      · rw [List.mem_singleton.mp last]
        exact plans results.length

theorem numbered_told (first : Nat) (results : List Result) :
    (numbered first results).filterMap Line.told? = results.map Result.told := by
  induction results generalizing first with
  | nil => rfl
  | cons r rest ih =>
    have told : (r.line first).told? = some r.told := by
      unfold Result.line Result.told
      cases r.outcome <;> rfl
    rw [numbered, List.filterMap_cons_some told, ih, List.map_cons]

/-- Without its plans the stream of a closed run is the results. -/
theorem closedLines_results (plan : Option Nat) (results : List Result) :
    (closedLines plan results).filter (!·.isPlan) = numbered 1 results := by
  have all : (numbered 1 results).filter (!·.isPlan) = numbered 1 results := by
    apply List.filter_eq_self.mpr
    intro l member
    simp [numbered_no_plan 1 results l member]
  cases plan with
  | some n => rw [closedLines, List.filter_cons_of_neg (by simp [Line.isPlan]), all]
  | none =>
    have drops : (trailer results.length).filter (!·.isPlan) = [] := by
      unfold trailer
      split <;> rfl
    rw [closedLines, List.filter_append, all, drops, List.append_nil]

/-- A closed stream has a plan if one was declared, or else if there are results. -/
theorem closedLines_plans (plan : Option Nat) (results : List Result) :
    (closedLines plan results).filter Line.isPlan =
      (plan.or (if results = [] then none else some results.length)).toList.map
        fun n => Line.plan (toString n) := by
  have tests : (numbered 1 results).filter Line.isPlan = [] := by
    apply List.filter_eq_nil_iff.mpr
    intro l member
    simp [numbered_no_plan 1 results l member]
  cases plan with
  | some n => rw [closedLines, List.filter_cons_of_pos rfl, tests]; rfl
  | none =>
    rw [closedLines, List.filter_append, tests, trailer]
    cases results <;> rfl

theorem storyOf_closedLines (plan : Option Nat) (results : List Result) :
    storyOf (closedLines plan results) = ⟨plan, results.map Result.told⟩ := by
  have told : (closedLines plan results).filterMap Line.told? = results.map Result.told := by
    rw [filterMap_results (fun _ => rfl), closedLines_results, numbered_told]
  have leads : (closedLines plan results).head?.bind Line.plan? = plan := by
    cases plan with
    | some n => exact readWhole?_written n
    | none =>
      cases results with
      | nil => rfl
      | cons r rest =>
        change (r.line 1).plan? = none
        unfold Result.line
        cases r.outcome <;> rfl
  rw [storyOf, told, leads]

theorem verdict_closedLines (plan : Option Nat) (results : List Result) :
    verdict (closedLines plan results) =
      (!results.any (·.outcome == .fail) && plan.all (· == results.length)) := by
  have tests := closedLines_results plan results
  have verdicts := numbered_verdicts 1 results
  have length : (numbered 1 results).length = results.length := by
    simpa using congrArg List.length verdicts
  have plans : Line.isNotOk = fun l => !l.isPlan && l.isNotOk := by
    funext l
    cases l <;> rfl
  have failures : (closedLines plan results).any Line.isNotOk =
      results.any (·.outcome == .fail) := by
    rw [plans, ← List.any_filter, tests]
    simpa using congrArg (List.any · id) verdicts
  have read (n : Nat) : (Line.plan (toString n)).plan? = some n := readWhole?_written n
  rw [verdict, failures, tests, length, closedLines_plans, List.all_map]
  simp only [Function.comp_def, read]
  cases plan with
  | some n => simp
  | none => cases results <;> simp

/-- The stream tells the same story as the summary, if a declared plan does not have too many digits
to be written. From the text of a closed run alone one reads whether a plan was declared and which,
and each result in order with its label or its reason; no other run has that text. The reader's
verdict is that of the summary. Only a run without a plan and without results leaves a text without
a plan. -/
theorem closed_stream_tells_run (plan : Option Nat) (writable : Writable plan)
    (results : List Result) (clean : ∀ r ∈ results, CodePoint.char '\n' ∉ r.told.text) :
    let t := Transcript.after (planned plan results ++ [.finalize])
    (∃ lines, readLines? (streamText t.said) = some lines ∧
      storyOf lines = ⟨plan, results.map Result.told⟩ ∧
      verdict lines = t.reporter.summary.isOk ∧
      ((∀ l ∈ lines, l.isPlan = false) ↔ plan = none ∧ results = [])) ∧
    ∀ (otherPlan : Option Nat) (others : List Result), Writable otherPlan →
      (∀ r ∈ others, CodePoint.char '\n' ∉ r.told.text) →
      streamText (Transcript.after (planned otherPlan others ++ [.finalize])).said =
        streamText t.said →
      otherPlan = plan ∧ others.map Result.told = results.map Result.told := by
  intro t
  have read : readLines? (streamText t.said) = some (closedLines plan results) :=
    readLines?_closed writable clean
  refine ⟨⟨closedLines plan results, read, storyOf_closedLines plan results, ?_, ?_⟩, ?_⟩
  · rw [verdict_closedLines, (after_closed writable results).2]
  · have planless := List.filter_eq_nil_iff (p := Line.isPlan) (l := closedLines plan results)
    rw [closedLines_plans] at planless
    simpa using planless.symm
  · intro otherPlan others otherWritable otherClean same
    have lines : closedLines otherPlan others = closedLines plan results := by
      rw [← same, readLines?_closed otherWritable otherClean] at read
      exact Option.some.inj read
    have stories := congrArg storyOf lines
    rw [storyOf_closedLines, storyOf_closedLines] at stories
    exact Story.mk.inj stories

/-- A plan that is not kept, and results whose labels and reasons look like lines of a stream. -/
theorem closed_stream_tells_lookalikes :
    let results := [Result.passed "1..7", .failed "a # skip b" (some "c"),
      .skipped "d" (some "ok 2 - e"), .skipped "f" (some []), .skipped "g" none]
    let t := Transcript.after (planned (some 2) results ++ [.finalize])
    Writable (some 2) ∧ (∀ r ∈ results, CodePoint.char '\n' ∉ r.told.text) ∧
    ∃ lines, readLines? (streamText t.said) = some lines ∧
      storyOf lines = ⟨some 2, [.pass "1..7", .fail "a # skip b", .skip (some "ok 2 - e"),
        .skip none, .skip none]⟩ ∧
      verdict lines = false := by
  intro results t
  have short : Writable (some 2) := by
    rintro n ⟨⟩
    decide +kernel
  have clean : ∀ r ∈ results, CodePoint.char '\n' ∉ r.told.text := by decide
  obtain ⟨⟨lines, read, story, verdict, -⟩, -⟩ :=
    closed_stream_tells_run (some 2) short results clean
  exact ⟨short, clean, lines, read, story, verdict⟩

/-- A stream need not tell the plan. One that was declared as a truth value is written as a word,
and the run is good though no reader of the text can tell; one of too many digits is in force
without a line, and closing the run faults. -/
theorem closed_stream_hides_plan :
    let worded := Transcript.after [.plan (.truth true), .record (.passed "a"), .finalize]
    let long := Transcript.after [.plan (.number tooLong)]
    (streamText worded.said = "1..True\nok 1 - a\n" ∧ worded.reporter.summary.isOk = true ∧
      (readLines? (streamText worded.said)).map verdict = some false) ∧
    (long.reporter.planned = some (.number tooLong) ∧ long.said = [] ∧
      long.reporter.finalize.2 = .error .integerUnwritable) := by
  intro worded long
  have positive : 0 < tooLong := by decide +kernel
  have unwritable : (Tests.number tooLong).shown = .error .integerUnwritable :=
    shown_tooLong (by simp)
  have plan := (plan_unwritable .fresh unwritable).2 rfl rfl
  rw [if_neg (by simp [Tests.value])] at plan
  have declared : long = ⟨{ Reporter.fresh with planned := some (.number tooLong) }, []⟩ := by
    change Transcript.mk (Reporter.fresh.plan _).1 ([] ++ heard (Reporter.fresh.plan _).2) = _
    rw [plan]
    rfl
  refine ⟨by decide +kernel, ?_⟩
  rw [declared]
  refine ⟨rfl, rfl, (closing_error_iff _ _).mpr ⟨rfl, _, rfl, ?_, unwritable⟩⟩
  simp only [Tests.value, Reporter.fresh]
  omega

end PerlAudit.Tap
