import PerlAudit.Coverage.Sweep
import PerlAudit.Proofs.Session.Account
import PerlAudit.Proofs.Text.Pieces

namespace PerlAudit.Coverage

open Text Number Audit
open Command (Call Completion)
open Tap (Result)

def resetCall (tool : Text) : Call := ⟨[tool, "-delete"], { mergeErrors := true }⟩

def captureCall (perl path : Text) : Call :=
  ⟨[perl, "-MDevel::Cover", path], { discardOutput := true }⟩

def reportCall (tool : Text) : Call := ⟨[tool], { discardErrors := true }⟩

theorem measure_does (perl path : Text) (s : Session) :
    let answer := s.host.answer s.requests (captureCall perl path)
    Does (measure perl path) s (measured path answer) [(captureCall perl path).request]
      [captureResult path answer] :=
  (run_does (captureCall perl path) (by simp [captureCall]) s).bind fun t _ =>
    (emit_does _ t).map fun _ => measured path _

/-- The results of some scripts, by their answers. -/
def captureResults (targets : List Text) (answers : List Completion) : List Result :=
  (targets.zip answers).map fun x => captureResult x.1 x.2

/-- Each script is run once, in order, whatever became of those before it. -/
theorem measureAll_does (perl : Text) (targets : List Text) (s : Session) :
    let calls := targets.map (captureCall perl)
    let answers := s.host.answers s.requests calls
    Does (measureAll perl targets) s ((targets.zip answers).map fun x => measured x.1 x.2)
      (calls.map Call.request) (captureResults targets answers) := by
  induction targets generalizing s with
  | nil => exact does_pure [] s
  | cons path rest ih =>
    refine (measure_does perl path s).bind fun t account => ?_
    -- For the rest, the command just started is one of those before.
    have later := ih t
    simp only [account.answers, account.requests] at later
    exact later.map (measured path _ :: ·)

/-- Whether a threshold is a whole number beyond all finite numbers. -/
def Threshold.isTooLarge : Threshold → Bool
  | whole n => (Binary64.ofInt? n).isNone
  | real _ => false

theorem text_of_tooLarge {threshold : Threshold} (large : threshold.isTooLarge = true) :
    threshold.text = .error .integerTooLarge := by
  cases threshold with
  | real x => simp [Threshold.isTooLarge] at large
  | whole n =>
    rw [Threshold.isTooLarge] at large
    rw [Threshold.text, Threshold.wholeText]
    rw [Option.isNone_iff_eq_none.mp large, Option.elim_none]

theorem text_of_not_tooLarge {threshold : Threshold} (writable : threshold.isTooLarge = false) :
    ∃ limit, threshold.text = .ok limit := by
  cases threshold with
  | real x => exact ⟨x.brief, by rw [Threshold.text]⟩
  | whole n =>
    rw [Threshold.isTooLarge] at writable
    rw [Threshold.text, Threshold.wholeText]
    obtain ⟨x, near⟩ := Option.isSome_iff_exists.mp (Option.isNone_eq_false_iff.mp writable)
    rw [near, Option.elim_some]
    exact ⟨_, rfl⟩

/-- A result that is a pass or a failure. -/
theorem outcome_iff {outcome : Tap.Outcome} {good : Bool}
    (told : outcome = if good then .pass else .fail) :
    (outcome = .pass ↔ good = true) ∧ (outcome ≠ .fail ↔ good = true) := by
  cases good <;> simp [told]

theorem captureResult_outcome (path : Text) (answer : Completion) :
    (captureResult path answer).outcome = if answer.isOk then .pass else .fail := by
  unfold captureResult
  split <;> rfl

theorem reportResult_outcome (answer : Completion) (report : Text) :
    (reportResult answer report).outcome = if !isBlankText report then .pass else .fail := by
  unfold reportResult
  cases isBlankText report <;> rfl

theorem reportResult_label (answer : Completion) (report : Text) :
    (reportResult answer report).label = "Got cover" := by
  unfold reportResult
  split <;> rfl

theorem not_isBlankText_iff {t : Text} :
    (!isBlankText t) = true ↔ ∃ c ∈ t, c.isIn isBlank = false := by
  have blank : isBlankText t = true ↔ ∀ c ∈ t, c.isIn isBlank = true := by
    rw [← dropBlanks_eq_nil_iff, isBlankText, List.isEmpty_iff]
  rw [Bool.not_eq_true', ← Bool.not_eq_true, blank]
  simp

/-- The gate holds a total that was read off the report against the threshold. -/
theorem gateResult_outcome {run : Run} (total : run.total = total? run.report)
    (writable : run.threshold.isTooLarge = false) :
    ∃ gate, gateResult run = .ok gate ∧ gate.outcome = if run.passed then .pass else .fail := by
  obtain ⟨limit, text⟩ := text_of_not_tooLarge writable
  unfold gateResult
  rw [text]
  cases measured : run.total with
  | none => exact ⟨_, rfl, by simp [Run.passed, measured, Result.failed]⟩
  | some amount =>
    -- A total comes from figures of the report, so the label has figures to show.
    obtain ⟨figures, found⟩ : ∃ figures, totalText? run.report = some figures := by
      rw [measured, total?] at total
      obtain ⟨figures, found, -⟩ := Option.bind_eq_some_iff.mp total.symm
      exact ⟨figures, found⟩
    rw [found]
    cases run.passed with
    | true => exact ⟨_, rfl, rfl⟩
    | false => exact ⟨_, rfl, rfl⟩

theorem judge_does {run : Run} (total : run.total = total? run.report)
    (writable : run.threshold.isTooLarge = false) :
    ∃ gate, gateResult run = .ok gate ∧ (gate.outcome = if run.passed then .pass else .fail) ∧
      ∀ s, Does (judge run) s run [] [gate] := by
  obtain ⟨gate, judged, outcome⟩ := gateResult_outcome total writable
  refine ⟨gate, judged, outcome, fun s => ?_⟩
  unfold judge
  rw [judged]
  exact (lift_does gate s).bind fun t _ => (emit_does gate t).map fun _ => run

/-- Where the threshold cannot be told, there is no gate. -/
theorem judge_faults {run : Run} (large : run.threshold.isTooLarge = true) (s : Session) :
    Faults (judge run) s .integerTooLarge [] [] := by
  have faulted : gateResult run = .error .integerTooLarge := by
    unfold gateResult
    rw [text_of_tooLarge large]
    rfl
  unfold judge
  rw [faulted]
  exact (lift_faults _ s).bind _

/-- What a sweep comes to once the scripts have run and the tool has reported. -/
def gathered (threshold : Threshold) (targets : List Text) (answers : List Completion)
    (report : Completion) : Run where
  threshold := threshold
  targets := targets
  files := (targets.zip answers).map fun x => measured x.1 x.2
  report := reportOf report
  total := total? (reportOf report)

theorem gather_does (perl tool : Text) (threshold : Threshold) (targets : List Text) (s : Session) :
    let calls := targets.map (captureCall perl)
    let answers := s.host.answers s.requests calls
    let report := s.host.answer (s.requests ++ calls.map Call.request) (reportCall tool)
    Does (gather perl tool (.start threshold targets)) s (gathered threshold targets answers report)
      (calls.map Call.request ++ [(reportCall tool).request])
      (captureResults targets answers ++ [reportResult report (reportOf report)]) := by
  intro calls answers report
  refine (measureAll_does perl targets s).bind fun t account => ?_
  have ran := run_does (reportCall tool) (by simp [reportCall]) t
  rw [account.answer, account.requests] at ran
  exact ran.bind fun u _ => (emit_does _ u).bind fun v _ => (debug_does _ _ v).map fun _ => _

theorem gathered_paths (threshold : Threshold) {targets : List Text} {answers : List Completion}
    (report : Completion) (each : answers.length = targets.length) :
    (gathered threshold targets answers report).files.map Measured.path = targets := by
  rw [gathered, List.map_map]
  exact List.map_fst_zip (Nat.le_of_eq each.symm)

theorem captureResults_labels {targets : List Text} {answers : List Completion}
    (each : answers.length = targets.length) :
    (captureResults targets answers).map Result.label =
      targets.map (ofString "Coverage captured from " ++ ·) := by
  have label (path : Text) (answer : Completion) :
      (captureResult path answer).label = ofString "Coverage captured from " ++ path := by
    unfold captureResult
    split <;> rfl
  have firsts : (targets.zip answers).map Prod.fst = targets :=
    List.map_fst_zip (Nat.le_of_eq each.symm)
  calc (captureResults targets answers).map Result.label
      = ((targets.zip answers).map Prod.fst).map (ofString "Coverage captured from " ++ ·) := by
        rw [captureResults, List.map_map, List.map_map]
        exact List.map_congr_left fun x _ => label x.1 x.2
    _ = targets.map (ofString "Coverage captured from " ++ ·) := by rw [firsts]

theorem gathered_statuses (threshold : Threshold) {targets : List Text}
    {answers : List Completion} (report : Completion) (each : answers.length = targets.length) :
    (gathered threshold targets answers report).files.map Measured.status =
      answers.map Completion.status := by
  have seconds : (targets.zip answers).map Prod.snd = answers :=
    List.map_snd_zip (Nat.le_of_eq each)
  calc (gathered threshold targets answers report).files.map Measured.status
      = ((targets.zip answers).map Prod.snd).map Completion.status := by
        rw [gathered, List.map_map, List.map_map]
        rfl
    _ = answers.map Completion.status := by rw [seconds]

/-- A script is marked good exactly if its result is a pass. -/
theorem gathered_isOk (threshold : Threshold) (targets : List Text) {answers : List Completion}
    (report : Completion) (candid : ∀ a ∈ answers, a.isOk = (a.status == some 0)) :
    (gathered threshold targets answers report).files.map Measured.isOk =
      (captureResults targets answers).map (·.outcome == .pass) := by
  rw [gathered, captureResults, List.map_map, List.map_map]
  apply List.map_congr_left
  intro x member
  have answer := candid x.2 (List.of_mem_zip member).2
  simp only [Function.comp_apply, captureResult_outcome, Measured.isOk, measured, answer]
  cases x.2.status == some 0 <;> rfl

theorem captures_good_iff {targets : List Text} {answers : List Completion}
    (each : answers.length = targets.length) :
    (∀ r ∈ captureResults targets answers, r.outcome ≠ .fail) ↔
      ∀ a ∈ answers, a.isOk = true := by
  have seconds : (targets.zip answers).map Prod.snd = answers :=
    List.map_snd_zip (Nat.le_of_eq each)
  have answered : (∀ a ∈ answers, a.isOk = true) ↔
      ∀ a ∈ (targets.zip answers).map Prod.snd, a.isOk = true := by rw [seconds]
  rw [answered, captureResults, List.forall_mem_map, List.forall_mem_map]
  exact forall₂_congr fun x _ => (outcome_iff (captureResult_outcome x.1 x.2)).2

/-- The commands of a sweep that is not ended early. -/
def course (perl tool : Text) (targets : List Text) : List Call :=
  resetCall tool :: targets.map (captureCall perl) ++ [reportCall tool]

/-- What a sweep has found before it comes to the gate, by the answers to its scripts and the answer
to its call for a report. -/
structure Findings (threshold : Threshold) (targets : List Text) (answers : List Completion)
    (report : Completion) (run : Run) (captures : List Result) (got : Result) : Prop where
  asked : run.threshold = threshold ∧ run.targets = targets
  paths : run.files.map Measured.path = targets
  statuses : run.files.map Measured.status = answers.map Completion.status
  labels : captures.map Result.label = targets.map (ofString "Coverage captured from " ++ ·)
  captures : run.files.map Measured.isOk = captures.map (·.outcome == .pass)
  report : run.report = reportOf report
  got : got.label = "Got cover" ∧
    (got.outcome = .pass ↔ ∃ c ∈ run.report, c.isIn isBlank = false)
  total : run.total = total? run.report

theorem gathered_findings (threshold : Threshold) {targets : List Text} {answers : List Completion}
    (report : Completion) (each : answers.length = targets.length)
    (candid : ∀ a ∈ answers, a.isOk = (a.status == some 0)) :
    Findings threshold targets answers report (gathered threshold targets answers report)
      (captureResults targets answers) (reportResult report (reportOf report)) where
  asked := ⟨rfl, rfl⟩
  paths := gathered_paths threshold report each
  statuses := gathered_statuses threshold report each
  labels := captureResults_labels each
  captures := gathered_isOk threshold targets report candid
  report := rfl
  got := ⟨reportResult_label report _,
    (outcome_iff (reportResult_outcome report _)).1.trans not_isBlankText_iff⟩
  total := rfl

theorem given_eq_none {cover : Option Text} (absent : cover = none ∨ cover = some []) :
    given cover = none := by
  obtain rfl | rfl := absent <;> rfl

theorem given_eq_some {tool : Text} (named : tool ≠ []) : given (some tool) = some tool := by
  cases tool with
  | nil => exact absurd rfl named
  | cons c rest => rfl

theorem sweep_eq (perl : Text) {tool : Text} (threshold : Threshold) (targets : List Text)
    (named : tool ≠ []) :
    sweep perl (some tool) threshold targets = do
      let reset ← Audit.run (resetCall tool).argv (resetCall tool).capture
      if reset.isOk then gather perl tool (.start threshold targets) >>= judge
      else
        Audit.emit (resetFailure tool reset)
        return .start threshold targets := by
  unfold sweep
  rw [given_eq_some named]
  rfl

theorem good_iff {threshold : Threshold} {targets : List Text} {answers : List Completion}
    {report : Completion} {gate : Result} (each : answers.length = targets.length)
    (candid : ∀ a ∈ answers, a.isOk = (a.status == some 0)) :
    let run := gathered threshold targets answers report
    let captures := captureResults targets answers
    (gate.outcome = if run.passed then .pass else .fail) →
    ((∀ r ∈ captures ++ [reportResult report (reportOf report), gate], r.outcome ≠ .fail) ↔
      (∀ a ∈ answers, a.status = some 0) ∧ (∃ c ∈ run.report, c.isIn isBlank = false) ∧
        ∃ total, run.total = some total ∧ threshold.isReachedBy total = true) := by
  intro run captures outcome
  have scripts : (∀ r ∈ captures, r.outcome ≠ .fail) ↔ ∀ a ∈ answers, a.status = some 0 := by
    rw [captures_good_iff each]
    refine forall₂_congr fun a member => ?_
    rw [candid a member, beq_iff_eq]
  have got : (reportResult report (reportOf report)).outcome ≠ .fail ↔
      ∃ c ∈ run.report, c.isIn isBlank = false :=
    (outcome_iff (reportResult_outcome report _)).2.trans not_isBlankText_iff
  have passed : gate.outcome ≠ .fail ↔
      ∃ total, run.total = some total ∧ threshold.isReachedBy total = true :=
    (outcome_iff outcome).2.trans (Option.any_eq_true _ _)
  rw [← scripts, ← got, ← passed, List.forall_mem_append, List.forall_mem_cons,
    List.forall_mem_singleton]

theorem sweep_without_tool (perl : Text) {cover : Option Text} (threshold : Threshold)
    (targets : List Text) (s : Session) (absent : cover = none ∨ cover = some []) :
    Does (sweep perl cover threshold targets) s (.start threshold targets) []
      [.skipped "Coverage" (some (ofString "Cover binary not found"))] := by
  unfold sweep
  rw [given_eq_none absent]
  exact (emit_does _ s).map fun _ => Run.start threshold targets

theorem sweep_after_bad_reset (perl : Text) {tool : Text} (threshold : Threshold)
    (targets : List Text) {s : Session} (named : tool ≠ [])
    (bad : (s.host.answer s.requests (resetCall tool)).isOk = false) :
    Does (sweep perl (some tool) threshold targets) s (.start threshold targets)
      [(resetCall tool).request]
      [resetFailure tool (s.host.answer s.requests (resetCall tool))] := by
  rw [sweep_eq perl threshold targets named]
  refine (run_does (resetCall tool) (by simp [resetCall]) s).bind fun t _ => ?_
  rw [bad]
  exact (emit_does _ t).map fun _ => Run.start threshold targets

/-- How the scripts of a sweep are answered, after its reset. -/
def scriptAnswers (s : Session) (perl tool : Text) (targets : List Text) : List Completion :=
  s.host.answers (s.requests ++ [(resetCall tool).request]) (targets.map (captureCall perl))

/-- How a sweep's call for a report is answered, after everything else. -/
def reportAnswer (s : Session) (perl tool : Text) (targets : List Text) : Completion :=
  s.host.answer
    (s.requests ++ [(resetCall tool).request] ++ (targets.map (captureCall perl)).map Call.request)
    (reportCall tool)

theorem scriptAnswers_length (s : Session) (perl tool : Text) (targets : List Text) :
    (scriptAnswers s perl tool targets).length = targets.length := by
  rw [scriptAnswers, Host.answers_length, List.length_map]

theorem gather_after_reset (perl tool : Text) (threshold : Threshold) (targets : List Text)
    {s t : Session} (account : s.Account t [(resetCall tool).request] []) :
    let answers := scriptAnswers s perl tool targets
    let report := reportAnswer s perl tool targets
    Does (gather perl tool (.start threshold targets)) t (gathered threshold targets answers report)
      ((targets.map (captureCall perl)).map Call.request ++ [(reportCall tool).request])
      (captureResults targets answers ++ [reportResult report (reportOf report)]) := by
  have does := gather_does perl tool threshold targets t
  simp only [account.answers, account.answer, account.requests] at does
  exact does

theorem course_requests (perl tool : Text) (targets : List Text) :
    (course perl tool targets).map Call.request = [(resetCall tool).request] ++
      ((targets.map (captureCall perl)).map Call.request ++ [(reportCall tool).request]) := by
  simp [course]

theorem sweep_after_good_reset (perl : Text) {tool : Text} {threshold : Threshold}
    (targets : List Text) {s : Session} (named : tool ≠ [])
    (good : (s.host.answer s.requests (resetCall tool)).isOk = true)
    (writable : threshold.isTooLarge = false) :
    let answers := scriptAnswers s perl tool targets
    let report := reportAnswer s perl tool targets
    let run := gathered threshold targets answers report
    ∃ gate, gateResult run = .ok gate ∧ (gate.outcome = if run.passed then .pass else .fail) ∧
      Does (sweep perl (some tool) threshold targets) s run
        ((course perl tool targets).map Call.request)
        (captureResults targets answers ++ [reportResult report (reportOf report), gate]) := by
  intro answers report run
  have total : run.total = total? run.report := rfl
  obtain ⟨gate, result, outcome, judged⟩ := judge_does total writable
  refine ⟨gate, result, outcome, ?_⟩
  rw [sweep_eq perl threshold targets named, course_requests]
  refine (run_does (resetCall tool) (by simp [resetCall]) s).bind fun t account => ?_
  have rest := (gather_after_reset perl tool threshold targets account).bind fun u _ => judged u
  rw [List.append_nil, List.append_assoc] at rest
  rw [good]
  exact rest

theorem sweep_beyond_finite (perl : Text) {tool : Text} {threshold : Threshold}
    (targets : List Text) {s : Session} (named : tool ≠ [])
    (good : (s.host.answer s.requests (resetCall tool)).isOk = true)
    (large : threshold.isTooLarge = true) :
    let answers := scriptAnswers s perl tool targets
    let report := reportAnswer s perl tool targets
    Faults (sweep perl (some tool) threshold targets) s .integerTooLarge
      ((course perl tool targets).map Call.request)
      (captureResults targets answers ++ [reportResult report (reportOf report)]) := by
  intro answers report
  rw [sweep_eq perl threshold targets named, course_requests]
  refine (run_does (resetCall tool) (by simp [resetCall]) s).bind_faults fun t account => ?_
  have rest := (gather_after_reset perl tool threshold targets account).bind_faults
    fun u _ => judge_faults large u
  rw [List.append_nil, List.append_nil] at rest
  rw [good]
  exact rest

/-- A sweep keeps to its course, however its commands are answered. Without a tool it skips. After a
failed reset it has failed and starts nothing else. Otherwise each script is run once, in order, and
then the tool is asked for its report. There is a result for each script, one for the report and one
for the gate, and none fails exactly if every script ended well and the report has a total that
reaches the threshold. A threshold beyond all finite numbers cannot be told: then a fault takes the
place of the gate. -/
theorem sweep_keeps_course (perl : Text) (cover : Option Text) (threshold : Threshold)
    (targets : List Text) (s : Session) (candid : s.host.Candid) :
    (cover = none ∨ cover = some [] →
      ∃ run result, Does (sweep perl cover threshold targets) s run [] [result] ∧
        result.outcome = .skip ∧ run.total = none) ∧
    ∀ tool, cover = some tool → tool ≠ [] →
      ((s.host.answer s.requests (resetCall tool)).isOk = false →
        ∃ run result,
          Does (sweep perl cover threshold targets) s run [(resetCall tool).request] [result] ∧
          result.outcome = .fail ∧ run.files = [] ∧ run.total = none) ∧
      ((s.host.answer s.requests (resetCall tool)).isOk = true →
        let commands := (course perl tool targets).map Call.request
        let answers := scriptAnswers s perl tool targets
        ∃ run captures got,
          Findings threshold targets answers (reportAnswer s perl tool targets) run captures got ∧
          (threshold.isTooLarge = true →
            Faults (sweep perl cover threshold targets) s .integerTooLarge commands
              (captures ++ [got])) ∧
          (threshold.isTooLarge = false →
            ∃ gate,
              Does (sweep perl cover threshold targets) s run commands (captures ++ [got, gate]) ∧
              (gate.outcome = .pass ↔ run.passed = true) ∧
              ((∀ r ∈ captures ++ [got, gate], r.outcome ≠ .fail) ↔
                (∀ a ∈ answers, a.status = some 0) ∧ (∃ c ∈ run.report, c.isIn isBlank = false) ∧
                  ∃ total, run.total = some total ∧ threshold.isReachedBy total = true))) := by
  refine ⟨fun absent => ?_, ?_⟩
  · exact ⟨_, _, sweep_without_tool perl threshold targets s absent, rfl, rfl⟩
  rintro tool rfl named
  refine ⟨fun bad => ?_, fun good => ?_⟩
  · exact ⟨_, _, sweep_after_bad_reset perl threshold targets named bad, rfl, rfl, rfl⟩
  intro commands answers
  have each : answers.length = targets.length := scriptAnswers_length s perl tool targets
  have candid : ∀ a ∈ answers, a.isOk = (a.status == some 0) := candid.answers _ _
  refine ⟨_, _, _, gathered_findings threshold _ each candid, fun large => ?_, fun writable => ?_⟩
  · exact sweep_beyond_finite perl targets named good large
  · obtain ⟨gate, -, outcome, does⟩ := sweep_after_good_reset perl targets named good writable
    exact ⟨gate, does, (outcome_iff outcome).1, good_iff each candid outcome⟩

/-- One script that cannot be started ends neither the sweep nor the script after it. -/
theorem sweep_keeps_course_past_failure :
    let standIn : Command.StandIn := fun before argv _ =>
      if before.length = 1 then ⟨argv, none, [], some (ofString "not started")⟩
      else ⟨argv, some 0, "Total 75.0\n", none⟩
    let refuse : Command.Respond := fun _ _ => .refused .noEntry
    let s := Session.start { Host.plain ⟨.empty, "/", [], []⟩ refuse with standIn }
    s.host.Candid ∧ ∃ run captures got gate,
      Does (sweep "perl" (some (ofString "cover")) (.whole 60) ["a.t", "b.t"]) s run
        ((course "perl" "cover" ["a.t", "b.t"]).map Call.request) (captures ++ [got, gate]) ∧
      run.files.map Measured.status = [none, some 0] ∧
      captures.map (·.outcome == .pass) = [false, true] := by
  intro standIn refuse s
  have candid : s.host.Candid := by
    intro other same before argv capture
    obtain rfl : standIn = other := Option.some.inj same
    by_cases second : before.length = 1 <;> simp [standIn, second]
  refine ⟨candid, ?_⟩
  have named : ofString "cover" ≠ [] := by decide
  have writable : (Threshold.whole 60).isTooLarge = false := by decide +kernel
  obtain ⟨run, captures, got, findings, -, sound⟩ :=
    ((sweep_keeps_course "perl" (some (ofString "cover")) (.whole 60) ["a.t", "b.t"] s candid).2
      _ rfl named).2 rfl
  obtain ⟨gate, does, -⟩ := sound writable
  have statuses : run.files.map Measured.status = [none, some 0] := findings.statuses
  refine ⟨run, captures, got, gate, does, statuses, ?_⟩
  calc captures.map (·.outcome == .pass)
      = run.files.map Measured.isOk := findings.captures.symm
    _ = (run.files.map Measured.status).map (· == some 0) := by
        rw [List.map_map]
        rfl
    _ = [false, true] := by
        rw [statuses]
        rfl

/-- A sweep whose tool works, and that has no gate. -/
theorem sweep_without_gate :
    let respond : Command.Respond := fun _ _ => .finished (encode "Total 80.0\n".toList) [] 0
    let s := Session.start (.plain ⟨.empty, "/", [], []⟩ respond)
    s.host.Candid ∧ (s.host.answer s.requests (resetCall "cover")).isOk = true ∧
      ¬∃ run t,
        sweep "perl" (some (ofString "cover")) (.whole (Nat.pow 10 400)) [] s = .ok run t := by
  intro respond s
  have named : ofString "cover" ≠ [] := by decide
  have good : (s.host.answer s.requests (resetCall "cover")).isOk = true := rfl
  have large : (Threshold.whole (Nat.pow 10 400)).isTooLarge = true := by decide +kernel
  refine ⟨nofun, good, ?_⟩
  rintro ⟨run, t, answered⟩
  obtain ⟨u, faulted, -⟩ := sweep_beyond_finite "perl" [] named good large
  rw [answered] at faulted
  cases faulted

end PerlAudit.Coverage
