import Mathlib.Data.List.ReduceOption
import PerlAudit.Checks
import PerlAudit.Proofs.Files.Growth
import PerlAudit.Proofs.Tools.Lookup

namespace PerlAudit

namespace Source

open Files Text

theorem Kind.isModule_ofFlags (isModule isScript : Bool) :
    (ofFlags isModule isScript).isModule = isModule := by
  cases isModule <;> cases isScript <;> rfl

theorem Kind.isScript_ofFlags (isModule isScript : Bool) :
    (ofFlags isModule isScript).isScript = isScript := by
  cases isModule <;> cases isScript <;> rfl

variable {disk : Disk} {path : Text}

/-- What a file is that cannot be read is told by its name. -/
theorem classify_unread {fault : Disk.ReadFault} (named : nameFlaw? path = none)
    (unread : disk.read path = .error fault) :
    classify disk path = .ok (.ofFlags (isModule path) (isScriptName path)) := by
  unfold classify isScript firstLine
  rw [named, unread]
  cases isScriptName path <;> rfl

theorem Search.file_nameless (search : Search) (disk : Disk) {flaw : NameFlaw}
    (flawed : nameFlaw? path = some flaw) : search.file disk path = .error (.name flaw) := by
  unfold Search.file
  rw [flawed]

end Source

namespace Checks

open Audit Session Files Source
open Text (nameFlaw? NameFlaw)
open Command (Request)
open Tap (Result Outcome)

/-- What is asked about a file. -/
inductive Aspect where
  | compiles
  | strict
  | warns
  deriving DecidableEq, Repr

def Aspect.heading : Aspect → Text
  | compiles => "Syntax check "
  | strict => "use strict   "
  | warns => "use warnings "

structure Check where
  aspect : Aspect
  file : Text
  label : Option Text
  deriving DecidableEq, Repr

namespace Check

def text (c : Check) : Text := labelOr c.label (c.aspect.heading ++ c.file)

def perform (settings : Settings) (c : Check) : Audit (Option Bool) :=
  match c.aspect with
  | .compiles => return some (← syntaxOk settings c.file c.label)
  | .strict => return some (← strictOk settings c.file c.label)
  | .warns => warningsOk settings c.file c.label

end Check

/-- The answer that goes with an outcome. A skipped check answers neither way. -/
def answerFor : Outcome → Option Bool
  | .pass => some true
  | .fail => some false
  | .skip => none

/-- The path a check of `file` is about. -/
def pathOf (settings : Settings) (s : Session) (file : Text) : Text :=
  modulePath s.host.disk (settings.searchRoots ((s.host.getVar? "PERL5LIB").getD [])) file

/-- A path that is no module name is about itself. -/
theorem pathOf_plain (settings : Settings) (s : Session) {file : Text}
    (plain : isModuleName file = false) : pathOf settings s file = file := by
  simp [pathOf, modulePath, plain]

theorem resolve_eq (settings : Settings) (file : Text) (s : Session) :
    resolve settings file s = .ok (pathOf settings s file) s := rfl

/-- Whether the interpreter may be asked to compile a file. -/
structure Compilable (disk : Disk) (path : Text) : Prop where
  file : disk.isFile path = true
  readable : disk.isReadable path = true
  perl : ∃ kind, classify disk path = .ok kind ∧ kind.isPerl = true

/-- An action reports one result under a label. What it answers is told by the result. -/
def Reports {α : Type} (told : Result → α → Prop) (x : Audit α) (s : Session) (label : Text)
    (commands : List Request) : Prop :=
  ∃ result a, told result a ∧ result.label = label ∧
    Writes x s a commands [.ensurePlan, .record result]

/-- A result that is a pass or a failure, and whether it is a pass. -/
def Judged (result : Result) (good : Bool) : Prop :=
  result.outcome ≠ .skip ∧ good = result.isOk

/-- The answer that goes with a result, which gives the reason if it was skipped. -/
def Told (result : Result) (answer : Option Bool) : Prop :=
  answer = answerFor result.outcome ∧
    (result.outcome = .skip → result.diagnostic = some skipReason)

theorem Judged.told {result : Result} {good : Bool} (h : Judged result good) :
    Told result (some good) := by
  obtain ⟨judged, rfl⟩ := h
  refine ⟨?_, fun skipped => absurd skipped judged⟩
  unfold Result.isOk
  cases outcome : result.outcome with
  | pass | fail => rfl
  | skip => exact absurd outcome judged

namespace Reports

variable {α β : Type} {told : Result → β → Prop} {s : Session} {label : Text}
  {commands more : List Request}

theorem bind {x : Audit α} {f : α → Audit β} {a : α} (first : Writes x s a commands [])
    (second : ∀ t, Ledger s t commands [] → Reports told (f a) t label more) :
    Reports told (x >>= f) s label (commands ++ more) := by
  obtain ⟨t, answered, ledger⟩ := first
  obtain ⟨result, b, tells, labelled, u, answered', ledger'⟩ := second t ledger
  exact ⟨result, b, tells, labelled, u, (bind_eq answered).trans answered', ledger.trans ledger'⟩

theorem after {x : Audit α} {f : α → Audit β} {a : α} (looked : x s = .ok a s)
    (h : Reports told (f a) s label commands) : Reports told (x >>= f) s label commands := by
  obtain ⟨result, b, tells, labelled, writes⟩ := h
  exact ⟨result, b, tells, labelled, writes.after looked⟩

end Reports

theorem report_reports {result : Result} (judged : result.outcome ≠ .skip) (s : Session) :
    Reports Judged (report result) s result.label [] :=
  ⟨result, result.isOk, ⟨judged, rfl⟩, rfl, (emit_writes result s).map fun _ => result.isOk⟩

theorem failed_reports (text : Text) (cause : Option Text) (s : Session) :
    Reports Judged (report (.failed text cause)) s text [] :=
  report_reports (by simp [Result.failed]) s

theorem passed_reports (text : Text) (s : Session) :
    Reports Judged (report (.passed text)) s text [] :=
  report_reports (by simp [Result.passed]) s

theorem scanResult_reports (text : Text) (scan : Scan) (missing : Text) (s : Session) :
    Reports Judged (report (scanResult text scan missing)) s text [] := by
  unfold scanResult
  cases scan.error with
  | some error => exact failed_reports text _ s
  | none =>
    cases scan.found with
    | true => exact passed_reports text s
    | false => exact failed_reports text _ s

theorem lift_eq {α : Type} {answer : Except Fault α} {a : α} (h : answer = .ok a) (s : Session) :
    Audit.lift answer s = .ok a s := by
  rw [h]
  rfl

theorem lift_ok {α : Type} {answer : Except Fault α} {a : α} {s t : Session}
    (h : Audit.lift answer s = .ok a t) : answer = .ok a ∧ t = s := by
  cases answer with
  | error fault => cases h
  | ok b =>
    cases h
    exact ⟨rfl, rfl⟩

theorem lift_error {α : Type} {answer : Except Fault α} {fault : Fault} (h : answer = .error fault)
    (s : Session) : Audit.lift answer s = .error fault s := by
  rw [h]
  rfl

/-- The interpreter is asked at most once, and only about a file that may be compiled. -/
theorem syntaxOk_reports (settings : Settings) (file : Text) (label : Option Text) (s : Session) :
    ∃ commands,
      Reports Judged (syntaxOk settings file label) s
        (labelOr label (Aspect.compiles.heading ++ file)) commands ∧
      commands.length ≤ 1 ∧
      (commands ≠ [] → Compilable s.host.disk (pathOf settings s file)) := by
  by_cases absent : (!s.host.disk.isFile (pathOf settings s file) ||
      !s.host.disk.isReadable (pathOf settings s file)) = true
  · refine ⟨[], .after (resolve_eq settings file s) (.after rfl ?_), Nat.zero_le 1,
      fun started => absurd rfl started⟩
    rw [if_pos absent]
    exact failed_reports _ _ s
  obtain ⟨there, readable⟩ : s.host.disk.isFile (pathOf settings s file) = true ∧
      s.host.disk.isReadable (pathOf settings s file) = true := by simpa using absent
  obtain ⟨kind, classified⟩ := classify_answers s.host.disk (Disk.nameable_of_isFile there)
  by_cases foreign : (!kind.isPerl) = true
  · refine ⟨[], .after (resolve_eq settings file s) (.after rfl ?_), Nat.zero_le 1,
      fun started => absurd rfl started⟩
    rw [if_neg absent]
    refine .after (lift_eq classified s) ?_
    rw [if_pos foreign]
    exact failed_reports _ _ s
  · have perl : kind.isPerl = true := by simpa using foreign
    let call : Command.Call := ⟨SyntaxCheck.command settings.perl
      (settings.searchRoots ((s.host.getVar? "PERL5LIB").getD [])) (pathOf settings s file),
      { mergeErrors := true }⟩
    have asked := (run_writes call (by simp [call, SyntaxCheck.command]) s).map
      (SyntaxCheck.verdict (pathOf settings s file))
    refine ⟨[call.request], .after (resolve_eq settings file s) (.after rfl ?_), Nat.le_refl 1,
      fun _ => ⟨there, readable, kind, classified, perl⟩⟩
    rw [if_neg absent]
    refine .after (lift_eq classified s) ?_
    rw [if_neg foreign]
    refine .after rfl (Reports.bind asked fun t _ => ?_)
    split
    · exact passed_reports _ t
    · exact failed_reports _ _ t

/-- Whether the interpreter is taken to have warnings. -/
def capability (settings : Settings) (s : Session) : Bool :=
  settings.canUseWarnings.getD
    ((versionFor settings.perl s).all (Tools.warningsVersion.le ·))

/-- Once an interpreter has been asked, its version is known. -/
theorem version_settles (perl : Text) (s : Session) :
    ∃ commands t, Tools.version perl s = .ok (versionFor perl s) t ∧ Ledger s t commands [] ∧
      t.tools.versions.lookup perl = some (versionFor perl s) := by
  obtain ⟨t, answered, ledger, tools⟩ := Tools.version_eq perl s
  refine ⟨_, t, answered, ledger, ?_⟩
  rw [tools]
  exact (Tools.lookup_learned perl perl s).trans (if_pos rfl)

/-- Whether there are warnings is settled once it has been asked. -/
theorem canUseWarnings_settles (settings : Settings) (s : Session) :
    ∃ commands t, canUseWarnings settings s = .ok (capability settings s) t ∧
      Ledger s t commands [] ∧
      ∀ u : Session, u.tools = t.tools → capability settings u = capability settings s := by
  unfold canUseWarnings capability
  cases settings.canUseWarnings with
  | some capable => exact ⟨[], s, rfl, .refl s, fun _ _ => rfl⟩
  | none =>
    obtain ⟨commands, t, answered, ledger, known⟩ := version_settles settings.perl s
    refine ⟨commands, t, bind_eq answered, ledger, fun u same => ?_⟩
    rw [Option.getD_none, Option.getD_none, versionFor, same, known, Option.getD_some]

/-- When a check of a file that cannot be read is skipped: it is one of warnings, the file has the
name of a module and not of a script, and the interpreter has no warnings. -/
structure Excused (settings : Settings) (s : Session) (c : Check) : Prop where
  warns : c.aspect = .warns
  moduleName : isModule (pathOf settings s c.file) = true
  notScript : isScriptName (pathOf settings s c.file) = false
  incapable : capability settings s = false

section Warnings

variable {settings : Settings} {file : Text} {label : Option Text} {kind : Kind} {capable : Bool}
  {s t : Session}

/-- A check of warnings that is skipped. -/
theorem warningsOk_skips (classified : classify s.host.disk (pathOf settings s file) = .ok kind)
    (asked : canUseWarnings settings s = .ok capable t)
    (skips : (kind.isModule && !kind.isScript && !capable) = true) :
    warningsOk settings file label s = (Audit.emit
      (.skipped (labelOr label (Aspect.warns.heading ++ file)) (some skipReason)) >>= fun _ =>
        pure none) t := by
  refine (bind_eq (resolve_eq settings file s)).trans ((bind_eq (lift_eq classified s)).trans
    ((bind_eq asked).trans ?_))
  rw [if_pos skips]
  rfl

/-- A check of warnings that looks into the file. -/
theorem warningsOk_scans (classified : classify s.host.disk (pathOf settings s file) = .ok kind)
    (asked : canUseWarnings settings s = .ok capable t)
    (looks : ¬(kind.isModule && !kind.isScript && !capable) = true) :
    warningsOk settings file label s =
      (Audit.lift ((warningsSearch kind.isScript capable).file t.host.disk
        (pathOf settings s file)) >>= fun scan =>
          report (scanResult (labelOr label (Aspect.warns.heading ++ file)) scan
            ("No 'use warnings' found in " ++ pathOf settings s file)) >>= fun ok =>
              pure (some ok)) t := by
  refine (bind_eq (resolve_eq settings file s)).trans ((bind_eq (lift_eq classified s)).trans
    ((bind_eq asked).trans ?_))
  rw [if_neg looks]
  rfl

end Warnings

theorem excused_iff_skips {settings : Settings} {s : Session} {file : Text} {label : Option Text} :
    Excused settings s ⟨.warns, file, label⟩ ↔
      let kind := Kind.ofFlags (isModule (pathOf settings s file))
        (isScriptName (pathOf settings s file))
      (kind.isModule && !kind.isScript && !capability settings s) = true := by
  simp only [Kind.isModule_ofFlags, Kind.isScript_ofFlags, Bool.and_eq_true, Bool.not_eq_true']
  constructor
  · intro excused
    exact ⟨⟨excused.moduleName, excused.notScript⟩, excused.incapable⟩
  · rintro ⟨⟨moduleName, notScript⟩, incapable⟩
    exact ⟨rfl, moduleName, notScript, incapable⟩

/-- A reason why a check faults. Unless the interpreter would be asked to compile it, a text that
names no file is no matter for a report, and neither is a file that opens and cannot be read. -/
inductive Check.Faults (settings : Settings) (s : Session) (c : Check) : Fault → Prop where
  | nameless {flaw : NameFlaw} (aspect : c.aspect ≠ .compiles)
      (flawed : nameFlaw? (pathOf settings s c.file) = some flaw) : Faults settings s c (.name flaw)
  | unreadable {reason : Errno} (aspect : c.aspect ≠ .compiles)
      (failing : s.host.disk.read (pathOf settings s c.file) = .error (.reading reason))
      (due : ¬Excused settings s c) : Faults settings s c (.reading reason)

section Sound

variable {settings : Settings} {s : Session} {file : Text} {label : Option Text} {aspect : Aspect}
  (sound : ∀ fault, ¬Check.Faults settings s ⟨aspect, file, label⟩ fault)

include sound

theorem named_of_sound (looks : aspect ≠ .compiles) :
    nameFlaw? (pathOf settings s file) = none := by
  cases flawed : nameFlaw? (pathOf settings s file) with
  | none => rfl
  | some flaw => exact absurd (.nameless looks flawed) (sound (.name flaw))

end Sound

theorem strictOk_reports (settings : Settings) {file : Text} (label : Option Text) (s : Session)
    (sound : ∀ fault, ¬Check.Faults settings s ⟨.strict, file, label⟩ fault) :
    Reports Judged (strictOk settings file label) s
      (labelOr label (Aspect.strict.heading ++ file)) [] := by
  have readable (reason : Errno) :
      s.host.disk.read (pathOf settings s file) ≠ .error (.reading reason) := by
    intro failing
    refine sound (.reading reason) (.unreadable (by simp) failing fun excused => ?_)
    cases excused.warns
  obtain ⟨scan, scanned⟩ := strictSearch.file_answers (named_of_sound sound (by simp)) readable
  exact .after (resolve_eq settings file s)
    (.after rfl (.after (lift_eq scanned s) (scanResult_reports _ scan _ s)))

theorem warningsOk_reports (settings : Settings) {file : Text} (label : Option Text) (s : Session)
    (sound : ∀ fault, ¬Check.Faults settings s ⟨.warns, file, label⟩ fault) :
    ∃ commands, Reports Told (warningsOk settings file label) s
      (labelOr label (Aspect.warns.heading ++ file)) commands := by
  have named := named_of_sound sound (by simp)
  obtain ⟨kind, classified⟩ := classify_answers s.host.disk named
  obtain ⟨commands, t, asked, ledger, -⟩ := canUseWarnings_settles settings s
  refine ⟨commands ++ [], ?_⟩
  by_cases skips : (kind.isModule && !kind.isScript && !capability settings s) = true
  · let result : Result := .skipped (labelOr label (Aspect.warns.heading ++ file)) (some skipReason)
    obtain ⟨u, emitted, later⟩ := emit_writes result t
    refine ⟨result, none, ⟨rfl, fun _ => rfl⟩, rfl, u, ?_, ledger.trans later⟩
    rw [warningsOk_skips classified asked skips]
    exact bind_eq emitted
  · -- The log may have grown, so the file is looked at anew.
    have readable (reason : Errno) :
        t.host.disk.read (pathOf settings s file) ≠ .error (.reading reason) := by
      intro failing
      have failed := Disk.read_failing_congr ledger.outline failing
      refine sound (.reading reason) (.unreadable (by simp) failed fun excused => skips ?_)
      obtain rfl : kind = _ := Except.ok.inj (classified.symm.trans (classify_unread named failed))
      exact excused_iff_skips.mp excused
    obtain ⟨scan, scanned⟩ :=
      (warningsSearch kind.isScript (capability settings s)).file_answers named readable
    obtain ⟨result, good, judged, labelled, u, reported, later⟩ := scanResult_reports
      (labelOr label (Aspect.warns.heading ++ file)) scan
      ("No 'use warnings' found in " ++ pathOf settings s file) t
    refine ⟨result, some good, judged.told, labelled, u, ?_, ledger.trans later⟩
    rw [warningsOk_scans classified asked skips, bind_eq (lift_eq scanned t)]
    exact bind_eq reported

/-- A check that faults reports nothing: the reporter is what it was, and nothing is recorded. -/
structure Check.Raised (settings : Settings) (c : Check) (s t : Session) (fault : Fault) :
    Prop where
  cause : c.Faults settings s fault
  faulted : c.perform settings s = .error fault t
  recorded : recordedBy t.journal = recordedBy s.journal
  transcript : t.transcript = s.transcript
  strict : c.aspect = .strict → t = s

/-- Whether it is the first line or the scan that is looked for first, the name will not do. -/
theorem warningsOk_nameless {settings : Settings} {s : Session} {file : Text} {flaw : NameFlaw}
    (label : Option Text) (flawed : nameFlaw? (pathOf settings s file) = some flaw) :
    ∃ commands t, warningsOk settings file label s = .error (.name flaw) t ∧
      Ledger s t commands [] := by
  have looked : Audit.disk s = .ok s.host.disk s := rfl
  cases script : isScriptName (pathOf settings s file) with
  | false =>
    have unread : classify s.host.disk (pathOf settings s file) = .error (.name flaw) := by
      unfold classify isScript firstLine
      rw [script, flawed]
      rfl
    exact ⟨[], s, (bind_eq (resolve_eq settings file s)).trans
      ((bind_eq looked).trans (bind_error (lift_error unread s))), .refl s⟩
  | true =>
    have classified : classify s.host.disk (pathOf settings s file) =
        .ok (.ofFlags (isModule (pathOf settings s file)) true) := by
      unfold classify isScript
      rw [if_pos script]
      rfl
    obtain ⟨commands, t, asked, ledger, -⟩ := canUseWarnings_settles settings s
    refine ⟨commands, t, ?_, ledger⟩
    rw [warningsOk_scans classified asked (by simp [Kind.isScript_ofFlags])]
    exact bind_error (lift_error (Search.file_nameless _ _ flawed) t)

/-- A file that cannot be read is asked about by its name, and then the scan fails. -/
theorem warningsOk_unreadable {settings : Settings} {s : Session} {file : Text} {reason : Errno}
    {label : Option Text}
    (failing : s.host.disk.read (pathOf settings s file) = .error (.reading reason))
    (due : ¬Excused settings s ⟨.warns, file, label⟩) :
    ∃ commands t, warningsOk settings file label s = .error (.reading reason) t ∧
      Ledger s t commands [] := by
  have named := Disk.nameable_of_failing failing
  obtain ⟨commands, t, asked, ledger, -⟩ := canUseWarnings_settles settings s
  have still := Disk.read_failing_congr ledger.outline.symm failing
  refine ⟨commands, t, ?_, ledger⟩
  rw [warningsOk_scans (classify_unread named failing) asked (mt excused_iff_skips.mpr due)]
  exact bind_error (lift_error (Search.file_failing _ named still) t)

/-- A check faults if there is a reason, and then it has reported nothing. -/
theorem Check.raises {settings : Settings} {s : Session} {c : Check} {fault : Fault}
    (cause : c.Faults settings s fault) : ∃ t, c.Raised settings s t fault := by
  obtain ⟨aspect, file, label⟩ := c
  have looked : Audit.disk s = .ok s.host.disk s := rfl
  have strict {fault : Fault} (cause : Check.Faults settings s ⟨.strict, file, label⟩ fault)
      (unread : strictSearch.file s.host.disk (pathOf settings s file) = .error fault) :
      ∃ t, Check.Raised settings ⟨.strict, file, label⟩ s t fault := by
    have faulted : strictOk settings file label s = .error fault s :=
      (bind_eq (resolve_eq settings file s)).trans
        ((bind_eq looked).trans (bind_error (lift_error unread s)))
    exact ⟨s, cause, bind_error faulted, rfl, rfl, fun _ => rfl⟩
  have warns {fault : Fault} (cause : Check.Faults settings s ⟨.warns, file, label⟩ fault)
      (faults : ∃ commands t, warningsOk settings file label s = .error fault t ∧
        Ledger s t commands []) : ∃ t, Check.Raised settings ⟨.warns, file, label⟩ s t fault := by
    obtain ⟨commands, t, faulted, ledger⟩ := faults
    exact ⟨t, cause, faulted, ledger.recorded.trans (List.append_nil _), ledger.transcript, nofun⟩
  cases aspect with
  | compiles => cases cause <;> contradiction
  | strict =>
    cases cause with
    | nameless looks flawed =>
      exact strict (.nameless looks flawed) (strictSearch.file_nameless _ flawed)
    | unreadable looks failing due =>
      exact strict (.unreadable looks failing due)
        (strictSearch.file_failing (Disk.nameable_of_failing failing) failing)
  | warns =>
    cases cause with
    | nameless looks flawed =>
      exact warns (.nameless looks flawed) (warningsOk_nameless label flawed)
    | unreadable looks failing due =>
      exact warns (.unreadable looks failing due) (warningsOk_unreadable failing due)

/-- What a check comes to that answers: one result under its label, counted once, and an answer that
tells the outcome. Only a check of warnings may be skipped. No check of `use strict;` starts a
command, and after a check it is too late for a plan, whatever is asked of the reporter until then.
One line is added to the result stream. A stream that cannot take halves can take it exactly if the
check was skipped or there is none in the label. -/
structure Check.Reported (settings : Settings) (c : Check) (s t : Session) (result : Result) :
    Prop where
  answered : c.perform settings s = .ok (answerFor result.outcome) t
  recorded : recordedBy t.journal = recordedBy s.journal ++ [result]
  label : result.label = c.text
  skips : result.outcome = .skip → c.aspect = .warns ∧ result.diagnostic = some skipReason
  written : Tap.linesOf (saidBy t.journal) =
    Tap.linesOf (saidBy s.journal) ++ [result.line t.reporter.count]
  halves : (result.line t.reporter.count).text.any (·.isHalf) =
    (result.outcome != .skip && c.text.any (·.isHalf))
  count : t.reporter.count = s.reporter.count + 1
  passed : t.reporter.passed = s.reporter.passed + if result.outcome = .pass then 1 else 0
  failed : t.reporter.failed = s.reporter.failed + if result.outcome = .fail then 1 else 0
  skipped : t.reporter.skipped = s.reporter.skipped + if result.outcome = .skip then 1 else 0
  started : ∃ commands, t.requests = s.requests ++ commands ∧
    (c.aspect = .compiles → commands.length ≤ 1 ∧
      (commands ≠ [] → Compilable s.host.disk (pathOf settings s c.file))) ∧
    (c.aspect = .strict → commands = [])
  unplannable : ∀ (later : List Tap.Operation) (tests : Tap.Tests),
    ((later.foldl Tap.Transcript.step t.transcript).reporter.plan tests).2 = .error (.plan .twice)

/-- Checks made one after the other, each in the session that the one before it reached, and their
results. -/
inductive Course (settings : Settings) : Session → List Check → List Result → Session → Prop where
  | done (s : Session) : Course settings s [] [] s
  | next {s t u : Session} {c : Check} {rest : List Check} {result : Result}
      {results : List Result} (first : c.Reported settings s t result)
      (more : Course settings t rest results u) :
      Course settings s (c :: rest) (result :: results) u

theorem ensurePlan_counters (r : Tap.Reporter) :
    r.ensurePlan.count = r.count ∧ r.ensurePlan.passed = r.passed ∧
    r.ensurePlan.failed = r.failed ∧ r.ensurePlan.skipped = r.skipped ∧
    r.ensurePlan.hasPlan = true := by
  unfold Tap.Reporter.ensurePlan
  split
  · exact ⟨rfl, rfl, rfl, rfl, ‹_›⟩
  · exact ⟨rfl, rfl, rfl, rfl, Bool.or_true _⟩

theorem emitted_counters (r : Tap.Reporter) (result : Result) :
    let next := (r.ensurePlan.record result).1
    next.count = r.count + 1 ∧
    (next.passed = r.passed + if result.outcome = .pass then 1 else 0) ∧
    (next.failed = r.failed + if result.outcome = .fail then 1 else 0) ∧
    (next.skipped = r.skipped + if result.outcome = .skip then 1 else 0) ∧
    next.hasPlan = true := by
  obtain ⟨count, passed, failed, skipped, planned⟩ := ensurePlan_counters r
  have unchanged : (r.ensurePlan.record result).1.hasPlan = true := by
    obtain ⟨-, -, -, plan, noPlan, -⟩ := Tap.record_counters r.ensurePlan result
    rw [Tap.Reporter.hasPlan, plan, noPlan]
    exact planned
  unfold Tap.Reporter.record at *
  cases outcome : result.outcome <;> simp_all

theorem ofString_no_half (text : String) : (Text.ofString text).any (·.isHalf) = false := by
  simp [Text.ofString, Text.ofChars, CodePoint.isHalf]

/-- The halves of a line are those of its label or of the reason for skipping. -/
theorem line_halves (result : Result) (number : Nat) :
    (result.line number).text.any (·.isHalf) =
      if result.outcome = .skip then (result.remark?.getD []).any (·.isHalf)
      else result.label.any (·.isHalf) := by
  unfold Result.line
  cases outcome : result.outcome with
  | pass | fail => simp [Tap.Line.text, ofString_no_half]
  | skip =>
    cases result.remark? with
    | none => simp [Tap.Line.text, ofString_no_half]
    | some reason => simp [Tap.Line.text, ofString_no_half]

/-- What a check reports settles what it does to the session. -/
theorem Check.reported_of_writes {settings : Settings} {c : Check} {s : Session} {result : Result}
    {commands : List Request} (label : result.label = c.text)
    (skips : result.outcome = .skip → c.aspect = .warns ∧ result.diagnostic = some skipReason)
    (compiles : c.aspect = .compiles → commands.length ≤ 1 ∧
      (commands ≠ [] → Compilable s.host.disk (pathOf settings s c.file)))
    (strict : c.aspect = .strict → commands = [])
    (writes : Writes (c.perform settings) s (answerFor result.outcome) commands
      [.ensurePlan, .record result]) :
    ∃ t, c.Reported settings s t result := by
  obtain ⟨t, answered, ledger⟩ := writes
  have reporter : t.reporter = (s.reporter.ensurePlan.record result).1 :=
    congrArg Tap.Transcript.reporter ledger.transcript
  have said : saidBy t.journal =
      saidBy s.journal ++ [] ++ (s.reporter.ensurePlan.record result).2 :=
    congrArg Tap.Transcript.said ledger.transcript
  obtain ⟨count, passed, failed, skipped, planned⟩ := emitted_counters s.reporter result
  rw [← reporter] at count passed failed skipped planned
  refine ⟨t, answered, ledger.recorded, label, skips, ?_, ?_, count, passed, failed, skipped,
    ⟨commands, ledger.requests, compiles, strict⟩, Tap.plan_refused_later planned⟩
  · rw [said, List.append_nil, Tap.linesOf_append, Tap.record_lines, count,
      (ensurePlan_counters s.reporter).1]
  · rw [line_halves]
    by_cases skip : result.outcome = .skip
    · have reason : result.remark? = some skipReason := by
        rw [Tap.Result.remark?, (skips skip).2]
        decide +kernel
      rw [if_pos skip, reason, skip]
      exact ofString_no_half _
    · rw [if_neg skip, label]
      simp [skip]

theorem Check.reports_once {settings : Settings} {c : Check} {s : Session}
    (sound : ∀ fault, ¬c.Faults settings s fault) :
    ∃ result t, c.Reported settings s t result := by
  obtain ⟨aspect, file, label⟩ := c
  cases aspect with
  | compiles =>
    obtain ⟨commands, reports, few, compilable⟩ := syntaxOk_reports settings file label s
    obtain ⟨result, good, judged, labelled, writes⟩ := reports
    have told : some good = answerFor result.outcome := judged.told.1
    refine ⟨result, reported_of_writes labelled (fun skip => absurd skip judged.1)
      (fun _ => ⟨few, compilable⟩) nofun ?_⟩
    exact told ▸ writes.map some
  | strict =>
    obtain ⟨result, good, judged, labelled, writes⟩ := strictOk_reports settings label s sound
    have told : some good = answerFor result.outcome := judged.told.1
    refine ⟨result, reported_of_writes labelled (fun skip => absurd skip judged.1) nofun
      (fun _ => rfl) ?_⟩
    exact told ▸ writes.map some
  | warns =>
    obtain ⟨commands, result, answer, ⟨rfl, reason⟩, labelled, writes⟩ :=
      warningsOk_reports settings label s sound
    exact ⟨result, reported_of_writes labelled (fun skip => ⟨rfl, reason skip⟩) nofun nofun writes⟩

/-- A check reports a result, or there is a reason for it to fault. -/
theorem Check.settles (settings : Settings) (c : Check) (s : Session) :
    (∃ result t, c.Reported settings s t result) ∨ ∃ fault t, c.Raised settings s t fault := by
  by_cases sound : ∀ fault, ¬c.Faults settings s fault
  · exact .inl (Check.reports_once sound)
  · obtain ⟨fault, cause⟩ : ∃ fault, c.Faults settings s fault := by simpa using sound
    exact .inr ⟨fault, Check.raises cause⟩

/-- Checks can be made one after the other until one faults. -/
theorem exists_course (settings : Settings) (s : Session) (checks : List Check) :
    (∃ results t, Course settings s checks results t) ∨
    ∃ before c after results u fault t, checks = before ++ c :: after ∧
      Course settings s before results u ∧ c.Raised settings u t fault := by
  induction checks generalizing s with
  | nil => exact .inl ⟨[], s, .done s⟩
  | cons c rest ih =>
    obtain ⟨result, t, reported⟩ | ⟨fault, t, raised⟩ := c.settles settings s
    · obtain ⟨results, u, more⟩ | ⟨before, d, after, results, u, fault, v, cut, more, raised⟩ :=
        ih t
      · exact .inl ⟨result :: results, u, .next reported more⟩
      · exact .inr ⟨c :: before, d, after, result :: results, u, fault, v, by rw [cut]; rfl,
          .next reported more, raised⟩
    · exact .inr ⟨[], c, rest, [], s, fault, t, rfl, .done s, raised⟩

namespace Course

variable {settings : Settings} {s t : Session} {checks : List Check} {results : List Result}

theorem length_eq (course : Course settings s checks results t) :
    results.length = checks.length := by
  induction course with
  | done s => rfl
  | next first more ih => rw [List.length_cons, List.length_cons, ih]

theorem recorded (course : Course settings s checks results t) :
    recordedBy t.journal = recordedBy s.journal ++ results := by
  induction course with
  | done s => rw [List.append_nil]
  | next first more ih => rw [ih, first.recorded, List.append_assoc, List.singleton_append]

end Course

/-- Checks called one after the other, each in the session that the one before it reached, whether
that one answered or faulted. A check that faults has no result. -/
inductive Calls (settings : Settings) :
    Session → List Check → List (Option Result) → Session → Prop where
  | done (s : Session) : Calls settings s [] [] s
  | answered {s t u : Session} {c : Check} {rest : List Check} {result : Result}
      {results : List (Option Result)} (sound : ∀ fault, ¬c.Faults settings s fault)
      (first : c.Reported settings s t result) (more : Calls settings t rest results u) :
      Calls settings s (c :: rest) (some result :: results) u
  | faulted {s t u : Session} {c : Check} {rest : List Check} {fault : Fault}
      {results : List (Option Result)} (first : c.Raised settings s t fault)
      (more : Calls settings t rest results u) : Calls settings s (c :: rest) (none :: results) u

theorem exists_calls (settings : Settings) (s : Session) (checks : List Check) :
    ∃ results t, Calls settings s checks results t := by
  induction checks generalizing s with
  | nil => exact ⟨[], s, .done s⟩
  | cons c rest ih =>
    by_cases sound : ∀ fault, ¬c.Faults settings s fault
    · obtain ⟨result, t, reported⟩ := Check.reports_once sound
      obtain ⟨results, u, more⟩ := ih t
      exact ⟨some result :: results, u, .answered sound reported more⟩
    · obtain ⟨fault, cause⟩ : ∃ fault, c.Faults settings s fault := by simpa using sound
      obtain ⟨t, raised⟩ := Check.raises cause
      obtain ⟨results, u, more⟩ := ih t
      exact ⟨none :: results, u, .faulted raised more⟩

namespace Calls

variable {settings : Settings} {s t : Session} {checks : List Check}
  {results : List (Option Result)}

theorem length_eq (calls : Calls settings s checks results t) :
    results.length = checks.length := by
  induction calls with
  | done s => rfl
  | answered _ _ _ ih | faulted _ _ ih => rw [List.length_cons, List.length_cons, ih]

theorem recorded (calls : Calls settings s checks results t) :
    recordedBy t.journal = recordedBy s.journal ++ results.reduceOption := by
  induction calls with
  | done s => rw [List.reduceOption_nil, List.append_nil]
  | answered _ first _ ih =>
    rw [ih, first.recorded, List.reduceOption_cons_of_some, List.append_assoc,
      List.singleton_append]
  | faulted first _ ih => rw [ih, first.recorded, List.reduceOption_cons_of_none]

end Calls

/-- Every single check reports exactly once and answers what it reported, whatever is on the disk,
however the session is set, however commands are answered and whatever was checked before, unless
there is a reason for it to fault: its file has no possible name, or opens and cannot be read. Then
it reports nothing. -/
theorem checks_report_once (settings : Settings) (s : Session) (checks : List Check) :
    ∃ results t, Calls settings s checks results t ∧ results.length = checks.length ∧
      recordedBy t.journal = recordedBy s.journal ++ results.reduceOption := by
  obtain ⟨results, t, calls⟩ := exists_calls settings s checks
  exact ⟨results, t, calls, calls.length_eq, calls.recorded⟩

/-- Two files do not get their result. A text without a null character need not name a file, since a
half that spells nothing cannot stand in a name either; and a file that can be opened need not be
one that can be read. -/
theorem checks_unanswered :
    let refuse : Command.Respond := fun _ _ => .refused .noEntry
    let disk : Disk := ⟨.directory [("a.pl", .file [] false)], "/", [], [(["a.pl"], .inputOutput)]⟩
    let s := Session.start (.plain disk refuse)
    let nameless : Check := ⟨.strict, [.half 0], none⟩
    let unreadable : Check := ⟨.strict, "a.pl", none⟩
    (.char '\x00' ∉ nameless.file ∧
      nameless.perform (.default "/") s = .error (.name (.halves 0xD800 0 0)) s) ∧
    disk.IsOpenable "a.pl" ∧
      unreadable.perform (.default "/") s = .error (.reading .inputOutput) s := by
  intro refuse disk s nameless unreadable
  have found : disk.openFile "a.pl" = .ok (["a.pl"], []) := by
    apply Disk.openFile_eq_ok_iff.mpr
    exact ⟨false, Disk.find_entry rfl (by decide) (by decide) (by decide) (by decide +kernel), rfl⟩
  refine ⟨⟨by decide, rfl⟩, ⟨_, found⟩, ?_⟩
  have failing : disk.read "a.pl" = .error (.reading .inputOutput) :=
    Disk.read_failing_iff.mpr ⟨_, _, found, rfl⟩
  have cause : unreadable.Faults (.default "/") s (.reading .inputOutput) :=
    .unreadable (by decide) failing fun excused => by cases excused.warns
  obtain ⟨t, raised⟩ := Check.raises cause
  rw [raised.faulted, raised.strict rfl]

end Checks

end PerlAudit
