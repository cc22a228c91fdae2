import PerlAudit.Proofs.Checks.Single
import PerlAudit.Proofs.Files.Outline

/-!
Checks of files that cannot be opened report a failure. There is one excuse: where the interpreter
has no warnings, a file whose name makes it a module is skipped before anyone has looked for it.
-/

namespace PerlAudit

namespace Source

open Files Text

variable {disk other : Disk} {path : Text}

theorem modulePath_eq (same : disk.outline = other.outline) (roots : List Text) (name : Text) :
    modulePath disk roots name = modulePath other roots name := by
  unfold modulePath
  simp only [Disk.isFile_eq same, Disk.isReadable_eq same]

/-- Where there are no files, a name stays as it is. -/
theorem modulePath_bare (cwd : Text) (denied : List Location)
    (failing : List (Location × Errno)) (roots : List Text) (name : Text) :
    modulePath ⟨.empty, cwd, denied, failing⟩ roots name = name := by
  have absent (path : Text) : ¬(Disk.isFile ⟨.empty, cwd, denied, failing⟩ path &&
      Disk.isReadable ⟨.empty, cwd, denied, failing⟩ path) = true := by
    rw [Bool.and_eq_true, ← Disk.isOpenable_iff]
    exact Disk.unopenable_bare cwd denied failing path
  unfold modulePath
  split
  · dsimp only
    rw [List.find?_eq_none.mpr fun path _ => absent path]
    rfl
  · rfl

theorem read_unopenable (absent : ¬disk.IsOpenable path) :
    ∃ reason, disk.read path = .error (.opening reason) := by
  unfold Disk.read
  cases opened : disk.openFile path with
  | error reason => exact ⟨reason, rfl⟩
  | ok there => exact absurd ⟨there, opened⟩ absent

theorem Search.file_unopenable (search : Search) (named : nameFlaw? path = none)
    (absent : ¬disk.IsOpenable path) : ∃ error, search.file disk path = .ok (.failed error) := by
  obtain ⟨reason, unread⟩ := read_unopenable absent
  unfold Search.file
  rw [named, unread]
  exact ⟨_, rfl⟩

end Source

namespace Checks

open Audit Session Files Source
open Text (nameFlaw? NameFlaw)
open Command (Request)
open Tap (Result Operation)

/-- What becomes of a check of a file that cannot be opened. A text that names no file is no matter
for a report, except where the interpreter would be asked to compile it. -/
inductive FailsClosed (settings : Settings) (s : Session) (c : Check) : Prop where
  | failed {t : Session} {result : Result} (reported : c.Reported settings s t result)
      (outcome : result.outcome = .fail) (due : ¬Excused settings s c)
  | skipped {t : Session} {result : Result} (reported : c.Reported settings s t result)
      (outcome : result.outcome = .skip) (excused : Excused settings s c)
  | nameless {t : Session} {flaw : NameFlaw}
      (flawed : nameFlaw? (pathOf settings s c.file) = some flaw) (aspect : c.aspect ≠ .compiles)
      (faulted : c.perform settings s = .error (.name flaw) t)
      (recorded : recordedBy t.journal = recordedBy s.journal)

section Unopenable

variable {settings : Settings} {s : Session} {file : Text} (label : Option Text)
  (absent : ¬s.host.disk.IsOpenable (pathOf settings s file))

include absent

theorem syntaxOk_unopenable :
    ∃ cause, Writes (syntaxOk settings file label) s false []
      [.ensurePlan, .record (.failed (labelOr label (Aspect.compiles.heading ++ file)) cause)] := by
  have missing : (!s.host.disk.isFile (pathOf settings s file) ||
      !s.host.disk.isReadable (pathOf settings s file)) = true := by
    have either := mt Disk.isOpenable_iff.mpr absent
    cases file : s.host.disk.isFile (pathOf settings s file) <;> simp_all
  refine ⟨some ("File " ++ pathOf settings s file ++ " not found or not readable"),
    .after (resolve_eq settings file s) (.after rfl ?_)⟩
  rw [if_pos missing]
  exact (emit_writes _ s).map fun _ => false

theorem strictOk_unopenable (named : nameFlaw? (pathOf settings s file) = none) :
    ∃ cause, Writes (strictOk settings file label) s false []
      [.ensurePlan, .record (.failed (labelOr label (Aspect.strict.heading ++ file)) cause)] := by
  obtain ⟨error, scanned⟩ := strictSearch.file_unopenable named absent
  exact ⟨some error, .after (resolve_eq settings file s)
    (.after rfl (.after (lift_eq scanned s) ((emit_writes _ s).map fun _ => false)))⟩

theorem warningsOk_unopenable (named : nameFlaw? (pathOf settings s file) = none) :
    ∃ commands result, Writes (warningsOk settings file label) s (answerFor result.outcome) commands
        [.ensurePlan, .record result] ∧
      result.label = labelOr label (Aspect.warns.heading ++ file) ∧
      (Excused settings s ⟨.warns, file, label⟩ →
        result.outcome = .skip ∧ result.diagnostic = some skipReason) ∧
      (¬Excused settings s ⟨.warns, file, label⟩ → result.outcome = .fail) := by
  obtain ⟨reason, unread⟩ := read_unopenable absent
  have classified := classify_unread named unread
  obtain ⟨commands, t, asked, ledger, -⟩ := canUseWarnings_settles settings s
  have excused_iff : Excused settings s ⟨.warns, file, label⟩ ↔ _ := excused_iff_skips
  by_cases excuse : Excused settings s ⟨.warns, file, label⟩
  · let result : Result := .skipped (labelOr label (Aspect.warns.heading ++ file)) (some skipReason)
    obtain ⟨u, emitted, later⟩ := emit_writes result t
    refine ⟨_, result, ⟨u, ?_, ledger.trans later⟩, rfl, fun _ => ⟨rfl, rfl⟩,
      fun due => absurd excuse due⟩
    rw [warningsOk_skips classified asked (excused_iff.mp excuse)]
    exact bind_eq emitted
  · have still : ¬t.host.disk.IsOpenable (pathOf settings s file) :=
      mt (Disk.isOpenable_congr ledger.outline).mp absent
    obtain ⟨error, scanned⟩ := Search.file_unopenable
      (warningsSearch (Kind.ofFlags _ _).isScript (capability settings s)) named still
    let result : Result := .failed (labelOr label (Aspect.warns.heading ++ file)) (some error)
    obtain ⟨u, emitted, later⟩ := emit_writes result t
    refine ⟨_, result, ⟨u, ?_, ledger.trans later⟩, rfl, fun excused => absurd excused excuse,
      fun _ => rfl⟩
    rw [warningsOk_scans classified asked (mt excused_iff.mpr excuse), bind_eq (lift_eq scanned t)]
    exact bind_eq (bind_eq emitted)

end Unopenable

/-- A failure that is reported before any command is started. -/
theorem Check.reported_failed {settings : Settings} {s : Session} {c : Check} {cause : Option Text}
    (writes : Writes (c.perform settings) s (some false) []
      [.ensurePlan, .record (.failed c.text cause)]) :
    ∃ t, c.Reported settings s t (.failed c.text cause) := by
  have quiet : c.aspect = .compiles → ([] : List Request).length ≤ 1 ∧
      (([] : List Request) ≠ [] → Compilable s.host.disk (pathOf settings s c.file)) :=
    fun _ => ⟨Nat.zero_le 1, fun started => absurd rfl started⟩
  exact reported_of_writes rfl (fun skipped => by cases skipped) quiet (fun _ => rfl) writes

/-- A check of a file that cannot be opened does not pass. -/
theorem Check.fails_closed {settings : Settings} {s : Session} {c : Check}
    (absent : ¬s.host.disk.IsOpenable (pathOf settings s c.file)) : FailsClosed settings s c := by
  obtain ⟨aspect, file, label⟩ := c
  cases aspect with
  | compiles =>
    obtain ⟨cause, writes⟩ := syntaxOk_unopenable label absent
    obtain ⟨t, reported⟩ := Check.reported_failed (c := ⟨.compiles, file, label⟩) (writes.map some)
    refine .failed reported rfl fun excused => ?_
    cases excused.warns
  | strict =>
    cases named : nameFlaw? (pathOf settings s file) with
    | some flaw =>
      obtain ⟨t, raised⟩ := Check.raises (c := ⟨.strict, file, label⟩) (.nameless (by simp) named)
      exact .nameless named (by simp) raised.faulted raised.recorded
    | none =>
      obtain ⟨cause, writes⟩ := strictOk_unopenable label absent named
      obtain ⟨t, reported⟩ := Check.reported_failed (c := ⟨.strict, file, label⟩) (writes.map some)
      refine .failed reported rfl fun excused => ?_
      cases excused.warns
  | warns =>
    cases named : nameFlaw? (pathOf settings s file) with
    | some flaw =>
      obtain ⟨t, raised⟩ := Check.raises (c := ⟨.warns, file, label⟩) (.nameless (by simp) named)
      exact .nameless named (by simp) raised.faulted raised.recorded
    | none =>
      obtain ⟨commands, result, writes, labelled, skips, fails⟩ :=
        warningsOk_unopenable label absent named
      have reason (skipped : result.outcome = .skip) : result.diagnostic = some skipReason := by
        by_cases excused : Excused settings s ⟨.warns, file, label⟩
        · exact (skips excused).2
        · rw [fails excused] at skipped
          cases skipped
      obtain ⟨t, reported⟩ := Check.reported_of_writes (c := ⟨.warns, file, label⟩) labelled
        (fun skipped => ⟨rfl, reason skipped⟩) (fun other => by cases other)
        (fun other => by cases other) writes
      by_cases excused : Excused settings s ⟨.warns, file, label⟩
      · exact .skipped reported (skips excused).1 excused
      · exact .failed reported (fails excused) excused

section Later

variable {settings : Settings} {s t : Session} {commands : List Request} {ops : List Operation}

/-- Which file a check is about does not change while the log grows. -/
theorem pathOf_eq (ledger : Ledger s t commands ops) (file : Text) :
    pathOf settings t file = pathOf settings s file := by
  rw [pathOf, pathOf, ledger.getVar?, modulePath_eq ledger.outline]

theorem Excused.earlier {c : Check} (ledger : Ledger s t commands ops)
    (capable : capability settings t = capability settings s) (excused : Excused settings t c) :
    Excused settings s c where
  warns := excused.warns
  moduleName := pathOf_eq ledger c.file ▸ excused.moduleName
  notScript := pathOf_eq ledger c.file ▸ excused.notScript
  incapable := capable ▸ excused.incapable

theorem emit_tools {result : Result} {a : Unit} (h : Audit.emit result s = .ok a t) :
    t.tools = s.tools := by
  cases h
  rfl

/-- Whether there are warnings does not change by checks of warnings. -/
theorem warningsOk_capability {file : Text} {label : Option Text} {answer : Option Bool}
    (h : warningsOk settings file label s = .ok answer t) :
    capability settings t = capability settings s := by
  obtain ⟨commands, u, asked, -, settled⟩ := canUseWarnings_settles settings s
  apply settled
  obtain ⟨disk, v, looked, rest⟩ := bind_ok ((bind_eq (resolve_eq settings file s)).symm.trans h)
  cases looked
  obtain ⟨kind, v, classified, -⟩ := bind_ok rest
  obtain ⟨classified, -⟩ := lift_ok classified
  by_cases skips : (kind.isModule && !kind.isScript && !capability settings s) = true
  · rw [warningsOk_skips classified asked skips] at h
    obtain ⟨⟨⟩, w, emitted, rest⟩ := bind_ok h
    cases rest
    exact emit_tools emitted
  · rw [warningsOk_scans classified asked skips] at h
    obtain ⟨scan, w, scanned, rest⟩ := bind_ok h
    obtain ⟨-, rfl⟩ := lift_ok scanned
    obtain ⟨ok, x, reported, rest⟩ := bind_ok rest
    cases rest
    obtain ⟨⟨⟩, y, emitted, rest⟩ := bind_ok reported
    cases rest
    exact emit_tools emitted

end Later

end Checks

end PerlAudit
