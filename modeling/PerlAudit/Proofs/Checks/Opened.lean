import PerlAudit.Proofs.Checks.Unopenable
import PerlAudit.Proofs.Source.FirstLine

namespace PerlAudit.Checks

open Audit Session Files Source
open Text (Bytes nameFlaw? decode extent)
open Command (Request)
open Tap (Result)

/-- What a scan comes to is a pass or a failure, and the answer of the check tells which. -/
theorem scanResult_judged (text : Text) (scan : Scan) (missing : Text) :
    let result := scanResult text scan missing
    result.outcome ≠ .skip ∧ result.label = text ∧
      some result.isOk = answerFor result.outcome := by
  intro result
  have judged : result.outcome ≠ .skip ∧ result.label = text := by
    unfold result scanResult
    cases scan.error with
    | some error => exact ⟨by simp [Result.failed], rfl⟩
    | none =>
      cases scan.found with
      | true => exact ⟨by simp [Result.passed], rfl⟩
      | false => exact ⟨by simp [Result.failed], rfl⟩
  exact ⟨judged.1, judged.2, (Judged.told ⟨judged.1, rfl⟩).1⟩

/-- What a check of warnings reports about a file of a kind, given what a scan of it says. -/
def warningsResult (text path : Text) (kind : Kind) (capable : Bool) (scan : Scan) : Result :=
  if kind.isModule && !kind.isScript && !capable then .skipped text (some skipReason)
  else scanResult text scan ("No 'use warnings' found in " ++ path)

section Reported

variable {settings : Settings} {s : Session} {file : Text} (label : Option Text) {scan : Scan}

/-- What is reported of a check of `use strict;` is what the scan says. -/
theorem strict_reported
    (scanned : strictSearch.file s.host.disk (pathOf settings s file) = .ok scan) :
    let c : Check := ⟨.strict, file, label⟩
    ∃ t, c.Reported settings s t
      (scanResult c.text scan ("No 'use strict;' found in " ++ pathOf settings s file)) := by
  intro c
  let result := scanResult c.text scan ("No 'use strict;' found in " ++ pathOf settings s file)
  obtain ⟨judged, labelled, told⟩ := scanResult_judged c.text scan
    ("No 'use strict;' found in " ++ pathOf settings s file)
  have writes : Writes (strictOk settings file label) s result.isOk []
      [.ensurePlan, .record result] :=
    .after (resolve_eq settings file s) (.after rfl (.after (lift_eq scanned s)
      ((emit_writes result s).map fun _ => result.isOk)))
  exact Check.reported_of_writes labelled (fun skip => absurd skip judged)
    (fun other => by cases other) (fun _ => rfl) (told ▸ writes.map some)

/-- What is reported of a check of warnings. The file is scanned after the interpreter has been
asked. -/
theorem warns_reported {kind : Kind} {capable : Bool} {t : Session}
    (classified : classify s.host.disk (pathOf settings s file) = .ok kind)
    (asked : canUseWarnings settings s = .ok capable t)
    (scanned : (warningsSearch kind.isScript capable).file t.host.disk (pathOf settings s file) =
      .ok scan) :
    let c : Check := ⟨.warns, file, label⟩
    ∃ u, c.Reported settings s u
      (warningsResult c.text (pathOf settings s file) kind capable scan) := by
  intro c
  obtain ⟨commands, t', asked', ledger, -⟩ := canUseWarnings_settles settings s
  rw [asked] at asked'
  cases asked'
  unfold warningsResult
  split
  · rename_i skips
    let result : Result := .skipped c.text (some skipReason)
    obtain ⟨u, emitted, later⟩ := emit_writes result t
    refine Check.reported_of_writes rfl (fun _ => ⟨rfl, rfl⟩) (fun other => by cases other)
      (fun other => by cases other) ⟨u, ?_, ledger.trans later⟩
    exact (warningsOk_skips classified asked skips).trans (bind_eq emitted)
  · rename_i looks
    let result := scanResult c.text scan ("No 'use warnings' found in " ++ pathOf settings s file)
    obtain ⟨judged, labelled, told⟩ := scanResult_judged c.text scan
      ("No 'use warnings' found in " ++ pathOf settings s file)
    obtain ⟨u, emitted, later⟩ := emit_writes result t
    refine Check.reported_of_writes labelled (fun skip => absurd skip judged)
      (fun other => by cases other) (fun other => by cases other) ⟨u, ?_, ledger.trans later⟩
    rw [← told]
    exact (warningsOk_scans classified asked looks).trans ((bind_eq (lift_eq scanned t)).trans
      (bind_eq (bind_eq emitted)))

end Reported

theorem classify_opened {disk : Disk} {path : Text} {content : Bytes}
    (opened : disk.read path = .ok content) :
    classify disk path = .ok (.ofFlags (isModule path)
      (isScriptName path || isShebang (decode (firstBytes content)))) := by
  rw [classify, isScript_opened opened]
  rfl

/-- A first line that switches warnings on decides the check of warnings, even if the file is a log
that grows before it is scanned. -/
theorem warns_of_first_line {settings : Settings} {s : Session} {file : Text} {content : Bytes}
    {line : Line} {more : List Line} (label : Option Text)
    (opened : s.host.disk.read (pathOf settings s file) = .ok content)
    (first : linesOf content = line :: more) (warns : shebangWarns line = true)
    (short : (firstRow content).length ≤ firstLineLimit) :
    ∃ t, Check.Reported settings ⟨.warns, file, label⟩ s t
      (.passed (Check.text ⟨.warns, file, label⟩)) := by
  have classified := classify_opened opened
  have script : isShebang (decode (firstBytes content)) = true :=
    isShebang_of_short first ((isShebang_iff _).mpr ((shebangWarns_iff _).mp warns).1) short
  rw [script, Bool.or_true] at classified
  obtain ⟨commands, t, asked, ledger, -⟩ := canUseWarnings_settles settings s
  obtain ⟨growth, -, host⟩ := ledger.host
  obtain ⟨added, grown⟩ := Disk.read_grown opened growth
  have later : t.host.disk.read (pathOf settings s file) = .ok (content ++ added) := by
    rw [host]
    exact grown
  have hit (capable : Bool) :
      (warningsSearch true capable).content (content ++ added) = .hit 1 0 := by
    obtain ⟨line, more, first, warns⟩ := shebangWarns_grown first warns added
    simp [Search.content, first, Search.lines, warningsSearch, warns]
  have scanned := Search.file_opened (warningsSearch true (capability settings s))
    (Disk.nameable_of_read opened) later
  rw [hit] at scanned
  have reported := warns_reported label classified asked
    (by rw [Kind.isScript_ofFlags]; exact scanned)
  simpa [warningsResult, Kind.isScript_ofFlags, scanResult, Scan.hit] using reported

/-- Two readers look at the first line of a file. If a search sees Perl named there within the
limit, the file is taken for a script. If the first line is within the limit and holds no carriage
return but for one at its end, the file is taken for a script by its first line exactly if a search
sees Perl named there. And a first line within the limit that switches warnings on passes the check
of warnings, whatever the file is called, whatever follows and whatever the interpreter can do. -/
theorem first_line_read_alike (content : Bytes) :
    (∀ (disk : Disk) (path : Text) (line : Line) (more : List Line) (n : Nat),
      disk.read path = .ok content → linesOf content = line :: more →
      isShebang (line.take n) = true → extent content n ≤ firstLineLimit →
      isScript disk path = .ok true) ∧
    (∀ (disk : Disk) (path : Text), disk.read path = .ok content → isScriptName path = false →
      13 ∉ (content.takeWhile (· != 10)).dropLast → (firstRow content).length ≤ firstLineLimit →
      isScript disk path = .ok ((linesOf content).head?.any isShebang)) ∧
    (∀ (settings : Settings) (s : Session) (file : Text) (label : Option Text) (line : Line)
      (more : List Line), isModuleName file = false → s.host.disk.read file = .ok content →
      linesOf content = line :: more → shebangWarns line = true →
      (firstRow content).length ≤ firstLineLimit →
      ∃ t result, Check.Reported settings ⟨.warns, file, label⟩ s t result ∧
        result.outcome = .pass) := by
  refine ⟨?_, ?_, ?_⟩
  · intro disk path line more n opened first names within
    rw [isScript_opened opened, isShebang_within first names within, Bool.or_true]
  · intro disk path opened unnamed clean short
    rw [isScript_opened opened, unnamed, Bool.false_or, isShebang_short clean short]
  · intro settings s file label line more plain opened first warns short
    rw [← pathOf_plain settings s plain] at opened
    obtain ⟨t, reported⟩ := warns_of_first_line label opened first warns short
    exact ⟨t, _, reported, rfl⟩

/-- The first line of a module in a file with damaged bytes, by an interpreter without warnings. -/
theorem first_line_read_alike_in_module :
    let content : Bytes := "#!/usr/bin/perl -wT\r\n".toUTF8.toList ++ [0xFF, 0x0D, 0xE2]
    let line : Line := "#!/usr/bin/perl -wT\n".toList
    let disk : Disk := ⟨.directory [("f.pm", .file content false)], "/", [], []⟩
    let settings := { Settings.default "/" with canUseWarnings := some false }
    let s := Session.start (.plain disk fun _ _ => .refused .noEntry)
    (∃ more, disk.read "f.pm" = .ok content ∧ linesOf content = line :: more) ∧
    (isShebang (line.take 15) = true ∧ extent content 15 ≤ firstLineLimit) ∧
    (isScriptName "f.pm" = false ∧ 13 ∉ (content.takeWhile (· != 10)).dropLast ∧
      isModuleName "f.pm" = false ∧ shebangWarns line = true ∧
      (firstRow content).length ≤ firstLineLimit) ∧
    isScript disk "f.pm" = .ok true ∧ (linesOf content).head?.any isShebang = true ∧
      ∃ t result, Check.Reported settings ⟨.warns, "f.pm", none⟩ s t result ∧
        result.outcome = .pass := by
  intro content line disk settings s
  have opened : disk.read "f.pm" = .ok content := Disk.read_eq_ok_iff.mpr
    ⟨_, Disk.holds_entry rfl (by decide) (by decide) (by decide) (by decide +kernel)⟩
  have first : linesOf content = line :: [['\uFFFD', '\n'], ['\uFFFD']] := by decide +kernel
  have names : isShebang (line.take 15) = true := by decide +kernel
  have within : extent content 15 ≤ firstLineLimit := by decide +kernel
  have unnamed : isScriptName "f.pm" = false := by decide +kernel
  have clean : 13 ∉ (content.takeWhile (· != 10)).dropLast := by decide +kernel
  have plain : isModuleName "f.pm" = false := by decide +kernel
  have warns : shebangWarns line = true := by decide +kernel
  have short : (firstRow content).length ≤ firstLineLimit := by decide +kernel
  obtain ⟨named, told, passes⟩ := first_line_read_alike content
  have script := named disk "f.pm" line _ 15 opened first names within
  have same := told disk "f.pm" opened unnamed clean short
  refine ⟨⟨_, opened, first⟩, ⟨names, within⟩, ⟨unnamed, clean, plain, warns, short⟩, script, ?_,
    passes settings s "f.pm" none line _ plain opened first warns short⟩
  rw [script] at same
  exact (Except.ok.inj same).symm

end PerlAudit.Checks
