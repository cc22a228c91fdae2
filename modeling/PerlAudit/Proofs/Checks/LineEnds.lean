import PerlAudit.Proofs.Checks.Opened
import PerlAudit.Proofs.Session.Blind
import PerlAudit.Proofs.Source.LineEnds

namespace PerlAudit.Checks

open Audit Session Files Source
open Text (Bytes nameFlaw?)

theorem canUseWarnings_blind (settings : Settings) (s : Session) :
    Blind (fun _ => canUseWarnings settings) s := by
  unfold canUseWarnings
  cases settings.canUseWarnings with
  | some capable => exact blind_pure capable s
  | none => exact (Tools.blind_version settings.perl s).bind fun _ t => blind_pure _ t

/-- Whether a check fails is told by the scan, whatever the words of the report. -/
theorem scanResult_outcome (text missing text' missing' : Text) (scan : Scan) :
    (scanResult text scan missing).outcome = (scanResult text' scan missing').outcome := by
  unfold scanResult
  cases scan.error with
  | some error => rfl
  | none => cases scan.found <;> rfl

theorem warningsResult_outcome (text path text' path' : Text) (kind : Kind) (capable : Bool)
    (scan : Scan) : (warningsResult text path kind capable scan).outcome =
      (warningsResult text' path' kind capable scan).outcome := by
  unfold warningsResult
  split
  · rfl
  · exact scanResult_outcome _ _ _ _ scan

section Copies

variable {settings : Settings} {s : Session} {e : Disk} {file twin : Text}
  (label title : Option Text) {place elsewhere : Location} {content copy : Bytes}
  (holds : s.host.disk.Holds (pathOf settings s file) place content)
  (copied : e.Holds (pathOf settings (s.onDisk e) twin) elsewhere copy)

include holds copied

/-- Two files in which a search sees the same lines cannot be told apart by a check of
`use strict;`. -/
theorem strict_of_copy (lines : linesOf copy = linesOf content) :
    ∃ result other t u, Check.Reported settings ⟨.strict, file, label⟩ s t result ∧
      Check.Reported settings ⟨.strict, twin, title⟩ (s.onDisk e) u other ∧
      other.outcome = result.outcome := by
  have opened := Disk.read_eq_ok_iff.mpr ⟨place, holds⟩
  have openedCopy := Disk.read_eq_ok_iff.mpr ⟨elsewhere, copied⟩
  have scanned := strictSearch.file_opened (Disk.nameable_of_read opened) opened
  have scannedCopy := strictSearch.file_opened (Disk.nameable_of_read openedCopy) openedCopy
  rw [Search.content, lines] at scannedCopy
  obtain ⟨t, reported⟩ := strict_reported label scanned
  obtain ⟨u, reportedCopy⟩ := strict_reported (s := s.onDisk e) title scannedCopy
  exact ⟨_, _, t, u, reported, reportedCopy, scanResult_outcome _ _ _ _ _⟩

/-- Nor by a check of warnings, if they are of one kind and a search sees the same lines whatever is
added to both. If they are a log file, the same records are added before they are scanned. -/
theorem warns_of_copy (logs : ∀ log ∈ s.logFiles, log = place ↔ log = elsewhere)
    (kinds : classify e (pathOf settings (s.onDisk e) twin) =
      classify s.host.disk (pathOf settings s file))
    (lines : ∀ added, linesOf (copy ++ added) = linesOf (content ++ added)) :
    ∃ result other t u, Check.Reported settings ⟨.warns, file, label⟩ s t result ∧
      Check.Reported settings ⟨.warns, twin, title⟩ (s.onDisk e) u other ∧
      other.outcome = result.outcome := by
  have opened := Disk.read_eq_ok_iff.mpr ⟨place, holds⟩
  have openedCopy := Disk.read_eq_ok_iff.mpr ⟨elsewhere, copied⟩
  have classified := classify_opened opened
  generalize Kind.ofFlags _ _ = kind at classified
  obtain ⟨capable, t, growth, -, inside, asked⟩ := canUseWarnings_blind settings s
  have gains : Disk.gained place growth = Disk.gained elsewhere growth :=
    Disk.gained_congr fun g mem => logs g.1 (inside g mem)
  have grown := Disk.read_eq_ok_iff.mpr ⟨place, holds.grown growth⟩
  have grownCopy := Disk.read_eq_ok_iff.mpr ⟨elsewhere, copied.grown growth⟩
  let search := warningsSearch kind.isScript capable
  have scanned := search.file_opened (Disk.nameable_of_read opened) grown
  have scannedCopy := search.file_opened (Disk.nameable_of_read openedCopy) grownCopy
  rw [Search.content, ← gains, lines] at scannedCopy
  obtain ⟨u, reported⟩ := warns_reported (t := t.onDisk _) label classified
    (asked s.host.disk) scanned
  obtain ⟨v, reportedCopy⟩ := warns_reported (s := s.onDisk e) (t := t.onDisk _) title
    (kinds.trans classified) (asked e) scannedCopy
  exact ⟨_, _, u, v, reported, reportedCopy, warningsResult_outcome _ _ _ _ _ _ _⟩

end Copies

/-- Let a file hold no carriage return. No search tells it from a copy with another style of line
ends: it finds the same on the same line. If a carriage return comes with each line feed of the
copy, the copy is taken for a script exactly if the file is, and the checks of `use strict;` and of
warnings come out the same for both: on one disk or on two, under one name or under two of one kind,
if a log file is both or neither. -/
theorem line_ends_never_decide (content : Bytes) (clean : 13 ∉ content) :
    (∀ (search : Search) (style : Ending),
      search.content (style.written content) = search.content content ∧
      ∀ (disk other : Disk) (path elsewhere : Text), disk.read path = .ok content →
        other.read elsewhere = .ok (style.written content) →
        search.file other elsewhere = search.file disk path) ∧
    (∀ (disk other : Disk) (path elsewhere : Text), disk.read path = .ok content →
      other.read elsewhere = .ok (Ending.both.written content) →
      isScriptName elsewhere = isScriptName path →
      isScript other elsewhere = isScript disk path) ∧
    (∀ (settings : Settings) (s : Session) (e : Disk) (aspect : Aspect) (file twin : Text)
      (label title : Option Text) (place elsewhere : Location), aspect ≠ .compiles →
      s.host.disk.Holds (pathOf settings s file) place content →
      e.Holds (pathOf settings (s.onDisk e) twin) elsewhere (Ending.both.written content) →
      isModule (pathOf settings (s.onDisk e) twin) = isModule (pathOf settings s file) →
      isScriptName (pathOf settings (s.onDisk e) twin) = isScriptName (pathOf settings s file) →
      (∀ log ∈ s.logFiles, log = place ↔ log = elsewhere) →
      ∃ result other t u, Check.Reported settings ⟨aspect, file, label⟩ s t result ∧
        Check.Reported settings ⟨aspect, twin, title⟩ (s.onDisk e) u other ∧
        other.outcome = result.outcome) := by
  have whole (style : Ending) : linesOf (style.written content) = linesOf content := by
    have same := @Ending.linesOf_written style content clean [] fun _ => rfl
    rwa [List.append_nil, List.append_nil] at same
  have scripts (disk other : Disk) (path elsewhere : Text) (opened : disk.read path = .ok content)
      (openedCopy : other.read elsewhere = .ok (Ending.both.written content))
      (names : isScriptName elsewhere = isScriptName path) :
      isScript other elsewhere = isScript disk path := by
    rw [isScript_opened opened, isScript_opened openedCopy, isShebang_firstBytes_written clean,
      names]
  refine ⟨?_, scripts, ?_⟩
  · intro search style
    have same : search.content (style.written content) = search.content content := by
      rw [Search.content, whole, Search.content]
    refine ⟨same, ?_⟩
    intro disk other path elsewhere opened openedCopy
    rw [search.file_opened (Disk.nameable_of_read opened) opened,
      search.file_opened (Disk.nameable_of_read openedCopy) openedCopy, same]
  · intro settings s e aspect file twin label title place elsewhere notCompiles holds copied modules
      names logs
    cases aspect with
    | compiles => exact absurd rfl notCompiles
    | strict => exact strict_of_copy label title holds copied (whole .both)
    | warns =>
      have opened := Disk.read_eq_ok_iff.mpr ⟨place, holds⟩
      have openedCopy := Disk.read_eq_ok_iff.mpr ⟨elsewhere, copied⟩
      refine warns_of_copy label title holds copied logs ?_ ?_
      · rw [classify, classify, modules, scripts _ _ _ _ opened openedCopy names]
      · exact fun added => Ending.both.linesOf_written clean fun alone => by cases alone

/-- A script with a damaged last line and its copy beside it. -/
theorem line_ends_never_decide_side_by_side :
    let content : Bytes := "#!/usr/bin/perl -w\nuse strict;\n".toUTF8.toList ++ [0xFF]
    let copy := Ending.both.written content
    let disk : Disk :=
      ⟨.directory [("f", .file content false), ("g", .file copy false)], "/", [], []⟩
    let settings := Settings.default "/"
    let s := Session.start (.plain disk fun _ _ => .refused .noEntry)
    (13 ∉ content ∧ copy ≠ content ∧ Ending.carriage.written content ≠ content) ∧
    (disk.Holds (pathOf settings s "f") ["f"] content ∧
      disk.Holds (pathOf settings s "g") ["g"] copy ∧
      isModule (pathOf settings s "g") = isModule (pathOf settings s "f") ∧
      isScriptName (pathOf settings s "g") = isScriptName (pathOf settings s "f") ∧
      s.logFiles = []) ∧
    strictSearch.content (Ending.carriage.written content) = strictSearch.content content ∧
    strictSearch.file disk "g" = strictSearch.file disk "f" ∧
    isScript disk "g" = isScript disk "f" ∧
    ∃ result other t u, Check.Reported settings ⟨.warns, "f", none⟩ s t result ∧
      Check.Reported settings ⟨.warns, "g", none⟩ s u other ∧ other.outcome = result.outcome := by
  intro content copy disk settings s
  have clean : 13 ∉ content := by decide +kernel
  have differs : copy ≠ content ∧ Ending.carriage.written content ≠ content := by decide +kernel
  have here : pathOf settings s "f" = "f" := pathOf_plain settings s (by decide +kernel)
  have there : pathOf settings s "g" = "g" := pathOf_plain settings s (by decide +kernel)
  have holds : disk.Holds "f" ["f"] content :=
    Disk.holds_entry rfl (by decide) (by decide) (by decide) (by decide +kernel)
  have copied : disk.Holds "g" ["g"] copy :=
    Disk.holds_entry rfl (by decide) (by decide) (by decide) (by decide +kernel)
  have opened : disk.read "f" = .ok content := Disk.read_eq_ok_iff.mpr ⟨_, holds⟩
  have openedCopy : disk.read "g" = .ok copy := Disk.read_eq_ok_iff.mpr ⟨_, copied⟩
  have modules : isModule (pathOf settings s "g") = isModule (pathOf settings s "f") := by
    rw [here, there]
    decide +kernel
  have names : isScriptName "g" = isScriptName "f" := by decide +kernel
  have namesOf : isScriptName (pathOf settings s "g") = isScriptName (pathOf settings s "f") := by
    rw [here, there, names]
  have unlogged : s.logFiles = [] := rfl
  rw [← here] at holds
  rw [← there] at copied
  obtain ⟨searches, scripts, checks⟩ := line_ends_never_decide content clean
  exact ⟨⟨clean, differs⟩, ⟨holds, copied, modules, namesOf, unlogged⟩,
    (searches strictSearch .carriage).1,
    (searches strictSearch .both).2 disk disk "f" "g" opened openedCopy,
    scripts disk disk "f" "g" opened openedCopy names,
    checks settings s disk .warns "f" "g" none none _ _ (by decide) holds copied modules namesOf
      (by simp [unlogged])⟩

end PerlAudit.Checks
