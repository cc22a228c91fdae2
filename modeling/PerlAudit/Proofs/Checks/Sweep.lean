import PerlAudit.Proofs.Checks.Single
import PerlAudit.Proofs.Locate.Discovery
import PerlAudit.Proofs.Session.Alike

namespace PerlAudit.Checks

open Audit Session Files Source
open Text (nameFlaw?)
open Tap (Result Outcome)

section Agreement

variable {s t : Session}

theorem agree_resolve (settings : Settings) (file : Text) (h : Alike s t) :
    Agree (resolve settings file) (resolve settings file) s t := by
  refine agree_look h (resolve_eq settings file s) ?_
  rw [resolve_eq, pathOf, pathOf, h.host]

theorem agree_searchRoots (settings : Settings) (h : Alike s t) :
    Agree (searchRoots settings) (searchRoots settings) s t :=
  (agree_getVar? _ h).bind fun _ _ _ h => agree_pure _ h

theorem agree_report (result : Result) (h : Alike s t) :
    Agree (report result) (report result) s t :=
  (agree_emit result h).bind fun _ _ _ h => agree_pure _ h

theorem agree_syntaxOk (settings : Settings) (file : Text) (label : Option Text)
    (h : Alike s t) : Agree (syntaxOk settings file label) (syntaxOk settings file label) s t := by
  refine (agree_resolve settings file h).bind fun path _ _ h => ?_
  refine (agree_disk h).bind fun disk _ _ h => ?_
  split
  · exact agree_report _ h
  · refine (agree_lift (classify disk path) h).bind fun kind _ _ h => ?_
    split
    · exact agree_report _ h
    · refine (agree_searchRoots settings h).bind fun roots _ _ h => ?_
      have asked := (agree_run (SyntaxCheck.command settings.perl roots path)
        { mergeErrors := true } h).bind fun answer _ _ h =>
          agree_pure (SyntaxCheck.verdict path answer) h
      exact asked.bind fun verdict _ _ h => agree_report _ h

theorem agree_strictOk (settings : Settings) (file : Text) (label : Option Text)
    (h : Alike s t) : Agree (strictOk settings file label) (strictOk settings file label) s t :=
  (agree_resolve settings file h).bind fun _ _ _ h =>
    (agree_disk h).bind fun _ _ _ h => (agree_lift _ h).bind fun _ _ _ h => agree_report _ h

theorem agree_version (perl : Text) (h : Alike s t) :
    Agree (Tools.version perl) (Tools.version perl) s t := by
  refine agree_get ?_
  rw [h.tools]
  split
  · exact agree_pure _ h
  · refine (agree_run _ _ h).bind fun answer _ _ h => (agree_debug _ _ h).bind fun _ _ _ h => ?_
    refine (agree_tools (fun tools => { tools with
      versions := (perl, Tools.versionOf answer) :: tools.versions }) h).bind fun _ _ _ h => ?_
    exact agree_pure _ h

theorem agree_canUseWarnings (settings : Settings) (h : Alike s t) :
    Agree (canUseWarnings settings) (canUseWarnings settings) s t := by
  unfold canUseWarnings
  split
  · exact agree_pure _ h
  · exact (agree_version _ h).bind fun _ _ _ h => agree_pure _ h

theorem agree_warningsOk (settings : Settings) (file : Text) (label : Option Text)
    (h : Alike s t) :
    Agree (warningsOk settings file label) (warningsOk settings file label) s t := by
  refine (agree_resolve settings file h).bind fun path _ _ h => ?_
  refine (agree_disk h).bind fun disk _ _ h => ?_
  refine (agree_lift (classify disk path) h).bind fun kind _ _ h => ?_
  refine (agree_canUseWarnings settings h).bind fun capable _ _ h => ?_
  split
  · exact (agree_emit _ h).bind fun _ _ _ h => agree_pure _ h
  · refine (agree_disk h).bind fun disk _ _ h => (agree_lift _ h).bind fun scan _ _ h => ?_
    exact (agree_report _ h).bind fun _ _ _ h => agree_pure _ h

/-- A check asks the reporter nothing. -/
theorem Check.agree_perform (settings : Settings) (c : Check) (h : Alike s t) :
    Agree (c.perform settings) (c.perform settings) s t := by
  obtain ⟨aspect, file, label⟩ := c
  cases aspect with
  | compiles => exact (agree_syntaxOk settings file label h).bind fun _ _ _ h => agree_pure _ h
  | strict => exact (agree_strictOk settings file label h).bind fun _ _ _ h => agree_pure _ h
  | warns => exact agree_warningsOk settings file label h

end Agreement

variable {settings : Settings} {s t u : Session} {checks before after : List Check}
  {results : List Result}

/-- In an alike session a check reports the same result. -/
theorem Check.Reported.alike {c : Check} {result : Result}
    (reported : c.Reported settings s t result) (h : Alike s u) :
    ∃ v, c.Reported settings u v result ∧ Alike t v := by
  obtain ⟨w, same, answers, alike, recorded, records⟩ :=
    c.agree_perform settings h _ t reported.answered
  obtain ⟨other, v, reports⟩ | ⟨fault, v, raised⟩ := c.settles settings u
  · rw [reports.answered] at answers
    obtain rfl : v = w := by injection answers
    obtain rfl : [result] = same := List.append_cancel_left (reported.recorded.symm.trans recorded)
    obtain rfl : other = result := by simpa using reports.recorded.symm.trans records
    exact ⟨v, reports, alike⟩
  · rw [raised.faulted] at answers
    cases answers

namespace Course

/-- In an alike session the same results follow. -/
theorem alike (course : Course settings s checks results t) (h : Alike s u) :
    ∃ v, Course settings u checks results v := by
  induction course generalizing u with
  | done s => exact ⟨u, .done u⟩
  | next first more ih =>
    obtain ⟨v, reported, h⟩ := first.alike h
    obtain ⟨w, later⟩ := ih h
    exact ⟨w, .next reported later⟩

/-- A course can be cut anywhere. -/
theorem split (course : Course settings s (before ++ after) results t) :
    ∃ early late u, results = early ++ late ∧ Course settings s before early u ∧
      Course settings u after late t := by
  induction before generalizing s results with
  | nil => exact ⟨[], results, s, rfl, .done s, course⟩
  | cons c rest ih =>
    cases course with
    | next first more =>
      obtain ⟨early, late, u, rfl, course, later⟩ := ih more
      exact ⟨_ :: early, late, u, rfl, .next first course, later⟩

/-- Each failure among the results is counted. -/
theorem failed (course : Course settings s checks results t) :
    t.reporter.failed = s.reporter.failed + results.countP (·.outcome = .fail) := by
  induction course with
  | done s => rfl
  | next first more ih =>
    rw [ih, first.failed, List.countP_cons]
    simp only [decide_eq_true_eq]
    omega

end Course

/-- Whether a sweep asks about an aspect. -/
def enabled (settings : Settings) : Aspect → Bool
  | .compiles => settings.testSyntax
  | .strict => settings.testStrict
  | .warns => settings.testWarnings

/-- Makes two judgements and tells whether both are good. -/
def both (first second : Audit Bool) : Audit Bool := do
  let a ← first
  let b ← second
  return a && b

/-- The files of a sweep: those found and not excluded. -/
def kept (settings : Settings) (s : Session) (found : List Text) : List Text :=
  found.filter (!settings.excludes s.host.disk.cwd ·)

end PerlAudit.Checks
