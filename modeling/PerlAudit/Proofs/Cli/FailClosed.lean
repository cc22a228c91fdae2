import PerlAudit.Proofs.Checks.Unopenable
import PerlAudit.Proofs.Cli.ExitStatus

namespace PerlAudit

namespace Cli

open Audit Session Options Checks Number
open Tap (Operation)

/-- The files a task is about, and what it asks of them. -/
def filesOf : Task → Option (Aspect × List Text)
  | .checkSyntax files => some (.compiles, files)
  | .checkStrict files => some (.strict, files)
  | .checkWarnings files => some (.warns, files)
  | _ => none

theorem discard_map {α β : Type} (x : Audit α) (f : α → β) :
    discard (x >>= fun a => pure (f a)) = discard x := by
  rw [discard_eq, discard_eq, bind_assoc]
  rfl

theorem discard_ok {α : Type} {x : Audit α} {s t : Session} {a : PUnit}
    (h : discard x s = .ok a t) : ∃ a, x s = .ok a t := by
  rw [discard_eq] at h
  obtain ⟨a, u, answered, rest⟩ := bind_ok h
  cases rest
  exact ⟨a, answered⟩

theorem perform_eq_each {task : Task} {aspect : Aspect} {files : List Text}
    (about : filesOf task = some (aspect, files)) (settings : Settings)
    (threshold : Option Binary64) :
    perform settings threshold task =
      each (fun file => discard (Check.perform settings ⟨aspect, file, none⟩)) files := by
  cases task with
  | checkSyntax given | checkStrict given =>
    cases about
    simp only [perform, Check.perform, discard_map]
  | checkWarnings given =>
    cases about
    rfl
  | checkFiles | checkCover => cases about

theorem tidy_check {programs : Text → Prop} {settings : Settings}
    (allowed : programs settings.perl) (c : Check) (s : Session) :
    Tidy programs (c.perform settings) s := by
  obtain ⟨aspect, file, label⟩ := c
  cases aspect with
  | compiles => exact (tidy_syntaxOk allowed file label s).bind fun _ t _ => tidy_pure _ t
  | strict => exact (tidy_strictOk settings file label s).bind fun _ t _ => tidy_pure _ t
  | warns => exact tidy_warningsOk allowed file label s

/-- Checks of files one after the other, one of which could not be opened before them. -/
theorem each_unopenable {settings : Settings} {aspect : Aspect} {files : List Text} {file : Text}
    {s t : Session} {a : Unit}
    (done : each (fun file => discard (Check.perform settings ⟨aspect, file, none⟩)) files s =
      .ok a t)
    (member : file ∈ files) (absent : ¬s.host.disk.IsOpenable (pathOf settings s file)) :
    Excused settings s ⟨aspect, file, none⟩ ∨ ∃ r ∈ recordedBy t.journal, r.outcome = .fail := by
  have tidy (file : Text) (s : Session) :
      Tidy (fun _ => True) (Check.perform settings ⟨aspect, file, none⟩) s := tidy_check trivial _ s
  induction files generalizing s with
  | nil => cases member
  | cons first rest ih =>
    obtain ⟨⟨⟩, u, checked, more⟩ := bind_ok done
    obtain ⟨answer, performed⟩ := discard_ok checked
    by_cases here : file = first
    · subst here
      obtain ⟨commands, ops, later, -⟩ :=
        (tidy_each (fun file t => tidy_discard (tidy file t)) rest u).ok more
      cases Check.fails_closed (c := ⟨aspect, file, none⟩) absent with
      | @failed v result reported outcome due =>
        obtain rfl : u = v := by
          have same := performed.symm.trans reported.answered
          cases same
          rfl
        refine .inr ⟨result, ?_, outcome⟩
        rw [later.recorded, reported.recorded]
        simp
      | skipped reported outcome excused => exact .inl excused
      | nameless flawed aspect faulted recorded =>
        rw [performed] at faulted
        cases faulted
    · have inside : file ∈ rest := List.mem_of_ne_of_mem here member
      obtain ⟨commands, ops, ledger, -⟩ := (tidy first s).ok performed
      have still : ¬u.host.disk.IsOpenable (pathOf settings u file) := by
        rwa [pathOf_eq ledger, Files.Disk.isOpenable_congr ledger.outline]
      obtain excused | failed := ih more inside still
      · refine .inl (excused.earlier ledger ?_)
        obtain rfl : aspect = .warns := excused.warns
        exact warningsOk_capability performed
      · exact .inr failed

/-- Closing a report records nothing. -/
theorem Underway.recorded_closed {s t : Session} {ops : List Operation} (before : Underway s ops)
    (after : Underway t (ops ++ [.finalize])) : recordedBy t.journal = recordedBy s.journal := by
  rw [after.recorded, before.recorded, Tap.recorded_append]
  exact List.append_nil _

/-- A run that ends with 0 has carried its task out and reported no failure. -/
theorem good_ending {inv : Invocation} {s t : Session} {status : Nat} (begun : Underway s [])
    (ending : Ending inv s status t) (good : status = 0) :
    ∃ settings threshold u v, settingsFor s.host inv = .ok (settings, threshold) ∧
      declarePlan inv.plan s = .ok () u ∧ perform settings threshold inv.task u = .ok () v ∧
      ∀ r ∈ recordedBy v.journal, r.outcome ≠ .fail := by
  cases ending with
  | badSettings | badPlan => cases good
  | @closed settings threshold u v _ summary loaded planned done finished =>
    refine ⟨settings, threshold, u, v, loaded, planned, done, ?_⟩
    obtain ⟨-, -, ops, running, -⟩ := declarePlan_ok begun planned
    obtain ⟨commands, more, ledger, -⟩ := tidy_perform _ _ _ _ _ _ done
    have performed := running.ledger ledger
    obtain ⟨closed, -, rfl⟩ := finish_closes performed finished
    have same := performed.recorded_closed closed
    have isOk : t.reporter.summary.isOk = true := by
      by_contra bad
      rw [if_neg bad] at good
      cases good
    rw [← same]
    exact (closed.summary_isOk.mp isOk).1

/-- A run without a plan ends with 0 if its task reports no failure. -/
theorem carryOut_good {inv : Invocation} {s t u : Session} {settings : Settings}
    {threshold : Option Binary64} (journal : s.journal = []) (fresh : s.reporter = .fresh)
    (configured : configureLog inv s = .ok () t)
    (loaded : settingsFor t.host inv = .ok (settings, threshold)) (planless : inv.plan = none)
    (done : perform settings threshold inv.task t = .ok () u)
    (unfailed : ∀ r ∈ recordedBy u.journal, r.outcome ≠ .fail) :
    ∃ v, carryOut inv s = .ok 0 v := by
  obtain ⟨sameJournal, sameReporter⟩ := configureLog_keeps configured
  have begun : Underway t [] := .start (sameJournal.trans journal) (sameReporter.trans fresh)
  obtain ⟨commands, ops, ledger, midway⟩ := tidy_perform _ _ _ _ _ _ done
  have performed := begun.ledger ledger
  have unplanned : u.reporter.planned = none := by
    have same : u.reporter.planned = t.reporter.planned :=
      (congrArg (·.reporter.planned) ledger.transcript).trans (Tap.midway_planned midway _)
    rw [same, sameReporter, fresh]
    rfl
  obtain ⟨summary, v, finished⟩ := finish_answers none nofun unplanned
  obtain ⟨closed, kept, rfl⟩ := finish_closes performed finished
  have recorded := performed.recorded_closed closed
  have isOk : v.reporter.summary.isOk = true := by
    apply closed.summary_isOk.mpr
    rw [recorded, kept, unplanned]
    exact ⟨unfailed, by simp⟩
  have declared : declarePlan inv.plan t = .ok () t := by
    rw [planless]
    rfl
  have ended := carryOut_closed configured loaded declared done finished
  rw [if_pos isOk] at ended
  exact ⟨v, ended⟩

/-- A plan that is declared makes no difference to what is known about files and tools. -/
theorem excused_before_plan {settings : Settings} {plan : Option (Option Int)} {s t : Session}
    {c : Check} (declared : declarePlan plan s = .ok () t) (excused : Excused settings t c) :
    Excused settings s c := by
  obtain ⟨host, tools, requests⟩ := declarePlan_keeps plan s
  rw [declared] at host tools requests
  have path : pathOf settings t c.file = pathOf settings s c.file := by
    unfold pathOf
    rw [show t.host = s.host from host]
  have capable : capability settings t = capability settings s := by
    unfold capability versionFor
    rw [show t.host = s.host from host, show t.tools = s.tools from tools,
      show t.requests = s.requests from requests]
  exact ⟨excused.warns, path ▸ excused.moduleName, path ▸ excused.notScript,
    capable ▸ excused.incapable⟩

/-- On every machine, files that cannot be opened fail their checks, and a run over one does not end
with 0, unless the check is excused. -/
theorem unopenable_fails_closed (host : Host) :
    (∀ (settings : Settings) (s : Session) (c : Check), s.host = host →
      ¬host.disk.IsOpenable (pathOf settings s c.file) → FailsClosed settings s c) ∧
    ∀ (argv : List Text) (inv : Invocation) (t : Session),
      Options.read (columns host.environment - 2) argv = .ok inv →
      run argv (Session.start host) = .ok 0 t →
      ∃ u settings threshold, configureLog inv (Session.start host) = .ok () u ∧
        settingsFor u.host inv = .ok (settings, threshold) ∧
        ∀ aspect files file, filesOf inv.task = some (aspect, files) → file ∈ files →
          ¬u.host.disk.IsOpenable (pathOf settings u file) →
          Excused settings u ⟨aspect, file, none⟩ := by
  constructor
  · rintro settings s c rfl absent
    exact Check.fails_closed absent
  intro argv inv t accepted ended
  rw [run_eq_carryOut (s := Session.start host) accepted] at ended
  obtain ⟨u, configured, ending⟩ := carryOut_ends ended
  obtain ⟨journal, reporter⟩ := configureLog_keeps configured
  obtain ⟨settings, threshold, v, w, loaded, planned, done, unfailed⟩ :=
    good_ending (.start journal reporter) ending rfl
  refine ⟨u, settings, threshold, configured, loaded, ?_⟩
  intro aspect files file about member absent
  have machine : v.host = u.host := by
    have kept := (declarePlan_keeps inv.plan u).1
    rwa [planned] at kept
  have still : ¬v.host.disk.IsOpenable (pathOf settings v file) := by
    rwa [pathOf, machine]
  rw [perform_eq_each about] at done
  obtain excused | ⟨r, recorded, failed⟩ := each_unopenable done member still
  · exact excused_before_plan planned excused
  · exact absurd failed (unfailed r recorded)

/-- A machine without files, whose interpreter has no warnings. -/
def bareOldHost : Host :=
  .plain ⟨.empty, "/", [], []⟩ fun _ _ => .finished (Text.encode "5.005".toList) [] 0

/-- The warnings of a module are asked for. -/
def warningsOfModule : Invocation :=
  ⟨false, some ".", none, none, none, .checkWarnings ["No::Such"]⟩

theorem warningsOfModule_accepted :
    Options.read (columns bareOldHost.environment - 2) ["warnings", "No::Such"] =
      .ok warningsOfModule := by decide +kernel

/-- A check of warnings is excused where there is no file and there are no warnings. -/
theorem excused_bare {s : Session} (host : s.host = bareOldHost) (journal : s.journal = [])
    (tools : s.tools = .unknown) :
    Excused (.default "/") s ⟨.warns, "No::Such", none⟩ := by
  have path : pathOf (.default "/") s "No::Such" = "No::Such" := by
    rw [pathOf, host]
    exact Source.modulePath_bare _ _ _ _ _
  refine ⟨rfl, ?_, ?_, ?_⟩
  · rw [path]
    decide
  · rw [path]
    decide
  · rw [capability, versionFor, host, tools, Session.requests, journal]
    decide +kernel

/-- A run over a module that is missing ends with 0. -/
theorem warningsOfModule_ends :
    ∃ t, run ["warnings", "No::Such"] (Session.start bareOldHost) = .ok 0 t := by
  rw [run_eq_carryOut (s := Session.start bareOldHost) warningsOfModule_accepted]
  obtain ⟨u, configured, host, journal, tools⟩ :
      ∃ u, configureLog warningsOfModule (Session.start bareOldHost) = .ok () u ∧
        u.host = bareOldHost ∧ u.journal = [] ∧ u.tools = .unknown := ⟨_, rfl, rfl, rfl, rfl⟩
  have loaded : settingsFor u.host warningsOfModule = .ok (.default "/", none) := by
    have defaults : Settings.load bareOldHost bareOldHost.environment "." = _ :=
      Settings.load_bare rfl
    rw [host]
    simp only [settingsFor, warningsOfModule, expected, defaults, thresholdOf, bind, Except.bind]
    rfl
  have excused := excused_bare host journal tools
  have absent : ¬u.host.disk.IsOpenable (pathOf (.default "/") u "No::Such") := by
    rw [host]
    exact Files.Disk.unopenable_bare _ _ _ _
  have named : Text.nameFlaw? (pathOf (.default "/") u "No::Such") = none :=
    Source.nameable_modulePath (by decide)
  obtain ⟨commands, result, ⟨v, answered, ledger⟩, -, skips, -⟩ :=
    warningsOk_unopenable none absent named
  refine carryOut_good rfl rfl configured loaded rfl (bind_eq (bind_eq answered)) ?_
  rw [ledger.recorded, journal]
  simp [recordedBy, Tap.recorded, Operation.result?, skips excused]

/-- A script that is missing fails. A run that ends with 0 over a module that is missing was
excused. -/
theorem unopenable_fails_closed_bare :
    let s := Session.start bareOldHost
    ¬s.host.disk.IsOpenable (pathOf (.default "/") s "gone.pl") ∧
      FailsClosed (.default "/") s ⟨.strict, "gone.pl", none⟩ ∧
      ∃ t u settings, run ["warnings", "No::Such"] s = .ok 0 t ∧
        configureLog warningsOfModule s = .ok () u ∧
        ¬u.host.disk.IsOpenable (pathOf settings u "No::Such") ∧
        Excused settings u ⟨.warns, "No::Such", none⟩ := by
  intro s
  have absent : ¬s.host.disk.IsOpenable (pathOf (.default "/") s "gone.pl") :=
    Files.Disk.unopenable_bare _ _ _ _
  refine ⟨absent,
    (unopenable_fails_closed bareOldHost).1 _ s ⟨.strict, "gone.pl", none⟩ rfl absent, ?_⟩
  obtain ⟨t, ended⟩ := warningsOfModule_ends
  obtain ⟨u, settings, threshold, configured, -, excused⟩ := (unopenable_fails_closed bareOldHost).2
    ["warnings", "No::Such"] warningsOfModule t warningsOfModule_accepted ended
  have missing : ¬u.host.disk.IsOpenable (pathOf settings u "No::Such") := by
    cases configured
    exact Files.Disk.unopenable_bare _ _ _ _
  exact ⟨t, u, settings, ended, configured, missing,
    excused _ _ _ rfl List.mem_cons_self missing⟩

/-- A module that is missing is skipped, and the run is good. -/
theorem missing_module_ends_with_zero :
    let s := Session.start bareOldHost
    ¬s.host.disk.IsOpenable (pathOf (.default "/") s "No::Such") ∧
      filesOf warningsOfModule.task = some (.warns, [Text.ofString "No::Such"]) ∧
      ∃ t, run ["warnings", "No::Such"] s = .ok 0 t :=
  ⟨Files.Disk.unopenable_bare _ _ _ _, rfl, warningsOfModule_ends⟩

end Cli

end PerlAudit
