import PerlAudit.Proofs.Checks.Unopenable
import PerlAudit.Proofs.Log.Setup
import PerlAudit.Proofs.Settings.Flat
import PerlAudit.Proofs.Tap.Readback

namespace PerlAudit

namespace Tap

/-- What a run prints that is closed for the first time. -/
theorem linesOf_finalize {ops : List Operation} {plan : Option Nat} (still : .finalize ∉ ops)
    (writable : Writable plan)
    (declared : (Transcript.after ops).reporter.planned = testsOf plan) :
    linesOf ((Transcript.after ops).step .finalize).said =
      closedLines plan (recorded ops) := by
  have h := after_coherent ops
  have unclosed : (Transcript.after ops).reporter.finalized = false := by
    simpa using mt h.closed.mp still
  have layout := h.layout
  simp only [Transcript.step, Reporter.perform, Reporter.finalize, unclosed, Bool.false_eq_true,
    if_false]
  rw [linesOf_append, closing_lines, h.counted]
  rw [unclosed, declared] at layout
  rw [declared]
  exact layout.closedLines writable

/-- In the middle of a run nobody touches the plan. -/
theorem midway_planned {ops : List Operation} (midway : ∀ op ∈ ops, op.isMidway = true)
    (t : Transcript) : (ops.foldl Transcript.step t).reporter.planned = t.reporter.planned := by
  induction ops generalizing t with
  | nil => rfl
  | cons op rest ih =>
    obtain ⟨first, others⟩ := List.forall_mem_cons.mp midway
    rw [List.foldl_cons, ih others]
    cases op with
    | ensurePlan =>
      simp only [Transcript.step, Reporter.perform, Reporter.ensurePlan]
      split <;> rfl
    | record result => exact (record_counters t.reporter result).2.2.2.1
    | plan | remark | isPassing | summary | finalize => cases first

end Tap

namespace Session

/-- What has been put on standard output. -/
def output (s : Session) : Text := s.journal.flatMap Event.outputText

/-- If nothing else is printed, standard output is the stream of the report. -/
theorem output_eq {s : Session} (silent : ∀ e ∈ s.journal, e.isPrinted = false) :
    s.output = Tap.streamText (saidBy s.journal) := by
  unfold output
  generalize s.journal = journal at silent ⊢
  induction journal with
  | nil => rfl
  | cons e rest ih =>
    obtain ⟨first, others⟩ := List.forall_mem_cons.mp silent
    rw [List.flatMap_cons, ih others]
    cases e with
    | printed text => cases first
    | said words => rfl
    | started | recorded | logged | complained => rfl

end Session

namespace Cli

open Audit Session Options Number
open Tap (Transcript Operation closedLines)

/-- The settings and the threshold of a command line on a machine. -/
def settingsFor (host : Host) (inv : Invocation) : Except Fault (Settings × Option Binary64) := do
  let path ← expected .noPath inv.config
  let settings ← Settings.load host host.environment path
  let threshold ← thresholdOf inv.task
  return (override settings inv, threshold)

theorem lift_bind {α β : Type} (answer : Except Fault α) (f : α → Except Fault β) :
    (Audit.lift answer >>= fun a => Audit.lift (f a)) = Audit.lift (answer >>= f) := by
  cases answer <;> rfl

/-- Loading settings only looks at the machine. -/
theorem loadSettings_eq (inv : Invocation) (s : Session) :
    loadSettings inv s = Audit.lift (settingsFor s.host inv) s := by
  unfold settingsFor
  rw [← lift_bind]
  simp only [← lift_bind]
  rfl

/-- A command line that is refused: its settings, its threshold or its plan are bad. -/
inductive Refused (host : Host) (inv : Invocation) : Prop where
  | settings {path : Text} {cause : SettingsFault} (named : inv.config = some path)
      (bad : Settings.load host host.environment path = .error (.settings cause))
  | threshold {x : Binary64} {fault : Fault} {cover : Option Text} {dirs : List Text}
      (given : inv.task = .checkCover (some (some x)) cover dirs)
      (bad : Settings.checkThreshold x = .error fault)
  | plan {tests : Int} (given : inv.plan = some (some tests)) (negative : tests < 0)

theorem thresholdOf_given (x : Binary64) (cover : Option Text) (dirs : List Text) :
    thresholdOf (.checkCover (some (some x)) cover dirs) =
      (Settings.checkThreshold x).map some := by
  cases checked : Settings.checkThreshold x <;>
    simp [thresholdOf, expected, checked, bind, Except.bind, Except.map, pure, Except.pure]

/-- A task has a bad threshold only if it was given one. -/
theorem thresholdOf_settings {task : Task} {cause : SettingsFault}
    (h : thresholdOf task = .error (.settings cause)) :
    ∃ x cover dirs fault, task = .checkCover (some (some x)) cover dirs ∧
      Settings.checkThreshold x = .error fault := by
  cases task with
  | checkCover given cover dirs =>
    match given with
    | none | some none => cases h
    | some (some x) =>
      rw [thresholdOf_given] at h
      cases checked : Settings.checkThreshold x with
      | error fault => exact ⟨x, cover, dirs, fault, rfl, checked⟩
      | ok y => simp [checked, Except.map] at h
  | checkSyntax | checkStrict | checkWarnings | checkFiles => cases h

theorem refused_of_settings {host : Host} {inv : Invocation} {cause : SettingsFault}
    (h : settingsFor host inv = .error (.settings cause)) : Refused host inv := by
  unfold settingsFor at h
  cases named : inv.config with
  | none => simp [named, expected, bind, Except.bind] at h
  | some path =>
    cases loaded : Settings.load host host.environment path with
    | error fault =>
      obtain rfl : fault = .settings cause := by
        simpa [named, loaded, expected, bind, Except.bind] using h
      exact .settings named loaded
    | ok settings =>
      cases limit : thresholdOf inv.task with
      | error fault =>
        obtain rfl : fault = .settings cause := by
          simpa [named, loaded, limit, expected, bind, Except.bind] using h
        obtain ⟨x, cover, dirs, fault, given, bad⟩ := thresholdOf_settings limit
        exact .threshold given bad
      | ok threshold =>
        simp [named, loaded, limit, expected, bind, Except.bind, pure, Except.pure] at h

/-- With good settings and a good threshold there is nothing left to refuse but the plan. -/
theorem Refused.negative_plan {host : Host} {inv : Invocation} {answer : Settings × Option Binary64}
    (refused : Refused host inv) (h : settingsFor host inv = .ok answer) :
    ∃ tests, inv.plan = some (some tests) ∧ tests < 0 := by
  unfold settingsFor at h
  cases refused with
  | settings named bad => simp [named, bad, expected, bind, Except.bind] at h
  | threshold given bad =>
    rw [given, thresholdOf_given, bad] at h
    cases named : inv.config with
    | none => simp [named, expected, bind, Except.bind] at h
    | some path =>
      cases loaded : Settings.load host host.environment path <;>
        simp [named, loaded, expected, bind, Except.bind, Except.map] at h
  | plan given negative => exact ⟨_, given, negative⟩

/-- How a command line ends once its log is set up: its settings are bad, its plan is bad, or its
task is done and the report closed. -/
inductive Ending (inv : Invocation) (s : Session) : Nat → Session → Prop where
  | badSettings {cause : SettingsFault} (bad : settingsFor s.host inv = .error (.settings cause))
      (complaint : Text) : Ending inv s 2 (s.tell [.complained complaint])
  | badPlan {answer : Settings × Option Binary64} {cause : PlanFault} {t : Session}
      (good : settingsFor s.host inv = .ok answer)
      (bad : declarePlan inv.plan s = .error (.plan cause) t) (complaint : Text) :
      Ending inv s 2 (t.tell [.complained complaint])
  | closed {settings : Settings} {threshold : Option Binary64} {t u v : Session}
      {summary : Tap.Summary} (good : settingsFor s.host inv = .ok (settings, threshold))
      (planned : declarePlan inv.plan s = .ok () t)
      (done : perform settings threshold inv.task t = .ok () u)
      (finished : finish u = .ok summary v) :
      Ending inv s (if summary.isOk then 0 else 1) v

theorem attempt_eq_ok {α : Type} {x : Audit α} {s t : Session} {a : α} (h : x s = .ok a t) :
    attempt x s = .ok (.ok a) t := by
  rw [attempt, h]

theorem attempt_eq_error {α : Type} {x : Audit α} {s t : Session} {fault : Fault}
    (h : x s = .error fault t) : attempt x s = .ok (.error fault) t := by
  rw [attempt, h]

theorem carryOut_ends {inv : Invocation} {s t : Session} {status : Nat}
    (ended : carryOut inv s = .ok status t) :
    ∃ u, configureLog inv s = .ok () u ∧ Ending inv u status t := by
  obtain ⟨⟨⟩, u, configured, ended⟩ := bind_ok ended
  refine ⟨u, configured, ?_⟩
  have loaded := loadSettings_eq inv u
  cases good : settingsFor u.host inv with
  | error fault =>
    rw [good] at loaded
    rw [bind_eq (attempt_eq_error loaded)] at ended
    cases fault with
    | settings cause =>
      cases ended
      exact .badSettings good _
    | _ => cases ended
  | ok answer =>
    rw [good] at loaded
    rw [bind_eq (attempt_eq_ok loaded)] at ended
    cases planned : declarePlan inv.plan u with
    | error fault v =>
      replace ended : _ = _ := (bind_eq (attempt_eq_error planned)).symm.trans ended
      cases fault with
      | plan cause =>
        cases ended
        exact .badPlan good planned _
      | _ => cases ended
    | ok _ v =>
      replace ended : _ = _ := (bind_eq (attempt_eq_ok planned)).symm.trans ended
      obtain ⟨⟨⟩, w, done, ended⟩ := bind_ok ended
      obtain ⟨summary, v, finished, ended⟩ := bind_ok ended
      cases ended
      exact .closed good planned done finished

theorem run_eq_carryOut {argv : List Text} {inv : Invocation} {s : Session}
    (accepted : Options.read (columns s.host.environment - 2) argv = .ok inv) :
    run argv s = carryOut inv s := by
  have here : (get : Audit Session) s = .ok s s := rfl
  rw [run, bind_eq here, accepted]

/-- A command line that gets through to its end. -/
theorem carryOut_closed {inv : Invocation} {s t u v w : Session} {settings : Settings}
    {threshold : Option Binary64} {summary : Tap.Summary}
    (configured : configureLog inv s = .ok () t)
    (good : settingsFor t.host inv = .ok (settings, threshold))
    (planned : declarePlan inv.plan t = .ok () u)
    (done : perform settings threshold inv.task u = .ok () v)
    (finished : finish v = .ok summary w) :
    carryOut inv s = .ok (if summary.isOk then 0 else 1) w := by
  have loaded := loadSettings_eq inv t
  rw [good] at loaded
  rw [carryOut, bind_eq configured, bind_eq (attempt_eq_ok loaded)]
  refine (bind_eq (attempt_eq_ok planned)).trans ?_
  refine (bind_eq done).trans ((bind_eq finished).trans ?_)
  rfl

/-- Setting up the log says nothing and finds no tool, even if it fails. -/
theorem configureLog_reached (inv : Invocation) (s : Session) :
    (reached (configureLog inv s)).journal = s.journal ∧
    (reached (configureLog inv s)).reporter = s.reporter ∧
    (reached (configureLog inv s)).tools = s.tools := by
  let Kept (t : Session) : Prop :=
    t.journal = s.journal ∧ t.reporter = s.reporter ∧ t.tools = s.tools
  have keeps (file : Option Text) : Kept (reached (Audit.configureLog inv.verbose file s)) := by
    rw [Log.reached_configureLog]
    exact ⟨rfl, rfl, rfl⟩
  unfold configureLog
  match inv.logFile with
  | some none => exact reached_bind (P := Kept) (keeps none) fun _ t _ kept => kept
  | none | some (some file) => exact keeps _

theorem configureLog_keeps {inv : Invocation} {s t : Session} (h : configureLog inv s = .ok () t) :
    t.journal = s.journal ∧ t.reporter = s.reporter := by
  obtain ⟨journal, reporter, -⟩ := configureLog_reached inv s
  rw [h] at journal reporter
  exact ⟨journal, reporter⟩

/-- A run of the reporter that a session has come to by some operations. -/
structure Underway (s : Session) (ops : List Operation) : Prop where
  transcript : s.transcript = Transcript.after ops
  recorded : recordedBy s.journal = Tap.recorded ops
  silent : ∀ e ∈ s.journal, e.isPrinted = false

namespace Underway

variable {s t : Session} {ops more : List Operation}

theorem start (journal : s.journal = []) (reporter : s.reporter = .fresh) : Underway s [] where
  transcript := by
    rw [Session.transcript, journal, reporter]
    rfl
  recorded := by
    rw [journal]
    rfl
  silent := by
    rw [journal]
    exact List.forall_mem_nil _

theorem ledger {commands : List Command.Request} (h : Underway s ops)
    (ledger : Ledger s t commands more) : Underway t (ops ++ more) where
  transcript := by rw [ledger.transcript, h.transcript, Transcript.after, Transcript.after,
    List.foldl_append]
  recorded := by rw [ledger.recorded, h.recorded, Tap.recorded_append]
  silent := by
    obtain ⟨events, journal, -, -, silent⟩ := ledger.journal
    rw [journal]
    exact List.forall_mem_append.mpr ⟨h.silent, silent⟩

/-- What the reporter says by an operation that records nothing. -/
theorem say (h : Underway s ops) (op : Operation) (records : op.result? = none) :
    Underway { s.tell ((s.reporter.perform op).2.map .said) with
      reporter := (s.reporter.perform op).1 } (ops ++ [op]) where
  transcript := by
    rw [Tap.after_concat, ← h.transcript]
    simp only [Session.transcript, Session.tell, saidBy_append, saidBy_said]
    rfl
  recorded := by
    simp [Session.tell, recordedBy, List.filterMap_append, List.filterMap_map,
      Tap.recorded_concat, records, ← h.recorded]
  silent := by
    refine List.forall_mem_append.mpr ⟨h.silent, ?_⟩
    simp [Event.isPrinted]

end Underway

theorem tell_requests (s : Session) {events : List Event} (quiet : startedBy events = []) :
    (s.tell events).requests = s.requests := by
  rw [Session.requests, Session.tell, startedBy_append, quiet, List.append_nil]
  rfl

theorem said_requests (s : Session) (said : List Tap.Said) :
    (s.tell (said.map .said)).requests = s.requests := by
  apply tell_requests
  simp [startedBy, List.filterMap_map]

/-- A turn of the reporter changes nothing but the report. -/
theorem report_keeps (turn : Tap.Reporter → Tap.Reporter × Except Fault (List Tap.Said))
    (s : Session) :
    (reached (report turn s)).host = s.host ∧ (reached (report turn s)).tools = s.tools ∧
    (reached (report turn s)).requests = s.requests := by
  cases answer : (turn s.reporter).2 with
  | error fault =>
    rw [Tap.report_of_error answer]
    exact ⟨rfl, rfl, rfl⟩
  | ok said =>
    rw [Tap.report_of_ok answer]
    exact ⟨rfl, rfl, said_requests s said⟩

theorem declarePlan_keeps (plan : Option (Option Int)) (s : Session) :
    (reached (declarePlan plan s)).host = s.host ∧
    (reached (declarePlan plan s)).tools = s.tools ∧
    (reached (declarePlan plan s)).requests = s.requests := by
  match plan with
  | none | some none => exact ⟨rfl, rfl, rfl⟩
  | some (some tests) => exact report_keeps (·.plan (.number tests)) s

/-- A plan that is declared is a number that can be written. -/
theorem plan_ok {r : Tap.Reporter} {tests : Int} {said : List Tap.Said}
    (h : (r.plan (.number tests)).2 = .ok said) :
    ∃ n : Nat, tests = n ∧ n < Text.tooLong ∧ (r.plan (.number tests)).1.planned =
      some (.number n) := by
  generalize planning : r.plan (.number tests) = answer at h ⊢
  have outcome := planning ▸ Tap.plan_planning r (.number tests)
  cases outcome with
  | twice | late | negative | unwritable => cases h
  | declared unplanned uncounted natural writable =>
    obtain ⟨n, rfl⟩ := Int.eq_ofNat_of_zero_le natural
    refine ⟨n, rfl, ?_, rfl⟩
    by_contra long
    rw [Tap.shown_tooLong (by simpa using long)] at writable
    cases writable

/-- The plan of a run that has just begun is taken up, and then it is no negative number and does
not have too many digits. -/
theorem declarePlan_ok {plan : Option (Option Int)} {s t : Session} (h : Underway s [])
    (declared : declarePlan plan s = .ok () t) :
    (∀ tests, plan = some (some tests) → 0 ≤ tests) ∧
    Tap.Writable (plan.join.map Int.toNat) ∧
    ∃ ops, Underway t ops ∧ .finalize ∉ ops ∧
      t.reporter.planned = Tap.testsOf (plan.join.map Int.toNat) := by
  have fresh : s.reporter = .fresh := congrArg Transcript.reporter h.transcript
  match plan with
  | none =>
    cases declared
    exact ⟨nofun, nofun, [], h, nofun, by rw [fresh]; rfl⟩
  | some none => cases declared
  | some (some tests) =>
    replace declared : Audit.plan (.number tests) s = .ok () t := declared
    rw [Audit.plan] at declared
    cases answer : (s.reporter.plan (.number tests)).2 with
    | error fault =>
      rw [Tap.report_of_error answer] at declared
      cases declared
    | ok told =>
      have said := h.say (.plan (.number tests)) rfl
      rw [Tap.report_of_ok answer] at declared
      cases declared
      simp only [Tap.Reporter.perform, answer] at said
      obtain ⟨n, rfl, short, planned⟩ := plan_ok answer
      refine ⟨by simp, ?_, [.plan (.number n)], said, by simp, planned⟩
      rintro m ⟨⟩
      exact short

/-- A plan is refused for being negative, and then nothing has changed. -/
theorem declarePlan_error {plan : Option (Option Int)} {s t : Session} {cause : PlanFault}
    (fresh : s.reporter = .fresh) (refused : declarePlan plan s = .error (.plan cause) t) :
    t = s ∧ ∃ tests, plan = some (some tests) ∧ tests < 0 := by
  match plan with
  | none | some none => cases refused
  | some (some tests) =>
    replace refused : Audit.plan (.number tests) s = .error (.plan cause) t := refused
    rw [Audit.plan] at refused
    cases answer : (s.reporter.plan (.number tests)).2 with
    | error fault =>
      rw [Tap.report_of_error answer] at refused
      cases refused
      refine ⟨by rw [Tap.plan_of_refused answer], tests, rfl, ?_⟩
      cases shown : (Tap.Tests.number tests).shown with
      | ok text =>
        have causes := (Tap.plan_refused_iff s.reporter shown).mp ⟨_, answer⟩
        simpa [fresh, Tap.Reporter.fresh, Tap.Reporter.hasPlan, Tap.Tests.value] using causes
      | error fault =>
        obtain rfl := Tap.Tests.shown_error shown
        have causes := (Tap.plan_unwritable s.reporter shown).1.mp ⟨_, answer⟩
        simp [fresh, Tap.Reporter.fresh, Tap.Reporter.hasPlan] at causes
    | ok said =>
      rw [Tap.report_of_ok answer] at refused
      cases refused

theorem finalize_planned (r : Tap.Reporter) :
    (r.perform .finalize).1.planned = r.planned := by
  simp only [Tap.Reporter.perform, Tap.Reporter.finalize]
  split <;> rfl

/-- Closing the report is the reporter's last operation. -/
theorem finish_closes {s t : Session} {ops : List Operation} {summary : Tap.Summary}
    (h : Underway s ops) (finished : finish s = .ok summary t) :
    Underway t (ops ++ [.finalize]) ∧ t.reporter.planned = s.reporter.planned ∧
      summary = t.reporter.summary := by
  obtain ⟨⟨⟩, u, reported, rest⟩ := bind_ok finished
  cases answer : s.reporter.finalize.2 with
  | error fault =>
    rw [Tap.report_of_error answer] at reported
    cases reported
  | ok told =>
    have said := h.say .finalize rfl
    rw [Tap.report_of_ok answer] at reported
    cases reported
    cases rest
    simp only [Tap.Reporter.perform, answer] at said
    exact ⟨said, finalize_planned s.reporter, rfl⟩

/-- A report can be closed if its plan can be written. -/
theorem finish_answers {s : Session} (plan : Option Nat) (writable : Tap.Writable plan)
    (declared : s.reporter.planned = Tap.testsOf plan) : ∃ summary t, finish s = .ok summary t := by
  cases answer : s.reporter.finalize.2 with
  | ok said => exact ⟨_, _, bind_eq (Tap.report_of_ok answer)⟩
  | error fault =>
    rw [Tap.Reporter.finalize] at answer
    split at answer
    · cases answer
    · obtain ⟨-, tests, planned, -, long⟩ := (Tap.closing_error_iff _ _).mp answer
      rw [declared] at planned
      obtain ⟨n, given, rfl⟩ := Option.map_eq_some_iff.mp planned
      rw [Tap.shown_number (writable n given)] at long
      cases long

/-- What a run has printed when it is closed. -/
theorem closed_output {s : Session} {ops : List Operation} {plan : Option Nat}
    (h : Underway s (ops ++ [.finalize])) (still : .finalize ∉ ops) (writable : Tap.Writable plan)
    (declared : s.reporter.planned = Tap.testsOf plan) :
    s.output = ((closedLines plan (recordedBy s.journal)).map Tap.Line.text).flatMap
      (· ++ [.char '\n']) := by
  have closed : s.transcript = (Transcript.after ops).step .finalize := by
    rw [h.transcript, Tap.after_concat]
  have said : saidBy s.journal = ((Transcript.after ops).step .finalize).said :=
    congrArg Transcript.said closed
  have planned : s.reporter.planned = (Transcript.after ops).reporter.planned :=
    (congrArg (·.reporter.planned) closed).trans (finalize_planned _)
  have recorded : recordedBy s.journal = Tap.recorded ops := by
    rw [h.recorded, Tap.recorded_append]
    exact List.append_nil _
  rw [output_eq h.silent, Tap.streamText_eq, said,
    Tap.linesOf_finalize still writable (planned.symm.trans declared), recorded]

/-- A summary is good if no result is a failure and there are as many as planned. -/
theorem Underway.summary_isOk {s : Session} {ops : List Operation} (h : Underway s ops) :
    s.reporter.summary.isOk = true ↔
      (∀ r ∈ recordedBy s.journal, r.outcome ≠ .fail) ∧
      ∀ tests ∈ s.reporter.planned, tests.value = (recordedBy s.journal).length := by
  have coherent : Tap.Coherent ops s.transcript := h.transcript ▸ Tap.after_coherent ops
  have counted : s.reporter.count = (recordedBy s.journal).length :=
    h.recorded ▸ coherent.counted
  have failures : s.reporter.failed = (recordedBy s.journal).countP (·.outcome == .fail) :=
    h.recorded ▸ coherent.failures
  rw [Tap.Reporter.summary, Tap.Summary.isOk, counted, failures]
  cases s.reporter.planned with
  | none => simp [List.countP_eq_zero]
  | some n => simp [List.countP_eq_zero]

theorem plan_kept_iff {plan : Option (Option Int)} (count : Nat)
    (natural : ∀ tests, plan = some (some tests) → 0 ≤ tests) :
    (∀ tests ∈ Tap.testsOf (plan.join.map Int.toNat), tests.value = count) ↔
      ∀ tests, plan = some (some tests) → count = tests := by
  match plan with
  | none | some none => simp [Tap.testsOf]
  | some (some tests) =>
    have := natural tests rfl
    simp [Tap.testsOf, Tap.Tests.value]
    omega

/-- The exit status tells whether a run was refused, good or bad. A command line whose settings,
threshold or plan are refused ends with 2 before it starts or prints anything. Any other ends with 0
if nothing failed and the plan was kept, and with 1 otherwise, and it prints the lines of its report
and nothing else. -/
theorem exit_status_tells_run (host : Host) (argv : List Text) (inv : Invocation) (status : Nat)
    (t : Session) (accepted : Options.read (columns host.environment - 2) argv = .ok inv)
    (ended : run argv (Session.start host) = .ok status t) :
    ∃ u, configureLog inv (Session.start host) = .ok () u ∧
      (Refused u.host inv → status = 2 ∧ t.output = [] ∧ t.requests = []) ∧
      (¬Refused u.host inv →
        (status = 0 ∨ status = 1) ∧
        (status = 0 ↔ (∀ r ∈ recordedBy t.journal, r.outcome ≠ .fail) ∧
          ∀ tests, inv.plan = some (some tests) → (recordedBy t.journal).length = tests) ∧
        t.output = ((closedLines (inv.plan.join.map Int.toNat) (recordedBy t.journal)).map
          Tap.Line.text).flatMap (· ++ [.char '\n'])) := by
  rw [run_eq_carryOut (s := Session.start host) accepted] at ended
  obtain ⟨u, configured, ending⟩ := carryOut_ends ended
  obtain ⟨journal, reporter⟩ := configureLog_keeps configured
  have begun : Underway u [] := .start journal reporter
  refine ⟨u, configured, ?_⟩
  have complained (text : Text) :
      (u.tell [.complained text]).output = [] ∧ (u.tell [.complained text]).requests = [] := by
    simp [output, Session.requests, Session.tell, journal, Session.start, Event.outputText,
      startedBy]
  cases ending with
  | badSettings bad complaint =>
    have refused := refused_of_settings bad
    exact ⟨fun _ => ⟨rfl, complained complaint⟩, fun accepted => absurd refused accepted⟩
  | badPlan good bad complaint =>
    obtain ⟨rfl, tests, given, negative⟩ := declarePlan_error reporter bad
    exact ⟨fun _ => ⟨rfl, complained complaint⟩,
      fun accepted => absurd (.plan given negative) accepted⟩
  | closed good planned done finished =>
    obtain ⟨natural, writable, ops, running, unclosed, plan⟩ := declarePlan_ok begun planned
    obtain ⟨commands, more, ledger, midway⟩ := tidy_perform _ _ _ _ _ _ done
    obtain ⟨closed, kept, rfl⟩ := finish_closes (running.ledger ledger) finished
    have still : .finalize ∉ ops ++ more := by
      rw [List.mem_append, not_or]
      exact ⟨unclosed, fun member => Bool.noConfusion (midway _ member)⟩
    have declared : t.reporter.planned = Tap.testsOf (inv.plan.join.map Int.toNat) := by
      rw [kept, ← plan]
      exact (congrArg (·.reporter.planned) ledger.transcript).trans (Tap.midway_planned midway _)
    refine ⟨fun refused => ?_, fun _ => ⟨?_, ?_, ?_⟩⟩
    · obtain ⟨tests, given, negative⟩ := refused.negative_plan good
      have := natural tests given
      omega
    · split
      · exact .inl rfl
      · exact .inr rfl
    · rw [← plan_kept_iff _ natural, ← declared, ← closed.summary_isOk]
      split <;> simp [*]
    · exact closed_output closed still writable declared

/-- Two results are planned, but there is one file to check, and the log is asked for. -/
theorem exit_status_tells_missed_plan :
    let host : Host := .plain ⟨.empty, "/", [], []⟩ fun _ _ => .refused .noEntry
    let argv : List Text := ["-v", "--plan", "2", "strict", "gone.pl"]
    let inv : Invocation :=
      ⟨true, some ".", some (some 2), none, none, .checkStrict ["gone.pl"]⟩
    ∃ status t, Options.read (columns host.environment - 2) argv = .ok inv ∧
      run argv (Session.start host) = .ok status t ∧
      ∃ u, configureLog inv (Session.start host) = .ok () u ∧
        (Refused u.host inv → status = 2 ∧ t.output = [] ∧ t.requests = []) ∧
        (¬Refused u.host inv →
          (status = 0 ∨ status = 1) ∧
          (status = 0 ↔ (∀ r ∈ recordedBy t.journal, r.outcome ≠ .fail) ∧
            ∀ tests, inv.plan = some (some tests) → (recordedBy t.journal).length = tests) ∧
          t.output = ((closedLines (some 2) (recordedBy t.journal)).map
            Tap.Line.text).flatMap (· ++ [.char '\n'])) := by
  intro host argv inv
  have accepted : Options.read (columns host.environment - 2) argv = .ok inv := by decide +kernel
  have good : settingsFor host inv = .ok (.default "/", none) := by
    have loaded : Settings.load host host.environment "." = _ := Settings.load_bare rfl
    simp only [settingsFor, inv, expected, loaded, thresholdOf, bind, Except.bind]
    rfl
  obtain ⟨u, configured, machine, fresh⟩ :
      ∃ u, configureLog inv (Session.start host) = .ok () u ∧ u.host = host ∧
        u.reporter = .fresh := ⟨_, rfl, rfl, rfl⟩
  rw [← machine] at good
  have writes : (u.reporter.plan (.number 2)).2 = .ok [.line (.plan "2")] := by
    rw [fresh]
    decide +kernel
  obtain ⟨r, planned, kept, taken⟩ : ∃ r, Audit.plan (.number 2) u = .ok () r ∧ r.host = u.host ∧
      r.reporter.planned = Tap.testsOf (some 2) := by
    refine ⟨_, Tap.report_of_ok writes, rfl, ?_⟩
    change (u.reporter.plan (.number 2)).1.planned = _
    rw [fresh]
    decide +kernel
  have path : Checks.pathOf (.default "/") r "gone.pl" = "gone.pl" :=
    Checks.pathOf_plain _ r (by decide +kernel)
  have absent : ¬r.host.disk.IsOpenable (Checks.pathOf (.default "/") r "gone.pl") := by
    rw [kept, machine]
    exact Files.Disk.unopenable_bare "/" [] [] _
  have named : Text.nameFlaw? (Checks.pathOf (.default "/") r "gone.pl") = none := by
    rw [path]
    decide
  obtain ⟨cause, v, answered, ledger⟩ := Checks.strictOk_unopenable none absent named
  have short : Tap.Writable (some 2) := by
    rintro n ⟨⟩
    decide +kernel
  have declared : v.reporter.planned = Tap.testsOf (some 2) := by
    refine (congrArg (·.reporter.planned) ledger.transcript).trans ?_
    rw [Tap.midway_planned (by simp [Tap.Operation.isMidway])]
    exact taken
  obtain ⟨summary, w, finished⟩ := finish_answers _ short declared
  have ended := (run_eq_carryOut (s := Session.start host) accepted).trans
    (carryOut_closed configured good planned (bind_eq (bind_eq answered)) finished)
  exact ⟨_, _, accepted, ended, exit_status_tells_run host argv inv _ _ accepted ended⟩

end Cli

end PerlAudit
