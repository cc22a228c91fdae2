import PerlAudit.Cli
import PerlAudit.Proofs.Files.Outline
import PerlAudit.Proofs.Tools.Lookup

/-!
Actions that keep to the ledger. Whatever a task of a command line does, and whether it comes to an
end or faults: it starts commands, asks the reporter to record results, and leaves nothing else to
be seen but log records. Plans are declared and runs are closed by nobody else than the command line
itself. Commands are run by the interpreter and, in a sweep, by the coverage tool; without that tool
a sweep starts none.
-/

namespace PerlAudit

open Command (Request Capture)
open Tap (Operation)

/-- Whether an operation may be asked of a reporter in the middle of a run. -/
def Tap.Operation.isMidway : Operation → Bool
  | ensurePlan => true
  | record _ => true
  | _ => false

namespace Audit

open Session

variable {α β : Type} {s : Session} {programs : Text → Prop}

/-- The session that an action reaches, whether it answers or faults. -/
def reached : EStateM.Result Fault Session α → Session
  | .ok _ t => t
  | .error _ t => t

/-- What holds after the first of two actions, and is kept by the second, holds after both. -/
theorem reached_bind {P : Session → Prop} {x : Audit α} {f : α → Audit β}
    (first : P (reached (x s))) (second : ∀ a t, x s = .ok a t → P t → P (reached (f a t))) :
    P (reached ((x >>= f) s)) := by
  cases answered : x s with
  | error fault t =>
    rw [answered] at first
    rw [bind_error answered]
    exact first
  | ok a t =>
    rw [answered] at first
    rw [bind_eq answered]
    exact second a t answered first

/-- What may happen in the middle of a run: the reporter is neither given a plan nor closed, and
commands are run by these programs only. -/
def Orderly (programs : Text → Prop) (s t : Session) : Prop :=
  ∃ commands ops, Ledger s t commands ops ∧ (∀ op ∈ ops, op.isMidway = true) ∧
    ∀ c ∈ commands, ∃ program ∈ c.argv.head?, programs program

theorem Orderly.trans {t u : Session} (first : Orderly programs s t)
    (second : Orderly programs t u) : Orderly programs s u := by
  obtain ⟨commands, ops, ledger, midway, started⟩ := first
  obtain ⟨more, others, later, midway', started'⟩ := second
  exact ⟨commands ++ more, ops ++ others, ledger.trans later,
    List.forall_mem_append.mpr ⟨midway, midway'⟩, List.forall_mem_append.mpr ⟨started, started'⟩⟩

/-- An action that keeps to the ledger, whether it answers or faults. -/
def Tidy (programs : Text → Prop) (x : Audit α) (s : Session) : Prop :=
  Orderly programs s (reached (x s))

theorem Writes.tidy {x : Audit α} {a : α} {ops : List Operation} (h : Writes x s a [] ops)
    (midway : ∀ op ∈ ops, op.isMidway = true) : Tidy programs x s := by
  obtain ⟨t, answered, ledger⟩ := h
  refine ⟨[], ops, ?_, midway, List.forall_mem_nil _⟩
  rw [answered]
  exact ledger

theorem Tidy.bind {x : Audit α} {f : α → Audit β} (first : Tidy programs x s)
    (second : ∀ a t, x s = .ok a t → Tidy programs (f a) t) : Tidy programs (x >>= f) s :=
  reached_bind first fun a t answered before => before.trans (second a t answered)

theorem Tidy.ok {x : Audit α} {a : α} {t : Session} (h : Tidy programs x s)
    (answered : x s = .ok a t) :
    ∃ commands ops, Ledger s t commands ops ∧ ∀ op ∈ ops, op.isMidway = true := by
  obtain ⟨commands, ops, ledger, midway, -⟩ := h
  rw [answered] at ledger
  exact ⟨commands, ops, ledger, midway⟩

theorem tidy_pure (a : α) (s : Session) : Tidy programs (pure a) s :=
  (writes_pure a s).tidy (List.forall_mem_nil _)

theorem tidy_throw (fault : Fault) (s : Session) : Tidy programs (throw fault : Audit α) s :=
  ⟨[], [], .refl s, List.forall_mem_nil _, List.forall_mem_nil _⟩

theorem tidy_get {f : Session → Audit β} (h : Tidy programs (f s) s) :
    Tidy programs (get >>= f) s := h

theorem tidy_ensurePlan (s : Session) : Tidy programs ensurePlan s :=
  (ensurePlan_writes s).tidy (by decide)

theorem tidy_emit (result : Tap.Result) (s : Session) : Tidy programs (emit result) s :=
  (emit_writes result s).tidy (by simp [Operation.isMidway])

theorem tidy_run {program : Text} (allowed : programs program) (words : List Text)
    (capture : Capture) (s : Session) : Tidy programs (run (program :: words) capture) s := by
  let call : Command.Call := ⟨program :: words, capture⟩
  obtain ⟨t, answered, ledger⟩ := run_writes call (List.cons_ne_nil _ _) s
  refine ⟨[call.request], [], ?_, List.forall_mem_nil _,
    List.forall_mem_singleton.mpr ⟨program, rfl, allowed⟩⟩
  rw [answered]
  exact ledger

/-- Changes to what a session remembers cannot be seen. -/
theorem tidy_modify {f : Session → Session} (host : (f s).host = s.host)
    (sinks : (f s).sinks = s.sinks) (journal : (f s).journal = s.journal)
    (reporter : (f s).reporter = s.reporter) : Tidy programs (modify f) s :=
  Writes.tidy ⟨f s, rfl, (Ledger.refl s).unseen host sinks journal reporter⟩
    (List.forall_mem_nil _)

theorem discard_eq (x : Audit α) : discard x = x >>= fun _ => pure () := rfl

theorem tidy_discard {x : Audit α} (h : Tidy programs x s) : Tidy programs (discard x) s := by
  rw [discard_eq]
  exact h.bind fun _ t _ => tidy_pure () t

/-- An action that looks around leaves nothing but log records, and no tool is found by it. -/
structure Looks (x : Audit α) (s : Session) : Prop where
  ledger : Ledger s (reached (x s)) [] []
  tools : (reached (x s)).tools = s.tools

namespace Looks

theorem bind {x : Audit α} {f : α → Audit β} (first : Looks x s) (second : ∀ a t, Looks (f a) t) :
    Looks (x >>= f) s := by
  have both : Ledger s (reached ((x >>= f) s)) [] [] ∧ (reached ((x >>= f) s)).tools = s.tools := by
    refine reached_bind (P := fun t => Ledger s t [] [] ∧ t.tools = s.tools)
      ⟨first.ledger, first.tools⟩ ?_
    rintro a t - ⟨ledger, tools⟩
    exact ⟨ledger.trans (second a t).ledger, (second a t).tools.trans tools⟩
  exact ⟨both.1, both.2⟩

theorem tidy {x : Audit α} (h : Looks x s) : Tidy programs x s :=
  ⟨[], [], h.ledger, List.forall_mem_nil _, List.forall_mem_nil _⟩

theorem ok {x : Audit α} {a : α} {t : Session} (h : Looks x s) (answered : x s = .ok a t) :
    Ledger s t [] [] ∧ t.tools = s.tools := by
  obtain ⟨ledger, tools⟩ := h
  rw [answered] at ledger tools
  exact ⟨ledger, tools⟩

end Looks

theorem looks_pure (a : α) (s : Session) : Looks (pure a) s := ⟨.refl s, rfl⟩

theorem looks_throw (fault : Fault) (s : Session) : Looks (throw fault : Audit α) s :=
  ⟨.refl s, rfl⟩

theorem looks_get {f : Session → Audit β} (h : Looks (f s) s) : Looks (get >>= f) s :=
  ⟨h.ledger, h.tools⟩

theorem looks_lift (answer : Except Fault α) (s : Session) : Looks (lift answer) s := by
  cases answer with
  | ok a => exact looks_pure a s
  | error fault => exact looks_throw fault s

theorem looks_disk (s : Session) : Looks disk s := ⟨.refl s, rfl⟩

theorem looks_getVar? (name : Text) (s : Session) : Looks (getVar? name) s :=
  ⟨.refl s, rfl⟩

theorem looks_debug (name message : Text) (s : Session) : Looks (debug name message) s where
  ledger := by
    rw [debug_eq]
    exact deliver_ledger s _
  tools := by
    rw [debug_eq]
    rfl

theorem looks_expectName (path : Text) (s : Session) : Looks (expectName path) s := by
  unfold expectName
  cases Text.nameFlaw? path with
  | some flaw => exact looks_throw _ s
  | none => exact looks_pure () s

end Audit

open Audit Session

namespace Locate

theorem looks_logSkipped (skipped : List (Text × Files.Errno)) (s : Session) :
    Looks (logSkipped skipped) s := by
  induction skipped generalizing s with
  | nil => exact looks_pure () s
  | cons entry rest ih => exact (looks_debug _ _ s).bind fun _ => ih

theorem looks_below (bases : List Text) (s : Session) : Looks (below bases) s := by
  induction bases generalizing s with
  | nil => exact looks_pure [] s
  | cons base rest ih =>
    exact (looks_expectName base s).bind fun _ t => (looks_disk t).bind fun _ u =>
      (looks_logSkipped _ u).bind fun _ v => (ih v).bind fun _ => looks_pure _

theorem looks_files (bases : List Text) (script : Text) (s : Session) :
    Looks (files bases script) s :=
  (looks_disk s).bind fun _ => looks_below _

theorem looks_perlFiles (bases : List Text) (script : Text) (s : Session) :
    Looks (perlFiles bases script) s :=
  (looks_files bases script s).bind fun _ t => (looks_disk t).bind fun _ => looks_lift _

end Locate

namespace Tools

open Text (given)

theorem coverPath_finds (wanted : Option Text) (s : Session) :
    Writes (coverPath wanted) s (coverFor wanted s) [] [] := by
  obtain ⟨t, answered, ledger, -⟩ := coverPath_eq wanted s
  exact ⟨t, answered, ledger⟩

theorem search_eq {disk other : Files.Disk} (same : disk.outline = other.outline) :
    search disk = search other := by
  unfold search
  rw [Files.Disk.isExecutable_eq same]

/-- Which tool it is does not change while the log grows. -/
theorem coverFor_eq {s t : Session} {commands : List Request} {ops : List Operation}
    (ledger : Ledger s t commands ops) (tools : t.tools = s.tools) (wanted : Option Text) :
    coverFor wanted t = coverFor wanted s := by
  rw [coverFor, coverFor, tools, search_eq ledger.outline, ledger.getVar?]

theorem tidy_version {programs : Text → Prop} {perl : Text} (allowed : programs perl)
    (s : Session) : Tidy programs (version perl) s := by
  refine tidy_get ?_
  split
  · exact tidy_pure _ s
  · exact (tidy_run allowed _ _ s).bind fun _ t _ => (looks_debug _ _ t).tidy.bind fun _ u _ =>
      (tidy_modify rfl rfl rfl rfl).bind fun _ v _ => tidy_pure _ v

end Tools

namespace Coverage

open Text (given)

variable {programs : Text → Prop}

theorem looks_targets (bases : List Text) (own : Option Text) (hidden : Text → Bool)
    (s : Session) : Looks (targets bases own hidden) s :=
  looks_get ((looks_lift _ s).bind fun _ t => (Locate.looks_files _ _ t).bind fun _ u =>
    (looks_disk u).bind fun _ => looks_lift _)

theorem tidy_measureAll {perl : Text} (allowed : programs perl) (paths : List Text) (s : Session) :
    Tidy programs (measureAll perl paths) s := by
  induction paths generalizing s with
  | nil => exact tidy_pure [] s
  | cons path rest ih =>
    have first : Tidy programs (measure perl path) s :=
      (tidy_run allowed _ _ s).bind fun _ t _ => (tidy_emit _ t).bind fun _ u _ => tidy_pure _ u
    exact first.bind fun _ t _ => (ih t).bind fun _ u _ => tidy_pure _ u

theorem tidy_gather {perl cover : Text} (interpreter : programs perl) (tool : programs cover)
    (run : Run) (s : Session) : Tidy programs (gather perl cover run) s :=
  (tidy_measureAll interpreter _ s).bind fun _ t _ => (tidy_run tool _ _ t).bind fun _ u _ =>
    (tidy_emit _ u).bind fun _ v _ => (looks_debug _ _ v).tidy.bind fun _ w _ => tidy_pure _ w

theorem tidy_judge (run : Run) (s : Session) : Tidy programs (judge run) s :=
  (looks_lift _ s).tidy.bind fun _ t _ => (tidy_emit _ t).bind fun _ u _ => tidy_pure _ u

/-- Without a tool a sweep starts nothing. -/
theorem tidy_sweep {perl : Text} {cover : Option Text}
    (allowed : ∀ tool, cover = some tool → programs perl ∧ programs tool)
    (threshold : Threshold) (targets : List Text) (s : Session) :
    Tidy programs (sweep perl cover threshold targets) s := by
  unfold sweep
  dsimp only
  cases found : given cover with
  | none => exact (tidy_emit _ s).bind fun _ t _ => tidy_pure _ t
  | some tool =>
    obtain ⟨interpreter, cover⟩ := allowed tool (Option.eq_some_of_filter_eq_some found)
    refine (tidy_run cover _ _ s).bind fun reset t _ => ?_
    split
    · exact (tidy_gather interpreter cover _ t).bind fun _ u _ => tidy_judge _ u
    · exact (tidy_emit _ t).bind fun _ u _ => tidy_pure _ u

end Coverage

namespace Checks

open Source

variable {programs : Text → Prop}

theorem tidy_report (result : Tap.Result) (s : Session) : Tidy programs (report result) s :=
  (tidy_emit result s).bind fun _ t _ => tidy_pure _ t

theorem looks_searchRoots (settings : Settings) (s : Session) : Looks (searchRoots settings) s :=
  (looks_getVar? _ s).bind fun _ => looks_pure _

theorem looks_resolve (settings : Settings) (file : Text) (s : Session) :
    Looks (resolve settings file) s :=
  (looks_searchRoots settings s).bind fun _ t => (looks_disk t).bind fun _ => looks_pure _

theorem tidy_strictOk (settings : Settings) (file : Text) (label : Option Text)
    (s : Session) :
    Tidy programs (strictOk settings file label) s :=
  (looks_resolve settings file s).tidy.bind fun _ t _ => (looks_disk t).tidy.bind fun _ u _ =>
    (looks_lift _ u).tidy.bind fun _ v _ => tidy_report _ v

section Files

variable {settings : Settings} (allowed : programs settings.perl)

include allowed

theorem tidy_syntaxOk (file : Text) (label : Option Text) (s : Session) :
    Tidy programs (syntaxOk settings file label) s := by
  refine (looks_resolve settings file s).tidy.bind fun path t _ =>
    (looks_disk t).tidy.bind fun disk u _ => ?_
  split
  · exact tidy_report _ u
  · refine (looks_lift _ u).tidy.bind fun kind v _ => ?_
    split
    · exact tidy_report _ v
    · have checked (includes : List Text) (w : Session) :
          Tidy programs (SyntaxCheck.check settings.perl includes path) w :=
        (tidy_run allowed _ _ w).bind fun _ x _ => tidy_pure _ x
      exact (looks_searchRoots settings v).tidy.bind fun _ w _ =>
        (checked _ w).bind fun _ x _ => tidy_report _ x

theorem tidy_warningsOk (file : Text) (label : Option Text) (s : Session) :
    Tidy programs (warningsOk settings file label) s := by
  have capability (t : Session) : Tidy programs (canUseWarnings settings) t := by
    unfold canUseWarnings
    split
    · exact tidy_pure _ t
    · exact (Tools.tidy_version allowed t).bind fun _ u _ => tidy_pure _ u
  refine (looks_resolve settings file s).tidy.bind fun path t _ =>
    (looks_disk t).tidy.bind fun _ u _ => (looks_lift _ u).tidy.bind fun kind v _ =>
      (capability v).bind fun capable w _ => ?_
  split
  · exact (tidy_emit _ w).bind fun _ x _ => tidy_pure _ x
  · exact (looks_disk w).tidy.bind fun _ x _ => (looks_lift _ x).tidy.bind fun _ y _ =>
      (tidy_report _ y).bind fun _ z _ => tidy_pure _ z

theorem tidy_filesOk (files : List Text) (s : Session) :
    Tidy programs (filesOk settings files) s := by
  have wanted {enabled : Bool} {check : Audit Bool} {s : Session} (h : Tidy programs check s) :
      Tidy programs (wanted enabled check) s := by
    unfold Checks.wanted
    split
    · exact h
    · exact tidy_pure true s
  have file (path : Text) (s : Session) : Tidy programs (fileOk settings path) s :=
    (wanted (tidy_syntaxOk allowed path none s)).bind fun _ t _ =>
      (wanted (tidy_strictOk settings path none t)).bind fun _ u _ =>
        (wanted ((tidy_warningsOk allowed path none u).bind fun _ v _ => tidy_pure _ v)).bind
          fun _ v _ => tidy_pure _ v
  induction files generalizing s with
  | nil => exact tidy_pure true s
  | cons path rest ih =>
    exact (file path s).bind fun _ t _ => (ih t).bind fun _ u _ => tidy_pure _ u

theorem tidy_allFilesOk (script : Text) (bases : List Text) (s : Session) :
    Tidy programs (allFilesOk settings script bases) s :=
  (Locate.looks_perlFiles bases script s).tidy.bind fun _ t _ =>
    (looks_disk t).tidy.bind fun _ u _ => (looks_debug _ _ u).tidy.bind fun _ v _ =>
      (tidy_ensurePlan v).bind fun _ w _ => tidy_filesOk allowed _ w

end Files

/-- The tool of a sweep is the one that could be told before it. -/
theorem tidy_coverageSweep {settings : Settings} {s : Session}
    (allowed : ∀ tool, Tools.coverFor settings.cover s = some tool →
      programs settings.perl ∧ programs tool)
    (script : Text) (limit : Coverage.Threshold) (bases : List Text) :
    Tidy programs (coverageSweep settings script limit bases) s := by
  refine (looks_disk s).tidy.bind fun disk t looked => ?_
  cases looked
  refine (Coverage.looks_targets _ _ _ s).tidy.bind fun targets t listed => ?_
  obtain ⟨ledger, tools⟩ := (Coverage.looks_targets _ _ _ s).ok listed
  refine (tidy_ensurePlan t).bind fun _ u ensured => ?_
  obtain ⟨v, planned, later⟩ := ensurePlan_writes t
  have kept : u.tools = t.tools := by
    cases ensured
    rfl
  rw [ensured] at planned
  cases planned
  have same := Tools.coverFor_eq (ledger.trans later) (kept.trans tools) settings.cover
  have looked := Tools.coverPath_finds settings.cover u
  refine (looked.tidy (List.forall_mem_nil _)).bind fun cover v found => ?_
  obtain ⟨w, answered, -⟩ := looked
  rw [answered] at found
  cases found
  rw [← same] at allowed
  exact (Coverage.tidy_sweep allowed _ _ v).bind fun _ w _ =>
    (tidy_modify rfl rfl rfl rfl).bind fun _ x _ => tidy_pure _ x

theorem tidy_coverageOk {settings : Settings} {s : Session}
    (allowed : ∀ tool, Tools.coverFor settings.cover s = some tool →
      programs settings.perl ∧ programs tool)
    (script : Text) (threshold : Option Value) (bases : List Text) :
    Tidy programs (coverageOk settings script threshold bases) s := by
  unfold coverageOk
  split
  · exact (tidy_coverageSweep allowed _ _ _).bind fun _ t _ => tidy_pure _ t
  · exact (tidy_coverageSweep allowed _ _ _).bind fun _ t _ => tidy_pure _ t
  · split
    · exact (looks_lift _ s).tidy.bind fun _ t _ => (tidy_emit _ t).bind fun _ u _ =>
        (tidy_modify rfl rfl rfl rfl).bind fun _ v _ => tidy_pure _ v
    · exact tidy_throw _ s

end Checks

namespace Cli

open Options (Task)

theorem tidy_each {programs : Text → Prop} {check : Text → Audit Unit}
    (h : ∀ file s, Tidy programs (check file) s) (files : List Text) (s : Session) :
    Tidy programs (each check files) s := by
  induction files generalizing s with
  | nil => exact tidy_pure () s
  | cons file rest ih => exact (h file s).bind fun _ t _ => ih t

/-- Whether commands of a task may be run by a program: by the interpreter or, in a sweep that has
found its tool, by either. -/
def MayRun (settings : Settings) (task : Task) (s : Session) (program : Text) : Prop :=
  match task with
  | .checkCover .. => ∃ tool, Tools.coverFor settings.cover s = some tool ∧
      (program = settings.perl ∨ program = tool)
  | _ => program = settings.perl

/-- Every task keeps to the ledger. -/
theorem tidy_task (settings : Settings) (threshold : Option Number.Binary64) (task : Task)
    (s : Session) : Tidy (MayRun settings task s) (perform settings threshold task) s := by
  cases task with
  | checkSyntax files =>
    have interpreter : MayRun settings (.checkSyntax files) s settings.perl := rfl
    exact tidy_each (fun file t => tidy_discard (Checks.tidy_syntaxOk interpreter file none t))
      files s
  | checkStrict files =>
    exact tidy_each (fun file t => tidy_discard (Checks.tidy_strictOk settings file none t)) files s
  | checkWarnings files =>
    have interpreter : MayRun settings (.checkWarnings files) s settings.perl := rfl
    exact tidy_each (fun file t => tidy_discard (Checks.tidy_warningsOk interpreter file none t))
      files s
  | checkFiles warnings dirs =>
    have interpreter : MayRun settings (.checkFiles warnings dirs) s settings.perl := rfl
    exact tidy_discard (Checks.tidy_allFilesOk interpreter [] _ s)
  | checkCover limit cover dirs =>
    refine tidy_discard (Checks.tidy_coverageOk ?_ [] _ dirs)
    intro tool found
    exact ⟨⟨tool, found, .inl rfl⟩, ⟨tool, found, .inr rfl⟩⟩

/-- A task that comes to an end has kept to the ledger. -/
theorem tidy_perform (settings : Settings) (threshold : Option Number.Binary64) (task : Task)
    (s : Session) (a : Unit) (t : Session) (done : perform settings threshold task s = .ok a t) :
    ∃ commands ops, Ledger s t commands ops ∧ ∀ op ∈ ops, op.isMidway = true :=
  (tidy_task settings threshold task s).ok done

end Cli

end PerlAudit
