import PerlAudit.Proofs.Cli.ExitStatus

namespace PerlAudit

open Text (given)

namespace Value

/-- The name of a tool that a value gives: a text, or a number as it is written. What is neither is
ignored. -/
def toolName? : Value → Option Text
  | text s => some s
  | integer n => (Text.writeInteger? n).map Text.ofString
  | number x => some x.shortest
  | _ => none

theorem toolName?_of_asText {v : Value} {name : Option Text} (h : v.asText = .ok name) :
    name = v.toolName? := by
  cases v with
  | integer n =>
    have shown : (integer n).asText = (Text.integerText n).map some := rfl
    rw [shown] at h
    cases written : Text.integerText n with
    | error fault => simp [written, Except.map] at h
    | ok t =>
      obtain rfl : some t = name := by simpa [written, Except.map] using h
      unfold Text.integerText at written
      split at written
      · rename_i digits same
        cases written
        rw [toolName?, same]
        rfl
      · cases written
  | null | truth | number | text | bytes | moment | list | mapping | unordered =>
    cases h
    rfl

end Value

namespace Settings

/-- The document of the file that a path leads to. One that is missing says nothing. -/
def documentAt (host : Host) (path : Text) : Except Fault Value := do
  let file ← locate host path
  let node ← lookAt host.disk file
  if node.isSome then readFile host file else .ok (.mapping [])

theorem bind_answered {α β : Type} {x : Except Fault α} {f : α → Except Fault β} {b : β}
    (h : x >>= f = .ok b) : ∃ a, x = .ok a ∧ f a = .ok b := by
  cases x with
  | error fault => cases h
  | ok a => exact ⟨a, rfl, h⟩

theorem withCoverage_tools {s t : Settings} {data : Value} (bare : s.cover = none)
    (h : s.withCoverage data = .ok t) :
    t.perl = s.perl ∧ t.cover = (entry data "cover").toolName? := by
  unfold withCoverage at h
  split at h
  · obtain ⟨cover, named, h⟩ := bind_answered h
    have cover := Value.toolName?_of_asText named
    split at h
    · cases h
      exact ⟨rfl, cover⟩
    · obtain ⟨number, -, h⟩ := bind_answered h
      cases number with
      | none => cases h
      | some x =>
        obtain ⟨limit, -, h⟩ := bind_answered h
        cases h
        exact ⟨rfl, cover⟩
  · rename_i empty
    cases h
    refine ⟨rfl, ?_⟩
    rw [bare]
    cases data with
    | mapping entries =>
      cases entries with
      | nil => rfl
      | cons first rest => exact (empty first rest rfl).elim
    | null | truth | integer | number | text | bytes | moment | list | unordered => rfl

theorem withDocument_tools {s t : Settings} {data : Value} (bare : s.cover = none)
    (h : s.withDocument data = .ok t) :
    t.perl = (given (entry data "perl").toolName?).getD s.perl ∧
      t.cover = (entry (entry data "coverage") "cover").toolName? := by
  obtain ⟨perl, named, h⟩ := bind_answered h
  rw [← Value.toolName?_of_asText named]
  dsimp only at h
  split at h
  all_goals
    obtain ⟨includeDirs, -, h⟩ := bind_answered h
    obtain ⟨exclude, -, h⟩ := bind_answered h
    exact withCoverage_tools (by exact bare) h

/-- What settings say about tools: the environment, then the document, then the defaults. -/
theorem load_tools {host : Host} {environment : Environment} {path : Text} {settings : Settings}
    (h : load host environment path = .ok settings) :
    ∃ data, documentAt host path = .ok data ∧
      settings.perl = (given (environment.get? perlVariable)).getD
        ((given (entry data "perl").toolName?).getD "perl") ∧
      settings.cover = (given (environment.get? coverVariable)).or
        (entry (entry data "coverage") "cover").toolName? := by
  obtain ⟨file, located, h⟩ := bind_answered h
  obtain ⟨root, -, h⟩ := bind_answered h
  obtain ⟨node, looked, h⟩ := bind_answered h
  have document : documentAt host path =
      if node.isSome then readFile host file else .ok (.mapping []) := by
    simp only [documentAt, located, looked, bind, Except.bind]
  have named {data : Value} (h : ((Settings.default root).withDocument data >>= fun s =>
      pure (s.withEnvironment environment)) = .ok settings) :
      settings.perl = (given (environment.get? perlVariable)).getD
        ((given (entry data "perl").toolName?).getD "perl") ∧
      settings.cover = (given (environment.get? coverVariable)).or
        (entry (entry data "coverage") "cover").toolName? := by
    obtain ⟨changed, documented, h⟩ := bind_answered h
    obtain ⟨perl, cover⟩ := withDocument_tools rfl documented
    cases h
    rw [withEnvironment, perl, cover]
    exact ⟨rfl, rfl⟩
  cases there : node.isSome with
  | true =>
    rw [there] at h document
    obtain ⟨data, read, h⟩ := bind_answered h
    exact ⟨data, document.trans read, named h⟩
  | false =>
    rw [there] at h document
    exact ⟨.mapping [], document, named h⟩

end Settings

namespace Cli

open Audit Session Options Number

/-- The first name of a tool that is given and not empty. -/
def firstGiven (names : List (Option Text)) : Option Text := names.findSome? given

/-- The interpreter of a command line. -/
def interpreter (inv : Invocation) (host : Host) (data : Value) : Text :=
  (firstGiven [inv.perl, host.getVar? Settings.perlVariable,
    (Settings.entry data "perl").toolName?]).getD "perl"

def isSweep : Task → Bool
  | .checkCover .. => true
  | _ => false

/-- The tool that a command line asks for. -/
def coverOption : Task → Option Text
  | .checkCover _ cover _ => cover
  | _ => none

/-- The coverage tool of a command line, if there is one. -/
def coverTool (inv : Invocation) (host : Host) (data : Value) : Option Text :=
  (firstGiven [coverOption inv.task, host.getVar? Settings.coverVariable,
      (Settings.entry (Settings.entry data "coverage") "cover").toolName?]).or
    (Tools.search host.disk ((host.getVar? "PATH").getD Tools.standardPath) Tools.coverName)

theorem firstGiven_cons (name : Option Text) (rest : List (Option Text)) :
    firstGiven (name :: rest) = (given name).or (firstGiven rest) := by
  unfold firstGiven
  rw [List.findSome?_cons]
  cases given name <;> rfl

theorem given_or (name other : Option Text) :
    given ((given name).or other) = (given name).or (given other) := by
  cases found : given name with
  | none => rfl
  | some text =>
    have filled := (Option.filter_eq_some_iff.mp found).2
    simp [given, filled]

theorem override_perl (settings : Settings) (inv : Invocation) :
    (override settings inv).perl = (given inv.perl).getD settings.perl := by
  unfold override
  split <;> rfl

theorem override_cover {inv : Invocation} (sweep : isSweep inv.task = true) (settings : Settings) :
    (override settings inv).cover = (given (coverOption inv.task)).or settings.cover := by
  unfold override
  cases task : inv.task with
  | checkCover limit cover dirs => rfl
  | checkSyntax | checkStrict | checkWarnings | checkFiles =>
    rw [task] at sweep
    cases sweep

/-- The settings of a command line name its interpreter, and the tool that it would find. -/
theorem settingsFor_tools {inv : Invocation} {s : Session} {settings : Settings}
    {threshold : Option Binary64} (h : settingsFor s.host inv = .ok (settings, threshold))
    (unknown : s.tools.cover = none) :
    ∃ path data, inv.config = some path ∧ Settings.documentAt s.host path = .ok data ∧
      settings.perl = interpreter inv s.host data ∧
      (isSweep inv.task = true → Tools.coverFor settings.cover s = coverTool inv s.host data) := by
  obtain ⟨path, expected, h⟩ := Settings.bind_answered h
  obtain ⟨loaded, ok, h⟩ := Settings.bind_answered h
  obtain ⟨limit, -, h⟩ := Settings.bind_answered h
  obtain ⟨data, read, perl, cover⟩ := Settings.load_tools ok
  have named : inv.config = some path := by
    cases config : inv.config with
    | none =>
      rw [config] at expected
      cases expected
    | some other =>
      rw [config] at expected
      cases expected
      rfl
  cases h
  refine ⟨path, data, named, read, ?_, ?_⟩
  · rw [override_perl, perl, interpreter]
    simp only [firstGiven_cons, Option.getD_or]
    rfl
  · intro sweep
    rw [Tools.coverFor, unknown, override_cover sweep, cover, given_or, given_or, coverTool]
    simp only [firstGiven_cons, Option.or_assoc]
    rfl

/-- Closing the report starts no command. -/
theorem finish_requests (s : Session) : (reached (finish s)).requests = s.requests :=
  reached_bind (P := fun t => t.requests = s.requests) (report_keeps (·.finalize) s).2.2
    fun _ _ _ same => same

section MayRun

variable {settings : Settings} {task : Task} {s : Session} {program : Text}
  (h : MayRun settings task s program)

include h

theorem MayRun.either : program = settings.perl ∨
    isSweep task = true ∧ Tools.coverFor settings.cover s = some program := by
  cases task with
  | checkCover limit cover dirs =>
    obtain ⟨tool, found, rfl | rfl⟩ := h
    · exact .inl rfl
    · exact .inr ⟨rfl, found⟩
  | checkSyntax | checkStrict | checkWarnings | checkFiles => exact .inl h

theorem MayRun.found (sweep : isSweep task = true) : Tools.coverFor settings.cover s ≠ none := by
  cases task with
  | checkCover limit cover dirs =>
    obtain ⟨tool, found, -⟩ := h
    rw [found]
    exact Option.some_ne_none tool
  | checkSyntax | checkStrict | checkWarnings | checkFiles => cases sweep

end MayRun

/-- Every command of a run is run by a program that its task may have. -/
def Keeps (settings : Settings) (task : Task) (s t : Session) : Prop :=
  ∀ c ∈ t.requests, ∃ program ∈ c.argv.head?, MayRun settings task s program

/-- What a task starts is all that is started from it to the end of the run. -/
theorem perform_keeps (settings : Settings) (threshold : Option Binary64) (task : Task)
    {s : Session} (quiet : s.requests = []) :
    Keeps settings task s (reached ((perform settings threshold task >>= fun _ =>
      finish >>= fun summary => pure (if summary.isOk then 0 else 1 : Nat)) s)) := by
  obtain ⟨commands, ops, ledger, -, started⟩ := tidy_task settings threshold task s
  apply reached_bind
  · intro c member
    rw [ledger.requests, quiet, List.nil_append] at member
    exact started c member
  · intro _ t _ performed
    apply reached_bind
    · intro c member
      rw [finish_requests] at member
      exact performed c member
    · intro summary u _ closed
      exact closed

/-- Commands are started by the task of a command line only. -/
theorem carryOut_requests (inv : Invocation) {s : Session} (quiet : s.requests = []) :
    (reached (carryOut inv s)).requests = [] ∨
      ∃ u settings threshold v, configureLog inv s = .ok () u ∧
        settingsFor u.host inv = .ok (settings, threshold) ∧ declarePlan inv.plan u = .ok () v ∧
        Keeps settings inv.task v (reached (carryOut inv s)) := by
  obtain ⟨journal, -, -⟩ := configureLog_reached inv s
  cases configured : configureLog inv s with
  | error fault u =>
    rw [configured, reached] at journal
    left
    rw [carryOut, bind_error configured, reached, Session.requests, journal]
    exact quiet
  | ok _ u =>
    rw [configured, reached] at journal
    have silent : u.requests = [] := by
      rw [Session.requests, journal]
      exact quiet
    have loaded := loadSettings_eq inv u
    rw [carryOut, bind_eq configured]
    cases good : settingsFor u.host inv with
    | error fault =>
      rw [good] at loaded
      left
      rw [bind_eq (attempt_eq_error loaded)]
      cases fault with
      | settings cause => exact (tell_requests u rfl).trans silent
      | _ => exact silent
    | ok answer =>
      obtain ⟨settings, threshold⟩ := answer
      rw [good] at loaded
      rw [bind_eq (attempt_eq_ok loaded)]
      dsimp only
      obtain ⟨-, -, requests⟩ := declarePlan_keeps inv.plan u
      cases planned : declarePlan inv.plan u with
      | error fault v =>
        rw [planned, reached, silent] at requests
        left
        rw [bind_eq (attempt_eq_error planned)]
        cases fault with
        | plan cause => exact (tell_requests v rfl).trans requests
        | _ => exact requests
      | ok _ v =>
        rw [planned, reached, silent] at requests
        right
        refine ⟨u, settings, threshold, v, rfl, good, planned, ?_⟩
        rw [bind_eq (attempt_eq_ok planned)]
        exact perform_keeps settings threshold inv.task requests

/-- A command line that is not carried out starts nothing. -/
theorem run_refused {argv : List Text} {s : Session} {stop : Stop} (quiet : s.requests = [])
    (refused : Options.read (columns s.host.environment - 2) argv = .error stop) :
    (reached (run argv s)).requests = [] := by
  have here : (get : Audit Session) s = .ok s s := rfl
  rw [run, bind_eq here, refused]
  cases stop with
  | help text => exact (tell_requests s rfl).trans quiet
  | refused text => exact (tell_requests s rfl).trans quiet

/-- The programs of a run are chosen by one rule, whatever the run comes to: the first that is given
and not empty, by the command line, by the environment, by the settings file. Without any of these
the interpreter is `perl`, and the tool is looked for on the search path. If a command is started at
all, it was for a command line that is accepted and settings that could be read; and a sweep has
found its tool. -/
theorem commands_by_precedence (host : Host) (argv : List Text) :
    let t := reached (run argv (Session.start host))
    t.requests = [] ∨
      ∃ inv u path data, Options.read (columns host.environment - 2) argv = .ok inv ∧
        configureLog inv (Session.start host) = .ok () u ∧ inv.config = some path ∧
        Settings.documentAt u.host path = .ok data ∧
        (∀ c ∈ t.requests, c.argv.head? = some (interpreter inv u.host data) ∨
          isSweep inv.task = true ∧ c.argv.head? = coverTool inv u.host data) ∧
        (isSweep inv.task = true → coverTool inv u.host data ≠ none) := by
  intro t
  cases accepted : Options.read (columns host.environment - 2) argv with
  | error stop => exact .inl (run_refused (s := Session.start host) rfl accepted)
  | ok inv =>
    have carried : run argv (Session.start host) = carryOut inv (Session.start host) :=
      run_eq_carryOut (s := Session.start host) accepted
    have same : t = reached (carryOut inv (Session.start host)) := congrArg reached carried
    rw [same]
    obtain nothing | ⟨u, settings, threshold, v, configured, loaded, planned, keeps⟩ :=
      carryOut_requests inv (s := Session.start host) rfl
    · exact .inl nothing
    · obtain ⟨machine, known, -⟩ := declarePlan_keeps inv.plan u
      obtain ⟨-, -, found⟩ := configureLog_reached inv (Session.start host)
      rw [planned, reached] at machine known
      rw [configured, reached] at found
      have unknown : v.tools.cover = none := by rw [known, found, Session.start, Tools.unknown]
      rw [← machine] at loaded
      obtain ⟨path, data, named, read, perl, cover⟩ := settingsFor_tools loaded unknown
      rw [machine] at read perl cover
      cases requests : (reached (carryOut inv (Session.start host))).requests with
      | nil => exact .inl rfl
      | cons first rest =>
        refine .inr ⟨inv, u, path, data, rfl, configured, named, read, ?_, ?_⟩
        · intro c member
          obtain ⟨program, head, may⟩ := keeps c (requests ▸ member)
          rw [head, ← perl]
          obtain rfl | ⟨sweep, tool⟩ := MayRun.either may
          · exact .inl rfl
          · exact .inr ⟨sweep, (cover sweep ▸ tool).symm⟩
        · intro sweep
          obtain ⟨program, -, may⟩ := keeps first (requests ▸ List.mem_cons_self)
          rw [← cover sweep]
          exact MayRun.found may sweep

end Cli

end PerlAudit
