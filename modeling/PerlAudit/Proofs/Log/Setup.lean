import PerlAudit.Proofs.Session.Tidy

/-!
Setting up the log. A request for handlers replaces those of the family, forgets what has been
decided about loggers and touches nothing else but the log file that it opens. It faults if that
file cannot be opened, and then the console is there without it.
-/

namespace PerlAudit.Log

open Audit Files Session Text

/-- The log files that stay open when handlers have been closed. -/
def leftOpen (handlers : List Handler) (opened : List Location) : List Location :=
  handlers.foldl (fun opened h => h.place?.elim opened opened.erase) opened

theorem leftOpen_places (handlers : List Handler) :
    leftOpen handlers (handlers.filterMap Handler.place?) = [] := by
  induction handlers with
  | nil => rfl
  | cons h rest ih =>
    rw [leftOpen, List.foldl_cons]
    cases place : h.place? with
    | none =>
      rw [List.filterMap_cons_none place]
      exact ih
    | some place' =>
      rw [List.filterMap_cons_some place, Option.elim_some, List.erase_cons_head]
      exact ih

namespace Sinks

/-- Handlers that are taken off one after the other are all gone in the end, and only their files
are closed. -/
theorem foldl_drop {handlers : List Handler} {s : Sinks} (all : s.handlers = handlers) :
    handlers.foldl drop s = { s with handlers := [], opened := leftOpen handlers s.opened } := by
  induction handlers generalizing s with
  | nil =>
    obtain ⟨level, propagates, handlers, opened⟩ := s
    cases all
    rfl
  | cons h rest ih =>
    have others : (s.drop h).handlers = rest := by
      rw [drop, all]
      exact List.erase_cons_head h rest
    rw [List.foldl_cons, ih others]
    rfl

theorem dropAll_eq (s : Sinks) :
    s.dropAll = { s with handlers := [], opened := leftOpen s.handlers s.opened } :=
  foldl_drop rfl

/-- The files that are open are those that the handlers write to. -/
def Sound (s : Sinks) : Prop := s.opened = s.handlers.filterMap Handler.place?

theorem sound_initial : Sinks.initial.Sound := rfl

end Sinks

/-- The handlers that a request puts in place. -/
def requested (verbose : Bool) (file : Option Location) : List Handler :=
  ⟨levelFor verbose, .console, .console⟩ ::
    (file.map fun place => ⟨levelFor verbose, .file, .file place⟩).toList

theorem requested_places (verbose : Bool) (file : Option Location) :
    (requested verbose file).filterMap Handler.place? = file.toList := by
  cases file <;> rfl

/-- Opens a log file: the place where it lies and the disk with it, unless it cannot be opened. -/
def openLog? (d : Disk) (name : Text) : Option (Location × Disk) :=
  let path := Path.absolute d.cwd name
  if nameFlaw? path = none then (d.openForAppend path).toOption else none

/-- The session in which the handlers have been replaced. -/
def configured (s : Session) (verbose : Bool) (opened : Option (Location × Disk)) : Session :=
  { s with
    host.disk := (opened.map (·.2)).getD s.host.disk
    sinks :=
      { level := levelFor verbose
        propagates := false
        handlers := requested verbose (opened.map (·.1))
        opened := leftOpen s.sinks.handlers s.sinks.opened ++ (opened.map (·.1)).toList }
    loggers := (s.loggers.learn family).forget }

/-- The console is in place before the log file is opened, so it stays even if that fails. -/
theorem configureLog_cases (verbose : Bool) (file : Option Text) (s : Session) :
    let opened := file.bind (openLog? s.host.disk)
    (configureLog verbose file s = .ok () (configured s verbose opened) ∧
      (opened = none → file = none)) ∨
    ∃ fault, configureLog verbose file s = .error fault (configured s verbose opened) ∧
      opened = none ∧ file ≠ none := by
  let cleared := { s with
    sinks := { s.sinks with level := levelFor verbose, propagates := false }
    loggers := (s.loggers.learn family).forget }
  let console := configured s verbose none
  have begun : (modify fun s => { s with
        sinks := { s.sinks with level := levelFor verbose, propagates := false }
        loggers := (s.loggers.learn family).forget } : Audit Unit) s = .ok () cleared := rfl
  have placed : (modify fun s => { s with
        sinks := s.sinks.dropAll.add ⟨levelFor verbose, .console, .console⟩ } : Audit Unit)
      cleared = .ok () console := by
    have dropped := cleared.sinks.dropAll_eq
    change EStateM.Result.ok () { cleared with
      sinks := cleared.sinks.dropAll.add ⟨levelFor verbose, .console, .console⟩ } = _
    rw [dropped]
    simp [cleared, console, configured, Sinks.add, requested]
  have looked : disk console = .ok s.host.disk console := rfl
  unfold configureLog openLog?
  dsimp only
  rw [bind_eq begun, bind_eq placed]
  cases file with
  | none => exact .inl ⟨rfl, fun _ => rfl⟩
  | some name =>
    dsimp only
    rw [bind_eq looked, Option.bind_some]
    cases named : nameFlaw? (Path.absolute s.host.disk.cwd name) with
    | some flaw =>
      have refused : expectName (Path.absolute s.host.disk.cwd name) console =
          .error (.name flaw) console := by
        rw [expectName, named]
        rfl
      exact .inr ⟨.name flaw, bind_error refused, rfl, Option.some_ne_none name⟩
    | none =>
      have passed : expectName (Path.absolute s.host.disk.cwd name) console = .ok ⟨⟩ console := by
        rw [expectName, named]
        rfl
      rw [bind_eq passed]
      cases s.host.disk.openForAppend (Path.absolute s.host.disk.cwd name) with
      | error reason => exact .inr ⟨_, rfl, rfl, Option.some_ne_none name⟩
      | ok opened =>
        obtain ⟨place, larger⟩ := opened
        refine .inl ⟨?_, fun nothing => by cases nothing⟩
        change EStateM.Result.ok () { console with
          host.disk := larger, sinks := console.sinks.addFile (levelFor verbose) place } = _
        simp [console, configured, Sinks.addFile, Sinks.add, requested, Except.toOption]

theorem reached_configureLog (verbose : Bool) (file : Option Text) (s : Session) :
    reached (configureLog verbose file s) =
      configured s verbose (file.bind (openLog? s.host.disk)) := by
  obtain ⟨answers, -⟩ | ⟨fault, faults, -⟩ := configureLog_cases verbose file s
  · rw [answers]
    rfl
  · rw [faults]
    rfl

/-- A request for sinks faults if a log file is asked for and cannot be opened, and only then. -/
theorem configureLog_faults_iff (verbose : Bool) (file : Option Text) (s : Session) :
    (∃ fault t, configureLog verbose file s = .error fault t) ↔
      file ≠ none ∧ file.bind (openLog? s.host.disk) = none := by
  obtain ⟨answers, closed⟩ | ⟨fault, faults, closed, given⟩ := configureLog_cases verbose file s
  · constructor
    · rintro ⟨fault, t, faults⟩
      rw [answers] at faults
      cases faults
    · rintro ⟨given, opening⟩
      exact absurd (closed opening) given
  · constructor
    · intro _
      exact ⟨given, closed⟩
    · intro _
      exact ⟨fault, _, faults⟩

end PerlAudit.Log
