import PerlAudit.Command.Basic
import PerlAudit.Coverage.Run
import PerlAudit.Document.Cursor
import PerlAudit.Document.Value
import PerlAudit.Environment
import PerlAudit.Fault
import PerlAudit.Log
import PerlAudit.Number.Binary64
import PerlAudit.Tap.Reporter

/-!
The state of a run: the machine it runs on, what has happened so far in order, the reporter and what
is known about tools. An action either answers or faults, and in both cases says which state it
reached.
-/

namespace PerlAudit

open Files Number

structure Host where
  disk : Disk
  environment : Environment
  /-- The users of the machine and their home directories. -/
  homes : List (Text × Text)
  /-- The name the running script was started by. -/
  script : Text
  respond : Command.Respond
  /-- Answers commands in place of the machine. -/
  standIn : Option Command.StandIn := none
  /-- What stands before each record of a log file. -/
  stamp : String
  /-- The handlers of the loggers above the family. -/
  listeners : List Log.Handler := []
  /-- Reads the value of a settings document. -/
  readDocument : List Char → Document.Reading Value
  /-- How many collections may lie in one another in a value that is shown. -/
  showDepth : Nat

def Host.getVar? (h : Host) (name : Text) : Option Text := h.environment.get? name

/-- What can be seen of a run from outside. A stream takes every text: that one may refuse a text
which it cannot encode, such as a half, is no part of this. -/
inductive Event where
  | started (request : Command.Request)
  | recorded (result : Tap.Result)
  | said (said : Tap.Said)
  | logged (text : Text)
  | printed (text : Text)
  | complained (text : Text)
  deriving DecidableEq, Repr

namespace Event

/-- What an event puts on standard output. -/
def outputText : Event → Text
  | said (.line line) => line.text ++ "\n"
  | printed text => text
  | _ => []

/-- What an event puts on standard error. -/
def errorText : Event → Text
  | said (.remark text) => text ++ "\n"
  | logged text => text
  | complained text => text
  | _ => []

end Event

/-- What has been found out about tools. -/
structure Tools where
  cover : Option Text
  versions : List (Text × Option Binary64)
  deriving DecidableEq, Repr

def Tools.unknown : Tools := ⟨none, []⟩

structure Session where
  host : Host
  sinks : Log.Sinks
  loggers : Log.Loggers
  journal : List Event
  reporter : Tap.Reporter
  tools : Tools
  /-- The last coverage sweep, unless the last was refused. -/
  sweep : Option Coverage.Run

namespace Session

def start (host : Host) : Session := ⟨host, .initial, .initial, [], .fresh, .unknown, none⟩

def tell (s : Session) (events : List Event) : Session := { s with journal := s.journal ++ events }

def startedBy (journal : List Event) : List Command.Request :=
  journal.filterMap fun
    | .started request => some request
    | _ => none

/-- The commands started so far. -/
def requests (s : Session) : List Command.Request := startedBy s.journal

end Session

abbrev Audit := EStateM Fault Session

namespace Audit

def lift {α : Type} (answer : Except Fault α) : Audit α :=
  match answer with
  | .ok a => pure a
  | .error fault => throw fault

/-- Faults unless a text can name a file. -/
def expectName (path : Text) : Audit Unit :=
  match Text.nameFlaw? path with
  | some flaw => throw (.name flaw)
  | none => pure ()

def disk : Audit Disk := return (← get).host.disk

def getVar? (name : Text) : Audit (Option Text) := return (← get).host.getVar? name

/-- The handlers that a logger's records come to: those of the family, if they come that far, and
those above it, unless the family keeps them from there. -/
def handlersFor (s : Session) (logger : Text) : List Log.Handler :=
  if s.loggers.reaches logger then
    s.sinks.handlers ++ if s.sinks.propagates then s.host.listeners else []
  else s.host.listeners

/-- Lets a handler write a record. A record that holds a half cannot be written to a file; what is
complained of then is left out. -/
def handle (r : Log.Record) (s : Session) (h : Log.Handler) : Session :=
  let text := h.form.text s.host.stamp r
  if r.level < h.level then s
  else
    match h.stream with
    | .console => s.tell [.logged text]
    | .file place =>
      if text.any (·.isHalf) then s
      else { s with host.disk := s.host.disk.append place (Text.encode text.chars) }

/-- Lets a logger decide whether it takes up records of a level. -/
def consider (s : Session) (logger : Text) (level : Log.Level) : Bool × Session :=
  let loggers := s.loggers.learn logger
  let threshold := s.sinks.threshold (loggers.reaches logger)
  (loggers.takes threshold logger level,
    { s with loggers := loggers.settle threshold logger level })

/-- Hands a record to a logger. The level of a record that is taken up must have a name. -/
def log (level : Log.Level) (name : Option Text) (message : Text) : Audit Unit := do
  let logger := Log.loggerName name
  let (taken, s) := consider (← get) logger level
  set s
  if taken then
    let levelName ← lift (Log.levelName level)
    let handlers := Log.orLastResort (handlersFor s logger)
    set (handlers.foldl (handle ⟨level, levelName, logger, message⟩) s)

def debug (name message : Text) : Audit Unit := log Log.debug (some name) message

/-- Replaces the handlers of the family. The console is in place before the log file is opened. -/
def configureLog (verbose : Bool) (file : Option Text) : Audit Unit := do
  let level := Log.levelFor verbose
  modify fun s =>
    { s with
      sinks := { s.sinks with level, propagates := false }
      loggers := (s.loggers.learn Log.family).forget }
  modify fun s => { s with sinks := s.sinks.dropAll.add ⟨level, .console, .console⟩ }
  match file with
  | none => return
  | some name =>
    let disk ← disk
    let path := Path.absolute disk.cwd name
    expectName path
    match disk.openForAppend path with
    | .error reason => throw (.file reason path)
    | .ok (place, disk) =>
      modify fun s => { s with host.disk := disk, sinks := s.sinks.addFile level place }

/-- Runs a command on the machine to its end. One that cannot be started is no fault. What the
machine makes of words that it cannot hand over, such as one with a half, is its own answer: they
are not checked as the names of files are. -/
def runHere (argv : List Text) (capture : Command.Capture) : Audit Command.Completion := do
  debug "process" ("Running " ++ Text.joinWith " " argv)
  match argv with
  | [] => throw .emptyCommand
  | program :: _ =>
    let request := Command.request argv capture
    let s ← get
    let reply := s.host.respond s.requests request
    set (s.tell [.started request])
    match reply with
    | .refused reason =>
      debug "process" ("Failed to start " ++ program ++ ": " ++ Command.refusalText program reason)
    | .finished _ _ status =>
      debug "process" (program ++ " exited with status " ++ toString status)
    return Command.complete argv program capture reply

/-- Runs a command, or has it answered by the stand-in. -/
def run (argv : List Text) (capture : Command.Capture) : Audit Command.Completion := do
  let s ← get
  match s.host.standIn with
  | none => runHere argv capture
  | some answer =>
    set (s.tell [.started (Command.request argv capture)])
    return answer s.requests argv capture

/-- Lets the reporter take a turn. It has changed even if it faults, and then has said nothing. -/
def report (turn : Tap.Reporter → Tap.Reporter × Except Fault (List Tap.Said)) : Audit Unit := do
  let s ← get
  let (reporter, answer) := turn s.reporter
  set { s with reporter }
  let said ← lift answer
  modify fun s => s.tell (said.map .said)

/-- Declares the number of results. -/
def plan (tests : Tap.Tests) : Audit Unit := report fun r => r.plan tests

def ensurePlan : Audit Unit := modify fun s => { s with reporter := s.reporter.ensurePlan }

/-- Reports a result. -/
def emit (result : Tap.Result) : Audit Unit :=
  modify fun s =>
    let (reporter, said) := s.reporter.ensurePlan.record result
    { s.tell (.recorded result :: said.map .said) with reporter }

/-- Closes the report. -/
def finish : Audit Tap.Summary := do
  report fun r => r.finalize
  return (← get).reporter.summary

end Audit

end PerlAudit
