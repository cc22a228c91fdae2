import PerlAudit.Checks
import PerlAudit.Options.Parse
import PerlAudit.Settings.Load

namespace PerlAudit.Cli

open Number Options

def complain (text : Text) : Audit Unit := modify fun s => s.tell [.complained text]

/-- Gives up over bad settings or a bad plan. -/
def giveUp (message : Text) : Audit Nat := do
  complain (programName ++ ": " ++ message ++ "\n")
  return 2

/-- Settings with what the command line says about them. -/
def override (settings : Settings) (inv : Invocation) : Settings :=
  let settings := { settings with perl := (Text.given inv.perl).getD settings.perl }
  match inv.task with
  | .checkCover _ cover _ => { settings with cover := (Text.given cover).or settings.cover }
  | .checkFiles true _ => { settings with testWarnings := true }
  | _ => settings

/-- The value of an option, where one is expected. -/
def expected {α : Type} (fault : Fault) (value : Option α) : Except Fault α :=
  match value with
  | some value => .ok value
  | none => .error fault

/-- The threshold of a task, if it was given one. -/
def thresholdOf : Task → Except Fault (Option Binary64)
  | .checkCover (some threshold) _ _ => do
    let x ← expected .noNumber threshold
    return some (← Settings.checkThreshold x)
  | _ => .ok none

def loadSettings (inv : Invocation) : Audit (Settings × Option Binary64) := do
  let host := (← get).host
  let path ← Audit.lift (expected .noPath inv.config)
  let settings ← Audit.lift (Settings.load host host.environment path)
  let threshold ← Audit.lift (thresholdOf inv.task)
  return (override settings inv, threshold)

/-- Makes a check of each file. -/
def each (check : Text → Audit Unit) : List Text → Audit Unit
  | [] => return
  | file :: rest => do
    check file
    each check rest

def perform (settings : Settings) (threshold : Option Binary64) : Task → Audit Unit
  | .checkSyntax files => each (fun file => discard (Checks.syntaxOk settings file none)) files
  | .checkStrict files => each (fun file => discard (Checks.strictOk settings file none)) files
  | .checkWarnings files => each (fun file => discard (Checks.warningsOk settings file none)) files
  | .checkFiles _ dirs =>
    discard (Checks.allFilesOk settings [] (if dirs.isEmpty then ["."] else dirs))
  | .checkCover _ _ dirs =>
    discard (Checks.coverageOk settings [] (threshold.map .number) dirs)

/-- The answer of an action that may fault, and the fault. -/
def attempt {α : Type} (action : Audit α) : Audit (Except Fault α) := fun s =>
  match action s with
  | .ok a s => .ok (.ok a) s
  | .error fault s => .ok (.error fault) s

def declarePlan : Option (Option Int) → Audit Unit
  | none => return
  | some count => do Audit.plan (.number (← Audit.lift (expected .noNumber count)))

/-- Sets up the log. The console is in place before it is found that the file has no name. -/
def configureLog (inv : Invocation) : Audit Unit :=
  match inv.logFile with
  | some none => do
    Audit.configureLog inv.verbose none
    throw .noPath
  | file => Audit.configureLog inv.verbose file.join

def carryOut (inv : Invocation) : Audit Nat := do
  configureLog inv
  match ← attempt (loadSettings inv) with
  | .error (.settings cause) => giveUp cause.message
  | .error fault => throw fault
  | .ok (settings, threshold) =>
    match ← attempt (declarePlan inv.plan) with
    | .error (.plan cause) => giveUp cause.message
    | .error fault => throw fault
    | .ok () =>
      perform settings threshold inv.task
      let summary ← Audit.finish
      return if summary.isOk then 0 else 1

/-- Runs a command line to its exit status. -/
def run (argv : List Text) : Audit Nat := do
  let width := columns (← get).host.environment - 2
  match Options.read width argv with
  | .error (.help text) =>
    modify fun s => s.tell [.printed text]
    return 0
  | .error (.refused text) =>
    complain text
    return 2
  | .ok inv => carryOut inv

end PerlAudit.Cli
