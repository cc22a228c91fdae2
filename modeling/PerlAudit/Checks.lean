import PerlAudit.Coverage.Sweep
import PerlAudit.Document.Value
import PerlAudit.Settings.Basic
import PerlAudit.Source.Scan
import PerlAudit.SyntaxCheck
import PerlAudit.Tools

namespace PerlAudit.Checks

open Files Number Source

/-- A label, unless it is missing or empty. -/
def labelOr (label : Option Text) (other : Text) : Text :=
  (Text.given label).getD other

def searchRoots (settings : Settings) : Audit (List Text) := do
  return settings.searchRoots ((← Audit.getVar? "PERL5LIB").getD [])

/-- The path a check is about. -/
def resolve (settings : Settings) (file : Text) : Audit Text := do
  let roots ← searchRoots settings
  return modulePath (← Audit.disk) roots file

/-- Reports a result and tells whether it is a good one. -/
def report (result : Tap.Result) : Audit Bool := do
  Audit.emit result
  return result.isOk

/-- The interpreter compiles the file. -/
def syntaxOk (settings : Settings) (file : Text) (label : Option Text) : Audit Bool := do
  let text := labelOr label ("Syntax check " ++ file)
  let path ← resolve settings file
  let disk ← Audit.disk
  if !disk.isFile path || !disk.isReadable path then
    report (.failed text (some ("File " ++ path ++ " not found or not readable")))
  else
    let kind ← Audit.lift (classify disk path)
    if !kind.isPerl then
      report (.failed text (some (path ++ " is not a perl module or a perl script")))
    else
      let verdict ← SyntaxCheck.check settings.perl (← searchRoots settings) path
      report (if verdict.ok then .passed text else .failed text verdict.diagnostic)

/-- What a scan says about a check. -/
def scanResult (text : Text) (scan : Scan) (missing : Text) : Tap.Result :=
  match scan.error with
  | some error => .failed text (some error)
  | none => if scan.found then .passed text else .failed text (some missing)

/-- The file says `use strict;`. -/
def strictOk (settings : Settings) (file : Text) (label : Option Text) : Audit Bool := do
  let text := labelOr label ("use strict   " ++ file)
  let path ← resolve settings file
  let scan ← Audit.lift (strictSearch.file (← Audit.disk) path)
  report (scanResult text scan ("No 'use strict;' found in " ++ path))

def canUseWarnings (settings : Settings) : Audit Bool :=
  match settings.canUseWarnings with
  | some capable => return capable
  | none => Tools.canUseWarnings settings.perl

def skipReason : Text :=
  "This version of perl does not have use warnings - perl 5.6 or higher is required"

/-- The file enables warnings. A module is skipped if the interpreter is too old to have them. -/
def warningsOk (settings : Settings) (file : Text) (label : Option Text) :
    Audit (Option Bool) := do
  let text := labelOr label ("use warnings " ++ file)
  let path ← resolve settings file
  let kind ← Audit.lift (classify (← Audit.disk) path)
  let capable ← canUseWarnings settings
  if kind.isModule && !kind.isScript && !capable then
    Audit.emit (.skipped text (some skipReason))
    return none
  else
    let scan ← Audit.lift ((warningsSearch kind.isScript capable).file (← Audit.disk) path)
    let ok ← report (scanResult text scan ("No 'use warnings' found in " ++ path))
    return some ok

/-- A check that is made only if it is wanted. -/
def wanted (enabled : Bool) (check : Audit Bool) : Audit Bool :=
  if enabled then check else return true

/-- The wanted checks of one file, in order. -/
def fileOk (settings : Settings) (path : Text) : Audit Bool := do
  let compiles ← wanted settings.testSyntax (syntaxOk settings path none)
  let strict ← wanted settings.testStrict (strictOk settings path none)
  let warns ← wanted settings.testWarnings (return (← warningsOk settings path none) != some false)
  return compiles && strict && warns

def filesOk (settings : Settings) : List Text → Audit Bool
  | [] => return true
  | path :: rest => do
    let first ← fileOk settings path
    let more ← filesOk settings rest
    return first && more

/-- Checks every Perl file below some directories. -/
def allFilesOk (settings : Settings) (script : Text) (bases : List Text) : Audit Bool := do
  let all ← Locate.perlFiles bases script
  let cwd := (← Audit.disk).cwd
  let files := all.filter fun path => !settings.excludes cwd path
  Audit.debug "checks" ("Checking " ++ toString files.length ++ " perl file(s)")
  Audit.ensurePlan
  filesOk settings files

/-- A threshold that was passed, as a number in range. -/
def limitOf (threshold : Value) : Except Fault Coverage.Threshold :=
  (threshold.toNumber.bind Settings.checkThreshold).map .real

/-- Faults that make a threshold a bad one. An integer beyond all numbers is not among them. -/
def isBadThreshold : Fault → Bool
  | .integerTooLarge => false
  | _ => true

/-- Runs the sweep with a threshold known to be good. -/
def coverageSweep (settings : Settings) (script : Text) (limit : Coverage.Threshold)
    (bases : List Text) : Audit Coverage.Run := do
  let cwd := (← Audit.disk).cwd
  let search :=
    if !bases.isEmpty then bases
    else [if script.isEmpty then Text.ofString "." else Locate.scriptDirectory cwd script]
  let own := if script.isEmpty then none else some script
  let targets ← Coverage.targets search own (settings.excludes cwd)
  Audit.ensurePlan
  let cover ← Tools.coverPath settings.cover
  let run ← Coverage.sweep settings.perl cover limit targets
  modify fun s => { s with sweep := some run }
  return run

/-- Measures the coverage of every script below some directories. A bad threshold is a failed
result. -/
def coverageOk (settings : Settings) (script : Text) (threshold : Option Value)
    (bases : List Text) : Audit (Option Binary64) := do
  match threshold.map fun value => (value, limitOf value) with
  | none => return (← coverageSweep settings script settings.threshold bases).total
  | some (_, .ok limit) => return (← coverageSweep settings script limit bases).total
  | some (value, .error fault) =>
    if isBadThreshold fault then
      let shown ← Audit.lift (value.shown (← get).host.showDepth)
      Audit.emit (.failed ("coverage >= " ++ shown ++ "%") (some fault.message))
      modify fun s => { s with sweep := none }
      return none
    else throw fault

end PerlAudit.Checks
