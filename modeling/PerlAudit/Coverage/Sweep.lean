import PerlAudit.Coverage.Report
import PerlAudit.Locate
import PerlAudit.Number.Decimal
import PerlAudit.Session

/-!
A coverage sweep: reset the tool's database, run each script under it, and hold the total it reports
against a threshold. Each step reports its result at once; only a failed reset ends the sweep early.
-/

namespace PerlAudit.Coverage

open Text Number Source

/-- Whether a file is a script that is neither hidden nor the running one, whose path is `self`. -/
def isTarget (disk : Files.Disk) (self : Option Text) (hidden : Text → Bool) (path : Text) :
    Except Fault Bool := do
  if ← isScript disk path then
    match self with
    | none => return !hidden path
    | some self => return (← disk.realPath path) != self && !hidden path
  else return false

/-- The scripts below some directories, without the running script, if it is given, and those
hidden. -/
def targets (bases : List Text) (own : Option Text) (hidden : Text → Bool) :
    Audit (List Text) := do
  let s ← get
  let self ← Audit.lift ((given own).mapM s.host.disk.realPath)
  let all ← Locate.files bases (own.getD s.host.script)
  let disk ← Audit.disk
  Audit.lift (Locate.keep (isTarget disk self hidden) all)

/-- Whether a text holds nothing but blanks. -/
def isBlankText (t : Text) : Bool := t.dropBlanks.isEmpty

/-- Why a command is not good: its refusal, what it wrote, or its status. -/
def detail (answer : Command.Completion) : Text :=
  match given answer.error with
  | some error => error
  | none =>
    if isBlankText answer.output then
      "exit status " ++ (answer.status.map toString).getD "None"
    else answer.output.dropBlanks

/-- Whether a script ran well under the tool. -/
def captureResult (path : Text) (answer : Command.Completion) : Tap.Result :=
  let label := "Coverage captured from " ++ path
  if answer.isOk then .passed label else .failed label (some (detail answer))

def measured (path : Text) (answer : Command.Completion) : Measured :=
  ⟨path, answer.status, (given answer.error).getD answer.output⟩

/-- Runs one script under the tool. -/
def measure (perl path : Text) : Audit Measured := do
  let answer ← Audit.run [perl, "-MDevel::Cover", path] { discardOutput := true }
  Audit.emit (captureResult path answer)
  return measured path answer

def measureAll (perl : Text) : List Text → Audit (List Measured)
  | [] => return []
  | path :: rest => do
    let first ← measure perl path
    let more ← measureAll perl rest
    return first :: more

def resetFailure (cover : Text) (answer : Command.Completion) : Tap.Result :=
  .failed ("Reset coverage database with " ++ cover ++ " -delete")
    (some ("Cover binary " ++ cover ++ " is not usable: " ++ detail answer))

/-- What the tool reported. One that did not run reported nothing. -/
def reportOf (answer : Command.Completion) : Text :=
  if answer.error.isNone then answer.output else []

/-- Whether the tool reported anything. -/
def reportResult (answer : Command.Completion) (report : Text) : Tap.Result :=
  if isBlankText report then
    .failed "Got cover" (some ((given answer.error).getD (ofString "cover produced no report")))
  else .passed "Got cover"

/-- Whether the total reaches the threshold. -/
def gateResult (run : Run) : Except Fault Tap.Result := do
  let limit ← run.threshold.text
  match run.total, totalText? run.report with
  | some _, some figures =>
    let label : Text := "coverage = " ++ figures ++ "% >= " ++ limit ++ "%"
    if run.passed then return .passed label
    else
      return .failed label
        (some ("Total coverage " ++ figures ++ "% is below the " ++ limit ++ "% threshold"))
  | _, _ =>
    return .failed ("coverage >= " ++ limit ++ "%")
      (some "Could not find a Total line in the cover report")

/-- Runs the scripts and takes the report. -/
def gather (perl cover : Text) (run : Run) : Audit Run := do
  let files ← measureAll perl run.targets
  let answer ← Audit.run [cover] { discardErrors := true }
  let report := reportOf answer
  Audit.emit (reportResult answer report)
  let run := { run with files, report, total := total? report }
  let shown := (run.total.map Binary64.shortest).getD "None"
  Audit.debug "coverage"
    ("cover total " ++ shown ++ " over " ++ toString files.length ++ " file(s)")
  return run

/-- Holds the total against the threshold and reports the result. -/
def judge (run : Run) : Audit Run := do
  Audit.emit (← Audit.lift (gateResult run))
  return run

def sweep (perl : Text) (cover : Option Text) (threshold : Threshold) (targets : List Text) :
    Audit Run := do
  let run := Run.start threshold targets
  match given cover with
  | none =>
    Audit.emit (.skipped "Coverage" (some "Cover binary not found"))
    return run
  | some cover =>
    let reset ← Audit.run [cover, "-delete"] { mergeErrors := true }
    if reset.isOk then gather perl cover run >>= judge
    else
      Audit.emit (resetFailure cover reset)
      return run

end PerlAudit.Coverage
