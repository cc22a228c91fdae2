import PerlAudit.Document.Read
import PerlAudit.Settings.Basic
import PerlAudit.Settings.Coerce

/-!
Loading settings. A file that is missing or empty leaves the defaults, and the environment has the
last word on the tools.
-/

namespace PerlAudit.Settings

open Text Files Number

def fileName : Text := ".perlstrict.yml"

/-- How many collections of a settings document lie in one another as far as settings go: a section
holds lists at most. -/
def documentDepth : Nat := 3

/-- Reads settings documents. -/
def readDocument : List Char → Document.Reading Value := Document.read documentDepth

def perlVariable : Text := "PERLSTRICT_PERL"

def coverVariable : Text := "PERLSTRICT_COVER"

/-- The home directory of a user. -/
def userHome? (host : Host) (user : Text) : Option Text := host.homes.lookup user

/-- The home directory that the name of a user stands for, or no name for the user that runs. -/
def homeOf? (host : Host) (user : Text) : Option Text :=
  let home? := if user.isEmpty then (host.getVar? "HOME").or (userHome? host "root")
    else userHome? host user
  home?.map fun home =>
    let trimmed := dropEndWhile (·.is '/') home
    if trimmed.isEmpty then "/" else trimmed

/-- Replaces a home directory at the beginning of a path. -/
def expandHome (host : Host) (path : Text) : Except Fault Text :=
  match Path.names path with
  | (.char '~' :: user) :: rest =>
    match nameFlaw? user, homeOf? host user with
    | some flaw, _ => .error (.name flaw)
    | none, none => .error .homeless
    | none, some home =>
      if home.head? == some '~' then .error .homeless
      else .ok (Path.compact (Path.joinAll (home :: rest)))
  | _ => .ok path

/-- Looks for something at a path. Finding nothing is no fault. -/
def lookAt (disk : Disk) (path : Text) : Except Fault (Option Node) :=
  match disk.find path with
  | .ok (_, node) => .ok (some node)
  | .error reason =>
    if [.noEntry, .notDirectory, .linkLoop].contains reason then .ok none
    else .error (.file reason path)

/-- A path with all links resolved. What it leads to is looked at, so it must not be a loop. -/
def resolve (disk : Disk) (path : Text) : Except Fault Text := do
  let real := Path.compact (← disk.realPath path)
  match nameFlaw? real, disk.find real with
  | some flaw, _ => throw (.name flaw)
  | none, .error .linkLoop => throw (.linkLoop real)
  | none, _ => return real

/-- The settings file: the path itself, or in the directory it names. -/
def locate (host : Host) (path : Text) : Except Fault Text := do
  let path ← expandHome host (Path.compact path)
  let node ← lookAt host.disk path
  resolve host.disk (if node.any Node.isDirectory then Path.join path fileName else path)

/-- The settings document of a file. -/
def readFile (host : Host) (path : Text) : Except Fault Value := do
  let name := (Path.names path).getLast?.getD []
  match host.disk.read path with
  | .error (.opening reason) => throw (.file reason path)
  | .error (.reading reason) => throw (.reading reason)
  | .ok content =>
    match decodeStrict content with
    | .error damage => throw (.damaged damage)
    | .ok chars =>
      let text := unifyNewlines chars
      if (trim text).isEmpty then return .mapping []
      match host.readDocument text with
      | .error .malformed => throw (.settings (.malformed name))
      | .error (.value fault) => throw fault
      | .ok .null => return .mapping []
      | .ok (.mapping entries) => return .mapping entries
      | .ok _ => throw (.settings (.notMapping name))

def entry (data : Value) (key : Text) : Value := (data.get? key).getD .null

/-- The coverage section. An empty one changes nothing. -/
def withCoverage (s : Settings) (data : Value) : Except Fault Settings :=
  match data.asMapping with
  | .mapping (_ :: _) => do
    let cover ← (entry data "cover").asText
    match entry data "threshold" with
    | .null => return { s with cover }
    | threshold =>
      match ← threshold.asNumber with
      | none => throw (.settings .thresholdNotNumber)
      | some x =>
        let threshold ← checkThreshold x
        return { s with cover, threshold := .real threshold }
  | _ => .ok s

/-- What a settings document changes. -/
def withDocument (s : Settings) (data : Value) : Except Fault Settings := do
  let perl ← (entry data "perl").asText
  let includeDirs ←
    match data.get? "include_dirs" with
    | some dirs => dirs.asTexts
    | none => .ok s.includeDirs
  let exclude ← (entry data "exclude").asTexts
  let changed :=
    { s with
      perl := (given perl).getD s.perl
      includeDirs
      exclude
      testSyntax := (entry data "test_syntax").asTruth.getD s.testSyntax
      testStrict := (entry data "test_strict").asTruth.getD s.testStrict
      testWarnings := (entry data "test_warnings").asTruth.getD s.testWarnings
      canUseWarnings := (entry data "can_use_warnings").asTruth }
  changed.withCoverage (entry data "coverage")

/-- What the environment changes. -/
def withEnvironment (s : Settings) (environment : Environment) : Settings :=
  let named (name : Text) := given (environment.get? name)
  { s with
    perl := (named perlVariable).getD s.perl
    cover := (named coverVariable).or s.cover }

/-- Loads the settings that a path names. -/
def load (host : Host) (environment : Environment) (path : Text) :
    Except Fault Settings := do
  let file ← locate host path
  let root ← resolve host.disk (Path.parent file)
  let node ← lookAt host.disk file
  let data ← if node.isSome then readFile host file else .ok (.mapping [])
  let settings ← (Settings.default root).withDocument data
  return settings.withEnvironment environment

end PerlAudit.Settings
