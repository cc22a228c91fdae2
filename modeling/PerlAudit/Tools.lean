import PerlAudit.Number.Decimal
import PerlAudit.Session

/-!
The tools of a run. What has been found out about one is kept, so that a tool is asked at most once.
-/

namespace PerlAudit.Tools

open Text Files Number

def coverName : Text := "cover"

/-- Where programs are looked for if the environment does not say. -/
def standardPath : Text := "/bin:/usr/bin"

/-- The first directory of a search path that holds a program. -/
def search (disk : Disk) (path name : Text) : Option Text :=
  if path.isEmpty then none
  else
    ((splitAt (.char ':') path).map fun directory => Path.join directory name).find?
      disk.isExecutable

/-- The coverage tool: the one found before, the one asked for, or one on the search path. -/
def coverPath (wanted : Option Text) : Audit (Option Text) := do
  let s ← get
  match s.tools.cover, given wanted with
  | some found, _ => return some found
  | none, some path =>
    set { s with tools.cover := some path }
    return some path
  | none, none =>
    let found := search s.host.disk ((s.host.getVar? "PATH").getD standardPath) coverName
    set { s with tools.cover := found }
    Audit.debug "tools" ("cover binary resolved to " ++ found.getD "None")
    return found

/-- A number at the beginning of a text: digits, and more digits behind a point. -/
def leadingNumber? (s : List Char) : Option (List Char) :=
  let body := trimStart s
  let whole := body.takeWhile isDigit
  if whole.isEmpty then none
  else
    match body.drop whole.length with
    | '.' :: rest =>
      let places := rest.takeWhile isDigit
      some (if places.isEmpty then whole else whole ++ '.' :: places)
    | _ => some whole

def versionOf (answer : Command.Completion) : Option Binary64 :=
  if answer.isOk then (leadingNumber? answer.output.chars).bind Binary64.parse? else none

/-- The version an interpreter gives itself, if it gives one. -/
def version (perl : Text) : Audit (Option Binary64) := do
  match (← get).tools.versions.lookup perl with
  | some known => return known
  | none =>
    let answer ← Audit.run [perl, "-e", "print $]"] { discardErrors := true }
    let version := versionOf answer
    let shown := (version.map Binary64.shortest).getD "None"
    Audit.debug "tools" ("perl " ++ perl ++ " reports version " ++ shown)
    modify fun s => { s with tools.versions := (perl, version) :: s.tools.versions }
    return version

/-- The first version that has the `warnings` pragma. -/
def warningsVersion : Binary64 := .ofDecimal false 5006 (-3)

/-- An interpreter that gives no version is taken to be recent. -/
def canUseWarnings (perl : Text) : Audit Bool := do
  let version ← version perl
  return version.all (warningsVersion.le ·)

end PerlAudit.Tools
