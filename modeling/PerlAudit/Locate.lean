import PerlAudit.Files.Listing
import PerlAudit.Session
import PerlAudit.Source.Kind

namespace PerlAudit.Locate

open Files Source

/-- The directory of a script; an empty name stands for the working directory itself. -/
def scriptDirectory (cwd script : Text) : Text :=
  if script.isEmpty then cwd else Path.parent (Path.absolute cwd script)

def baseDirectory (cwd script : Text) : Text :=
  Path.normalize (Path.join (scriptDirectory cwd script) "..")

def logSkipped : List (Text × Errno) → Audit Unit
  | [] => return
  | (path, reason) :: rest => do
    Audit.debug "locator" ("Skipping unreadable path " ++ path ++ ": " ++ reason.text)
    logSkipped rest

def below : List Text → Audit (List Text)
  | [] => return []
  | base :: rest => do
    Audit.expectName base
    let listing := (← Audit.disk).listing base
    logSkipped listing.skipped
    let more ← below rest
    return listing.files ++ more

/-- The readable files below some directories. -/
def files (bases : List Text) (script : Text) : Audit (List Text) := do
  let cwd := (← Audit.disk).cwd
  below (if bases.isEmpty then [baseDirectory cwd script] else bases)

/-- Keeps the files that a test, which may fault, accepts. -/
def keep (test : Text → Except Fault Bool) : List Text → Except Fault (List Text)
  | [] => .ok []
  | path :: rest => do
    let kept ← test path
    let more ← keep test rest
    return if kept then path :: more else more

/-- The Perl files below some directories. -/
def perlFiles (bases : List Text) (script : Text) : Audit (List Text) := do
  let all ← files bases script
  let disk ← Audit.disk
  Audit.lift (keep (fun path => (classify disk path).map (·.isPerl)) all)

end PerlAudit.Locate
