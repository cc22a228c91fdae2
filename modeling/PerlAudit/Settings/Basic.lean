import PerlAudit.Files.Disk
import PerlAudit.Glob
import PerlAudit.Number.Decimal
import PerlAudit.Session
import PerlAudit.Source.ModuleName

namespace PerlAudit

open Files Number

structure Settings where
  /-- The directory that relative entries are seen from. -/
  root : Text
  perl : Text
  includeDirs : List Text
  exclude : List Text
  testSyntax : Bool
  testStrict : Bool
  testWarnings : Bool
  canUseWarnings : Option Bool
  cover : Option Text
  threshold : Coverage.Threshold
  deriving DecidableEq, Repr

namespace Settings

def default (root : Text) : Settings :=
  { root
    perl := "perl"
    includeDirs := ["lib"]
    exclude := []
    testSyntax := true
    testStrict := true
    testWarnings := false
    canUseWarnings := none
    cover := none
    threshold := .real (.ofDecimal false 50 0) }

/-- A directory as seen from the root. -/
def fromRoot (s : Settings) (directory : Text) : Text := Path.join s.root directory

/-- Where modules are looked for: the include directories, then the library path. -/
def searchRoots (s : Settings) (library : Text) : List Text :=
  Source.searchRoots (s.includeDirs.map s.fromRoot) library

/-- Whether one pattern excludes a path: by naming it, or by matching it as it is given or as it is
seen from the root. -/
def excludedBy (cwd root path pattern : Text) : Bool :=
  let plain := Path.normalize path
  plain == Path.normalize pattern || Glob.test pattern plain ||
    Glob.test pattern (Path.relative cwd (Path.absolute cwd path) root)

def excludes (s : Settings) (cwd path : Text) : Bool :=
  s.exclude.any (excludedBy cwd s.root path)

/-- A threshold is a percentage. No comparison rules out what is not a number. -/
def checkThreshold (x : Binary64) : Except Fault Binary64 :=
  if x.lt .zero || Binary64.lt (.ofDecimal false 100 0) x then
    .error (.settings (.thresholdRange x.shortest))
  else .ok x

end Settings

end PerlAudit
