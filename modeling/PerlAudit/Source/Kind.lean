import PerlAudit.Fault
import PerlAudit.Files.Disk
import PerlAudit.Source.Pragma

namespace PerlAudit.Source

open Text Files

inductive Kind where
  | moduleOnly
  | scriptOnly
  | both
  | neither
  deriving DecidableEq, Repr

namespace Kind

def ofFlags : (isModule isScript : Bool) → Kind
  | true, true => both
  | true, false => moduleOnly
  | false, true => scriptOnly
  | false, false => neither

def isPerl : Kind → Bool
  | neither => false
  | _ => true

def isModule : Kind → Bool
  | moduleOnly => true
  | both => true
  | _ => false

def isScript : Kind → Bool
  | scriptOnly => true
  | both => true
  | _ => false

end Kind

/-- Whether a path ends in `ending`, of any case and perhaps before a last line feed. -/
def endsIn (ending : List Char) (path : List Char) : Bool :=
  let body :=
    match path.getLast? with
    | some '\n' => path.dropLast
    | _ => path
  ending.isSuffixOf (body.map Char.toLower) || ending.isSuffixOf (path.map Char.toLower)

/-- A module is named `Foo::Bar` or kept in a `.pm` file. -/
def isModule (path : Text) : Bool :=
  endsIn ".pm".toList path.chars || occurs "::".toList path.chars

def isScriptName (path : Text) : Bool :=
  endsIn ".pl".toList path.chars || ".t".toList.isSuffixOf path.chars

/-- As much of a first line as is looked at. -/
def firstLineLimit : Nat := 4096

def firstBytes (content : Bytes) : Bytes :=
  let start := content.take firstLineLimit
  let line := start.takeWhile (· != 10)
  start.take (line.length + 1)

/-- The first line of a file that can be read and is not empty. -/
def firstLine (disk : Disk) (path : Text) : Except Fault (Option Line) :=
  match nameFlaw? path, disk.read path with
  | some flaw, _ => .error (.name flaw)
  | none, .error _ => .ok none
  | none, .ok content =>
    let first := firstBytes content
    .ok (if first.isEmpty then none else some (decode first))

def isScript (disk : Disk) (path : Text) : Except Fault Bool :=
  if isScriptName path then .ok true
  else (firstLine disk path).map fun line => line.any isShebang

def classify (disk : Disk) (path : Text) : Except Fault Kind :=
  (isScript disk path).map (Kind.ofFlags (isModule path))

end PerlAudit.Source
