import PerlAudit.Fault
import PerlAudit.Files.Disk
import PerlAudit.Source.Pragma

namespace PerlAudit.Source

open Text Files

/-- Where a pragma was found, and how many lines of code were looked at. -/
structure Scan where
  found : Bool
  line : Option Nat
  scanned : Nat
  error : Option Text
  deriving DecidableEq, Repr

namespace Scan

def missing (scanned : Nat) : Scan := ⟨false, none, scanned, none⟩

def hit (line scanned : Nat) : Scan := ⟨true, some line, scanned, none⟩

def failed (error : Text) : Scan := ⟨false, none, 0, some error⟩

end Scan

inductive Region where
  | code
  | doc
  deriving DecidableEq, Repr

/-- What to look for: the pragma, whether a first line with a warning switch counts, and whether any
other line does. -/
structure Search where
  pragma : Line → Bool
  shebang : Bool
  body : Bool

/-- Scans lines, the first of which has the given number, after `scanned` lines of code. -/
def scanLines (pragma : Line → Bool) (region : Region) (number scanned : Nat) : List Line → Scan
  | [] => .missing scanned
  | line :: rest =>
    if isComment line then scanLines pragma region (number + 1) scanned rest
    else if region = .doc || opensDoc line then
      scanLines pragma (if closesDoc line then .code else .doc) (number + 1) scanned rest
    else if endsCode line then .missing scanned
    else if pragma line then .hit number (scanned + 1)
    else scanLines pragma region (number + 1) (scanned + 1) rest

def Search.lines (search : Search) : List Line → Scan
  | [] => .missing 0
  | first :: rest =>
    if search.shebang && shebangWarns first then .hit 1 0
    else if search.body then scanLines search.pragma .code 1 0 (first :: rest)
    else .missing 0

/-- The lines of a text file, whose bytes may be damaged and whose lines may end in any style. -/
def linesOf (content : Bytes) : List Line := lines (unifyNewlines (decode content))

def Search.content (search : Search) (content : Bytes) : Scan := search.lines (linesOf content)

/-- Scans a file. One that cannot be opened is a scan that failed, but one that fails while it is
read is a fault. -/
def Search.file (search : Search) (disk : Disk) (path : Text) : Except Fault Scan :=
  match nameFlaw? path, disk.read path with
  | some flaw, _ => .error (.name flaw)
  | none, .error (.opening reason) =>
    .ok (.failed ("Could not open " ++ path ++ ": " ++ reason.text))
  | none, .error (.reading reason) => .error (.reading reason)
  | none, .ok content => .ok (search.content content)

def strictSearch : Search := ⟨enablesStrict, false, true⟩

/-- Warnings may be enabled by a script's first line. An old interpreter has no pragma for them. -/
def warningsSearch (isScript capable : Bool) : Search := ⟨enablesWarnings, isScript, capable⟩

end PerlAudit.Source
