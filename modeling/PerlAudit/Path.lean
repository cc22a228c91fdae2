import PerlAudit.Text.Blank
import PerlAudit.Text.Lines

/-!
Path names as texts, without looking at any file. A name that begins with exactly two slashes is
kept apart from one that begins with one.
-/

namespace PerlAudit.Path

def isAbsolute (p : Text) : Bool := p.head? == some '/'

/-- The names between slashes, which may be empty. -/
def names (p : Text) : List Text := Text.splitAt (.char '/') p

def joinNames (names : List Text) : Text := Text.joinWith "/" names

/-- `b` as seen from `a`; an absolute `b` stands for itself. -/
def join (a b : Text) : Text :=
  if isAbsolute b then b
  else if a.isEmpty || a.getLast? == some '/' then a ++ b
  else a ++ "/" ++ b

def joinAll : List Text → Text
  | [] => []
  | first :: rest => rest.foldl join first

/-- The slashes that make a name absolute: none, one or two. -/
def rootOf : Text → Text
  | .char '/' :: .char '/' :: .char '/' :: _ => "/"
  | .char '/' :: .char '/' :: _ => "//"
  | .char '/' :: _ => "/"
  | _ => []

/-- One step of tidying: `kept` holds the names so far, the last first. -/
def tidyStep (rooted : Bool) (kept : List Text) (name : Text) : List Text :=
  if name == "" || name == "." then kept
  else if name != ".." then name :: kept
  else
    match kept with
    | [] => if rooted then [] else [name]
    | last :: rest => if last == ".." then name :: kept else rest

def tidy (rooted : Bool) (names : List Text) : List Text :=
  (names.foldl (tidyStep rooted) []).reverse

/-- Collapses slashes, drops `.`, and lets `..` cancel the name before it. -/
def normalize (p : Text) : Text :=
  let start := rootOf p
  let text := start ++ joinNames (tidy (!start.isEmpty) (names p))
  if text.isEmpty then "." else text

def absolute (cwd p : Text) : Text :=
  normalize (if isAbsolute p then p else join cwd p)

/-- The name up to the last slash, without the slashes that end it unless it is all slashes. -/
def parent (p : Text) : Text :=
  let head := Text.dropEndWhile (!·.is '/') p
  let trimmed := Text.dropEndWhile (·.is '/') head
  if trimmed.isEmpty then head else trimmed

/-- Drops the longest common beginning of two lists. -/
def dropCommon : List Text → List Text → List Text × List Text
  | a :: as, b :: bs => if a == b then dropCommon as bs else (a :: as, b :: bs)
  | as, bs => (as, bs)

/-- How to get to `p` from `start`. -/
def relative (cwd p start : Text) : Text :=
  let parts (q : Text) := (names (absolute cwd q)).filter (!·.isEmpty)
  let (up, down) := dropCommon (parts start) (parts p)
  let steps := up.map (fun _ => Text.ofString "..") ++ down
  if steps.isEmpty then "." else joinNames steps

/-- A name without empty and `.` parts. `..` stays, as the name before it may be a link. -/
def compact (p : Text) : Text :=
  let start := rootOf p
  let text := start ++ joinNames ((names p).filter fun name => name != "" && name != ".")
  if text.isEmpty then "." else text

end PerlAudit.Path
