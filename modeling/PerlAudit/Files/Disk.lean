import PerlAudit.Files.Errno
import PerlAudit.Files.Node
import PerlAudit.Path

/-!
Finding a file by its path. Links are followed, at most forty of them, and every part of a path but
the last must name a directory. What lies at a denied place is there, but it cannot be opened. A
file at a failing place can be opened, but nothing can be read from it.
-/

namespace PerlAudit.Files

open Text (Bytes NameFlaw nameBytes nameFlaw? respell)

/-- The files of a machine, the directory that relative paths start from, the places that cannot be
opened, and those where reading fails. -/
structure Disk where
  top : Node
  cwd : Text
  denied : List Location
  failing : List (Location × Errno)

namespace Disk

def longestName : Nat := 255
def longestPath : Nat := 4095
def mostLinks : Nat := 40

/-- The place that an absolute path spells, if there are no links on the way. -/
def spelledPlace (path : Text) : Location := (Path.names (respell path)).filter (!·.isEmpty)

/-- The place that `cwd` names. -/
def home (d : Disk) : Location := spelledPlace d.cwd

def start (d : Disk) (path : Text) : Location := if Path.isAbsolute path then [] else d.home

/-- Goes from a place along names, following links. -/
def follow (d : Disk) (links : Nat) (place : Location) (names : List Text) :
    Except Errno (Location × Node) :=
  match names, d.top.find? place with
  | _, none => .error .noEntry
  | [], some node => .ok (place, node)
  | name :: rest, some node =>
    if !node.isDirectory then .error .notDirectory
    else if name == "" || name == "." then d.follow links place rest
    else if name == ".." then d.follow links place.dropLast rest
    else if longestName < (nameBytes name).length then .error .nameTooLong
    else
      match node.child? name, links with
      | none, _ => .error .noEntry
      | some (.link _), 0 => .error .linkLoop
      | some (.link target), links + 1 =>
        d.follow links (if Path.isAbsolute target then [] else place) (Path.names target ++ rest)
      | some _, links => d.follow links (place ++ [name]) rest
termination_by (links, names.length)

/-- What a path leads to. A text that names no file leads to nothing. -/
def find (d : Disk) (path : Text) : Except Errno (Location × Node) :=
  if path.isEmpty || (nameFlaw? path).isSome then .error .noEntry
  else if longestPath < (nameBytes path).length then .error .nameTooLong
  else d.follow mostLinks (d.start path) (Path.names (respell path))

def find? (d : Disk) (path : Text) : Option Node := (d.find path).toOption.map (·.2)

def isFile (d : Disk) (path : Text) : Bool := (d.find? path).any Node.isFile

def isDenied (d : Disk) (place : Location) : Bool := d.denied.contains place

def isReadable (d : Disk) (path : Text) : Bool :=
  (d.find path).toOption.any fun (place, _) => !d.isDenied place

/-- A file that can be started. -/
def isExecutable (d : Disk) (path : Text) : Bool :=
  match d.find? path with
  | some (.file _ executable) => executable
  | _ => false

/-- The link at a path, of which all names but the last are followed. -/
def linkAt? (d : Disk) (path : Text) : Option Text :=
  let names := Path.names (respell path)
  match d.follow mostLinks (d.start path) names.dropLast with
  | .error _ => none
  | .ok (_, node) =>
    match names.getLast?.bind (node.child? ·) with
    | some (.link target) => some target
    | _ => none

/-- Why a path cannot be resolved. -/
inductive PathFault where
  | name (flaw : NameFlaw)
  /-- Too many links stand for one another. -/
  | tooDeep
  deriving DecidableEq, Repr

/-- How many links may stand for one another. -/
def deepestLink : Nat := 985

/-- A step of `real`: a name to enter, or the end of what a link stands for. -/
inductive RealStep where
  | name (text : Text)
  | resolved (link : Text)
  deriving DecidableEq, Repr

def RealStep.endsLink : RealStep → Bool
  | name _ => false
  | resolved _ => true

def steps (path : Text) : List RealStep := (Path.names path).map .name

/-- Joins the steps that are left to a path, as they are spelled. What is left at the end of a link
is joined by itself, so an empty name in front makes it absolute. -/
def spell (path : Text) (left : List Text) : List RealStep → Text
  | [] => Path.join path (Path.joinNames left.reverse)
  | .name text :: rest => spell path (text :: left) rest
  | .resolved _ :: rest => spell (Path.join path (Path.joinNames left.reverse)) [] rest

/-- The directory above a path, which may lie above the working directory. -/
def above (path : Text) : Text :=
  if path.isEmpty then ".."
  else if (Path.names path).getLast? == some (Text.ofString "..") then
    Path.joinAll [Path.parent path, "..", ".."]
  else Path.parent path

/-- Resolves links as far as there are any; what does not exist is taken as it is spelled. `seen`
holds the links met so far, with what they stand for once that is known. A link inside itself ends
the search. Until then every name is looked up, so it must be one. The steps left tell how many
links the path is in. -/
def realSteps (d : Disk) (links : Nat) (seen : List (Text × Option Text)) (path : Text)
    (steps : List RealStep) : Except PathFault Text :=
  match steps with
  | [] => .ok path
  | .resolved link :: rest => d.realSteps links ((link, some path) :: seen) path rest
  | .name name :: rest =>
    if name == "" || name == "." then d.realSteps links seen path rest
    else if name == ".." then d.realSteps links seen (above path) rest
    else
      let next := Path.join path name
      match nameFlaw? next with
      | some flaw => .error (.name flaw)
      | none =>
        match d.linkAt? next, seen.lookup next, links with
        | none, _, links => d.realSteps links seen next rest
        | some _, some (some found), links => d.realSteps links seen found rest
        | some target, none, links + 1 =>
          if deepestLink ≤ rest.countP (·.endsLink) then .error .tooDeep
          else d.realSteps links ((next, none) :: seen)
            (if Path.isAbsolute target then "/" else path)
            (Disk.steps target ++ .resolved next :: rest)
        | some _, _, _ => .ok (spell next [] rest)
termination_by (links, steps.length)

/-- How many links `real` may meet. A link is met under one absolute spelling, and under one for
each directory above the working directory. -/
def linkLimit (d : Disk) : Nat := d.top.linkCount * (d.home.length + 3) + 1

/-- The path of what a path leads to, whether or not there is anything. -/
def real (d : Disk) (path : Text) : Except PathFault Text :=
  let start : Text := if Path.isAbsolute path then "/" else []
  (d.realSteps d.linkLimit [] start (steps path)).map (Path.absolute d.cwd)

/-- The place of that path. A text that names no file is taken as it is spelled. -/
def place (d : Disk) (path : Text) : Location :=
  spelledPlace ((d.real path).toOption.getD (Path.absolute d.cwd path))

def absolute (place : Location) : Text := "/" ++ Path.joinNames place

/-- Opens a file to read it. -/
def openFile (d : Disk) (path : Text) : Except Errno (Location × Bytes) :=
  match d.find path with
  | .error e => .error (if d.isDenied (d.place path) then .denied else e)
  | .ok (place, node) =>
    if d.isDenied place then .error .denied
    else
      match node with
      | .file content _ => .ok (place, content)
      | _ => .error .isDirectory

/-- Why a file cannot be read: it does not open, or it opens and reading fails. -/
inductive ReadFault where
  | opening (reason : Errno)
  | reading (reason : Errno)
  deriving DecidableEq, Repr

def read (d : Disk) (path : Text) : Except ReadFault Bytes :=
  match d.openFile path with
  | .error reason => .error (.opening reason)
  | .ok (place, content) =>
    match d.failing.lookup place with
    | some reason => .error (.reading reason)
    | none => .ok content

end Disk

end PerlAudit.Files
