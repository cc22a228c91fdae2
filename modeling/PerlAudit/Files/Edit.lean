import PerlAudit.Files.Disk

namespace PerlAudit.Files.Disk

open Text (Bytes nameBytes respell)

def alter (d : Disk) (place : Location) (change : Option Node → Option Node) : Disk :=
  { d with top := (Node.alter change place (some d.top)).getD .empty }

/-- Makes a directory and those above it. -/
def makeDirectory (d : Disk) (path : Text) : Disk :=
  d.alter (d.place path) fun node => some (node.getD .empty)

def deny (d : Disk) (path : Text) : Disk := { d with denied := d.place path :: d.denied }

/-- Lets reading fail for a reason. -/
def fail (d : Disk) (path : Text) (reason : Errno) : Disk :=
  { d with failing := (d.place path, reason) :: d.failing }

/-- Goes from a place along names to the file that the last of them names, which may be missing. A
slash behind it asks for a directory, and no directory can be written. -/
def writingPlace (d : Disk) (links : Nat) (place : Location) (names : List Text) :
    Except Errno Location :=
  match names, d.top.find? place with
  | _, none => .error .noEntry
  | [], some _ => .error .isDirectory
  | name :: rest, some node =>
    if !node.isDirectory then .error .notDirectory
    else if name == "" || name == "." then d.writingPlace links place rest
    else if name == ".." then d.writingPlace links place.dropLast rest
    else if !rest.isEmpty && rest.all (·.isEmpty) then .error .isDirectory
    else if longestName < (nameBytes name).length then .error .nameTooLong
    else
      match node.child? name, links with
      | none, _ => if rest.isEmpty then .ok (place ++ [name]) else .error .noEntry
      | some (.link _), 0 => .error .linkLoop
      | some (.link target), links + 1 =>
        d.writingPlace links (if Path.isAbsolute target then [] else place)
          (Path.names target ++ rest)
      | some child, links =>
        if rest.isEmpty && child.isFile then .ok (place ++ [name])
        else d.writingPlace links (place ++ [name]) rest
termination_by (links, names.length)

/-- Opens a file to add to it, which makes it if only the file is missing. -/
def openForAppend (d : Disk) (path : Text) : Except Errno (Location × Disk) :=
  let found :=
    if path.isEmpty then .error .noEntry
    else if longestPath < (nameBytes path).length then .error .nameTooLong
    else d.writingPlace mostLinks (d.start path) (Path.names (respell path))
  match found with
  | .error e => .error (if d.isDenied (d.place path) then .denied else e)
  | .ok place =>
    if d.isDenied place then .error .denied
    else .ok (place, d.alter place fun node => some (node.getD (.file [] false)))

/-- Adds to the file at a place. If there is none any more, nothing changes. -/
def append (d : Disk) (place : Location) (bytes : Bytes) : Disk :=
  match d.top.find? place with
  | some (.file content executable) =>
    d.alter place fun _ => some (.file (content ++ bytes) executable)
  | _ => d

end PerlAudit.Files.Disk
