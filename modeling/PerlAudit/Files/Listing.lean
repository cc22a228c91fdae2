import PerlAudit.Files.Disk

/-!
The readable files below a directory: its own files by name, then its subdirectories by name, each
of them completely. Directories that a version control system keeps for itself are left out, and a
link to a directory is not entered. What has too long a path is not found. Directories may lie in one
another to any depth.
-/

namespace PerlAudit.Files

/-- The files found, and the directories that could not be listed. -/
structure Listing where
  files : List Text
  skipped : List (Text × Errno)
  deriving DecidableEq, Repr

namespace Listing

def empty : Listing := ⟨[], []⟩

def append (a b : Listing) : Listing := ⟨a.files ++ b.files, a.skipped ++ b.skipped⟩

def concat (all : List Listing) : Listing := all.foldr append empty

end Listing

def controlNames : List Text := ["CVS", ".git", ".svn", ".hg", ".bzr"]

/-- What an entry contributes: itself, or what lies below it. -/
inductive Find where
  | file (path : Text)
  | below (listing : Listing)

/-- Entries in the order of their names. -/
def byName (found : List (Text × Find)) : List Find :=
  (found.mergeSort fun a b => a.1.precedes b.1).map (·.2)

def arrange (found : List (Text × Find)) : Listing :=
  let ordered := byName found
  let own := ordered.filterMap fun
    | .file path => some path
    | .below _ => none
  let sub := ordered.filterMap fun
    | .below listing => some listing
    | .file _ => none
  .append ⟨own, []⟩ (.concat sub)

mutual

/-- Lists the node at `place`, which is spelled `spelled`. -/
def Node.listing (d : Disk) (spelled : Text) (place : Location) : Node → Listing
  | .directory entries =>
    if d.isDenied place then ⟨[], [(spelled, .denied)]⟩
    else if Disk.longestPath < (Text.nameBytes spelled).length then
      ⟨[], [(spelled, .nameTooLong)]⟩
    else arrange (listingEntries d spelled place entries)
  | _ => ⟨[], [(spelled, .notDirectory)]⟩

def listingEntries (d : Disk) (spelled : Text) (place : Location) :
    List (Text × Node) → List (Text × Find)
  | [] => []
  | (name, node) :: rest =>
    let path := Path.join spelled name
    let more := listingEntries d spelled place rest
    if node.isDirectory then
      if controlNames.contains name then more
      else (name, .below (node.listing d path (place ++ [name]))) :: more
    else if d.isFile path && d.isReadable path then (name, .file (Path.normalize path)) :: more
    else more

end

/-- The readable files at or below a path. -/
def Disk.listing (d : Disk) (base : Text) : Listing :=
  if d.isFile base then
    if d.isReadable base then ⟨[Path.normalize base], []⟩ else .empty
  else
    match d.find base with
    | .error e => ⟨[], [(base, if d.isDenied (d.place base) then .denied else e)]⟩
    | .ok (place, node) => node.listing d base place

end PerlAudit.Files
