import PerlAudit.Files.Disk

namespace PerlAudit.Source

open Text Files

/-- Splits at every `::`, from the left. -/
def splitName : Text → List Text
  | [] => [[]]
  | .char ':' :: .char ':' :: rest => [] :: splitName rest
  | c :: rest =>
    match splitName rest with
    | [] => [[c]]
    | part :: more => (c :: part) :: more

/-- Keeps the first of equal entries. -/
def firsts : List Text → List Text
  | [] => []
  | entry :: rest => entry :: (firsts rest).filter (· != entry)

/-- The non-empty entries of the include directories and of a colon-separated list, each once. -/
def searchRoots (includes : List Text) (library : Text) : List Text :=
  firsts ((includes ++ splitAt (.char ':') library).filter (!·.isEmpty))

def isModuleName (name : Text) : Bool := occurs (ofString "::") name

def relativePath (name : Text) : Text := Path.joinAll (splitName name) ++ ".pm"

/-- The file of a module name, or the name itself if no root has it. Other names are paths. -/
def modulePath (disk : Disk) (roots : List Text) (name : Text) : Text :=
  if isModuleName name then
    let candidates := roots.map fun root => Path.join root (relativePath name)
    (candidates.find? fun path => disk.isFile path && disk.isReadable path).getD name
  else name

end PerlAudit.Source
