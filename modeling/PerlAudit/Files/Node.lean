import PerlAudit.Text.FileName

namespace PerlAudit.Files

open Text (Bytes)

/-- What a directory entry is. Pipes, sockets and devices are left out: opening one may wait or take
what another has written, and nothing said here of files holds for them. -/
inductive Node where
  | file (content : Bytes) (executable : Bool)
  | directory (entries : List (Text × Node))
  | link (target : Text)

/-- A place in the tree: the names from the top, none of them a link. -/
abbrev Location := List Text

namespace Node

def empty : Node := .directory []

def isFile : Node → Bool
  | file .. => true
  | _ => false

def isDirectory : Node → Bool
  | directory .. => true
  | _ => false

def child? (name : Text) : Node → Option Node
  | directory entries => entries.lookup name
  | _ => none

def find? (node : Node) : Location → Option Node
  | [] => some node
  | name :: rest => (node.child? name).bind (find? · rest)

/-- Changes the entry of that name, which may be missing before and after. -/
def alterEntry (change : Option Node → Option Node) (name : Text) :
    List (Text × Node) → List (Text × Node)
  | [] => ((change none).map (name, ·)).toList
  | (other, node) :: rest =>
    if other = name then ((change (some node)).map (name, ·)).toList ++ rest
    else (other, node) :: alterEntry change name rest

/-- Changes the node at a place. Directories on the way are made; a file on the way stays. -/
def alter (change : Option Node → Option Node) : Location → Option Node → Option Node
  | [], node => change node
  | name :: rest, none => some (.directory (alterEntry (alter change rest) name []))
  | name :: rest, some (.directory entries) =>
    some (.directory (alterEntry (alter change rest) name entries))
  | _ :: _, some node => some node

mutual

/-- The number of links in the tree. -/
def linkCount : Node → Nat
  | file .. => 0
  | link _ => 1
  | directory entries => linkCountEntries entries

def linkCountEntries : List (Text × Node) → Nat
  | [] => 0
  | (_, node) :: rest => node.linkCount + linkCountEntries rest

end

end Node

end PerlAudit.Files
