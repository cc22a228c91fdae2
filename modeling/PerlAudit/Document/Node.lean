import PerlAudit.Document.Tag

/-!
The nodes of a document. Nodes are known by number, because an alias makes one node stand in several
places, even inside itself.
-/

namespace PerlAudit.Document

inductive Content where
  | scalar (text : Text)
  | sequence (items : List Nat)
  | mapping (entries : List (Nat × Nat))
  deriving DecidableEq, Repr

structure Node where
  tag : Tag
  content : Content
  deriving DecidableEq, Repr

/-- Nodes that lead from one to the next may not be more than these. -/
def chainLimit : Nat := 975

/-- The nodes of a document in the order in which they begin. -/
abbrev Graph := Array Node

namespace Graph

def tag (g : Graph) (id : Nat) : Tag := (g[id]?.map (·.tag)).getD .unknown

/-- The content of a node; there is none but an empty text where there is no node. -/
def content (g : Graph) (id : Nat) : Content := (g[id]?.map (·.content)).getD (.scalar [])

/-- The entries of a mapping. Other nodes have none. -/
def entries (g : Graph) (id : Nat) : List (Nat × Nat) :=
  match g.content id with
  | .mapping entries => entries
  | _ => []

def setTag (g : Graph) (id : Nat) (tag : Tag) : Graph := g.modify id fun n => { n with tag }

def setContent (g : Graph) (id : Nat) (content : Content) : Graph :=
  g.modify id fun n => { n with content }

def setEntries (g : Graph) (id : Nat) (entries : List (Nat × Nat)) : Graph :=
  g.setContent id (.mapping entries)

/-- How many entries have a merge key. -/
def mergeCount (g : Graph) : Nat :=
  g.foldl (fun count node =>
    match node.content with
    | .mapping entries => count + entries.countP fun (key, _) => g.tag key = .merge
    | _ => count) 0

end Graph

end PerlAudit.Document
