import PerlAudit.Document.Compose
import PerlAudit.Document.Merge
import PerlAudit.Document.Scalar

/-!
Reading a document. Its nodes are made into values level by level: first the root, then what the
root holds, then what that holds. So of several values that cannot be made, the one nearest to the
root is reported. Every node is made once, in whatever places it stands.
-/

namespace PerlAudit.Document

/-- What a node has been made into. A collection is filled later. -/
inductive Made where
  | plain (value : Value)
  | collection

/-- A document whose nodes are being made into values. -/
structure Workshop where
  graph : Graph
  made : Array (Option Made)
  /-- Collections to be filled, the last first. -/
  unfilled : List Nat

abbrev Making := EStateM ReadFault Workshop

/-- Whether a kind is made in two steps, of which the second fills the collection. -/
def isCollection : Tag → Bool
  | .sequence => true
  | .mapping => true
  | .unordered => true
  | .orderedMapping => true
  | .pairs => true
  | _ => false

/-- Whether a scalar can be of a kind. -/
def isScalar : Tag → Bool
  | .null => true
  | .truth => true
  | .integer => true
  | .number => true
  | .binary => true
  | .moment => true
  | .text => true
  | _ => false

/-- The text of a node that is wanted as a scalar. A mapping may give one under the key `=`, where a
mapping may stand again, and so on for at most `depth` nodes. -/
def Graph.scalarText (g : Graph) : (depth : Nat) → (id : Nat) → Reading Text
  | 0, _ => .error (.value .tooDeep)
  | depth + 1, id =>
    match g.content id with
    | .scalar text => .ok text
    | .sequence _ => .error .malformed
    | .mapping entries =>
      match entries.find? fun (key, _) => g.tag key = .defaultValue with
      | some (_, value) => g.scalarText depth value
      | none => .error .malformed

/-- The value of a node that is wanted as a scalar. -/
def Graph.scalar (g : Graph) (id : Nat) : Reading Value := do
  require (isScalar (g.tag id))
  let text ← g.scalarText chainLimit id
  match g.content id, g.tag id with
  | .mapping _, .moment => throw (.value .momentNotText)
  | _, tag => scalarValue tag text

namespace Making

def malformed {α : Type} : Making α := throw .malformed

/-- Makes a node, unless it has been made. -/
def make (id : Nat) : Making Made := do
  let w ← get
  match (w.made[id]?).join with
  | some made => return made
  | none =>
    if isCollection (w.graph.tag id) then
      set { w with
        made := w.made.setIfInBounds id (some .collection)
        unfilled := id :: w.unfilled }
      return .collection
    else
      match w.graph.scalar id with
      | .error fault => throw fault
      | .ok value =>
        set { w with made := w.made.setIfInBounds id (some (.plain value)) }
        return .plain value

/-- Makes the parts of an entry, whose key must not be a collection. -/
def makeEntry (entry : Nat × Nat) : Making Unit := do
  match ← make entry.1 with
  | .collection => malformed
  | .plain _ => discard (make entry.2)

/-- Makes an item of a list of pairs, which is a mapping of one entry. -/
def makePair (id : Nat) : Making Unit := do
  match (← get).graph.content id with
  | .mapping [(key, value)] =>
    discard (make key)
    discard (make value)
  | _ => malformed

def resolveMerges (id : Nat) : Making Unit := do
  let w ← get
  match Merging.resolve id w.graph with
  | .ok _ graph => set { w with graph }
  | .error fault _ => throw fault

/-- Makes what a collection holds. -/
def fill (id : Nat) : Making Unit := do
  let g := (← get).graph
  let fillMapping : Making Unit := do
    resolveMerges id
    ((← get).graph.entries id).forM makeEntry
  match g.tag id, g.content id with
  | .sequence, .sequence items => items.forM fun item => discard (make item)
  | .mapping, .mapping _ => fillMapping
  | .unordered, .mapping _ => fillMapping
  | .orderedMapping, .sequence items => items.forM makePair
  | .pairs, .sequence items => items.forM makePair
  | _, _ => malformed

/-- Fills collections until there are none left. Each is filled once, so their number is enough
`rounds`. -/
def fillAll : (rounds : Nat) → Making Unit
  | 0 => return
  | rounds + 1 => do
    let w ← get
    match w.unfilled.reverse with
    | [] => return
    | level =>
      set { w with unfilled := [] }
      level.forM fill
      fillAll rounds

end Making

/-- The value of a node, as far down as `depth` collections. What lies deeper is left out. -/
def Workshop.value (w : Workshop) : (depth : Nat) → (id : Nat) → Value
  | depth, id =>
    match (w.made[id]?).join, w.graph.tag id, w.graph.content id, depth with
    | some (.plain value), _, _, _ => value
    | _, .sequence, _, 0 => .list []
    | _, .sequence, .sequence items, depth + 1 => .list (items.map (w.value depth))
    | _, .orderedMapping, .sequence items, _ => .list (items.map fun _ => .list [])
    | _, .pairs, .sequence items, _ => .list (items.map fun _ => .list [])
    | _, .mapping, .mapping entries, depth + 1 =>
      .mapping (entries.map fun (key, value) => (w.value depth key, w.value depth value))
    | _, .mapping, _, _ => .mapping []
    | _, .unordered, _, _ => .unordered
    | _, _, _, _ => .null

/-- Characters that may stand in a document. -/
def isAllowed (c : Char) : Bool :=
  let n := c.toNat
  n == 0x9 || n == 0xA || n == 0xD || (0x20 ≤ n && n ≤ 0x7E) || n == 0x85 ||
    (0xA0 ≤ n && n ≤ 0xFFFD) || 0x10000 ≤ n

/-- Reads the value of a document, as far down as `depth` collections. All of it has to be in order,
however deep. -/
def read (depth : Nat) (text : List Char) : Reading Value := do
  require (text.all isAllowed)
  match ← compose (tokens text) with
  | (none, _) => return .null
  | (some root, graph) =>
    let work : Making Unit := do
      discard (Making.make root)
      Making.fillAll (graph.size + 1)
    match work ⟨graph, Array.replicate graph.size none, []⟩ with
    | .ok _ w => return w.value depth root
    | .error fault _ => throw fault

end PerlAudit.Document
