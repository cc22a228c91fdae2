import PerlAudit.Document.Lexer
import PerlAudit.Document.Node

/-!
From tokens to the nodes of a document. A name for a node is an anchor before it; an alias stands
for the node of that name, which has to begin earlier.
-/

namespace PerlAudit.Document

/-- Tag handles and what they stand for. -/
abbrev Handles := List (String × String)

def usualHandles : Handles := [("!", "!"), ("!!", Tag.common)]

/-- Collections may not lie deeper than this in one another. -/
def depthLimit : Nat := 487

/-- A document in the making. -/
structure Draft where
  tokens : List Token
  /-- What comes of asking for more tokens than there are. -/
  fault : ReadFault
  handles : Handles
  anchors : List (String × Nat)
  graph : Graph

abbrev Composing := EStateM ReadFault Draft

namespace Composing

def malformed {α : Type} : Composing α := throw .malformed

def insist (condition : Bool) : Composing Unit := if condition then return else malformed

/-- The next token. -/
def peek : Composing Token := do
  let d ← get
  match d.tokens with
  | token :: _ => return token
  | [] => throw d.fault

def skip : Composing Unit := modify fun d => { d with tokens := d.tokens.drop 1 }

def add (node : Node) : Composing Nat := do
  let id := (← get).graph.size
  modify fun d => { d with graph := d.graph.push node }
  return id

def fill (id : Nat) (content : Content) : Composing Unit :=
  modify fun d => { d with graph := d.graph.setContent id content }

/-- The node that stands where nothing is written. -/
def nothing : Composing Nat := add ⟨.null, .scalar []⟩

end Composing

/-- What stands before a node. -/
structure Properties where
  anchor : Option String
  tag : Option String

namespace Properties

open Composing

def absent : Properties := ⟨none, none⟩

def isEmpty (p : Properties) : Bool := p.anchor.isNone && p.tag.isNone

/-- A scalar is judged by its form if it is plain and has no tag, or has the tag `!`. -/
def scalarTag (p : Properties) (text : Text) (plain : Bool) : Tag :=
  match p.tag with
  | none => if plain then Tag.ofForm text.chars else .text
  | some name => if name == "!" then Tag.ofForm text.chars else Tag.ofName name

def collectionTag (p : Properties) (usual : Tag) : Tag :=
  match p.tag with
  | some name => if name == "!" then usual else Tag.ofName name
  | none => usual

/-- Begins a node. Its anchor must be new. -/
def begin (p : Properties) (tag : Tag) (content : Content) : Composing Nat := do
  let known := (← get).anchors
  match p.anchor with
  | none => add ⟨tag, content⟩
  | some name =>
    insist (known.lookup name).isNone
    let id ← add ⟨tag, content⟩
    modify fun d => { d with anchors := (name, id) :: d.anchors }
    return id

def scalar (p : Properties) (text : Text) (plain : Bool) : Composing Nat :=
  p.begin (p.scalarTag text plain) (.scalar text)

/-- A node of which nothing but properties is written. -/
def alone (p : Properties) : Composing Nat := if p.isEmpty then malformed else p.scalar [] true

end Properties

namespace Composing

def fullTag (handle : Option String) (suffix : String) : Composing String := do
  match handle with
  | none => return suffix
  | some handle =>
    match (← get).handles.lookup handle with
    | some start => return start ++ suffix
    | none => malformed

/-- An anchor and a tag, in either order. -/
def properties : Composing Properties := do
  match ← peek with
  | .anchor name =>
    skip
    match ← peek with
    | .tag handle suffix =>
      skip
      return ⟨some name, some (← fullTag handle suffix)⟩
    | _ => return ⟨some name, none⟩
  | .tag handle suffix =>
    skip
    match ← peek with
    | .anchor name =>
      skip
      return ⟨some name, some (← fullTag handle suffix)⟩
    | _ => return ⟨none, some (← fullTag handle suffix)⟩
  | _ => return .absent

/-- Goes one collection deeper. -/
def deeper : (depth : Nat) → Composing Nat
  | 0 => throw (.value .tooDeep)
  | depth + 1 => return depth

/-- Whether a flow collection ends here. Between its parts there is a comma, and one may follow the
last. -/
def flowEnds (first : Bool) (close : Token) : Composing Bool := do
  unless (← peek) == close || first do
    insist ((← peek) == .flowEntry)
    skip
  if (← peek) == close then
    skip
    return true
  else return false

mutual

/-- A node. `fuel` bounds the number of calls, and `depth` that of collections in one another. -/
def node (fuel depth : Nat) (block indentless : Bool) : Composing Nat :=
  match fuel with
  | 0 => malformed
  | fuel + 1 => do
    match ← peek with
    | .alias name =>
      skip
      match (← get).anchors.lookup name with
      | some id => return id
      | none => malformed
    | _ =>
      let p ← properties
      match ← peek with
      | .blockEntry =>
        if indentless then
          let id ← p.begin (p.collectionTag .sequence) (.sequence [])
          fill id (.sequence (← indentlessItems fuel (← deeper depth) []))
          return id
        else p.alone
      | .scalar text plain =>
        skip
        p.scalar text plain
      | .flowSequenceStart =>
        let id ← p.begin (p.collectionTag .sequence) (.sequence [])
        skip
        fill id (.sequence (← flowItems fuel (← deeper depth) true []))
        return id
      | .flowMappingStart =>
        let id ← p.begin (p.collectionTag .mapping) (.mapping [])
        skip
        fill id (.mapping (← flowEntries fuel (← deeper depth) true []))
        return id
      | .blockSequenceStart =>
        if block then
          let id ← p.begin (p.collectionTag .sequence) (.sequence [])
          skip
          fill id (.sequence (← blockItems fuel (← deeper depth) []))
          return id
        else p.alone
      | .blockMappingStart =>
        if block then
          let id ← p.begin (p.collectionTag .mapping) (.mapping [])
          skip
          fill id (.mapping (← blockEntries fuel (← deeper depth) []))
          return id
        else p.alone
      | _ => p.alone

/-- A node, or nothing if one of `ends` comes next. -/
def nodeUnless (fuel depth : Nat) (block indentless : Bool) (ends : List Token) : Composing Nat :=
  match fuel with
  | 0 => malformed
  | fuel + 1 => do
    if ends.contains (← peek) then nothing else node fuel depth block indentless

/-- The items of a block sequence; `items` are those before, the last first. -/
def blockItems (fuel depth : Nat) (items : List Nat) : Composing (List Nat) :=
  match fuel with
  | 0 => malformed
  | fuel + 1 => do
    match ← peek with
    | .blockEntry =>
      skip
      let item ← nodeUnless fuel depth true false [.blockEntry, .blockEnd]
      blockItems fuel depth (item :: items)
    | .blockEnd =>
      skip
      return items.reverse
    | _ => malformed

/-- The items of a sequence that is indented no further than the mapping it stands in. -/
def indentlessItems (fuel depth : Nat) (items : List Nat) : Composing (List Nat) :=
  match fuel with
  | 0 => malformed
  | fuel + 1 => do
    match ← peek with
    | .blockEntry =>
      skip
      let item ← nodeUnless fuel depth true false [.blockEntry, .key, .value, .blockEnd]
      indentlessItems fuel depth (item :: items)
    | _ => return items.reverse

/-- The value of a block mapping's entry, which may be missing. -/
def blockValue (fuel depth : Nat) : Composing Nat :=
  match fuel with
  | 0 => malformed
  | fuel + 1 => do
    match ← peek with
    | .value =>
      skip
      nodeUnless fuel depth true true [.key, .value, .blockEnd]
    | _ => nothing

def blockEntries (fuel depth : Nat) (entries : List (Nat × Nat)) : Composing (List (Nat × Nat)) :=
  match fuel with
  | 0 => malformed
  | fuel + 1 => do
    match ← peek with
    | .key =>
      skip
      let key ← nodeUnless fuel depth true true [.key, .value, .blockEnd]
      let value ← blockValue fuel depth
      blockEntries fuel depth ((key, value) :: entries)
    | .blockEnd =>
      skip
      return entries.reverse
    | _ => malformed

/-- The value of a flow entry, which may be missing. -/
def flowValue (fuel depth : Nat) (close : Token) : Composing Nat :=
  match fuel with
  | 0 => malformed
  | fuel + 1 => do
    match ← peek with
    | .value =>
      skip
      nodeUnless fuel depth false false [.flowEntry, close]
    | _ => nothing

/-- A key and a value within a flow collection. -/
def flowPair (fuel depth : Nat) (close : Token) : Composing (Nat × Nat) :=
  match fuel with
  | 0 => malformed
  | fuel + 1 => do
    skip
    let key ← nodeUnless fuel depth false false [.value, .flowEntry, close]
    return (key, ← flowValue fuel depth close)

/-- One item of a flow sequence. A key and a value make a mapping of one entry. -/
def flowItem (fuel depth : Nat) : Composing Nat :=
  match fuel with
  | 0 => malformed
  | fuel + 1 => do
    if (← peek) == .key then
      let id ← add ⟨.mapping, .mapping []⟩
      fill id (.mapping [← flowPair fuel (← deeper depth) .flowSequenceEnd])
      return id
    else node fuel depth false false

def flowItems (fuel depth : Nat) (first : Bool) (items : List Nat) : Composing (List Nat) :=
  match fuel with
  | 0 => malformed
  | fuel + 1 => do
    if ← flowEnds first .flowSequenceEnd then return items.reverse
    let item ← flowItem fuel depth
    flowItems fuel depth false (item :: items)

/-- One entry of a flow mapping. A node without a key before it has no value. -/
def flowEntry (fuel depth : Nat) : Composing (Nat × Nat) :=
  match fuel with
  | 0 => malformed
  | fuel + 1 => do
    if (← peek) == .key then flowPair fuel depth .flowMappingEnd
    else
      let key ← node fuel depth false false
      let _ ← peek
      return (key, ← nothing)

def flowEntries (fuel depth : Nat) (first : Bool) (entries : List (Nat × Nat)) :
    Composing (List (Nat × Nat)) :=
  match fuel with
  | 0 => malformed
  | fuel + 1 => do
    if ← flowEnds first .flowMappingEnd then return entries.reverse
    let entry ← flowEntry fuel depth
    flowEntries fuel depth false (entry :: entries)

end

def isDirective : Token → Bool
  | .version _ => true
  | .tagHandle _ _ => true
  | .otherDirective => true
  | _ => false

/-- Directives before a document: at most one version, which is 1, and no handle twice. -/
def directives (fuel : Nat) (versioned : Bool) (handles : Handles) : Composing Handles :=
  match fuel with
  | 0 => malformed
  | fuel + 1 => do
    match ← peek with
    | .version major =>
      skip
      insist (!versioned && major == 1)
      directives fuel true handles
    | .tagHandle handle start =>
      skip
      insist (handles.lookup handle).isNone
      directives fuel versioned ((handle, start) :: handles)
    | .otherDirective =>
      skip
      directives fuel versioned handles
    | _ => return handles

/-- After the document nothing follows but its end. -/
def endOfStream (fuel : Nat) : Composing Unit :=
  match fuel with
  | 0 => malformed
  | fuel + 1 => do
    match ← peek with
    | .documentEnd =>
      skip
      endOfStream fuel
    | .streamEnd => return
    | _ =>
      let _ ← directives fuel false []
      malformed

/-- The document after its directives, which is empty if the next one begins or nothing follows. -/
def explicitDocument (fuel : Nat) : Composing Nat := do
  let declared ← directives fuel false []
  modify fun d => { d with handles := declared ++ usualHandles }
  insist ((← peek) == .documentStart)
  skip
  let next ← peek
  if isDirective next || [.documentStart, .documentEnd, .streamEnd].contains next then nothing
  else node fuel depthLimit true false

/-- The one document that some tokens hold, if it is not empty. -/
def document (fuel : Nat) : Composing (Option Nat) := do
  let first ← peek
  if first == .streamEnd then return none
  let root ←
    if isDirective first || first == .documentStart then explicitDocument fuel
    else node fuel depthLimit true false
  endOfStream fuel
  return some root

end Composing

/-- The nodes that tokens give, and which of them is the root. -/
def compose (tokens : Tokens) : Reading (Option Nat × Graph) :=
  let fault := tokens.fault.getD .malformed
  match Composing.document (4 * tokens.ready.length + 8)
      ⟨tokens.ready, fault, usualHandles, [], #[]⟩ with
  | .ok root d => .ok (root, d.graph)
  | .error fault _ => .error fault

end PerlAudit.Document
