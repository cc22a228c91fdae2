import PerlAudit.Document.Cursor
import PerlAudit.Document.Node

/-!
Merge keys. An entry with the key `<<` is taken out of its mapping, and the entries of the mapping
it names come in at the front; it may also name a sequence of mappings, of which the first counts
most. What is merged in has its own merge keys resolved first, so every merge key is resolved once,
even in a mapping that merges itself.
-/

namespace PerlAudit.Document

abbrev Merging := EStateM ReadFault Graph

namespace Merging

/-- A key written `=` is a text. -/
def settleKeys (entries : List (Nat × Nat)) : Merging Unit :=
  modify fun g => entries.foldl (fun g (key, _) =>
    if g.tag key = .defaultValue then g.setTag key .text else g) g

/-- Goes to a mapping that another brings in. -/
def deeper : (depth : Nat) → Merging Nat
  | 0 => throw (.value .tooDeep)
  | depth + 1 => return depth

mutual

/-- Resolves the merge keys of a mapping from an entry on; `merged` has been brought in so far. Each
call takes one merge key out, so their number is enough `fuel`; `depth` bounds how many mappings may
bring each other in. -/
def resolveFrom (fuel depth : Nat) (id index : Nat) (merged : List (Nat × Nat)) : Merging Unit :=
  match fuel with
  | 0 => throw .malformed
  | fuel + 1 => do
    let g ← get
    let entries := g.entries id
    let passed := (entries.drop index).takeWhile fun (key, _) => g.tag key != .merge
    settleKeys passed
    let index := index + passed.length
    match entries[index]? with
    | none =>
      if !merged.isEmpty then modify fun g => g.setEntries id (merged ++ entries)
    | some (_, value) =>
      modify fun g => g.setEntries id (entries.eraseIdx index)
      let brought ← bring fuel depth value
      resolveFrom fuel depth id index (merged ++ brought)
termination_by (fuel, 0, 0)

/-- The entries that a merge key brings in. -/
def bring (fuel depth : Nat) (id : Nat) : Merging (List (Nat × Nat)) := do
  match (← get).content id with
  | .mapping _ =>
    resolveFrom fuel (← deeper depth) id 0 []
    return (← get).entries id
  | .sequence items => bringItems fuel depth items
  | .scalar _ => throw .malformed
termination_by (fuel, 2, 0)

/-- The entries of the mappings of a sequence, the last of them first. -/
def bringItems (fuel depth : Nat) (items : List Nat) : Merging (List (Nat × Nat)) :=
  match items with
  | [] => return []
  | item :: rest => do
    match (← get).content item with
    | .mapping _ =>
      resolveFrom fuel (← deeper depth) item 0 []
      let entries := (← get).entries item
      let later ← bringItems fuel depth rest
      return later ++ entries
    | _ => throw .malformed
termination_by (fuel, 1, items.length)

end

/-- Resolves the merge keys of a mapping. -/
def resolve (id : Nat) : Merging Unit := do
  resolveFrom ((← get).mergeCount + 1) chainLimit id 0 []

end Merging

end PerlAudit.Document
