import Mathlib.Data.List.TakeWhile
import PerlAudit.Document.Read

/-!
How the value of a document is made once it has been composed. A mapping without merge keys is
filled with its own entries, and a document is its root with everything filled in.
-/

namespace PerlAudit.Document

/-- Keys that are not written `=` are settled. -/
theorem Merging.settleKeys_plain {g : Graph} {entries : List (Nat × Nat)}
    (plain : ∀ e ∈ entries, g.tag e.1 ≠ .defaultValue) :
    Merging.settleKeys entries g = .ok () g := by
  induction entries with
  | nil => rfl
  | cons e rest ih =>
    obtain ⟨here, others⟩ := List.forall_mem_cons.mp plain
    have next : Merging.settleKeys (e :: rest) g = Merging.settleKeys rest
      (if g.tag e.1 = .defaultValue then g.setTag e.1 .text else g) := rfl
    rw [next, if_neg here]
    exact ih others

/-- A mapping without merge keys stays as it is. -/
theorem Merging.resolve_plain {g : Graph} {id : Nat}
    (plain : ∀ e ∈ g.entries id, g.tag e.1 ≠ .merge ∧ g.tag e.1 ≠ .defaultValue) :
    Merging.resolve id g = .ok () g := by
  have settled := Merging.settleKeys_plain fun e member => (plain e member).2
  have looked : (get : Merging Graph) g = .ok g g := rfl
  change Merging.resolveFrom (g.mergeCount + 1) chainLimit id 0 [] g = _
  rw [Merging.resolveFrom]
  simp only [bind, EStateM.bind, looked, List.drop_zero]
  rw [List.takeWhile_eq_self_iff.mpr fun e member => by simp [plain e member], settled]
  dsimp only
  rw [Nat.zero_add, List.getElem?_eq_none (Nat.le_refl _)]
  rfl

/-- Filling a mapping without merge keys makes its entries. -/
theorem Making.fill_plain {w : Workshop} {id : Nat} {entries : List (Nat × Nat)}
    (tag : w.graph.tag id = .mapping) (content : w.graph.content id = .mapping entries)
    (plain : ∀ e ∈ entries, w.graph.tag e.1 ≠ .merge ∧ w.graph.tag e.1 ≠ .defaultValue) :
    Making.fill id w = entries.forM Making.makeEntry w := by
  have same : w.graph.entries id = entries := by rw [Graph.entries, content]
  have resolved : Merging.resolve id w.graph = .ok () w.graph :=
    Merging.resolve_plain (same ▸ plain)
  have looked : (get : Making Workshop) w = .ok w w := rfl
  have merged : Making.resolveMerges id w = .ok () w := by
    unfold Making.resolveMerges
    simp only [bind, EStateM.bind, looked, resolved]
    rfl
  unfold Making.fill
  simp only [bind, EStateM.bind, looked, tag, content, merged, same]

/-- The only collection that is left is filled, and then those in it. -/
theorem Making.fillAll_single {graph : Graph} {made : Array (Option Made)} {id : Nat}
    {filled : Workshop} (rounds : Nat) (fills : Making.fill id ⟨graph, made, []⟩ = .ok () filled) :
    Making.fillAll (rounds + 1) ⟨graph, made, [id]⟩ = Making.fillAll rounds filled := by
  have looked : (get : Making Workshop) ⟨graph, made, [id]⟩ =
    .ok ⟨graph, made, [id]⟩ ⟨graph, made, [id]⟩ := rfl
  have cleared : (set (Workshop.mk graph made []) : Making PUnit) ⟨graph, made, [id]⟩ =
    .ok ⟨⟩ ⟨graph, made, []⟩ := rfl
  have level : ([id].forM Making.fill : Making PUnit) ⟨graph, made, []⟩ = .ok ⟨⟩ filled := by
    change (Making.fill id >>= fun _ => pure ⟨⟩ : Making PUnit) ⟨graph, made, []⟩ = _
    simp only [bind, EStateM.bind, fills]
    rfl
  rw [Making.fillAll]
  simp only [bind, EStateM.bind, looked, List.reverse_singleton, cleared, level]

/-- What a document comes to once all its nodes have been made. -/
theorem read_of_filled {depth root : Nat} {text : List Char} {graph : Graph} {full : Workshop}
    (allowed : text.all isAllowed = true)
    (composed : compose (tokens text) = .ok (some root, graph))
    (filled : (discard (Making.make root) >>= fun _ => Making.fillAll (graph.size + 1))
      ⟨graph, Array.replicate graph.size none, []⟩ = .ok () full) :
    Document.read depth text = .ok (full.value depth root) := by
  unfold Document.read
  simp only [require, allowed, if_true, composed, bind, Except.bind]
  simp only [bind] at filled
  rw [filled]
  rfl

end PerlAudit.Document
