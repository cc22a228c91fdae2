import PerlAudit.Proofs.Path.Below
import PerlAudit.Proofs.Text.Spelling

/-!
Following a path, name by name. What a path leads to depends on where it has come to, not on how, so
a path below a directory leads where its last name leads from there.
-/

namespace PerlAudit.Files

open Text PerlAudit.Path

namespace Disk

/-- What one name does at a node: the links that are left, the place reached, and the names to
follow first. -/
def enter (links : Nat) (place : Location) (node : Node) (name : Text) :
    Except Errno (Nat × Location × List Text) :=
  if !node.isDirectory then .error .notDirectory
  else if name == "" || name == "." then .ok (links, place, [])
  else if name == ".." then .ok (links, place.dropLast, [])
  else if longestName < (nameBytes name).length then .error .nameTooLong
  else
    match node.child? name, links with
    | none, _ => .error .noEntry
    | some (.link _), 0 => .error .linkLoop
    | some (.link target), links + 1 =>
      .ok (links, if isAbsolute target then [] else place, names target)
    | some _, links => .ok (links, place ++ [name], [])

section Following

variable {d : Disk} {links left : Nat} {place next : Location} {node : Node} {name : Text}
  {rest more : List Text}

theorem follow_absent (names : List Text) (absent : d.top.find? place = none) :
    d.follow links place names = .error .noEntry := by
  rw [follow.eq_def, absent]

theorem follow_nil (there : d.top.find? place = some node) :
    d.follow links place [] = .ok (place, node) := by
  rw [follow.eq_def, there]

/-- One name is entered, and what comes of it is followed before the rest. -/
theorem follow_cons (there : d.top.find? place = some node) :
    d.follow links place (name :: rest) =
      (enter links place node name).bind fun found =>
        d.follow found.1 found.2.1 (found.2.2 ++ rest) := by
  rw [follow.eq_def, there]
  unfold enter
  dsimp only
  split
  · rfl
  · split
    · rfl
    · split
      · rfl
      · split
        · rfl
        · split <;> simp_all [Except.bind]

/-- A step uses up a link, or it leaves nothing else to follow. -/
theorem enter_decreases (entered : enter links place node name = .ok (left, next, more)) :
    left < links ∨ left = links ∧ more = [] := by
  unfold enter at entered
  repeat' split at entered
  all_goals grind

/-- What holds at the end of a path, and before a step whenever it holds after it, holds. -/
@[elab_as_elim]
theorem follow_induction {motive : Nat → Location → List Text → Prop}
    (nil : ∀ links place, motive links place [])
    (cons : ∀ links place name rest,
      (∀ node left next more, enter links place node name = .ok (left, next, more) →
        motive left next (more ++ rest)) → motive links place (name :: rest))
    (links : Nat) (place : Location) (names : List Text) : motive links place names := by
  induction links using Nat.strong_induction_on generalizing place names with
  | _ links fewer =>
    induction names generalizing place with
    | nil => exact nil links place
    | cons name rest ih =>
      refine cons links place name rest fun node left next more entered => ?_
      obtain used | ⟨rfl, rfl⟩ := enter_decreases entered
      · exact fewer left used next (more ++ rest)
      · exact ih next

/-- What comes behind a path is followed from the place it leads to, perhaps with fewer links. -/
theorem follow_append {parts : List Text} {found : Location × Node}
    (h : d.follow links place parts = .ok found) :
    ∃ left ≤ links, ∀ rest, d.follow links place (parts ++ rest) = d.follow left found.1 rest := by
  induction links, place, parts using follow_induction with
  | nil links place =>
    cases there : d.top.find? place with
    | none =>
      rw [follow_absent _ there] at h
      cases h
    | some node =>
      rw [follow_nil there] at h
      cases h
      exact ⟨links, Nat.le_refl _, fun _ => rfl⟩
  | cons links place name parts ih =>
    cases there : d.top.find? place with
    | none =>
      rw [follow_absent _ there] at h
      cases h
    | some node =>
      rw [follow_cons there] at h
      cases entered : enter links place node name with
      | error reason =>
        rw [entered] at h
        cases h
      | ok step =>
        obtain ⟨left, next, more⟩ := step
        rw [entered] at h
        obtain ⟨least, fewer, onward⟩ := ih node left next more entered h
        have used : left ≤ links := (enter_decreases entered).elim Nat.le_of_lt (·.1.le)
        refine ⟨least, fewer.trans used, fun rest => ?_⟩
        rw [List.cons_append, follow_cons there, entered, ← onward rest, List.append_assoc]
        rfl

/-- An empty name between others makes no difference. -/
theorem follow_skip (front : List Text) :
    d.follow links place (front ++ [] :: name :: rest) =
      d.follow links place (front ++ name :: rest) := by
  induction links, place, front using follow_induction with
  | nil links place =>
    cases there : d.top.find? place with
    | none => rw [follow_absent _ there, follow_absent _ there]
    | some node =>
      rw [List.nil_append, List.nil_append, follow_cons there]
      cases directory : node.isDirectory with
      | true =>
        have stays : enter links place node [] = .ok (links, place, []) := by
          simp [enter, directory, ofString, ofChars]
        rw [stays]
        rfl
      | false =>
        have stops (name : Text) : enter links place node name = .error .notDirectory := by
          simp [enter, directory]
        rw [follow_cons there, stops, stops]
        rfl
  | cons links place first front ih =>
    cases there : d.top.find? place with
    | none => rw [follow_absent _ there, follow_absent _ there]
    | some node =>
      rw [List.cons_append, List.cons_append, follow_cons there, follow_cons there]
      cases entered : enter links place node first with
      | error reason => rfl
      | ok step =>
        have same := ih node step.1 step.2.1 step.2.2 entered
        rw [List.append_assoc, List.append_assoc] at same
        exact same

end Following

end Disk

section Trees

/-- The name of an entry as the system gives it: it can be looked up, and it is spelled in the only
way. -/
structure IsEntry (name : Text) : Prop extends IsName name where
  nameable : nameFlaw? name = none
  spelled : respell name = name
  short : (nameBytes name).length ≤ Disk.longestName

/-- In every directory the entries have names, and different ones. -/
def Node.IsTree (node : Node) : Prop :=
  ∀ place entries, node.find? place = some (.directory entries) →
    (entries.map Prod.fst).Nodup ∧ ∀ e ∈ entries, IsEntry e.1

variable {node child : Node} {name : Text} {place front : Location}

theorem Node.find?_append (node : Node) (place rest : Location) :
    node.find? (place ++ rest) = (node.find? place).bind (·.find? rest) := by
  induction place generalizing node with
  | nil => rfl
  | cons name place ih =>
    rw [List.cons_append, find?, find?, Option.bind_assoc]
    exact Option.bind_congr fun child _ => ih child

theorem Node.find?_singleton (node : Node) (name : Text) :
    node.find? [name] = node.child? name := by
  rw [find?]
  cases node.child? name <;> rfl

theorem Node.find?_concat {parts : Location} : node.find? (parts ++ [name]) = some child ↔
    ∃ parent, node.find? parts = some parent ∧ parent.child? name = some child := by
  rw [find?_append, Option.bind_eq_some_iff]
  simp only [find?_singleton]

theorem Node.find?_from {top : Node} (there : top.find? place = some node) (rest : Location) :
    top.find? (place ++ rest) = node.find? rest := by
  rw [find?_append, there]
  rfl

theorem Node.isDirectory_of_child (entered : node.child? name = some child) :
    node.isDirectory = true := by
  cases node with
  | directory entries => rfl
  | file | link => cases entered

theorem Node.IsTree.below (tree : node.IsTree) (found : node.find? place = some child) :
    child.IsTree := by
  intro rest entries h
  refine tree (place ++ rest) entries ?_
  rw [find?_append, found]
  exact h

theorem Node.IsTree.entry (tree : node.IsTree) (entered : node.child? name = some child) :
    IsEntry name := by
  cases node with
  | directory entries => exact (tree [] entries rfl).2 (name, child) (mem_of_lookup entered)
  | file | link => cases entered

/-- Every name on the way to a node is that of an entry. -/
theorem Node.IsTree.entries (tree : node.IsTree) (found : node.find? place = some child) :
    ∀ name ∈ place, IsEntry name := by
  induction place generalizing node with
  | nil => simp
  | cons name place ih =>
    obtain ⟨next, entered, found⟩ := Option.bind_eq_some_iff.mp found
    have first : node.find? [name] = some next := by rw [find?_singleton, entered]
    exact List.forall_mem_cons.mpr ⟨tree.entry entered, ih (tree.below first) found⟩

end Trees

namespace Disk

variable {d : Disk} {spelled name : Text} {links : Nat} {place : Location} {node child : Node}

/-- A path that leads to a place with some links left: what comes behind it is followed from
there. -/
structure Leads (d : Disk) (spelled : Text) (links : Nat) (place : Location) : Prop where
  nameable : nameFlaw? spelled = none
  filled : spelled ≠ []
  onward : ∀ name rest,
    d.follow mostLinks (d.start spelled) (names (respell spelled) ++ name :: rest) =
      d.follow links place (name :: rest)

theorem leads_of_find {base : Text} (h : d.find base = .ok (place, node)) :
    ∃ links ≤ mostLinks, d.Leads base links place := by
  have nameable := nameable_of_find h
  have filled : base ≠ [] := by
    rintro rfl
    cases h
  unfold find at h
  split at h
  · cases h
  · split at h
    · cases h
    · obtain ⟨links, fewer, onward⟩ := follow_append h
      exact ⟨links, fewer, nameable, filled, fun name rest => onward (name :: rest)⟩

theorem start_join (filled : spelled ≠ []) (entry : IsName name) :
    d.start (join spelled name) = d.start spelled := by
  have same : isAbsolute (join spelled name) = isAbsolute spelled := by
    obtain ⟨c, rest, rfl⟩ := List.exists_cons_of_ne_nil filled
    obtain ⟨nothing, -⟩ | ⟨front, slash, joined⟩ | ⟨-, -, joined⟩ :=
      join_cases (c :: rest) (not_isAbsolute entry)
    · cases nothing
    · rw [joined, slash]
      cases front <;> rfl
    · rw [joined]
      rfl
  rw [start, start, same]

/-- A name that is joined to a path is followed behind it. -/
theorem follow_join (filled : spelled ≠ []) (entry : IsEntry name) (rest : List Text) :
    d.follow links place (names (respell (join spelled name)) ++ rest) =
      d.follow links place (names (respell spelled) ++ name :: rest) := by
  obtain ⟨nothing, -⟩ | ⟨front, slash, joined⟩ | ⟨-, -, joined⟩ :=
    join_cases spelled (not_isAbsolute entry.toIsName)
  · exact absurd nothing filled
  · have ended : names (respell spelled) = names (respell front) ++ [[]] := by
      rw [slash, respell_slash, names_slash]
      rfl
    rw [joined, respell_slash, entry.spelled, names_slash, names_name entry.toIsName, ended,
      List.append_assoc, List.append_assoc]
    exact (follow_skip _).symm
  · rw [joined, respell_slash, entry.spelled, names_slash, names_name entry.toIsName,
      List.append_assoc]
    rfl

/-- A path with one name more leads where the name leads from there, if it is not too long. -/
theorem Leads.find_join (leads : d.Leads spelled links place) (entry : IsEntry name) :
    d.find (join spelled name) =
      if longestPath < (nameBytes (join spelled name)).length then .error .nameTooLong
      else d.follow links place [name] := by
  have named := nameable_join leads.nameable entry.nameable
  have filled := join_ne_nil spelled entry.toIsName
  have followed : d.follow mostLinks (d.start spelled) (names (respell (join spelled name))) =
      d.follow links place [name] := by
    rw [← List.append_nil (names _), follow_join leads.filled entry, leads.onward]
  unfold find
  rw [if_neg (by simp [filled, named]), start_join leads.filled entry.toIsName, followed]

theorem enter_child (entry : IsEntry name) (entered : node.child? name = some child)
    (real : ∀ target, child ≠ .link target) :
    enter links place node name = .ok (links, place ++ [name], []) := by
  have directory := Node.isDirectory_of_child entered
  have empty : (name == ofString "") = false := beq_eq_false_iff_ne.mpr entry.filled
  have dot : (name == ofString ".") = false := by simpa using entry.other.1
  have dots : (name == ofString "..") = false := by simpa using entry.other.2
  have short : ¬longestName < (nameBytes name).length := Nat.not_lt.mpr entry.short
  simp only [enter, directory, empty, dot, dots, short, entered, Bool.not_true, Bool.or_self,
    Bool.false_eq_true, if_false]
  cases child with
  | link target => exact absurd rfl (real target)
  | file | directory => rfl

theorem Leads.enter (leads : d.Leads spelled links place) (there : d.top.find? place = some node)
    (entry : IsEntry name) (entered : node.child? name = some child)
    (directory : child.isDirectory = true) :
    d.Leads (join spelled name) links (place ++ [name]) where
  nameable := nameable_join leads.nameable entry.nameable
  filled := join_ne_nil spelled entry.toIsName
  onward := by
    intro next rest
    have real : ∀ target, child ≠ .link target := by
      rintro target rfl
      cases directory
    rw [start_join leads.filled entry.toIsName, follow_join leads.filled entry, leads.onward,
      follow_cons there, enter_child entry entered real]
    rfl

/-- A path leads through the directories below the place it leads to. -/
theorem Leads.below (leads : d.Leads spelled links place) (there : d.top.find? place = some node)
    (tree : node.IsTree) {front : List Text} (found : node.find? front = some child)
    (directory : child.isDirectory = true) :
    d.Leads (below spelled front) links (place ++ front) := by
  induction front generalizing spelled place node with
  | nil =>
    rw [List.append_nil]
    exact leads
  | cons name front ih =>
    obtain ⟨next, entered, found⟩ := Option.bind_eq_some_iff.mp found
    have first : node.find? [name] = some next := by rw [Node.find?_singleton, entered]
    have inside : next.isDirectory = true := by
      cases front with
      | nil =>
        cases found
        exact directory
      | cons other front =>
        obtain ⟨_, entered, _⟩ := Option.bind_eq_some_iff.mp found
        exact Node.isDirectory_of_child entered
    have onward := ih (leads.enter there (tree.entry entered) entered inside)
      ((Node.find?_from there _).trans first) (tree.below first) found
    rwa [List.append_assoc] at onward

/-- A path below a directory leads where its last name leads from the directory it is in, if it is
not too long. -/
theorem Leads.find_below (leads : d.Leads spelled links place)
    (there : d.top.find? place = some node) (tree : node.IsTree) {front : List Text}
    (found : node.find? (front ++ [name]) = some child) :
    d.find (Path.below spelled (front ++ [name])) =
      if longestPath < (nameBytes (Path.below spelled (front ++ [name]))).length then
        .error .nameTooLong
      else d.follow links (place ++ front) [name] := by
  have entry := tree.entries found name (List.mem_append_right _ List.mem_cons_self)
  obtain ⟨parent, within, entered⟩ := Node.find?_concat.mp found
  rw [below_concat]
  exact (leads.below there tree within (Node.isDirectory_of_child entered)).find_join entry

/-- A file below a directory is found at its own place, if its path is not too long. -/
theorem Leads.find_file (leads : d.Leads spelled links place)
    (there : d.top.find? place = some node) (tree : node.IsTree) {r : List Text} {content : Bytes}
    {executable : Bool} (nonempty : r ≠ [])
    (found : node.find? r = some (.file content executable)) :
    d.find (Path.below spelled r) =
      if longestPath < (nameBytes (Path.below spelled r)).length then .error .nameTooLong
      else .ok (place ++ r, .file content executable) := by
  obtain ⟨front, name, rfl⟩ := (List.eq_nil_or_concat' r).resolve_left nonempty
  have entry := tree.entries found name (List.mem_append_right _ List.mem_cons_self)
  obtain ⟨parent, within, entered⟩ := Node.find?_concat.mp found
  have inside := (Node.find?_from there front).trans within
  have reached := (Node.find?_from there (front ++ [name])).trans found
  rw [leads.find_below there tree found, follow_cons inside, enter_child entry entered (by simp)]
  congr 1
  rw [← List.append_assoc] at reached ⊢
  exact follow_nil reached

end Disk

section Layout

/-- A node without what lies below it. -/
def Node.bare : Node → Node
  | .directory _ => .directory []
  | node => node

/-- Two disks hold the same at every place and deny the same. Their directories may be enumerated in
different orders. -/
structure Disk.SameTree (d e : Disk) : Prop where
  nodes : ∀ place, (d.top.find? place).map Node.bare = (e.top.find? place).map Node.bare
  cwd : d.cwd = e.cwd
  denied : ∀ place, d.isDenied place = e.isDenied place

theorem Node.isDirectory_bare (node : Node) : node.bare.isDirectory = node.isDirectory := by
  cases node <;> rfl

namespace Disk

variable {d e : Disk} {place : Location}

/-- What a name does depends on the node and on the entry of that name only. -/
theorem enter_congr {node other : Node} {name : Text} (links : Nat) (place : Location)
    (kind : node.isDirectory = other.isDirectory)
    (entry : (node.child? name).map Node.bare = (other.child? name).map Node.bare) :
    enter links place node name = enter links place other name := by
  unfold enter
  rw [kind]
  split
  · rfl
  · split
    · rfl
    · split
      · rfl
      · split
        · rfl
        · generalize node.child? name = here at entry ⊢
          generalize other.child? name = there at entry ⊢
          cases here with
          | none =>
            cases there with
            | none => rfl
            | some child => cases entry
          | some child =>
            cases there with
            | none => cases entry
            | some sibling =>
              have bare : child.bare = sibling.bare := by simpa using entry
              cases child <;> cases sibling <;> cases links <;> simp_all [Node.bare]

namespace SameTree

theorem symm (same : d.SameTree e) : e.SameTree d where
  nodes := fun place => (same.nodes place).symm
  cwd := same.cwd.symm
  denied := fun place => (same.denied place).symm

theorem node (same : d.SameTree e) {node : Node} (there : d.top.find? place = some node) :
    ∃ other, e.top.find? place = some other ∧ other.bare = node.bare := by
  have nodes := same.nodes place
  rw [there] at nodes
  exact Option.map_eq_some_iff.mp nodes.symm

theorem absent (same : d.SameTree e) (absent : d.top.find? place = none) :
    e.top.find? place = none := by
  have nodes := same.nodes place
  rw [absent] at nodes
  exact Option.map_eq_none_iff.mp nodes.symm

/-- Paths lead to the same places, whatever the order of entries. -/
theorem follow (same : d.SameTree e) (links : Nat) (place : Location) (names : List Text) :
    (d.follow links place names).map (fun found => (found.1, found.2.bare)) =
      (e.follow links place names).map (fun found => (found.1, found.2.bare)) := by
  induction links, place, names using follow_induction with
  | nil links place =>
    cases there : d.top.find? place with
    | none => rw [follow_absent _ there, follow_absent _ (same.absent there)]
    | some node =>
      obtain ⟨other, here, bare⟩ := same.node there
      rw [follow_nil there, follow_nil here, Except.map, Except.map, bare]
  | cons links place name rest ih =>
    cases there : d.top.find? place with
    | none => rw [follow_absent _ there, follow_absent _ (same.absent there)]
    | some node =>
      obtain ⟨other, here, bare⟩ := same.node there
      have kind : node.isDirectory = other.isDirectory := by
        rw [← Node.isDirectory_bare, ← bare, Node.isDirectory_bare]
      have entry : (node.child? name).map Node.bare = (other.child? name).map Node.bare := by
        rw [← Node.find?_singleton, ← Node.find?_singleton, ← Node.find?_from there,
          ← Node.find?_from here]
        exact same.nodes _
      rw [follow_cons there, follow_cons here, enter_congr links place kind entry]
      cases entered : enter links place other name with
      | error reason => rfl
      | ok step =>
        rw [← enter_congr links place kind entry] at entered
        exact ih node step.1 step.2.1 step.2.2 entered

theorem find (same : d.SameTree e) (path : Text) :
    (d.find path).map (fun found => (found.1, found.2.bare)) =
      (e.find path).map (fun found => (found.1, found.2.bare)) := by
  have start : d.start path = e.start path := by rw [start, start, home, home, same.cwd]
  unfold Disk.find
  rw [start]
  split
  · rfl
  · split
    · rfl
    · exact same.follow _ _ _

theorem found (same : d.SameTree e) {path : Text} {node : Node}
    (h : d.find path = .ok (place, node)) :
    ∃ other, e.find path = .ok (place, other) ∧ other.bare = node.bare := by
  have both := same.find path
  rw [h] at both
  cases other : e.find path with
  | error reason =>
    rw [other] at both
    cases both
  | ok found =>
    obtain ⟨reached, sibling⟩ := found
    rw [other] at both
    obtain ⟨rfl, bare⟩ := Prod.mk.inj (Except.ok.inj both)
    exact ⟨sibling, rfl, bare.symm⟩

end SameTree

end Disk

end Layout

end PerlAudit.Files
