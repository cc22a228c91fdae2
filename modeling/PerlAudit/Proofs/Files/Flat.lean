import PerlAudit.Proofs.Files.Resolution

/-!
Disks that are one directory of files. A path on such a disk leads to the directory itself, to one
of its files or nowhere, and there are no links to resolve.
-/

namespace PerlAudit.Files.Disk

open Text PerlAudit.Path

/-- A disk that is one directory, seen from there. -/
def flat (entries : List (Text × Node)) : Disk := ⟨.directory entries, "/", [], []⟩

/-- A name that stays where it is. -/
def stays (name : Text) : Bool := name == "" || name == "."

/-- A path that can be followed. -/
structure IsPath (path : Text) : Prop where
  filled : path ≠ []
  nameable : nameFlaw? path = none
  short : (nameBytes path).length ≤ longestPath

section Flat

variable {entries : List (Text × Node)} {links : Nat} {name path : Text}

theorem find_flat (proper : IsPath path) :
    (flat entries).find path = (flat entries).follow mostLinks [] (names (respell path)) := by
  have start : (flat entries).start path = [] := by
    have home : spelledPlace "/" = [] := by decide
    simp [Disk.start, Disk.home, flat, home]
  rw [find, if_neg (by simp [proper.filled, proper.nameable]),
    if_neg (Nat.not_lt.mpr proper.short), start]

theorem follow_stays {lead : List Text} (still : lead.all stays) (rest : List Text) :
    (flat entries).follow links [] (lead ++ rest) = (flat entries).follow links [] rest := by
  induction lead with
  | nil => rfl
  | cons first more ih =>
    obtain ⟨here, others⟩ : stays first = true ∧ more.all stays = true := by simpa using still
    have entered : enter links [] (.directory entries) first = .ok (links, [], []) := by
      unfold enter
      rw [if_neg (by simp [Node.isDirectory])]
      exact if_pos here
    rw [List.cons_append, @follow_cons _ _ _ (.directory entries) _ _ rfl, entered]
    exact ih others

/-- A path without names leads to the directory. -/
theorem find_flat_top (proper : IsPath path) (still : (names (respell path)).all stays) :
    (flat entries).find path = .ok ([], .directory entries) := by
  rw [find_flat proper, ← List.append_nil (names _), follow_stays still]
  exact follow_nil rfl

theorem find_flat_name (lead : List Text) (proper : IsPath path) (still : lead.all stays)
    (spelled : names (respell path) = lead ++ [name]) :
    (flat entries).find path =
      (enter mostLinks [] (.directory entries) name).bind fun found =>
        (flat entries).follow found.1 found.2.1 found.2.2 := by
  rw [find_flat proper, spelled, follow_stays still,
    @follow_cons _ _ _ (.directory entries) _ _ rfl]
  simp only [List.append_nil]

/-- A path with one name leads to the file of that name. -/
theorem find_flat_file (lead : List Text) (proper : IsPath path) (still : lead.all stays)
    (spelled : names (respell path) = lead ++ [name]) (entry : IsEntry name) {content : Bytes}
    {executable : Bool} (file : entries.lookup name = some (.file content executable)) :
    (flat entries).find path = .ok ([name], .file content executable) := by
  have child : (Node.directory entries).child? name = some (.file content executable) := file
  have filled : name ≠ ofString "" := entry.filled
  have entered : enter mostLinks [] (.directory entries) name = .ok (mostLinks, [name], []) := by
    unfold enter
    rw [child]
    simp [Node.isDirectory, filled, entry.other, Nat.not_lt.mpr entry.short]
  have found : (flat entries).top.find? [name] = some (.file content executable) := by
    change ((Node.directory entries).child? name).bind _ = _
    rw [child]
    rfl
  rw [find_flat_name lead proper still spelled, entered]
  exact follow_nil found

/-- A path with a name that is not there leads nowhere. -/
theorem find_flat_missing (lead : List Text) (proper : IsPath path) (still : lead.all stays)
    (spelled : names (respell path) = lead ++ [name]) (entry : IsEntry name)
    (missing : entries.lookup name = none) : (flat entries).find path = .error .noEntry := by
  have child : (Node.directory entries).child? name = none := missing
  have filled : name ≠ ofString "" := entry.filled
  have entered : enter mostLinks [] (.directory entries) name = .error .noEntry := by
    unfold enter
    rw [child]
    simp [Node.isDirectory, filled, entry.other, Nat.not_lt.mpr entry.short]
  rw [find_flat_name lead proper still spelled, entered]
  rfl

/-- Files are not links. -/
theorem linkAt?_flat (files : entries.all (·.2.isFile))
    (still : (names (respell path)).dropLast.all stays) : (flat entries).linkAt? path = none := by
  have start : (flat entries).start path = [] := by
    have home : spelledPlace "/" = [] := by decide
    simp [Disk.start, Disk.home, flat, home]
  have top : (flat entries).follow mostLinks [] (names (respell path)).dropLast =
      .ok ([], .directory entries) := by
    rw [← List.append_nil (List.dropLast _), follow_stays still]
    exact follow_nil rfl
  unfold linkAt?
  dsimp only
  rw [start, top]
  dsimp only
  cases last : (names (respell path)).getLast? with
  | none => rfl
  | some name =>
    rw [Option.bind_some]
    cases child : (Node.directory entries).child? name with
    | none => rfl
    | some node =>
      have member : (name, node) ∈ entries := Node.mem_of_lookup child
      have file := List.all_eq_true.mp files _ member
      cases node with
      | file => rfl
      | directory | link => cases file

theorem realSteps_stays {lead : List Text} (still : lead.all stays)
    (seen : List (Text × Option Text)) (rest : List RealStep) :
    (flat entries).realSteps links seen path (lead.map .name ++ rest) =
      (flat entries).realSteps links seen path rest := by
  induction lead with
  | nil => rfl
  | cons first more ih =>
    obtain ⟨here, others⟩ : stays first = true ∧ more.all stays = true := by simpa using still
    rw [List.map_cons, List.cons_append, realSteps]
    exact (if_pos here).trans (ih others)

/-- A path without names is that of the directory. -/
theorem real_flat_top (still : (names path).all stays) : (flat entries).real path =
    .ok (Path.absolute "/" (if isAbsolute path then "/" else [])) := by
  unfold real steps
  dsimp only
  rw [← List.append_nil (List.map _ _), realSteps_stays still, realSteps]
  rfl

/-- A path with one name is that of the entry. -/
theorem real_flat (lead : List Text) (files : entries.all (·.2.isFile)) (still : lead.all stays)
    (spelled : names path = lead ++ [name]) (entry : IsEntry name) :
    let next := join (if isAbsolute path then "/" else []) name
    nameFlaw? next = none → (names (respell next)).dropLast.all stays →
      (flat entries).real path = .ok (Path.absolute "/" next) := by
  intro next nameable direct
  have filled : name ≠ ofString "" := entry.filled
  have moves : ¬(name == "" || name == ".") = true := by simp [filled, entry.other]
  have descends : ¬(name == "..") = true := by simp [entry.other]
  have unlinked := linkAt?_flat files direct
  unfold real steps
  dsimp only
  rw [spelled, List.map_append, realSteps_stays still, List.map_singleton, realSteps, if_neg moves,
    if_neg descends]
  dsimp only
  rw [nameable]
  dsimp only
  rw [unlinked]
  dsimp only
  rw [realSteps]
  rfl

end Flat

end PerlAudit.Files.Disk
