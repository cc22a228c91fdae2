import PerlAudit.Proofs.Files.Growth
import PerlAudit.Proofs.Files.Resolution


/-!
Opening a file to add to it. The file is made if nothing but the file is missing, and then the disk
holds more than it did. On a disk that holds more, every path that led to a file leads to it still.
-/

namespace PerlAudit.Files

open Text (nameFlaw?)

namespace Node

/-- Nodes that are alike but for what lies in a directory. -/
inductive Resembles : Node → Node → Prop where
  | file (content : Text.Bytes) (executable : Bool) :
      Resembles (.file content executable) (.file content executable)
  | link (target : Text) : Resembles (.link target) (.link target)
  | directory (entries others : List (Text × Node)) :
      Resembles (.directory entries) (.directory others)

theorem Resembles.refl (node : Node) : Resembles node node := by
  cases node with
  | file content executable => exact .file content executable
  | link target => exact .link target
  | directory entries => exact .directory entries entries

theorem Resembles.isDirectory {node other : Node} (h : Resembles node other) :
    other.isDirectory = node.isDirectory := by
  cases h <;> rfl

/-- A tree that lies within another: whatever is in it is in the other at the same place. -/
def Within (tree larger : Node) : Prop :=
  ∀ place node, tree.find? place = some node →
    ∃ other, larger.find? place = some other ∧ node.Resembles other

/-- The file that opening leaves: the one that is there, or a new one. -/
def opened (node : Option Node) : Option Node := some (node.getD (.file [] false))

/-- What is made at a place of which the directory is there is found at that place, and everything
else is found as before. -/
theorem alter_opened {node : Node} {parent : Location} {entries : List (Text × Node)}
    (there : node.find? parent = some (.directory entries)) (name : Text) :
    ∃ altered, alter opened (parent ++ [name]) (some node) = some altered ∧
      altered.find? (parent ++ [name]) = opened (entries.lookup name) ∧ node.Within altered := by
  induction parent generalizing node with
  | nil =>
    cases there
    have looked (other : Text) : (alterEntry (alter opened []) name entries).lookup other =
        if other = name then opened (entries.lookup name) else entries.lookup other :=
      lookup_alterEntry rfl other
    refine ⟨.directory (alterEntry (alter opened []) name entries), rfl, ?_, ?_⟩
    · rw [List.nil_append, find?_singleton, child?, looked, if_pos rfl]
    · intro place found there
      cases place with
      | nil =>
        cases there
        exact ⟨_, rfl, .directory _ _⟩
      | cons first rest =>
        obtain ⟨child, entered, deeper⟩ := Option.bind_eq_some_iff.mp there
        have entered : entries.lookup first = some child := entered
        refine ⟨found, ?_, .refl found⟩
        rw [find?, child?, looked]
        by_cases same : first = name
        · subst same
          simpa [entered, opened] using deeper
        · simpa [same, entered] using deeper
  | cons step more ih =>
    obtain ⟨child, entered, deeper⟩ := Option.bind_eq_some_iff.mp there
    obtain ⟨altered, below, made, within⟩ := ih deeper
    cases node with
    | file | link => cases entered
    | directory others =>
      have entered : others.lookup step = some child := entered
      have looked (other : Text) :
          (alterEntry (alter opened (more ++ [name])) step others).lookup other =
            if other = step then some altered else others.lookup other :=
        lookup_alterEntry ((congrArg _ entered).trans below) other
      refine ⟨.directory (alterEntry (alter opened (more ++ [name])) step others), rfl, ?_, ?_⟩
      · rw [List.cons_append, find?, child?, looked, if_pos rfl]
        exact made
      · intro place found there
        cases place with
        | nil =>
          cases there
          exact ⟨_, rfl, .directory _ _⟩
        | cons first rest =>
          obtain ⟨inner, enters, further⟩ := Option.bind_eq_some_iff.mp there
          have enters : others.lookup first = some inner := enters
          rw [find?, child?, looked]
          by_cases same : first = step
          · subst same
            obtain rfl : child = inner := Option.some.inj (entered.symm.trans enters)
            simpa using within rest found further
          · refine ⟨found, ?_, .refl found⟩
            simpa [same, enters] using further

end Node

namespace Disk

variable {d e : Disk} {links : Nat} {place spot : Location} {names : List Text} {path : Text}

/-- A disk that holds all that another holds. -/
structure Within (d e : Disk) : Prop where
  top : d.top.Within e.top
  cwd : e.cwd = d.cwd
  denied : e.denied = d.denied

theorem Within.refl (d : Disk) : d.Within d where
  top := fun _ node there => ⟨node, there, .refl node⟩
  cwd := rfl
  denied := rfl

/-- A step that can be made can be made on a larger disk, and comes to the same place. -/
theorem Within.enter (within : d.Within e) {node other : Node} {name : Text}
    {step : Nat × Location × List Text} (here : d.top.find? place = some node)
    (there : e.top.find? place = some other)
    (entered : Disk.enter links place node name = .ok step) :
    Disk.enter links place other name = .ok step := by
  have resembles : node.Resembles other := by
    obtain ⟨found, lies, resembles⟩ := within.top place node here
    rw [there] at lies
    cases lies
    exact resembles
  have child (inner : Node) (enters : node.child? name = some inner) :
      ∃ inner', other.child? name = some inner' ∧ inner.Resembles inner' := by
    obtain ⟨inner', found, resembles⟩ :=
      within.top (place ++ [name]) inner (Node.find?_concat.mpr ⟨node, here, enters⟩)
    rw [Node.find?_from there, Node.find?_singleton] at found
    exact ⟨inner', found, resembles⟩
  unfold Disk.enter at entered ⊢
  rw [resembles.isDirectory]
  split at entered
  · cases entered
  · rename_i directory
    rw [if_neg directory]
    split at entered
    · rename_i stays
      rw [if_pos stays]
      exact entered
    · rename_i moves
      rw [if_neg moves]
      split at entered
      · rename_i climbs
        rw [if_pos climbs]
        exact entered
      · rename_i descends
        rw [if_neg descends]
        split at entered
        · cases entered
        · rename_i short
          rw [if_neg short]
          cases looked : node.child? name with
          | none =>
            rw [looked] at entered
            cases entered
          | some inner =>
            obtain ⟨inner', looked', kin⟩ := child inner looked
            rw [looked] at entered
            rw [looked']
            cases kin <;> exact entered

/-- A path that leads somewhere leads there on a larger disk. -/
theorem Within.follow (within : d.Within e) {node : Node}
    (found : d.follow links place names = .ok (spot, node)) :
    ∃ other, e.follow links place names = .ok (spot, other) ∧ node.Resembles other := by
  induction links, place, names using follow_induction with
  | nil links place =>
    cases here : d.top.find? place with
    | none =>
      rw [follow_absent _ here] at found
      cases found
    | some node' =>
      rw [follow_nil here] at found
      cases found
      obtain ⟨other, there, resembles⟩ := within.top _ node here
      exact ⟨other, follow_nil there, resembles⟩
  | cons links place name rest ih =>
    cases here : d.top.find? place with
    | none =>
      rw [follow_absent _ here] at found
      cases found
    | some inner =>
      obtain ⟨other, there, -⟩ := within.top place inner here
      rw [follow_cons here] at found
      cases entered : Disk.enter links place inner name with
      | error reason =>
        rw [entered] at found
        cases found
      | ok step =>
        rw [entered] at found
        rw [follow_cons there, within.enter here there entered]
        exact ih inner step.1 step.2.1 step.2.2 entered found

theorem Within.start (within : d.Within e) (path : Text) : e.start path = d.start path := by
  rw [Disk.start, Disk.start, home, home, within.cwd]

/-- A file that can be opened can be opened on a larger disk, and is the same there. -/
theorem Within.openFile (within : d.Within e) {content : Text.Bytes}
    (opened : d.openFile path = .ok (place, content)) : e.openFile path = .ok (place, content) := by
  obtain ⟨executable, found, readable⟩ := openFile_eq_ok_iff.mp opened
  have denied : e.isDenied place = d.isDenied place := by rw [isDenied, isDenied, within.denied]
  refine openFile_eq_ok_iff.mpr ⟨executable, ?_, denied.trans readable⟩
  unfold find at found ⊢
  split at found
  · cases found
  · rename_i named
    rw [if_neg named]
    split at found
    · cases found
    · rename_i short
      rw [if_neg short, within.start]
      obtain ⟨other, led, resembles⟩ := within.follow found
      cases resembles
      exact led

/-- The last step to a file that is written: its directory is there, and under its name there is a
file or nothing. -/
structure LastStep (links : Nat) (place : Location) (node : Node) (name : Text) : Prop where
  directory : node.isDirectory = true
  free : ∀ child, node.child? name = some child → child.isFile = true
  enters : ∀ other content executable, other.child? name = some (.file content executable) →
    enter links place other name = .ok (links, place ++ [name], [])

/-- On the way to a file that is written names are entered as on any path, until the last step. -/
theorem writingPlace_cons {node : Node} {name : Text} {rest : List Text}
    (here : d.top.find? place = some node)
    (found : d.writingPlace links place (name :: rest) = .ok spot) :
    (rest = [] ∧ spot = place ++ [name] ∧ LastStep links place node name) ∨
    ∃ left next more, enter links place node name = .ok (left, next, more) ∧
      d.writingPlace left next (more ++ rest) = .ok spot := by
  rw [writingPlace.eq_def, here] at found
  dsimp only at found
  split at found
  · cases found
  · rename_i directory
    split at found
    · rename_i stays
      exact .inr ⟨links, place, [], by simp [enter, directory, stays], found⟩
    · rename_i moves
      split at found
      · rename_i climbs
        exact .inr ⟨links, place.dropLast, [], by simp [enter, directory, moves, climbs], found⟩
      · rename_i descends
        split at found
        · cases found
        · split at found
          · cases found
          · rename_i short
            have enters (other : Node) (content : Text.Bytes) (executable : Bool)
                (entered : other.child? name = some (.file content executable)) :
                enter links place other name = .ok (links, place ++ [name], []) := by
              simp [enter, Node.isDirectory_of_child entered, moves, descends, short, entered]
            have directory : node.isDirectory = true := by simpa using directory
            cases looked : node.child? name with
            | none =>
              rw [looked] at found
              dsimp only at found
              split at found
              · rename_i last
                cases found
                refine .inl ⟨List.isEmpty_iff.mp last, rfl, directory, ?_, enters⟩
                simp [looked]
              · cases found
            | some child =>
              rw [looked] at found
              cases child with
              | link target =>
                cases links with
                | zero => cases found
                | succ links =>
                  refine .inr ⟨links, if Path.isAbsolute target then [] else place,
                    Path.names target, ?_, found⟩
                  simp [enter, directory, moves, descends, short, looked]
              | file content executable =>
                dsimp only at found
                split at found
                · rename_i last
                  cases found
                  have last : rest = [] := by simpa [Node.isFile] using last
                  refine .inl ⟨last, rfl, directory, ?_, enters⟩
                  simp [looked, Node.isFile]
                · exact .inr ⟨links, place ++ [name], [], enters node _ _ looked, found⟩
              | directory entries =>
                have further : d.writingPlace links (place ++ [name]) rest = .ok spot := by
                  simpa [Node.isFile] using found
                refine .inr ⟨links, place ++ [name], [], ?_, further⟩
                simp [enter, directory, moves, descends, short, looked]

theorem writingPlace_nil (found : d.writingPlace links place [] = .ok spot) : False := by
  rw [writingPlace.eq_def] at found
  cases here : d.top.find? place with
  | none =>
    rw [here] at found
    cases found
  | some node =>
    rw [here] at found
    cases found

theorem writingPlace_there (found : d.writingPlace links place names = .ok spot) :
    ∃ node, d.top.find? place = some node := by
  cases here : d.top.find? place with
  | none =>
    rw [writingPlace.eq_def, here] at found
    cases found
  | some node => exact ⟨node, rfl⟩

/-- A file is written in a directory that is there, in place of a file or of nothing. -/
theorem writingPlace_opens (found : d.writingPlace links place names = .ok spot) :
    ∃ parent name entries, spot = parent ++ [name] ∧
      d.top.find? parent = some (.directory entries) ∧
      ∃ content executable,
        Node.opened (entries.lookup name) = some (.file content executable) := by
  induction links, place, names using follow_induction with
  | nil links place => exact (writingPlace_nil found).elim
  | cons links place name rest ih =>
    obtain ⟨node, here⟩ := writingPlace_there found
    obtain ⟨-, rfl, last⟩ | ⟨left, next, more, entered, onward⟩ := writingPlace_cons here found
    · cases node with
      | file | link => cases last.directory
      | directory entries =>
        refine ⟨place, name, entries, rfl, here, ?_⟩
        cases looked : entries.lookup name with
        | none => exact ⟨[], false, rfl⟩
        | some child =>
          have file := last.free child looked
          cases child with
          | file content executable => exact ⟨content, executable, rfl⟩
          | directory | link => cases file
    · exact ih node left next more entered onward

/-- A file that is there, where it would be written on a smaller disk, is what the path leads to. -/
theorem Within.leads (within : d.Within e) {content : Text.Bytes} {executable : Bool}
    (found : d.writingPlace links place names = .ok spot)
    (there : e.top.find? spot = some (.file content executable)) :
    e.follow links place names = .ok (spot, .file content executable) := by
  induction links, place, names using follow_induction with
  | nil links place => exact (writingPlace_nil found).elim
  | cons links place name rest ih =>
    obtain ⟨node, here⟩ := writingPlace_there found
    obtain ⟨other, lies, -⟩ := within.top place node here
    rw [follow_cons lies]
    obtain ⟨rfl, rfl, last⟩ | ⟨left, next, more, entered, onward⟩ := writingPlace_cons here found
    · rw [Node.find?_from lies, Node.find?_singleton] at there
      rw [last.enters other content executable there]
      apply follow_nil
      rw [Node.find?_from lies, Node.find?_singleton]
      exact there
    · rw [within.enter here lies entered]
      exact ih node left next more entered onward

/-- A path that has been opened leads to the file at the place it was opened at, and no file has
changed by it. -/
theorem openForAppend_opens (named : nameFlaw? path = none)
    (opened : d.openForAppend path = .ok (spot, e)) :
    d.Within e ∧ ∃ content, e.openFile path = .ok (spot, content) := by
  unfold openForAppend at opened
  dsimp only at opened
  split at opened
  · cases opened
  · rename_i place found
    split at opened
    · cases opened
    · rename_i readable
      cases opened
      split at found
      · cases found
      · rename_i filled
        split at found
        · cases found
        · rename_i short
          obtain ⟨parent, name, entries, rfl, there, content, executable, file⟩ :=
            writingPlace_opens found
          obtain ⟨altered, becomes, made, within⟩ := Node.alter_opened there name
          have larger : d.alter (parent ++ [name]) Node.opened = { d with top := altered } := by
            rw [alter, becomes]
            rfl
          change d.Within (d.alter _ Node.opened) ∧
            ∃ content, (d.alter _ Node.opened).openFile _ = _
          rw [larger]
          have within : d.Within { d with top := altered } := ⟨within, rfl, rfl⟩
          refine ⟨within, content,
            openFile_eq_ok_iff.mpr ⟨executable, ?_, Bool.eq_false_iff.mpr readable⟩⟩
          rw [find, if_neg (by simpa [named] using filled), if_neg short, within.start]
          exact within.leads found (made.trans file)

end Disk

end PerlAudit.Files
