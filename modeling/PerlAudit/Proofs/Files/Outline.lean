import PerlAudit.Proofs.Files.Naming
import PerlAudit.Proofs.Session.Ledger

/-!
What a disk is apart from the contents of its files. Which paths lead to files, and which of these
can be opened or started, is a matter of this outline, and a log file that grows does not change it.
-/

namespace PerlAudit

open Text (Bytes)

namespace Files

namespace Node

mutual

/-- A tree without the contents of its files. -/
def outline : Node → Node
  | file _ executable => file [] executable
  | directory entries => directory (outlineEntries entries)
  | link target => link target

def outlineEntries : List (Text × Node) → List (Text × Node)
  | [] => []
  | (name, node) :: rest => (name, node.outline) :: outlineEntries rest

end

theorem isFile_outline (node : Node) : node.outline.isFile = node.isFile := by
  cases node <;> rfl

theorem isDirectory_outline (node : Node) : node.outline.isDirectory = node.isDirectory := by
  cases node <;> rfl

theorem lookup_outlineEntries (entries : List (Text × Node)) (name : Text) :
    (outlineEntries entries).lookup name = (entries.lookup name).map outline := by
  induction entries with
  | nil => rfl
  | cons e rest ih =>
    obtain ⟨other, node⟩ := e
    rw [outlineEntries, List.lookup_cons, List.lookup_cons]
    cases name == other with
    | true => rfl
    | false => exact ih

theorem child?_outline (node : Node) (name : Text) :
    node.outline.child? name = (node.child? name).map outline := by
  cases node with
  | directory entries => exact lookup_outlineEntries entries name
  | file | link => rfl

theorem find?_outline (node : Node) (place : Location) :
    node.outline.find? place = (node.find? place).map outline := by
  induction place generalizing node with
  | nil => rfl
  | cons name rest ih =>
    rw [find?, find?, child?_outline]
    cases node.child? name with
    | none => rfl
    | some child => exact ih child

/-- A change that keeps the outline of the entry it is about keeps the outline of all. -/
theorem outlineEntries_alterEntry {change : Option Node → Option Node} {name : Text}
    {entries : List (Text × Node)} {child changed : Node}
    (there : entries.lookup name = some child) (becomes : change (some child) = some changed)
    (same : changed.outline = child.outline) :
    outlineEntries (alterEntry change name entries) = outlineEntries entries := by
  induction entries with
  | nil => cases there
  | cons e rest ih =>
    obtain ⟨other, node⟩ := e
    rw [List.lookup_cons] at there
    rw [alterEntry]
    by_cases here : other = name
    · subst here
      rw [beq_self_eq_true] at there
      cases there
      simp [becomes, outlineEntries, same]
    · rw [beq_eq_false_iff_ne.mpr (Ne.symm here)] at there
      rw [if_neg here, outlineEntries, outlineEntries, ih there]

theorem outline_alter (change : Option Node → Option Node) {place : Location}
    {node found changed : Node} (there : node.find? place = some found)
    (becomes : change (some found) = some changed) (same : changed.outline = found.outline) :
    ∃ altered, alter change place (some node) = some altered ∧
      altered.outline = node.outline := by
  induction place generalizing node with
  | nil =>
    cases there
    exact ⟨changed, becomes, same⟩
  | cons name rest ih =>
    obtain ⟨child, entered, deeper⟩ := Option.bind_eq_some_iff.mp there
    obtain ⟨altered, below, kept⟩ := ih deeper
    cases node with
    | directory entries =>
      refine ⟨_, rfl, ?_⟩
      rw [outline, outline, outlineEntries_alterEntry entered below kept]
    | file | link => cases entered

end Node

namespace Disk

def outline (d : Disk) : Disk := { d with top := d.top.outline }

theorem follow_outline (d : Disk) (links : Nat) (place : Location) (names : List Text) :
    d.outline.follow links place names =
      (d.follow links place names).map fun found => (found.1, found.2.outline) := by
  have top (place : Location) :
      d.outline.top.find? place = (d.top.find? place).map Node.outline :=
    Node.find?_outline d.top place
  fun_induction Disk.follow d links place names with
  | case1 links place names absent =>
    rw [follow.eq_def, top, absent]
    cases names <;> rfl
  | case2 links place node there =>
    rw [follow.eq_def, top, there]
    rfl
  | case3 links place name rest node there leaf =>
    rw [follow.eq_def, top, there]
    simp only [Option.map_some, Node.isDirectory_outline, leaf, if_true]
    rfl
  | case4 links place name rest node there directory here ih =>
    rw [follow.eq_def, top, there]
    simp only [Option.map_some, Node.isDirectory_outline, directory, here, if_true]
    exact ih
  | case5 links place name rest node there directory here up ih =>
    rw [follow.eq_def, top, there]
    simp only [Option.map_some, Node.isDirectory_outline, directory, here, up, if_true]
    exact ih
  | case6 links place name rest node there directory here up long =>
    rw [follow.eq_def, top, there]
    simp only [Option.map_some, Node.isDirectory_outline, directory, here, up, long, if_true]
    rfl
  | case7 links place name rest node there directory here up short missing =>
    rw [follow.eq_def, top, there]
    simp only [Option.map_some, Node.isDirectory_outline, directory, here, up, short, if_false,
      Node.child?_outline, missing]
    rfl
  | case8 place name rest node there directory here up short target entered =>
    rw [follow.eq_def, top, there]
    simp only [Option.map_some, Node.isDirectory_outline, directory, here, up, short, if_false,
      Node.child?_outline, entered]
    rfl
  | case9 place name rest node there directory here up short target links entered ih =>
    rw [follow.eq_def, top, there]
    simp only [Option.map_some, Node.isDirectory_outline, directory, here, up, short, if_false,
      Node.child?_outline, entered]
    exact ih
  | case10 place name rest node there directory here up short child links last more entered ih =>
    rw [follow.eq_def, top, there]
    simp only [Option.map_some, Node.isDirectory_outline, directory, here, up, short, if_false,
      Node.child?_outline, entered]
    cases child with
    | link target =>
      cases links with
      | zero => exact (last target rfl rfl).elim
      | succ links => exact (more target links rfl rfl).elim
    | file | directory => exact ih

theorem find_outline (d : Disk) (path : Text) :
    d.outline.find path = (d.find path).map fun found => (found.1, found.2.outline) := by
  unfold find
  split
  · rfl
  · split
    · rfl
    · exact follow_outline d _ _ _

theorem find?_outline (d : Disk) (path : Text) :
    d.outline.find? path = (d.find? path).map Node.outline := by
  rw [find?, find?, find_outline]
  cases d.find path <;> rfl

theorem isFile_outline (d : Disk) (path : Text) : d.outline.isFile path = d.isFile path := by
  rw [isFile, isFile, find?_outline]
  cases d.find? path with
  | none => rfl
  | some node => exact node.isFile_outline

theorem isReadable_outline (d : Disk) (path : Text) :
    d.outline.isReadable path = d.isReadable path := by
  rw [isReadable, isReadable, find_outline]
  cases d.find path <;> rfl

theorem isExecutable_outline (d : Disk) (path : Text) :
    d.outline.isExecutable path = d.isExecutable path := by
  rw [isExecutable, isExecutable, find?_outline]
  cases d.find? path with
  | none => rfl
  | some node => cases node <;> rfl

section SameOutline

variable {d e : Disk} (same : d.outline = e.outline)

include same

theorem isFile_eq (path : Text) : d.isFile path = e.isFile path := by
  rw [← d.isFile_outline, same, e.isFile_outline]

theorem isReadable_eq (path : Text) : d.isReadable path = e.isReadable path := by
  rw [← d.isReadable_outline, same, e.isReadable_outline]

theorem isExecutable_eq : d.isExecutable = e.isExecutable := by
  funext path
  rw [← d.isExecutable_outline, same, e.isExecutable_outline]

end SameOutline

/-- What is added to a file does not change the outline. -/
theorem outline_append (d : Disk) (place : Location) (bytes : Bytes) :
    (d.append place bytes).outline = d.outline := by
  unfold append
  split
  · rename_i content executable there
    obtain ⟨top, altered, same⟩ := Node.outline_alter
      (fun _ => some (.file (content ++ bytes) executable)) there rfl rfl
    unfold alter outline
    rw [altered, Option.getD_some, same]
  · rfl

theorem outline_grown (d : Disk) (growth : List (Location × Bytes)) :
    (d.grown growth).outline = d.outline := grown_induct outline_append d growth

theorem openFile_eq_ok_iff {d : Disk} {path : Text} {place : Location} {content : Bytes} :
    d.openFile path = .ok (place, content) ↔
      ∃ executable, d.find path = .ok (place, .file content executable) ∧
        d.isDenied place = false := by
  unfold openFile
  constructor
  · intro opened
    cases found : d.find path with
    | error reason => simp [found] at opened
    | ok there =>
      obtain ⟨elsewhere, node⟩ := there
      rw [found] at opened
      cases denied : d.isDenied elsewhere with
      | true => simp [denied] at opened
      | false =>
        cases node with
        | file bytes executable =>
          obtain ⟨rfl, rfl⟩ : elsewhere = place ∧ bytes = content := by
            simpa [denied] using opened
          exact ⟨executable, rfl, denied⟩
        | directory | link => simp [denied] at opened
  · rintro ⟨executable, found, readable⟩
    simp [found, readable]

/-- A file that can be opened to be read. -/
def IsOpenable (d : Disk) (path : Text) : Prop := ∃ opened, d.openFile path = .ok opened

theorem isOpenable_iff {d : Disk} {path : Text} :
    d.IsOpenable path ↔ d.isFile path = true ∧ d.isReadable path = true := by
  unfold IsOpenable openFile isFile isReadable find?
  cases d.find path with
  | error reason => simp [Except.toOption]
  | ok found =>
    obtain ⟨place, node⟩ := found
    cases denied : d.isDenied place with
    | true => simp [Except.toOption, denied]
    | false => cases node <;> simp [Except.toOption, denied, Node.isFile]

theorem isOpenable_congr {d e : Disk} (same : d.outline = e.outline) {path : Text} :
    d.IsOpenable path ↔ e.IsOpenable path := by
  rw [isOpenable_iff, isOpenable_iff, isFile_eq same, isReadable_eq same]

theorem read_failing_iff {d : Disk} {path : Text} {reason : Errno} :
    d.read path = .error (.reading reason) ↔ ∃ place content,
      d.openFile path = .ok (place, content) ∧ d.failing.lookup place = some reason := by
  unfold read
  constructor
  · intro failing
    cases opened : d.openFile path with
    | error other => simp [opened] at failing
    | ok there =>
      obtain ⟨place, content⟩ := there
      rw [opened] at failing
      cases fails : d.failing.lookup place with
      | none => simp [fails] at failing
      | some other =>
        obtain rfl : other = reason := by simpa [fails] using failing
        exact ⟨place, content, rfl, fails⟩
  · rintro ⟨place, content, opened, fails⟩
    simp [opened, fails]

theorem nameable_of_failing {d : Disk} {path : Text} {reason : Errno}
    (failing : d.read path = .error (.reading reason)) : Text.nameFlaw? path = none := by
  obtain ⟨place, content, opened, -⟩ := read_failing_iff.mp failing
  obtain ⟨executable, found, -⟩ := openFile_eq_ok_iff.mp opened
  exact nameable_of_find found

/-- Whether reading fails is a matter of the outline. -/
theorem read_failing_congr {d e : Disk} (same : d.outline = e.outline) {path : Text}
    {reason : Errno} (failing : d.read path = .error (.reading reason)) :
    e.read path = .error (.reading reason) := by
  obtain ⟨place, content, opened, fails⟩ := read_failing_iff.mp failing
  obtain ⟨executable, found, readable⟩ := openFile_eq_ok_iff.mp opened
  have outlined : (e.find path).map (fun found => (found.1, found.2.outline)) =
      .ok (place, (Node.file content executable).outline) := by
    rw [← find_outline, ← same, find_outline, found]
    rfl
  have denied : e.outline.denied = d.outline.denied := by rw [same]
  have failures : e.outline.failing = d.outline.failing := by rw [same]
  cases there : e.find path with
  | error other =>
    rw [there] at outlined
    cases outlined
  | ok led =>
    obtain ⟨elsewhere, node⟩ := led
    rw [there] at outlined
    obtain ⟨rfl, alike⟩ : elsewhere = place ∧ node.outline = _ := by
      simpa [Except.map] using outlined
    cases node with
    | directory | link => cases alike
    | file other started =>
      have undenied : e.isDenied elsewhere = false :=
        (congrArg (·.contains elsewhere) denied).trans readable
      exact read_failing_iff.mpr ⟨elsewhere, other,
        openFile_eq_ok_iff.mpr ⟨started, there, undenied⟩,
        (congrArg (·.lookup elsewhere) failures).trans fails⟩

/-- Where there are no files, none can be opened. -/
theorem unopenable_bare (cwd : Text) (denied : List Location) (failing : List (Location × Errno))
    (path : Text) :
    ¬IsOpenable ⟨.empty, cwd, denied, failing⟩ path := by
  rw [isOpenable_iff]
  rintro ⟨file, -⟩
  unfold isFile find? at file
  cases found : find ⟨.empty, cwd, denied, failing⟩ path with
  | error reason =>
    rw [found] at file
    cases file
  | ok there =>
    rw [found] at file
    obtain ⟨place, node⟩ := there
    have here : Node.empty.find? place = some node := find_place found
    cases place with
    | nil =>
      cases here
      cases file
    | cons name rest => cases here

end Disk

end Files

theorem Session.Ledger.outline {s t : Session} {commands : List Command.Request}
    {ops : List Tap.Operation} (h : Ledger s t commands ops) :
    t.host.disk.outline = s.host.disk.outline := by
  obtain ⟨growth, -, host⟩ := h.host
  rw [host]
  exact Files.Disk.outline_grown _ growth

end PerlAudit
