import PerlAudit.Proofs.Files.Outline

/-!
What is read while log files grow. A file that could be opened can still be opened, and unless it is
a log itself it holds what it held. If it is one, the records follow what it held.
-/

namespace PerlAudit.Files

open Text (Bytes nameFlaw? nameBytes respell)

namespace Node

/-- What an entry is changed to is found under its name, and every other entry as it was. -/
theorem lookup_alterEntry {change : Option Node → Option Node} {name : Text}
    {entries : List (Text × Node)} {changed : Node}
    (becomes : change (entries.lookup name) = some changed) (other : Text) :
    (alterEntry change name entries).lookup other =
      if other = name then some changed else entries.lookup other := by
  induction entries with
  | nil =>
    have added : alterEntry change name [] = [(name, changed)] := by
      rw [alterEntry, show change none = some changed from becomes]
      rfl
    by_cases same : other = name
    · simp [added, same]
    · have differs : (other == name) = false := beq_eq_false_iff_ne.mpr same
      simp [added, List.lookup_cons, same, differs]
  | cons e rest ih =>
    obtain ⟨first, node⟩ := e
    rw [alterEntry]
    by_cases here : first = name
    · subst here
      have becomes : change (some node) = some changed := by simpa using becomes
      by_cases same : other = first
      · simp [becomes, same]
      · have differs : (other == first) = false := beq_eq_false_iff_ne.mpr same
        simp [becomes, List.lookup_cons, same, differs]
    · rw [List.lookup_cons, beq_eq_false_iff_ne.mpr (Ne.symm here)] at becomes
      rw [if_neg here, List.lookup_cons, List.lookup_cons, ih becomes]
      by_cases same : other = first
      · subst same
        simp [here]
      · have differs : (other == first) = false := beq_eq_false_iff_ne.mpr same
        simp only [differs]

/-- A file that is replaced is found in place of the old one, and every other file is found as it
was. -/
theorem find?_alter_file {old new : Bytes} {executable : Bool} {place : Location} {node : Node}
    (there : node.find? place = some (.file old executable)) :
    ∃ altered, alter (fun _ => some (.file new executable)) place (some node) = some altered ∧
      ∀ other content started, node.find? other = some (.file content started) →
        altered.find? other = some (.file (if other = place then new else content) started) := by
  induction place generalizing node with
  | nil =>
    cases there
    refine ⟨_, rfl, fun other content started found => ?_⟩
    cases other with
    | nil =>
      cases found
      rfl
    | cons name rest => cases found
  | cons name rest ih =>
    obtain ⟨child, entered, deeper⟩ := Option.bind_eq_some_iff.mp there
    obtain ⟨altered, below, finds⟩ := ih deeper
    cases node with
    | file | link => cases entered
    | directory entries =>
      refine ⟨_, rfl, fun other content started found => ?_⟩
      cases other with
      | nil => cases found
      | cons first more =>
        obtain ⟨entry, enters, further⟩ := Option.bind_eq_some_iff.mp found
        have looked := lookup_alterEntry ((congrArg _ entered).trans below) first
        rw [find?, child?, looked]
        by_cases same : first = name
        · subst same
          obtain rfl : child = entry := Option.some.inj (entered.symm.trans enters)
          simpa using finds more content started further
        · have kept : entries.lookup first = some entry := enters
          simp [same, kept, further]

end Node

namespace Disk

variable {d e : Disk} {path : Text} {place : Location} {content : Bytes}

/-- A path leads to a file at a place, and the file can be read. -/
structure Holds (d : Disk) (path : Text) (place : Location) (content : Bytes) : Prop where
  opened : d.openFile path = .ok (place, content)
  sound : d.failing.lookup place = none

theorem read_eq_ok_iff : d.read path = .ok content ↔ ∃ place, d.Holds path place content := by
  unfold read
  constructor
  · intro read
    cases opened : d.openFile path with
    | error reason => simp [opened] at read
    | ok there =>
      obtain ⟨place, bytes⟩ := there
      rw [opened] at read
      cases sound : d.failing.lookup place with
      | some reason => simp [sound] at read
      | none =>
        obtain rfl : bytes = content := by simpa [sound] using read
        exact ⟨place, opened, sound⟩
  · rintro ⟨place, opened, sound⟩
    simp [opened, sound]

/-- A file at the top is found from there under its name. -/
theorem find_entry {entries : List (Text × Node)} {name : Text} {executable : Bool}
    {denied : List Location} {failing : List (Location × Errno)}
    (entry : entries.lookup name = some (.file content executable)) (named : nameFlaw? name = none)
    (single : Path.names (respell name) = [name]) (proper : name ≠ "" ∧ name ≠ "." ∧ name ≠ "..")
    (short : (nameBytes name).length ≤ longestName) :
    find ⟨.directory entries, "/", denied, failing⟩ name =
      .ok ([name], .file content executable) := by
  have home : spelledPlace "/" = [] := by decide
  have filled : name ≠ [] := proper.1
  have path : ¬longestPath < (nameBytes name).length := by
    unfold longestName at short
    unfold longestPath
    omega
  have start : Disk.start ⟨.directory entries, "/", denied, failing⟩ name = [] := by
    simp [Disk.start, Disk.home, home]
  rw [Disk.find, if_neg (by simp [filled, named]), if_neg path, start, single]
  simp [Disk.follow, Node.find?, Node.child?, Node.isDirectory, proper, Nat.not_lt.mpr short, entry]

theorem holds_entry {entries : List (Text × Node)} {name : Text} {executable : Bool}
    (entry : entries.lookup name = some (.file content executable)) (named : nameFlaw? name = none)
    (single : Path.names (respell name) = [name]) (proper : name ≠ "" ∧ name ≠ "." ∧ name ≠ "..")
    (short : (nameBytes name).length ≤ longestName) :
    Holds ⟨.directory entries, "/", [], []⟩ name [name] content :=
  ⟨openFile_eq_ok_iff.mpr ⟨executable, find_entry entry named single proper short, rfl⟩, rfl⟩

theorem nameable_of_read (opened : d.read path = .ok content) : nameFlaw? path = none := by
  obtain ⟨place, opened, -⟩ := read_eq_ok_iff.mp opened
  obtain ⟨executable, found, -⟩ := openFile_eq_ok_iff.mp opened
  exact nameable_of_find found

/-- Where a path leads is a matter of the outline. -/
theorem find_congr (same : d.outline = e.outline) {node : Node}
    (found : d.find path = .ok (place, node)) :
    ∃ other, e.find path = .ok (place, other) ∧ e.top.find? place = some other := by
  have outlined : e.outline.find path = .ok (place, node.outline) := by
    rw [← same, find_outline, found]
    rfl
  rw [find_outline] at outlined
  cases there : e.find path with
  | error reason =>
    rw [there] at outlined
    cases outlined
  | ok there' =>
    obtain ⟨elsewhere, other⟩ := there'
    rw [there] at outlined
    obtain ⟨rfl, -⟩ : elsewhere = place ∧ _ := by simpa [Except.map] using outlined
    exact ⟨other, rfl, find_place there⟩

theorem openFile_append (opened : d.openFile path = .ok (place, content)) (log : Location)
    (bytes : Bytes) :
    (d.append log bytes).openFile path =
      .ok (place, if place = log then content ++ bytes else content) := by
  obtain ⟨executable, found, readable⟩ := openFile_eq_ok_iff.mp opened
  have here : d.top.find? place = some (.file content executable) := find_place found
  obtain ⟨node, led, there⟩ := find_congr (d.outline_append log bytes).symm found
  have denied : (d.append log bytes).outline.denied = d.outline.denied := by
    rw [d.outline_append log bytes]
  have grows : node = .file (if place = log then content ++ bytes else content) executable := by
    unfold Disk.append at there
    split at there
    · rename_i old started lies
      obtain ⟨top, altered, finds⟩ :=
        @Node.find?_alter_file old (old ++ bytes) started log d.top lies
      unfold alter at there
      rw [altered, Option.getD_some, finds place content executable here] at there
      by_cases same : place = log
      · subst same
        rw [here] at lies
        cases lies
        exact (Option.some.inj there).symm
      · rw [if_neg same] at there ⊢
        exact (Option.some.inj there).symm
    · rename_i absent
      have same : place ≠ log := by
        rintro rfl
        exact absent content executable here
      rw [if_neg same]
      exact Option.some.inj (there.symm.trans here)
  exact openFile_eq_ok_iff.mpr
    ⟨executable, grows ▸ led, (congrArg (·.contains place) denied).trans readable⟩

/-- What growing files gain at one place. -/
def gained (place : Location) (growth : List (Location × Bytes)) : Bytes :=
  (growth.filter (·.1 = place)).flatMap (·.2)

/-- Two places that grow by the same things gain the same. -/
theorem gained_congr {place elsewhere : Location} {growth : List (Location × Bytes)}
    (same : ∀ g ∈ growth, g.1 = place ↔ g.1 = elsewhere) :
    gained place growth = gained elsewhere growth := by
  have chosen : growth.filter (·.1 = place) = growth.filter (·.1 = elsewhere) :=
    List.filter_congr fun g mem => by simp [same g mem]
  rw [gained, chosen, gained]

/-- A file that can be opened stays as it is, but for what it gains. -/
theorem openFile_grown (opened : d.openFile path = .ok (place, content))
    (growth : List (Location × Bytes)) :
    (d.grown growth).openFile path = .ok (place, content ++ gained place growth) := by
  induction growth generalizing d content with
  | nil =>
    rw [grown_nil, gained, List.filter_nil, List.flatMap_nil, List.append_nil]
    exact opened
  | cons g rest ih =>
    obtain ⟨log, bytes⟩ := g
    rw [grown_cons, ih (openFile_append opened log bytes)]
    by_cases same : place = log
    · subst same
      simp [gained]
    · have apart : log ≠ place := Ne.symm same
      simp [gained, same, apart]

/-- A file that is none of those that grow stays as it is. -/
theorem openFile_grown_elsewhere (opened : d.openFile path = .ok (place, content))
    {growth : List (Location × Bytes)} (elsewhere : ∀ g ∈ growth, g.1 ≠ place) :
    (d.grown growth).openFile path = .ok (place, content) := by
  have nothing : growth.filter (·.1 = place) = [] := by simpa using elsewhere
  rw [openFile_grown opened, gained, nothing, List.flatMap_nil, List.append_nil]

theorem Holds.grown (holds : d.Holds path place content) (growth : List (Location × Bytes)) :
    (d.grown growth).Holds path place (content ++ gained place growth) := by
  have failing : (d.grown growth).outline.failing = d.outline.failing := by rw [d.outline_grown]
  exact ⟨openFile_grown holds.opened growth,
    (congrArg (·.lookup place) failing).trans holds.sound⟩

/-- What is read later begins with what was read before. -/
theorem read_grown (opened : d.read path = .ok content) (growth : List (Location × Bytes)) :
    ∃ added, (d.grown growth).read path = .ok (content ++ added) := by
  obtain ⟨place, holds⟩ := read_eq_ok_iff.mp opened
  exact ⟨_, read_eq_ok_iff.mpr ⟨place, holds.grown growth⟩⟩

end Disk

end PerlAudit.Files
