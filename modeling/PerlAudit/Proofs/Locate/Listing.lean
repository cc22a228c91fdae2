import Mathlib.Data.List.Nodup
import PerlAudit.Proofs.Files.Preorder
import PerlAudit.Proofs.Locate.Discovery

namespace PerlAudit

open Text PerlAudit.Path

namespace Files

variable {d e : Disk} {base : Text} {place : Location} {node other : Node} {r : List Text}

section Changes

/-- A disk where one place more is denied. -/
def Disk.forbid (d : Disk) (place : Location) : Disk := { d with denied := place :: d.denied }

theorem Disk.isDenied_forbid (d : Disk) (place there : Location) :
    (d.forbid place).isDenied there = (there == place || d.isDenied there) := List.contains_cons

theorem Disk.follow_forbid (d : Disk) (denied : Location) (links : Nat) (place : Location)
    (names : List Text) :
    (d.forbid denied).follow links place names = d.follow links place names := by
  induction links, place, names using Disk.follow_induction with
  | nil links place =>
    cases there : d.top.find? place with
    | none => rw [follow_absent _ there, follow_absent (d := d.forbid denied) _ there]
    | some node => rw [follow_nil there, follow_nil (d := d.forbid denied) there]
  | cons links place name rest ih =>
    cases there : d.top.find? place with
    | none => rw [follow_absent _ there, follow_absent (d := d.forbid denied) _ there]
    | some node =>
      rw [follow_cons there, follow_cons (d := d.forbid denied) there]
      cases entered : enter links place node name with
      | error reason => rfl
      | ok step => exact ih node step.1 step.2.1 step.2.2 entered

theorem Disk.find_forbid (d : Disk) (place : Location) (path : Text) :
    (d.forbid place).find path = d.find path := by
  unfold find
  rw [follow_forbid]
  rfl

/-- Forbidding a directory takes away what lies below it, and nothing else. -/
theorem listed_forbid_iff {front : List Text} (there : d.top.find? place = some node)
    (found : node.find? front = some other) (directory : other.isDirectory = true) :
    Listed (d.forbid (place ++ front)) base place node r ↔
      Listed d base place node r ∧ ¬front <+: r := by
  have reaches := (Node.find?_from there front).trans found
  constructor
  · rintro ⟨entry, allowed, plain, reached, content, executable, file, readable⟩
    rw [Disk.find_forbid] at file
    simp only [Disk.isDenied_forbid, Bool.or_eq_false_iff] at allowed readable
    refine ⟨⟨entry, fun more part whole => (allowed more part whole).2, plain,
      reached, content, executable, file, readable.2⟩, fun part => ?_⟩
    have whole : front ≠ r := by
      rintro rfl
      obtain ⟨e, here, leaf⟩ := entry
      rw [found] at here
      cases here
      rw [directory] at leaf
      cases leaf
    simpa using (allowed front part whole).1
  · rintro ⟨⟨entry, allowed, plain, reached, content, executable, file, readable⟩, apart⟩
    refine ⟨entry, fun more part whole => ?_, plain, reached, content, executable, ?_, ?_⟩
    · have different : more ≠ front := by
        rintro rfl
        exact apart part
      rw [Disk.isDenied_forbid, allowed more part whole]
      simpa using different
    · rw [Disk.find_forbid, file]
    · have different : reached ≠ place ++ front := by
        rintro rfl
        rw [Disk.find_place file] at reaches
        cases reaches
        cases directory
      rw [Disk.isDenied_forbid, readable]
      simpa using different

/-- The order of entries makes no difference to what is listed. -/
theorem Listed.same (same : d.SameTree e) (here : d.top.find? place = some node)
    (there : e.top.find? place = some other) (listed : Listed d base place node r) :
    Listed e base place other r := by
  obtain ⟨⟨entry, found, leaf⟩, allowed, plain, reached, content, executable, file, readable⟩ :=
    listed
  obtain ⟨sibling, matched, bare⟩ := same.node ((Node.find?_from here r).trans found)
  rw [Node.find?_from there r] at matched
  obtain ⟨copy, reads, alike⟩ := same.found file
  have exact : copy = .file content executable := by
    cases copy with
    | file => exact alike
    | directory | link => cases alike
  refine ⟨⟨sibling, matched, ?_⟩, fun front part whole => ?_, plain, reached, content, executable,
    exact ▸ reads, ?_⟩
  · rw [← Node.isDirectory_bare, bare, Node.isDirectory_bare, leaf]
  · rw [← same.denied]
    exact allowed front part whole
  · rw [← same.denied]
    exact readable

/-- A file that is no link is listed if it and the directories it is in can be read, and its path is
not too long. -/
theorem listed_file_iff {links : Nat} (leads : d.Leads base links place)
    (there : d.top.find? place = some node) (tree : node.IsTree)
    (directory : node.isDirectory = true) {content : Bytes} {executable : Bool}
    (found : node.find? r = some (.file content executable)) :
    Listed d base place node r ↔
      (∀ front, front <+: r → front ≠ r → d.isDenied (place ++ front) = false) ∧
      (∀ name ∈ r.dropLast, name ∉ controlNames) ∧ d.isDenied (place ++ r) = false ∧
      (nameBytes (below base r)).length ≤ Disk.longestPath := by
  have nonempty : r ≠ [] := by
    rintro rfl
    cases found
    cases directory
  have leadsTo := leads.find_file there tree nonempty found
  constructor
  · rintro ⟨-, allowed, plain, reached, _, _, file, readable⟩
    rw [leadsTo] at file
    split at file
    · cases file
    · rename_i short
      cases file
      exact ⟨allowed, plain, readable, Nat.not_lt.mp short⟩
  · rintro ⟨allowed, plain, readable, short⟩
    rw [if_neg (Nat.not_lt.mpr short)] at leadsTo
    exact ⟨⟨_, found, rfl⟩, allowed, plain, _, _, _, leadsTo, readable⟩

end Changes

section Listings

theorem listing_of_directory (found : d.find base = .ok (place, node))
    (directory : node.isDirectory = true) : d.listing base = node.listing d base place := by
  have noFile : d.isFile base = false := by
    unfold Disk.isFile Disk.find?
    rw [found]
    cases node with
    | directory entries => rfl
    | file | link => cases directory
  unfold Disk.listing
  rw [noFile, found]
  rfl

/-- Different paths below a directory are spelled differently. -/
theorem Visits.nodup {rs : List (List Text)} (tree : node.IsTree)
    (directory : node.isDirectory = true) (visits : Visits d base place node rs) :
    (rs.map fun r => Path.normalize (below base r)).Nodup := by
  have named {r : List Text} (member : r ∈ rs) : r ≠ [] ∧ ∀ n ∈ r, IsName n := by
    have listed := (visits.listed r).mp member
    obtain ⟨e, found, -⟩ := listed.entry
    refine ⟨?_, fun n inside => (tree.entries found n inside).toIsName⟩
    rintro rfl
    exact not_listed_nil directory listed
  refine (ordered_nodup visits.ordered).map_on fun r first s second same => ?_
  exact normalize_below_inj (named first).1 (named second).1 (named first).2 (named second).2 same

/-- What is visited is given by what is listed. -/
theorem visits_of_listed {rs : List (List Text)} (tree : node.IsTree)
    (directory : node.isDirectory = true)
    (ordered : rs.Pairwise fun a b => comesBefore a b = true)
    (listed : ∀ r, r ∈ rs ↔ Listed d base place node r) : Visits d base place node rs := by
  obtain ⟨all, visits⟩ := listing_visits d tree directory base place
  have same : all = rs := ordered_unique visits.ordered ordered fun r =>
    (visits.listed r).trans (listed r).symm
  rwa [same] at visits

theorem Visits.forbid {rs : List (List Text)} {front : List Text} (tree : node.IsTree)
    (directory : node.isDirectory = true) (visits : Visits d base place node rs)
    (there : d.top.find? place = some node) (found : node.find? front = some other)
    (inside : other.isDirectory = true) :
    Visits (d.forbid (place ++ front)) base place node
      (rs.filter fun r => !front.isPrefixOf r) := by
  refine visits_of_listed tree directory (visits.ordered.filter _) fun r => ?_
  rw [listed_forbid_iff there found inside, List.mem_filter, visits.listed, Bool.not_eq_true',
    ← Bool.not_eq_true, List.isPrefixOf_iff_prefix]

theorem Visits.same {rs : List (List Text)} (same : d.SameTree e)
    (here : d.top.find? place = some node) (there : e.top.find? place = some other)
    (tree : other.IsTree) (directory : other.isDirectory = true)
    (visits : Visits d base place node rs) : Visits e base place other rs := by
  refine visits_of_listed tree directory visits.ordered fun r => ?_
  rw [visits.listed]
  exact ⟨.same same here there, .same same.symm there here⟩

end Listings

section Trees

theorem isTree_leaf {node : Node} (leaf : node.isDirectory = false) : node.IsTree := by
  intro place entries found
  cases place with
  | nil =>
    cases found
    cases leaf
  | cons name rest =>
    obtain ⟨child, entered, -⟩ := Option.bind_eq_some_iff.mp found
    rw [Node.isDirectory_of_child entered] at leaf
    cases leaf

theorem isTree_directory {entries : List (Text × Node)} (distinct : (entries.map Prod.fst).Nodup)
    (named : ∀ e ∈ entries, IsEntry e.1) (trees : ∀ e ∈ entries, e.2.IsTree) :
    (Node.directory entries).IsTree := by
  intro place inside found
  cases place with
  | nil =>
    cases found
    exact ⟨distinct, named⟩
  | cons name rest =>
    obtain ⟨child, entered, found⟩ := Option.bind_eq_some_iff.mp found
    exact trees (name, child) (Node.mem_of_lookup entered) rest inside found

theorem nameable_ascii {t : Text} (ascii : ∀ p ∈ t, isAscii p = true) : nameFlaw? t = none := by
  refine nameFlaw?_eq_none_iff.mpr fun p member => ?_
  have plain := ascii p member
  cases p with
  | half offset => cases plain
  | char c =>
    have other : c ≠ '\x00' := by
      rintro rfl
      cases plain
    simpa [CodePoint.isNameable] using other

theorem isEntry_ascii {name : Text} (named : IsName name) (ascii : ∀ p ∈ name, isAscii p = true)
    (short : name.length ≤ Disk.longestName) : IsEntry name where
  toIsName := named
  nameable := nameable_ascii ascii
  spelled := respell_ascii ascii
  short := by rwa [nameBytes_ascii_length ascii]

end Trees

section Ascent

/-- A path that goes up one directory more than `n` times. -/
def ascent (n : Nat) : Text := joinNames (List.replicate (n + 1) "..")

theorem ascent_succ (n : Nat) : ascent (n + 1) = ofString "../" ++ ascent n := by
  rw [ascent, ascent, joinNames, joinNames, joinWith, joinWith, List.replicate_succ,
    List.replicate_succ, List.intercalate_cons_cons]
  rfl

theorem ascent_head (n : Nat) : ∃ rest, ascent n = .char '.' :: rest := by
  cases n with
  | zero => exact ⟨_, rfl⟩
  | succ n =>
    rw [ascent_succ]
    exact ⟨_, rfl⟩

theorem ascent_length (n : Nat) : (ascent n).length = 3 * n + 2 := by
  induction n with
  | zero => rfl
  | succ n ih =>
    rw [ascent_succ, List.length_append, ih]
    have : (ofString "../").length = 3 := rfl
    omega

theorem ascent_ascii (n : Nat) : ∀ p ∈ ascent n, isAscii p = true := by
  induction n with
  | zero => exact List.all_eq_true.mp rfl
  | succ n ih =>
    rw [ascent_succ]
    exact List.forall_mem_append.mpr ⟨List.all_eq_true.mp rfl, ih⟩

theorem names_ascent (n : Nat) : names (ascent n) = List.replicate (n + 1) (ofString "..") := by
  refine names_joinNames (List.cons_ne_nil _ _) fun part member => ?_
  rw [List.eq_of_mem_replicate member]
  decide

theorem normalize_ascent (n : Nat) : Path.normalize (ascent n) = ascent n := by
  obtain ⟨rest, head⟩ := ascent_head n
  have root : rootOf (ascent n) = [] := by
    rw [head]
    exact rootOf_append [] rest (by decide)
  have step (k : Nat) : tidyStep false (List.replicate k (ofString "..")) (ofString "..") =
      List.replicate (k + 1) (ofString "..") := by
    cases k <;> rfl
  have fold (m k : Nat) : (List.replicate m (ofString "..")).foldl (tidyStep false)
      (List.replicate k (ofString "..")) = List.replicate (k + m) (ofString "..") := by
    induction m generalizing k with
    | zero => rfl
    | succ m ih =>
      rw [List.replicate_succ, List.foldl_cons, step, ih, Nat.add_right_comm, Nat.add_assoc]
  have tidied : tidy false (names (ascent n)) = List.replicate (n + 1) (ofString "..") := by
    rw [names_ascent, tidy, ← List.replicate_zero, fold, List.reverse_replicate, Nat.zero_add]
  unfold Path.normalize
  rw [root]
  simp only [List.isEmpty_nil, Bool.not_true, List.nil_append, tidied]
  rw [← ascent, head]
  rfl

/-- There is nothing above the top. -/
theorem find_ascent {d : Disk} {n : Nat} (directory : d.top.isDirectory = true)
    (home : d.home = []) (short : 3 * n + 2 ≤ Disk.longestPath) :
    d.find (ascent n) = .ok ([], d.top) := by
  have top : d.top.find? [] = some d.top := rfl
  have stays (m : Nat) : d.follow Disk.mostLinks [] (List.replicate m (ofString "..")) =
      .ok ([], d.top) := by
    induction m with
    | zero => exact Disk.follow_nil top
    | succ m ih =>
      have up : Disk.enter Disk.mostLinks [] d.top (ofString "..") =
          .ok (Disk.mostLinks, [], []) := by
        unfold Disk.enter
        rw [directory]
        rfl
      rw [List.replicate_succ, Disk.follow_cons top, up]
      exact ih
  obtain ⟨rest, head⟩ := ascent_head n
  have start : d.start (ascent n) = [] := by
    rw [Disk.start, head]
    exact home
  have filled : (ascent n).isEmpty = false := by
    rw [head]
    rfl
  unfold Disk.find
  rw [if_neg (by simp [filled, nameable_ascii (ascent_ascii n)]),
    if_neg (by rw [nameBytes_ascii_length (ascent_ascii n), ascent_length]; omega), start,
    respell_ascii (ascent_ascii n), names_ascent, stays]

/-- Of a directory with one file, nothing is listed if the path of the file is too long. -/
theorem listing_too_long {d : Disk} {base name : Text} {place : Location} {content : Bytes}
    {executable : Bool}
    (found : d.find base = .ok (place, .directory [(name, .file content executable)]))
    (entry : IsEntry name)
    (long : Disk.longestPath < (nameBytes base).length + (nameBytes name).length) :
    (d.listing base).files = [] := by
  obtain ⟨links, -, leads⟩ := Disk.leads_of_find found
  have lost : d.find (join base name) = .error .nameTooLong := by
    rw [leads.find_join entry,
      if_pos (long.trans_le (nameBytes_join_length base entry.toIsName))]
  have noFile : d.isFile (join base name) = false := by
    rw [Disk.isFile, Disk.find?, lost]
    rfl
  have nothing : (listingEntries d base place [(name, .file content executable)]) = [] := by
    rw [listingEntries_eq]
    simp [contribution, Node.isDirectory, noFile]
  rw [listing_of_directory found rfl, Node.listing, nothing]
  split
  · rfl
  · split
    · rfl
    · simp [arrange_files, byName]

end Ascent

end Files

namespace Locate

open Files Session Audit

/-- Below one directory, the search answers with what its listing holds. -/
theorem files_single {s : Session} {base : Text} (named : nameFlaw? base = none) (script : Text) :
    Writes (files [base] script) s (s.host.disk.listing base).files [] [] := by
  have expected : expectName base s = .ok () s := by
    unfold expectName
    rw [named]
    rfl
  obtain ⟨t, logged, ledger⟩ := logSkipped_writes (s.host.disk.listing base).skipped s
  refine ⟨t, ?_, ledger⟩
  calc files [base] script s
    _ = (logSkipped (s.host.disk.listing base).skipped >>= fun _ => below [] >>= fun more =>
          pure ((s.host.disk.listing base).files ++ more)) s := bind_eq expected
    _ = (below [] >>= fun more => pure ((s.host.disk.listing base).files ++ more)) t :=
      bind_eq logged
    _ = .ok ((s.host.disk.listing base).files ++ []) t := rfl
    _ = .ok (s.host.disk.listing base).files t := by rw [List.append_nil]

/-- Below a directory the search gives exactly the readable files that can be reached, once and in
preorder: the files of a directory by name, then its subdirectories by name, each completely. A file
that is no link is among them unless its path is too long or something on the way keeps it out, and
a link leads where it leads from the directory it is in. Forbidding a directory removes what lies
below it, and a disk whose entries are enumerated in another order gives the same. -/
theorem files_in_preorder (s : Session) (script : Text) {base : Text} {place : Location}
    {node : Node} (found : s.host.disk.find base = .ok (place, node))
    (directory : node.isDirectory = true) (tree : node.IsTree) :
    ∃ rs : List (List Text), ∃ links ≤ Disk.mostLinks,
      Writes (files [base] script) s (rs.map fun r => Path.normalize (Path.below base r)) [] [] ∧
      (∀ r, r ∈ rs ↔ Listed s.host.disk base place node r) ∧
      (rs.map fun r => Path.normalize (Path.below base r)).Nodup ∧
      rs.Pairwise (fun a b => comesBefore a b = true) ∧
      (∀ r content executable, node.find? r = some (.file content executable) →
        (r ∈ rs ↔
          (∀ front, front <+: r → front ≠ r → s.host.disk.isDenied (place ++ front) = false) ∧
          (∀ name ∈ r.dropLast, name ∉ controlNames) ∧
          s.host.disk.isDenied (place ++ r) = false ∧
          (nameBytes (Path.below base r)).length ≤ Disk.longestPath)) ∧
      (∀ front name target, node.find? (front ++ [name]) = some (.link target) →
        s.host.disk.find (Path.below base (front ++ [name])) =
          if Disk.longestPath < (nameBytes (Path.below base (front ++ [name]))).length then
            .error .nameTooLong
          else s.host.disk.follow links (place ++ front) [name]) ∧
      (∀ front entries, node.find? front = some (.directory entries) →
        ((s.host.disk.forbid (place ++ front)).listing base).files =
          (rs.filter fun r => !front.isPrefixOf r).map fun r =>
            Path.normalize (Path.below base r)) ∧
      ∀ d other, s.host.disk.SameTree d → d.find base = .ok (place, other) → other.IsTree →
        (d.listing base).files = rs.map fun r => Path.normalize (Path.below base r) := by
  have there : s.host.disk.top.find? place = some node := Disk.find_place found
  obtain ⟨links, fewer, leads⟩ := Disk.leads_of_find found
  obtain ⟨rs, visits⟩ := listing_visits s.host.disk tree directory base place
  refine ⟨rs, links, fewer, ?_, visits.listed, visits.nodup tree directory, visits.ordered,
    ?_, ?_, ?_, ?_⟩
  · rw [← visits.files, ← listing_of_directory found directory]
    exact files_single (Disk.nameable_of_find found) script
  · intro r content executable file
    exact (visits.listed r).trans (listed_file_iff leads there tree directory file)
  · intro front name target link
    exact leads.find_below there tree link
  · intro front entries inside
    have unchanged : (s.host.disk.forbid (place ++ front)).find base = .ok (place, node) := by
      rw [Disk.find_forbid, found]
    rw [listing_of_directory unchanged directory]
    exact (visits.forbid tree directory there inside rfl).files
  · intro d other alike reached otherTree
    obtain ⟨sibling, again, bare⟩ := alike.found found
    obtain ⟨-, rfl⟩ := Prod.mk.inj (Except.ok.inj (again.symm.trans reached))
    have inside : sibling.isDirectory = true := by
      rw [← Node.isDirectory_bare, bare, Node.isDirectory_bare, directory]
    have here : d.top.find? place = some sibling := Disk.find_place reached
    rw [listing_of_directory reached inside]
    exact (visits.same alike there here otherTree inside).files

/-- What a version control system keeps is left out, and files come before subdirectories. -/
theorem files_in_preorder_small :
    let below : Node := .directory [(ofString "c", .file [] false)]
    let node : Node := .directory
      [(ofString "b", .file [] false), (ofString ".git", below), (ofString "a", below)]
    let s := Session.start (.plain ⟨node, "/", [], []⟩ fun _ _ => .finished [] [] 0)
    s.host.disk.find ".." = .ok ([], node) ∧ node.isDirectory = true ∧ node.IsTree ∧
    ∃ rs : List (List Text),
      Writes (files [ofString ".."] "") s
        (rs.map fun r => Path.normalize (Path.below ".." r)) [] [] ∧
      [ofString "b"] ∈ rs ∧ [ofString "a", ofString "c"] ∈ rs ∧
      [ofString ".git", ofString "c"] ∉ rs := by
  intro below node s
  have entry : ∀ t ∈ [ofString "a", ofString "b", ofString "c", ofString ".git"], IsEntry t := by
    simp only [List.forall_mem_cons]
    refine ⟨?_, ?_, ?_, ?_, by simp⟩
    all_goals
      exact isEntry_ascii ⟨by decide, by decide, by decide⟩ (List.all_eq_true.mp rfl) (by decide)
  have inner : below.IsTree := isTree_directory (List.nodup_singleton _)
    (List.forall_mem_singleton.mpr (entry _ (by simp)))
    (List.forall_mem_singleton.mpr (isTree_leaf rfl))
  have tree : node.IsTree := by
    refine isTree_directory (by decide) ?_ ?_
    · simp only [List.forall_mem_cons]
      exact ⟨entry _ (by simp), entry _ (by simp), entry _ (by simp), by simp⟩
    · simp only [List.forall_mem_cons]
      exact ⟨isTree_leaf rfl, inner, inner, by simp⟩
  have home : Disk.spelledPlace "/" = [] := by decide
  have found : s.host.disk.find ".." = .ok ([], node) := find_ascent (n := 0) rfl home (by decide)
  obtain ⟨rs, -, -, answers, -, -, -, listed, -⟩ := files_in_preorder s "" found rfl tree
  have short {t : Text} (ascii : (t.all isAscii) = true) (small : t.length ≤ Disk.longestPath) :
      (nameBytes t).length ≤ Disk.longestPath := by
    rwa [nameBytes_ascii_length (List.all_eq_true.mp ascii)]
  refine ⟨found, rfl, tree, rs, answers, ?_, ?_, ?_⟩
  · exact (listed _ [] false rfl).mpr
      ⟨fun _ _ _ => rfl, by decide, rfl, short (by decide) (by decide)⟩
  · exact (listed _ [] false rfl).mpr
      ⟨fun _ _ _ => rfl, by decide, rfl, short (by decide) (by decide)⟩
  · intro member
    obtain ⟨-, plain, -⟩ := (listed _ [] false rfl).mp member
    exact plain (ofString ".git") (by decide) (by decide)

/-- A file that could be read is not listed if the path to it is too long. -/
theorem long_path_not_listed :
    ∃ (d : Disk) (base name : Text) (node : Node),
      d.find base = .ok ([], node) ∧ node.isDirectory = true ∧ node.IsTree ∧
      Path.normalize base = base ∧ d.denied = [] ∧ node.child? name = some (.file [] false) ∧
      Path.normalize (join base name) ∉ (d.listing base).files := by
  obtain ⟨name, given⟩ : ∃ name : Text, name = List.replicate 250 (.char 'a') := ⟨_, rfl⟩
  have letters : ∀ p ∈ name, p = .char 'a' := fun p member =>
    List.eq_of_mem_replicate (given ▸ member)
  have length : name.length = 250 := by rw [given, List.length_replicate]
  have ascii : ∀ p ∈ name, isAscii p = true := fun p member => by
    rw [letters p member]
    rfl
  have named : IsName name := by
    refine ⟨?_, fun member => absurd (letters _ member) (by decide), ?_, ?_⟩
    all_goals
      rintro rfl
      exact absurd length (by decide)
  have short : name.length ≤ Disk.longestName := by
    rw [length]
    decide
  have entry := isEntry_ascii named ascii short
  let node : Node := .directory [(name, .file [] false)]
  let d : Disk := ⟨node, "/", [], []⟩
  have tree : node.IsTree := isTree_directory (List.nodup_singleton _)
    (List.forall_mem_singleton.mpr entry) (List.forall_mem_singleton.mpr (isTree_leaf rfl))
  have home : Disk.spelledPlace "/" = [] := by decide
  have found : d.find (ascent 1300) = .ok ([], node) := find_ascent rfl home (by decide)
  refine ⟨d, ascent 1300, name, node, found, rfl, tree, normalize_ascent _, rfl, ?_, ?_⟩
  · simp [node, Node.child?]
  · rw [listing_too_long found entry]
    · exact List.not_mem_nil
    · rw [nameBytes_ascii_length (ascent_ascii _), nameBytes_ascii_length ascii, ascent_length,
        length]
      decide

end Locate

end PerlAudit
