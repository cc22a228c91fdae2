import Mathlib.Data.List.Lex
import Mathlib.Order.Lattice
import PerlAudit.Proofs.Files.Resolution


namespace PerlAudit

theorem CodePoint.code_injective : Function.Injective CodePoint.code := by
  intro p q same
  cases p with
  | char a =>
    cases q with
    | char b => rw [Char.toNat_inj.mp same]
    | half n =>
      have valid : a.toNat < 0xD800 ∨ 0xDFFF < a.toNat ∧ a.toNat < 0x110000 := a.valid
      have : a.toNat = firstHalf + n := same
      have : firstHalf = 0xD800 := rfl
      omega
  | half m =>
    cases q with
    | char b =>
      have valid : b.toNat < 0xD800 ∨ 0xDFFF < b.toNat ∧ b.toNat < 0x110000 := b.valid
      have : firstHalf + m = b.toNat := same
      have : firstHalf = 0xD800 := rfl
      omega
    | half n => rw [Fin.ext (Nat.add_left_cancel same)]

namespace Text

theorem precedes_iff {a b : Text} :
    a.precedes b = true ↔ a.map CodePoint.code ≤ b.map CodePoint.code := by
  unfold precedes
  rw [List.lex_eq_decide_lex, Bool.not_eq_true', decide_eq_false_iff_not]
  simp only [decide_eq_true_eq]
  exact not_lt (a := b.map CodePoint.code) (b := a.map CodePoint.code)

theorem precedes_trans {a b c : Text} (first : a.precedes b = true) (second : b.precedes c = true) :
    a.precedes c = true :=
  precedes_iff.mpr ((precedes_iff.mp first).trans (precedes_iff.mp second))

theorem precedes_total (a b : Text) : (a.precedes b || b.precedes a) = true := by
  rw [Bool.or_eq_true, precedes_iff, precedes_iff]
  exact le_total _ _

theorem precedes_antisymm {a b : Text} (first : a.precedes b = true)
    (second : b.precedes a = true) : a = b :=
  List.map_injective_iff.mpr CodePoint.code_injective
    ((precedes_iff.mp first).antisymm (precedes_iff.mp second))

/-- The strict order of names. -/
def before (a b : Text) : Bool := a.precedes b && a != b

theorem before_asymm {a b : Text} (first : a.before b = true) : b.before a = false := by
  by_contra second
  obtain ⟨le, ne⟩ : a.precedes b = true ∧ a ≠ b := by simpa [before] using first
  obtain ⟨ge, -⟩ : b.precedes a = true ∧ b ≠ a := by simpa [before] using second
  exact ne (precedes_antisymm le ge)

end Text

namespace Files

open Text PerlAudit.Path

section Order

/-- Which of two paths below a directory is listed first: files come before subdirectories, and both
by name. -/
def comesBefore : List Text → List Text → Bool
  | [a], [b] => a.before b
  | [_], _ :: _ :: _ => true
  | a :: c :: r, b :: d :: s => a.before b || a == b && comesBefore (c :: r) (d :: s)
  | _, _ => false

theorem comesBefore_file (a b : Text) {s : List Text} (more : s ≠ []) :
    comesBefore [a] (b :: s) = true := by
  cases s with
  | nil => exact absurd rfl more
  | cons c s => rfl

theorem comesBefore_cons (a b : Text) {r s : List Text} (nonempty : r ≠ []) (more : s ≠ []) :
    comesBefore (a :: r) (b :: s) = (a.before b || a == b && comesBefore r s) := by
  cases r with
  | nil => exact absurd rfl nonempty
  | cons c r =>
    cases s with
    | nil => exact absurd rfl more
    | cons d s => rw [comesBefore]

theorem comesBefore_asymm (r s : List Text) (first : comesBefore r s = true) :
    comesBefore s r = false := by
  fun_induction comesBefore r s with
  | case1 a b => exact before_asymm first
  | case2 => rfl
  | case3 a c r b d s ih =>
    obtain less | ⟨rfl, later⟩ :
        a.before b = true ∨ a = b ∧ comesBefore (c :: r) (d :: s) = true := by
      simpa using first
    · have apart : (b == a) = false := by
        rw [before, Bool.and_eq_true, bne_iff_ne] at less
        exact beq_eq_false_iff_ne.mpr less.2.symm
      rw [comesBefore, before_asymm less, apart]
      rfl
    · have apart : a.before a = false := by simp [before]
      rw [comesBefore, apart, ih later]
      simp
  | case4 => cases first

theorem ordered_nodup {rs : List (List Text)}
    (ordered : rs.Pairwise fun a b => comesBefore a b = true) : rs.Nodup := by
  refine ordered.imp ?_
  rintro a b before rfl
  rw [comesBefore_asymm a a before] at before
  cases before

/-- A list in this order is given by what is in it. -/
theorem ordered_unique {rs ss : List (List Text)}
    (first : rs.Pairwise fun a b => comesBefore a b = true)
    (second : ss.Pairwise fun a b => comesBefore a b = true) (same : ∀ r, r ∈ rs ↔ r ∈ ss) :
    rs = ss := by
  refine List.Perm.eq_of_pairwise ?_ first second
    ((List.perm_ext_iff_of_nodup (ordered_nodup first) (ordered_nodup second)).mpr same)
  intro a b _ _ before after
  rw [comesBefore_asymm a b before] at after
  cases after

end Order

section Entries

variable {entries : List (Text × Node)}

/-- Entries in the order of their names. -/
def sortedEntries (entries : List (Text × Node)) : List (Text × Node) :=
  entries.mergeSort fun a b => a.1.precedes b.1

theorem mem_sortedEntries {e : Text × Node} : e ∈ sortedEntries entries ↔ e ∈ entries :=
  List.mem_mergeSort

theorem lookup_eq_some_iff (distinct : (entries.map Prod.fst).Nodup) {name : Text} {node : Node} :
    entries.lookup name = some node ↔ (name, node) ∈ entries := by
  refine ⟨Node.mem_of_lookup, fun member => ?_⟩
  induction entries with
  | nil => cases member
  | cons e rest ih =>
    obtain ⟨fresh, distinct⟩ := List.nodup_cons.mp distinct
    rw [List.lookup_cons]
    obtain rfl | later := List.mem_cons.mp member
    · simp
    · have other : (name == e.1) = false := by
        rw [beq_eq_false_iff_ne]
        rintro rfl
        exact fresh (List.mem_map.mpr ⟨_, later, rfl⟩)
      rw [other]
      exact ih distinct later

/-- Sorted entries with different names stand in the strict order of names. -/
theorem sortedEntries_ordered (distinct : (entries.map Prod.fst).Nodup) :
    (sortedEntries entries).Pairwise fun a b => a.1.before b.1 = true := by
  have sorted : (sortedEntries entries).Pairwise fun a b => a.1.precedes b.1 = true :=
    List.pairwise_mergeSort (fun a b c => precedes_trans (a := a.1) (b := b.1) (c := c.1))
      (fun a b => precedes_total a.1 b.1) entries
  have apart : (sortedEntries entries).Pairwise fun a b => a.1 ≠ b.1 := by
    have perm := (List.mergeSort_perm entries fun a b => a.1.precedes b.1).map Prod.fst
    exact List.pairwise_map.mp (perm.nodup_iff.mpr distinct)
  refine (sorted.and apart).imp fun both => ?_
  simpa [before] using both

/-- What an entry contributes to the listing of its directory. -/
def contribution (d : Disk) (spelled : Text) (place : Location) (e : Text × Node) : Option Find :=
  if e.2.isDirectory then
    if controlNames.contains e.1 then none
    else some (.below (e.2.listing d (join spelled e.1) (place ++ [e.1])))
  else if d.isFile (join spelled e.1) && d.isReadable (join spelled e.1) then
    some (.file (Path.normalize (join spelled e.1)))
  else none

theorem listingEntries_eq (d : Disk) (spelled : Text) (place : Location)
    (entries : List (Text × Node)) :
    listingEntries d spelled place entries =
      entries.filterMap fun e => (contribution d spelled place e).map (e.1, ·) := by
  induction entries with
  | nil => rw [listingEntries, List.filterMap_nil]
  | cons e rest ih =>
    obtain ⟨name, node⟩ := e
    rw [listingEntries, List.filterMap_cons, ih, contribution]
    dsimp only
    split
    · split <;> rfl
    · split <;> rfl

/-- Entries can be sorted before it is known what they contribute. -/
theorem byName_filterMap (distinct : (entries.map Prod.fst).Nodup)
    (found : Text × Node → Option Find) :
    byName (entries.filterMap fun e => (found e).map (e.1, ·)) =
      (sortedEntries entries).filterMap found := by
  let named := fun e : Text × Node => (found e).map (e.1, ·)
  have origin {a : Text × Find} (member : a ∈ entries.filterMap named) :
      ∃ node, (a.1, node) ∈ entries ∧ found (a.1, node) = some a.2 := by
    obtain ⟨e, inside, h⟩ := List.mem_filterMap.mp member
    obtain ⟨f, here, rfl⟩ := Option.map_eq_some_iff.mp h
    exact ⟨e.2, inside, here⟩
  have perm : ((sortedEntries entries).filterMap named).Perm (entries.filterMap named) :=
    (List.mergeSort_perm entries _).filterMap named
  have sorted : (entries.filterMap named).mergeSort (fun a b => a.1.precedes b.1) =
      (sortedEntries entries).filterMap named := by
    refine List.Perm.eq_of_pairwise ?_
      (List.pairwise_mergeSort (fun a b c => precedes_trans (a := a.1) (b := b.1) (c := c.1))
        (fun a b => precedes_total a.1 b.1) _) ?_ ((List.mergeSort_perm _ _).trans perm.symm)
    · intro a b first second before after
      obtain ⟨node, inside, here⟩ := origin (List.mem_mergeSort.mp first)
      obtain ⟨other, among, there⟩ := origin (perm.mem_iff.mp second)
      have name := precedes_antisymm before after
      rw [← name] at among there
      rw [← lookup_eq_some_iff distinct] at inside among
      obtain rfl := Option.some.inj (inside.symm.trans among)
      exact Prod.ext name (Option.some.inj (here.symm.trans there))
    · refine (sortedEntries_ordered distinct).filterMap named fun a b before f here g there => ?_
      obtain ⟨_, _, rfl⟩ := Option.map_eq_some_iff.mp here
      obtain ⟨_, _, rfl⟩ := Option.map_eq_some_iff.mp there
      rw [Text.before, Bool.and_eq_true] at before
      exact before.1
  rw [byName, sorted, List.map_filterMap]
  congr 1
  funext e
  simp [named, Function.comp_def]

/-- The path of a file, and the listing of a directory. -/
def Find.path? : Find → Option Text
  | .file path => some path
  | .below _ => none

def Find.listing? : Find → Option Listing
  | .below listing => some listing
  | .file _ => none

theorem concat_files (all : List Listing) : (Listing.concat all).files = all.flatMap (·.files) := by
  induction all with
  | nil => rfl
  | cons first all ih =>
    rw [List.flatMap_cons, ← ih]
    rfl

theorem arrange_files (found : List (Text × Find)) :
    (arrange found).files = (byName found).filterMap Find.path? ++
      ((byName found).filterMap Find.listing?).flatMap (·.files) := by
  rw [← concat_files]
  rfl

theorem filterMap_if {α β : Type} (p : α → Bool) (f : α → β) (l : List α) :
    (l.filterMap fun a => if p a then some (f a) else none) = (l.filter p).map f := by
  induction l with
  | nil => rfl
  | cons a l ih => cases h : p a <;> simp [h, ih]

/-- Whether an entry is listed itself. -/
def isOwn (d : Disk) (spelled : Text) (e : Text × Node) : Bool :=
  !e.2.isDirectory && (d.isFile (join spelled e.1) && d.isReadable (join spelled e.1))

/-- Whether an entry is a directory to be listed. -/
def isEntered (e : Text × Node) : Bool := e.2.isDirectory && !controlNames.contains e.1

/-- The files of a directory, and then those of its subdirectories, by name. -/
theorem listing_files {d : Disk} {spelled : Text} {place : Location}
    (distinct : (entries.map Prod.fst).Nodup) (allowed : d.isDenied place = false)
    (short : (nameBytes spelled).length ≤ Disk.longestPath) :
    (Node.listing d spelled place (.directory entries)).files =
      ((sortedEntries entries).filter (isOwn d spelled)).map
        (fun e => Path.normalize (join spelled e.1)) ++
      ((sortedEntries entries).filter isEntered).flatMap fun e =>
        (e.2.listing d (join spelled e.1) (place ++ [e.1])).files := by
  have own (e : Text × Node) : (contribution d spelled place e).bind Find.path? =
      if isOwn d spelled e then some (Path.normalize (join spelled e.1)) else none := by
    unfold contribution isOwn
    cases e.2.isDirectory with
    | true => cases controlNames.contains e.1 <;> rfl
    | false => cases d.isFile (join spelled e.1) && d.isReadable (join spelled e.1) <;> rfl
  have sub (e : Text × Node) : (contribution d spelled place e).bind Find.listing? =
      if isEntered e then some (e.2.listing d (join spelled e.1) (place ++ [e.1])) else none := by
    unfold contribution isEntered
    cases e.2.isDirectory with
    | true => cases controlNames.contains e.1 <;> rfl
    | false => cases d.isFile (join spelled e.1) && d.isReadable (join spelled e.1) <;> rfl
  rw [Node.listing, if_neg (by simp [allowed]), if_neg (by omega), arrange_files, listingEntries_eq,
    byName_filterMap distinct, List.filterMap_filterMap, List.filterMap_filterMap]
  rw [funext own, funext sub, filterMap_if, filterMap_if, List.flatMap_map]

end Entries

section Visits

variable {d : Disk} {base : Text} {place : Location} {node : Node} {name : Text} {r : List Text}

/-- A path below a directory is listed if it names a readable file, perhaps through a link, and
leads to it through directories that are not denied, and below the first not kept by a version
control system. -/
structure Listed (d : Disk) (base : Text) (place : Location) (node : Node) (r : List Text) :
    Prop where
  entry : ∃ e, node.find? r = some e ∧ e.isDirectory = false
  allowed : ∀ front, front <+: r → front ≠ r → d.isDenied (place ++ front) = false
  plain : ∀ name ∈ r.dropLast, name ∉ controlNames
  file : ∃ reached content executable,
    d.find (below base r) = .ok (reached, .file content executable) ∧ d.isDenied reached = false

theorem isReadableFile_iff {path : Text} : (d.isFile path && d.isReadable path) = true ↔
    ∃ reached content executable,
      d.find path = .ok (reached, .file content executable) ∧ d.isDenied reached = false := by
  unfold Disk.isFile Disk.isReadable Disk.find?
  cases d.find path with
  | error reason => simp [Except.toOption]
  | ok found =>
    obtain ⟨reached, node⟩ := found
    cases node <;> simp [Except.toOption, Node.isFile]

theorem forall_front_cons_iff {P : List Text → Prop} :
    (∀ front, front <+: name :: r → front ≠ name :: r → P front) ↔
      P [] ∧ ∀ front, front <+: r → front ≠ r → P (name :: front) := by
  constructor
  · intro all
    refine ⟨all [] List.nil_prefix (List.cons_ne_nil _ _).symm, fun front part whole => ?_⟩
    exact all (name :: front) (List.cons_prefix_cons.mpr ⟨rfl, part⟩) (by simpa using whole)
  · rintro ⟨first, others⟩ front part whole
    obtain rfl | ⟨more, rfl, inside⟩ := List.prefix_cons_iff.mp part
    · exact first
    · exact others more inside (by simpa using whole)

theorem not_listed_nil (directory : node.isDirectory = true) : ¬Listed d base place node [] := by
  intro listed
  obtain ⟨e, here, other⟩ := listed.entry
  cases here
  rw [directory] at other
  cases other

theorem listed_singleton_iff : Listed d base place node [name] ↔
    d.isDenied place = false ∧ (∃ e, node.child? name = some e ∧ e.isDirectory = false) ∧
      (d.isFile (join base name) && d.isReadable (join base name)) = true := by
  rw [isReadableFile_iff, ← Node.find?_singleton]
  constructor
  · rintro ⟨entry, allowed, -, file⟩
    obtain ⟨here, -⟩ := forall_front_cons_iff.mp allowed
    rw [List.append_nil] at here
    exact ⟨here, entry, file⟩
  · rintro ⟨here, entry, file⟩
    refine ⟨entry, forall_front_cons_iff.mpr ⟨by rwa [List.append_nil], ?_⟩, by simp, file⟩
    intro front part whole
    exact absurd (List.prefix_nil.mp part) whole

theorem listed_cons_iff (nonempty : r ≠ []) : Listed d base place node (name :: r) ↔
    d.isDenied place = false ∧ name ∉ controlNames ∧
      ∃ e, node.child? name = .some e ∧ Listed d (join base name) (place ++ [name]) e r := by
  have front : (name :: r).dropLast = name :: r.dropLast := List.dropLast_cons_of_ne_nil nonempty
  constructor
  · rintro ⟨⟨e, found, leaf⟩, allowed, plain, file⟩
    obtain ⟨next, entered, found⟩ := Option.bind_eq_some_iff.mp found
    obtain ⟨here, others⟩ := forall_front_cons_iff.mp allowed
    rw [front, List.forall_mem_cons] at plain
    rw [List.append_nil] at here
    refine ⟨here, plain.1, next, entered, ⟨e, found, leaf⟩, fun more part whole => ?_, plain.2,
      file⟩
    rw [List.append_assoc]
    exact others more part whole
  · rintro ⟨here, first, next, entered, ⟨e, found, leaf⟩, allowed, plain, file⟩
    refine ⟨⟨e, ?_, leaf⟩, forall_front_cons_iff.mpr ⟨by rwa [List.append_nil], ?_⟩, ?_, file⟩
    · rw [Node.find?, entered]
      exact found
    · intro more part whole
      have inside := allowed more part whole
      rwa [List.append_assoc] at inside
    · rw [front]
      exact List.forall_mem_cons.mpr ⟨first, plain⟩

theorem nameBytes_join_length (base : Text) (named : IsName name) :
    (nameBytes base).length + (nameBytes name).length ≤ (nameBytes (join base name)).length := by
  obtain ⟨rfl, joined⟩ | ⟨front, rfl, joined⟩ | ⟨-, -, joined⟩ :=
    join_cases base (not_isAbsolute named)
  · rw [joined]
    exact (Nat.zero_add _).le
  · have same : front ++ .char '/' :: name = front ++ [.char '/'] ++ name := by simp
    rw [joined, same, nameBytes_append _ name, List.length_append]
  · have apart : base ++ .char '/' :: name = base ++ ([.char '/'] ++ name) := rfl
    rw [joined, apart, nameBytes_append, nameBytes_append, List.length_append, List.length_append]
    omega

/-- Names only make a path longer. -/
theorem nameBytes_below_length (base : Text) (named : ∀ n ∈ r, IsName n) :
    (nameBytes base).length ≤ (nameBytes (below base r)).length := by
  induction r generalizing base with
  | nil => exact Nat.le_refl _
  | cons name r ih =>
    obtain ⟨first, others⟩ := List.forall_mem_cons.mp named
    calc (nameBytes base).length
      _ ≤ (nameBytes (join base name)).length :=
        (Nat.le_add_right _ _).trans (nameBytes_join_length base first)
      _ ≤ (nameBytes (below (join base name) r)).length := ih (join base name) others

theorem Listed.short (tree : node.IsTree) (listed : Listed d base place node r) :
    (nameBytes base).length ≤ Disk.longestPath := by
  obtain ⟨e, found, -⟩ := listed.entry
  obtain ⟨reached, content, executable, file, -⟩ := listed.file
  have named : ∀ n ∈ r, IsName n := fun n member => (tree.entries found n member).toIsName
  refine (nameBytes_below_length base named).trans ?_
  by_contra long
  unfold Disk.find at file
  split at file
  · cases file
  · rw [if_pos (Nat.not_le.mp long)] at file
    cases file

/-- The paths that a listing visits, in order. -/
structure Visits (d : Disk) (spelled : Text) (place : Location) (node : Node)
    (rs : List (List Text)) : Prop where
  files : (node.listing d spelled place).files = rs.map fun r => Path.normalize (below spelled r)
  listed : ∀ r, r ∈ rs ↔ Listed d spelled place node r
  ordered : rs.Pairwise fun a b => comesBefore a b = true

@[elab_as_elim]
theorem Node.tree_induction {motive : Node → Prop}
    (leaf : ∀ node, node.isDirectory = false → motive node)
    (directory : ∀ entries, (∀ e ∈ entries, motive e.2) → motive (.directory entries))
    (node : Node) : motive node :=
  @Node.rec motive (fun entries => ∀ e ∈ entries, motive e.2) (fun e => motive e.2)
    (fun _ _ => leaf _ rfl) directory (fun _ => leaf _ rfl) (by simp)
    (fun _ _ first others => List.forall_mem_cons.mpr ⟨first, others⟩) (fun _ _ h => h) node

theorem visits_nothing {spelled : Text} (nothing : (node.listing d spelled place).files = [])
    (unlisted : ∀ r, ¬Listed d spelled place node r) : Visits d spelled place node [] where
  files := nothing
  listed := fun r => iff_of_false List.not_mem_nil (unlisted r)
  ordered := .nil

theorem isEntered_iff {e : Text × Node} :
    isEntered e = true ↔ e.2.isDirectory = true ∧ e.1 ∉ controlNames := by
  simp [isEntered]

/-- What is listed in a directory is an own file of it, or listed in a subdirectory. -/
theorem listed_directory_iff {entries : List (Text × Node)}
    (distinct : (entries.map Prod.fst).Nodup) (allowed : d.isDenied place = false) :
    Listed d base place (.directory entries) r ↔
      (∃ e ∈ entries, isOwn d base e = true ∧ r = [e.1]) ∨
      ∃ e ∈ entries, isEntered e = true ∧
        ∃ s, Listed d (join base e.1) (place ++ [e.1]) e.2 s ∧ r = e.1 :: s := by
  constructor
  · intro listed
    match r with
    | [] => exact absurd listed (not_listed_nil rfl)
    | [name] =>
      obtain ⟨-, ⟨node, entered, leaf⟩, readable⟩ := listed_singleton_iff.mp listed
      refine .inl ⟨(name, node), (lookup_eq_some_iff distinct).mp entered, ?_, rfl⟩
      rw [isOwn, readable, leaf]
      rfl
    | name :: next :: rest =>
      obtain ⟨-, plain, node, entered, listed⟩ :=
        (listed_cons_iff (List.cons_ne_nil next rest)).mp listed
      have directory : node.isDirectory = true := by
        obtain ⟨e, found, -⟩ := listed.entry
        obtain ⟨child, entered, -⟩ := Option.bind_eq_some_iff.mp found
        exact Node.isDirectory_of_child entered
      exact .inr ⟨(name, node), (lookup_eq_some_iff distinct).mp entered,
        isEntered_iff.mpr ⟨directory, plain⟩, next :: rest, listed, rfl⟩
  · rintro (⟨e, member, own, rfl⟩ | ⟨e, member, inside, s, listed, rfl⟩)
    · obtain ⟨leaf, readable⟩ := Bool.and_eq_true_iff.mp own
      have entered := (lookup_eq_some_iff distinct).mpr member
      exact listed_singleton_iff.mpr ⟨allowed, ⟨e.2, entered, by simpa using leaf⟩, readable⟩
    · obtain ⟨directory, plain⟩ := isEntered_iff.mp inside
      have nonempty : s ≠ [] := by
        rintro rfl
        exact not_listed_nil directory listed
      have entered := (lookup_eq_some_iff distinct).mpr member
      exact (listed_cons_iff nonempty).mpr ⟨allowed, plain, e.2, entered, listed⟩

/-- The paths visited in a directory, given those in its subdirectories: its own files first. -/
def visited (d : Disk) (spelled : Text) (entries : List (Text × Node))
    (paths : Text × Node → List (List Text)) : List (List Text) :=
  ((sortedEntries entries).filter (isOwn d spelled)).map (fun e => [e.1]) ++
    ((sortedEntries entries).filter isEntered).flatMap fun e => (paths e).map (e.1 :: ·)

section Visited

variable {entries : List (Text × Node)} {spelled : Text} {paths : Text × Node → List (List Text)}

theorem mem_entered {e : Text × Node} :
    e ∈ (sortedEntries entries).filter isEntered ↔ e ∈ entries ∧ isEntered e = true := by
  rw [List.mem_filter, mem_sortedEntries]

theorem mem_visited_iff : r ∈ visited d spelled entries paths ↔
    (∃ e ∈ entries, isOwn d spelled e = true ∧ r = [e.1]) ∨
      ∃ e ∈ entries, isEntered e = true ∧ ∃ s, s ∈ paths e ∧ r = e.1 :: s := by
  simp only [visited, List.mem_append, List.mem_map, List.mem_flatMap, List.mem_filter,
    mem_sortedEntries, and_assoc, eq_comm]

theorem visited_ordered (distinct : (entries.map Prod.fst).Nodup)
    (inner : ∀ e ∈ entries, isEntered e = true →
      [] ∉ paths e ∧ (paths e).Pairwise fun a b => comesBefore a b = true) :
    (visited d spelled entries paths).Pairwise fun a b => comesBefore a b = true := by
  have ordered := sortedEntries_ordered distinct
  have longer {e : Text × Node} (member : e ∈ (sortedEntries entries).filter isEntered)
      {r : List Text} (inside : r ∈ paths e) : r ≠ [] := by
    rintro rfl
    exact (inner e (mem_entered.mp member).1 (mem_entered.mp member).2).1 inside
  rw [visited, List.pairwise_append, List.pairwise_map, List.pairwise_flatMap]
  refine ⟨ordered.filter _, ⟨fun e member => ?_, ?_⟩, ?_⟩
  · -- Inside one subdirectory its own order decides.
    rw [List.pairwise_map]
    refine (inner e (mem_entered.mp member).1 (mem_entered.mp member).2).2.imp_of_mem
      fun first second before => ?_
    rw [comesBefore_cons _ _ (longer member first) (longer member second), before]
    simp
  · -- Between two subdirectories their names decide.
    refine (ordered.filter _).imp_of_mem fun first second before r one s other => ?_
    obtain ⟨r, here, rfl⟩ := List.mem_map.mp one
    obtain ⟨s, there, rfl⟩ := List.mem_map.mp other
    rw [comesBefore_cons _ _ (longer first here) (longer second there), before]
    rfl
  · intro r own s sub
    obtain ⟨e, -, rfl⟩ := List.mem_map.mp own
    obtain ⟨f, member, nested⟩ := List.mem_flatMap.mp sub
    obtain ⟨s, inside, rfl⟩ := List.mem_map.mp nested
    exact comesBefore_file _ _ (longer member inside)

/-- A directory is visited if its subdirectories are. -/
theorem visits_directory (distinct : (entries.map Prod.fst).Nodup)
    (allowed : d.isDenied place = false)
    (short : (nameBytes spelled).length ≤ Disk.longestPath)
    (inner : ∀ e ∈ entries, e.2.isDirectory = true →
      Visits d (join spelled e.1) (place ++ [e.1]) e.2 (paths e)) :
    Visits d spelled place (.directory entries) (visited d spelled entries paths) where
  files := by
    rw [listing_files distinct allowed short, visited, List.map_append, List.map_map,
      List.map_flatMap]
    congr 1
    refine List.flatMap_congr fun e member => ?_
    obtain ⟨member, entered⟩ := mem_entered.mp member
    rw [(inner e member (isEntered_iff.mp entered).1).files, List.map_map]
    rfl
  listed := by
    intro r
    rw [mem_visited_iff, listed_directory_iff distinct allowed]
    refine or_congr_right (exists_congr fun e => and_congr_right fun member =>
      and_congr_right fun entered => exists_congr fun s => and_congr_left fun _ => ?_)
    exact (inner e member (isEntered_iff.mp entered).1).listed s
  ordered := by
    refine visited_ordered distinct fun e member entered => ?_
    have directory := (isEntered_iff.mp entered).1
    have visits := inner e member directory
    exact ⟨fun inside => not_listed_nil directory ((visits.listed []).mp inside), visits.ordered⟩

end Visited

/-- A directory is listed in preorder: its own files by name, and then its subdirectories by name,
each of them completely. -/
theorem listing_visits (d : Disk) (tree : node.IsTree) (directory : node.isDirectory = true)
    (spelled : Text) (place : Location) : ∃ rs, Visits d spelled place node rs := by
  induction node using Node.tree_induction generalizing spelled place with
  | leaf node other =>
    rw [directory] at other
    cases other
  | directory entries ih =>
    obtain ⟨distinct, -⟩ := tree [] entries rfl
    have each : ∀ e ∈ entries, e.2.isDirectory = true →
        ∃ rs, Visits d (join spelled e.1) (place ++ [e.1]) e.2 rs := by
      intro e member inside
      have entered : (Node.directory entries).find? [e.1] = some e.2 := by
        rw [Node.find?_singleton]
        exact (lookup_eq_some_iff distinct).mpr member
      exact ih e member (tree.below entered) inside _ _
    choose! paths inner using each
    cases denied : d.isDenied place with
    | true =>
      refine ⟨[], visits_nothing (by rw [Node.listing, if_pos denied]) fun r listed => ?_⟩
      have whole : [] ≠ r := by
        rintro rfl
        exact not_listed_nil rfl listed
      have allowed := listed.allowed [] List.nil_prefix whole
      rw [List.append_nil, denied] at allowed
      cases allowed
    | false =>
      by_cases short : (nameBytes spelled).length ≤ Disk.longestPath
      · exact ⟨_, visits_directory distinct denied short inner⟩
      · refine ⟨[], visits_nothing ?_ fun r listed => short (listed.short tree)⟩
        rw [Node.listing, if_neg (by simp [denied]), if_pos (Nat.not_le.mp short)]

end Visits

end Files

end PerlAudit
