import PerlAudit.Files.Edit
import PerlAudit.Files.Listing
import PerlAudit.Source.Kind
import PerlAudit.Source.ModuleName
import PerlAudit.Source.Scan

/-!
Which texts name files. Paths that are made of names are names, so below a directory that has a name
everything that is listed has one, and no question about a file that has a name goes unanswered.
-/

namespace PerlAudit

/-- Whether a code point can stand in a name: it is no null character and no half that spells
nothing. -/
def CodePoint.isNameable : CodePoint → Bool
  | .char c => c != '\x00'
  | .half offset => (Text.byteOfHalf? (.half offset)).isSome

namespace Text

theorem strayHalves?_eq_none_iff {position : Nat} {t : Text} :
    strayHalves? position t = none ↔
      ∀ c ∈ t, c.isHalf = true → (byteOfHalf? c).isSome = true := by
  induction t generalizing position with
  | nil => simp [strayHalves?]
  | cons c rest ih =>
    rw [strayHalves?, List.forall_mem_cons]
    cases half : c.isHalf with
    | false => simpa using ih
    | true =>
      cases spelled : byteOfHalf? c with
      | none => simp
      | some b => simpa using ih

/-- A text names a file exactly if each of its code points can stand in a name. -/
theorem nameFlaw?_eq_none_iff {t : Text} :
    nameFlaw? t = none ↔ ∀ c ∈ t, c.isNameable = true := by
  have null : (if t.contains '\x00' then some NameFlaw.null else none) = none ↔
      ∀ c ∈ t, c ≠ .char '\x00' := by
    simp only [ite_eq_right_iff, reduceCtorEq, imp_false, List.contains_iff_mem]
    exact ⟨fun absent c member same => absent (same ▸ member), fun all member => all _ member rfl⟩
  have one (c : CodePoint) : c.isNameable = true ↔
      (c.isHalf = true → (byteOfHalf? c).isSome = true) ∧ c ≠ .char '\x00' := by
    cases c <;> simp [CodePoint.isNameable, CodePoint.isHalf]
  rw [nameFlaw?, Option.or_eq_none_iff, strayHalves?_eq_none_iff, null]
  simp only [one]
  constructor
  · rintro ⟨halves, nulls⟩ c member
    exact ⟨halves c member, nulls c member⟩
  · intro all
    exact ⟨fun c member => (all c member).1, fun c member => (all c member).2⟩

theorem nameable_of_subset {t u : Text} (named : nameFlaw? u = none) (subset : ∀ c ∈ t, c ∈ u) :
    nameFlaw? t = none :=
  nameFlaw?_eq_none_iff.mpr fun c member => nameFlaw?_eq_none_iff.mp named c (subset c member)

theorem nameable_append {t u : Text} (first : nameFlaw? t = none) (second : nameFlaw? u = none) :
    nameFlaw? (t ++ u) = none :=
  nameFlaw?_eq_none_iff.mpr <| List.forall_mem_append.mpr
    ⟨nameFlaw?_eq_none_iff.mp first, nameFlaw?_eq_none_iff.mp second⟩

theorem mem_of_mem_splitAt {α : Type} [DecidableEq α] {separator : α} {whole part : List α}
    (member : part ∈ splitAt separator whole) {c : α} (inside : c ∈ part) : c ∈ whole := by
  induction whole generalizing part with
  | nil => simp_all [splitAt]
  | cons d rest ih =>
    rw [splitAt] at member
    split at member
    · obtain rfl | later := List.mem_cons.mp member
      · simp at inside
      · exact List.mem_cons_of_mem _ (ih later inside)
    · split at member
      · obtain rfl := List.mem_singleton.mp member
        obtain rfl := List.mem_singleton.mp inside
        exact List.mem_cons_self
      · rename_i first more parts
        obtain rfl | later := List.mem_cons.mp member
        · obtain rfl | inside := List.mem_cons.mp inside
          · exact List.mem_cons_self
          · exact List.mem_cons_of_mem _ (ih (parts ▸ List.mem_cons_self) inside)
        · exact List.mem_cons_of_mem _ (ih (parts ▸ List.mem_cons_of_mem _ later) inside)

theorem nameable_joinWith {separator : Text} {parts : List Text}
    (between : nameFlaw? separator = none) (named : ∀ part ∈ parts, nameFlaw? part = none) :
    nameFlaw? (joinWith separator parts) = none := by
  induction parts with
  | nil => rfl
  | cons part parts ih =>
    obtain ⟨first, rest⟩ := List.forall_mem_cons.mp named
    cases parts with
    | nil => simpa [joinWith] using first
    | cons next parts =>
      rw [joinWith, List.intercalate_cons_cons]
      exact nameable_append (nameable_append first between) (ih rest)

end Text

namespace Path

open Text

theorem nameable_names {p : Text} (named : nameFlaw? p = none) :
    ∀ name ∈ names p, nameFlaw? name = none := fun _ member =>
  nameable_of_subset named fun _ inside => mem_of_mem_splitAt member inside

theorem nameable_join {a b : Text} (first : nameFlaw? a = none) (second : nameFlaw? b = none) :
    nameFlaw? (join a b) = none := by
  unfold join
  split
  · exact second
  · split
    · exact nameable_append first second
    · exact nameable_append (nameable_append first rfl) second

theorem tidyStep_subset (rooted : Bool) (kept : List Text) (name : Text) :
    ∀ n ∈ tidyStep rooted kept name, n ∈ kept ∨ n = name := by
  intro n member
  unfold tidyStep at member
  split at member
  · exact .inl member
  · split at member
    · exact (List.mem_cons.mp member).symm
    · split at member
      · split at member <;> simp_all
      · split at member
        · exact (List.mem_cons.mp member).symm
        · exact .inl (List.mem_cons_of_mem _ member)

theorem tidy_subset (rooted : Bool) (all : List Text) : ∀ n ∈ tidy rooted all, n ∈ all := by
  have fold (rest kept : List Text) :
      ∀ n ∈ rest.foldl (tidyStep rooted) kept, n ∈ kept ∨ n ∈ rest := by
    induction rest generalizing kept with
    | nil => simp
    | cons name rest ih =>
      intro n member
      obtain early | late := ih _ n member
      · obtain kept | rfl := tidyStep_subset rooted kept name n early
        · exact .inl kept
        · exact .inr List.mem_cons_self
      · exact .inr (List.mem_cons_of_mem _ late)
  intro n member
  simpa using fold all [] n (List.mem_reverse.mp member)

theorem nameable_rootOf (p : Text) : nameFlaw? (rootOf p) = none := by
  unfold rootOf
  split <;> rfl

theorem nameable_normalize {p : Text} (named : nameFlaw? p = none) :
    nameFlaw? (normalize p) = none := by
  unfold normalize
  dsimp only
  split
  · rfl
  · refine nameable_append (nameable_rootOf p) (nameable_joinWith rfl fun name member => ?_)
    exact nameable_names named name (tidy_subset _ _ name member)

end Path

namespace Files

open Text

/-- What is found has a name. -/
theorem Disk.nameable_of_find {d : Disk} {path : Text} {found : Location × Node}
    (h : d.find path = .ok found) : nameFlaw? path = none := by
  cases flaw : nameFlaw? path with
  | none => rfl
  | some flaw => simp [Disk.find, flaw] at h

theorem Disk.nameable_of_isFile {d : Disk} {path : Text} (file : d.isFile path = true) :
    nameFlaw? path = none := by
  cases found : d.find path with
  | ok found => exact Disk.nameable_of_find found
  | error reason => simp [Disk.isFile, Disk.find?, found, Except.toOption] at file

/-- What is found at the end of a path lies at a place of the tree. -/
theorem Disk.follow_place {d : Disk} {links : Nat} {start : Location} {names : List Text}
    {found : Location × Node} (h : d.follow links start names = .ok found) :
    d.top.find? found.1 = some found.2 := by
  fun_induction Disk.follow d links start names with
  | case2 links place node here =>
    cases h
    exact here
  | _ => simp_all

theorem Disk.find_place {d : Disk} {path : Text} {found : Location × Node}
    (h : d.find path = .ok found) : d.top.find? found.1 = some found.2 := by
  unfold Disk.find at h
  split at h
  · cases h
  · split at h
    · cases h
    · exact Disk.follow_place h

namespace Node

mutual

/-- Every entry below a node has a name. -/
def WellNamed : Node → Prop
  | .directory entries => WellNamedEntries entries
  | _ => True

def WellNamedEntries : List (Text × Node) → Prop
  | [] => True
  | (name, node) :: rest => nameFlaw? name = none ∧ node.WellNamed ∧ WellNamedEntries rest

end

theorem wellNamedEntries_iff {entries : List (Text × Node)} :
    WellNamedEntries entries ↔ ∀ e ∈ entries, nameFlaw? e.1 = none ∧ e.2.WellNamed := by
  induction entries with
  | nil => simp [WellNamedEntries]
  | cons e rest ih => simp [WellNamedEntries, ih, and_assoc]

theorem mem_of_lookup {entries : List (Text × Node)} {name : Text} {node : Node}
    (found : entries.lookup name = some node) : (name, node) ∈ entries := by
  induction entries with
  | nil => cases found
  | cons e rest ih =>
    obtain ⟨other, here⟩ := e
    rw [List.lookup_cons] at found
    by_cases same : name = other
    · subst same
      simp_all
    · rw [beq_eq_false_iff_ne.mpr same] at found
      exact List.mem_cons_of_mem _ (ih found)

theorem WellNamed.child {node child : Node} {name : Text} (named : node.WellNamed)
    (found : node.child? name = some child) : child.WellNamed := by
  cases node with
  | directory entries =>
    rw [WellNamed, wellNamedEntries_iff] at named
    exact (named _ (mem_of_lookup found)).2
  | file | link => cases found

theorem WellNamed.find {node found : Node} {place : Location} (named : node.WellNamed)
    (h : node.find? place = some found) : found.WellNamed := by
  induction place generalizing node with
  | nil =>
    cases h
    exact named
  | cons name rest ih =>
    obtain ⟨child, entered, h⟩ := Option.bind_eq_some_iff.mp h
    exact ih (named.child entered) h

end Node

/-- The files that an entry contributes. -/
def Find.files : Find → List Text
  | .file path => [path]
  | .below listing => listing.files

theorem mem_concat {all : List Listing} {path : Text} (member : path ∈ (Listing.concat all).files) :
    ∃ listing ∈ all, path ∈ listing.files := by
  induction all with
  | nil => cases member
  | cons first all ih =>
    obtain here | later := List.mem_append.mp member
    · exact ⟨first, List.mem_cons_self, here⟩
    · obtain ⟨listing, member, inside⟩ := ih later
      exact ⟨listing, List.mem_cons_of_mem _ member, inside⟩

/-- Whatever is listed comes from an entry. -/
theorem mem_arrange {found : List (Text × Find)} {path : Text}
    (member : path ∈ (arrange found).files) : ∃ e ∈ found, path ∈ e.2.files := by
  have ordered {f : Find} (inside : f ∈ byName found) (has : path ∈ f.files) :
      ∃ e ∈ found, path ∈ e.2.files := by
    obtain ⟨e, sorted, rfl⟩ := List.mem_map.mp inside
    exact ⟨e, List.mem_mergeSort.mp sorted, has⟩
  obtain own | sub := List.mem_append.mp member
  · obtain ⟨f, inside, kept⟩ := List.mem_filterMap.mp own
    cases f with
    | file other =>
      cases kept
      exact ordered inside List.mem_cons_self
    | below listing => cases kept
  · obtain ⟨listing, kept, has⟩ := mem_concat sub
    obtain ⟨f, inside, kept⟩ := List.mem_filterMap.mp kept
    cases f with
    | file other => cases kept
    | below other =>
      cases kept
      exact ordered inside has

mutual

theorem nameable_listing (d : Disk) {spelled : Text} (place : Location) (node : Node)
    (here : nameFlaw? spelled = none) (named : node.WellNamed) :
    ∀ path ∈ (node.listing d spelled place).files, nameFlaw? path = none := by
  intro path member
  match node with
  | .directory entries =>
    rw [Node.listing] at member
    split at member
    · cases member
    · split at member
      · cases member
      · obtain ⟨e, listed, inside⟩ := mem_arrange member
        exact nameable_listingEntries d place entries here named e listed path inside
  | .file .. => cases member
  | .link _ => cases member

theorem nameable_listingEntries (d : Disk) {spelled : Text} (place : Location)
    (entries : List (Text × Node)) (here : nameFlaw? spelled = none)
    (named : Node.WellNamedEntries entries) :
    ∀ e ∈ listingEntries d spelled place entries, ∀ path ∈ e.2.files, nameFlaw? path = none := by
  match entries with
  | [] => simp [listingEntries]
  | (name, node) :: rest =>
    obtain ⟨first, below, others⟩ := named
    have path := Path.nameable_join here first
    have more := nameable_listingEntries d place rest here others
    rw [listingEntries]
    split
    · split
      · exact more
      · exact List.forall_mem_cons.mpr ⟨nameable_listing d _ node path below, more⟩
    · split
      · refine List.forall_mem_cons.mpr ⟨?_, more⟩
        simpa [Find.files] using Path.nameable_normalize path
      · exact more

end

end Files

namespace Source

open Text Files

/-- The file of a module has a name, and so has a path that is taken as it is. -/
theorem nameable_modulePath {disk : Disk} {roots : List Text} {name : Text}
    (named : nameFlaw? name = none) : nameFlaw? (modulePath disk roots name) = none := by
  unfold modulePath
  split
  · dsimp only
    generalize roots.map _ = candidates
    cases found : candidates.find? _ with
    | none => exact named
    | some path =>
      have there : disk.isFile path = true ∧ disk.isReadable path = true := by
        simpa using List.find?_some found
      exact Disk.nameable_of_isFile there.1
  · exact named

theorem classify_answers (disk : Disk) {path : Text} (named : nameFlaw? path = none) :
    ∃ kind, classify disk path = .ok kind := by
  have script : ∃ b, isScript disk path = .ok b := by
    unfold isScript firstLine
    split
    · exact ⟨true, rfl⟩
    · rw [named]
      cases disk.read path with
      | error reason => exact ⟨_, rfl⟩
      | ok content => exact ⟨_, rfl⟩
  obtain ⟨b, script⟩ := script
  exact ⟨Kind.ofFlags (isModule path) b, by rw [classify, script]; rfl⟩

theorem Search.file_answers (search : Search) {disk : Disk} {path : Text}
    (named : nameFlaw? path = none)
    (sound : ∀ reason, disk.read path ≠ .error (.reading reason)) :
    ∃ scan, search.file disk path = .ok scan := by
  unfold Search.file
  rw [named]
  cases read : disk.read path with
  | error fault =>
    cases fault with
    | opening reason => exact ⟨_, rfl⟩
    | reading reason => exact absurd read (sound reason)
  | ok content => exact ⟨_, rfl⟩

theorem Search.file_failing (search : Search) {disk : Disk} {path : Text} {reason : Errno}
    (named : nameFlaw? path = none) (failing : disk.read path = .error (.reading reason)) :
    search.file disk path = .error (.reading reason) := by
  unfold Search.file
  rw [named, failing]

end Source

end PerlAudit
