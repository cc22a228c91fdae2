import Mathlib.Data.List.Infix
import Mathlib.Data.List.Nodup
import PerlAudit.Environment
import PerlAudit.Proofs.Files.Growth
import PerlAudit.Proofs.Path.Normal
import PerlAudit.Source.ModuleName

namespace PerlAudit.Source

open Text Files

section Firsts

variable {entries : List Text}

theorem mem_firsts {entry : Text} : entry ∈ firsts entries ↔ entry ∈ entries := by
  induction entries with
  | nil => simp [firsts]
  | cons first rest ih =>
    by_cases same : entry = first
    · simp [firsts, same]
    · simp [firsts, same, ih]

theorem nodup_firsts (entries : List Text) : (firsts entries).Nodup := by
  induction entries with
  | nil => exact .nil
  | cons first rest ih =>
    refine List.nodup_cons.mpr ⟨?_, ih.filter _⟩
    simp

/-- Whether entries are left out before or after the repeated ones makes no difference. -/
theorem firsts_filter (p : Text → Bool) (entries : List Text) :
    firsts (entries.filter p) = (firsts entries).filter p := by
  induction entries with
  | nil => rfl
  | cons first rest ih =>
    by_cases kept : p first = true
    · rw [List.filter_cons_of_pos kept, firsts, firsts, List.filter_cons_of_pos kept, ih,
        List.filter_filter, List.filter_filter]
      simp only [Bool.and_comm]
    · have other : ∀ entry, p entry = true → entry ≠ first := by
        rintro entry holds rfl
        exact kept holds
      rw [List.filter_cons_of_neg kept, firsts, List.filter_cons_of_neg kept, ih,
        List.filter_filter]
      apply List.filter_congr
      intro entry _
      by_cases holds : p entry = true
      · simp [holds, other entry holds]
      · simp [holds]

/-- Entries are kept in the order in which they first occur. -/
theorem firsts_in_order (entries : List Text) :
    (firsts entries).Pairwise fun a b => entries.idxOf a < entries.idxOf b := by
  induction entries with
  | nil => exact .nil
  | cons first rest ih =>
    refine List.pairwise_cons.mpr ⟨?_, ?_⟩
    · intro entry member
      have other : first ≠ entry := by
        rintro rfl
        simp at member
      simp [List.idxOf_cons_ne _ other]
    · have apart : ∀ entry ∈ (firsts rest).filter (· != first), first ≠ entry := by
        rintro entry member rfl
        simp at member
      refine (ih.filter _).imp_of_mem ?_
      intro a b here there before
      rw [List.idxOf_cons_ne _ (apart a here), List.idxOf_cons_ne _ (apart b there)]
      omega

/-- A search finds the same entry with and without the repeated ones. -/
theorem find?_firsts (p : Text → Bool) (entries : List Text) :
    (firsts entries).find? p = entries.find? p := by
  have head (all : List Text) : (firsts all).head? = all.head? := by cases all <;> rfl
  rw [← List.head?_filter, ← firsts_filter, head, List.head?_filter]

end Firsts

section Separators

theorem isModuleName_iff {t : Text} : isModuleName t = true ↔ ofString "::" <:+: t := occurs_iff

theorem plain_iff {t : Text} : isModuleName t = false ↔ ¬ ofString "::" <:+: t := by
  rw [← isModuleName_iff, Bool.not_eq_true]

theorem isModuleName_cons {c : CodePoint} {t : Text} : isModuleName (c :: t) = true ↔
    c = .char ':' ∧ t.head? = some (.char ':') ∨ isModuleName t = true := by
  have colons : ofString "::" = [.char ':', .char ':'] := rfl
  rw [isModuleName_iff, isModuleName_iff, List.infix_cons_iff, colons, List.cons_prefix_cons]
  cases t with
  | nil => simp
  | cons d t => simp [List.cons_prefix_cons, eq_comm]

/-- Anything but a colon divides a text into two that can be looked at apart. -/
theorem isModuleName_divided {c : CodePoint} (other : c ≠ .char ':') {a b : Text} :
    isModuleName (a ++ c :: b) = true ↔ isModuleName a = true ∨ isModuleName b = true := by
  induction a with
  | nil =>
    have empty : isModuleName [] = false := rfl
    simp [isModuleName_cons, other, empty]
  | cons d a ih =>
    have head : (a ++ c :: b).head? = some (.char ':') ↔ a.head? = some (.char ':') := by
      cases a with
      | nil => simpa using other
      | cons => simp
    rw [List.cons_append, isModuleName_cons, isModuleName_cons, head, ih, or_assoc]

theorem plain_divided {c : CodePoint} (other : c ≠ .char ':') {a b : Text} :
    isModuleName (a ++ c :: b) = false ↔ isModuleName a = false ∧ isModuleName b = false := by
  simp only [← Bool.not_eq_true, isModuleName_divided other, not_or]

theorem plain_join {a b : Text} (first : isModuleName a = false)
    (second : isModuleName b = false) : isModuleName (Path.join a b) = false := by
  have slash : (.char '/' : CodePoint) ≠ .char ':' := by decide
  cases rooted : Path.isAbsolute b with
  | true => rwa [Path.join_absolute a rooted]
  | false =>
    obtain ⟨-, joined⟩ | ⟨front, rfl, joined⟩ | ⟨-, -, joined⟩ := Path.join_cases a rooted
    · rwa [joined]
    · have plain : isModuleName front = false := ((plain_divided slash).mp first).1
      rw [joined]
      exact (plain_divided slash).mpr ⟨plain, second⟩
    · rw [joined]
      exact (plain_divided slash).mpr ⟨first, second⟩

/-- No separator is left in a part, and the first part is where the name begins. -/
theorem splitName_plain (name : Text) :
    (∀ part ∈ splitName name, isModuleName part = false) ∧
      ∃ part more, splitName name = part :: more ∧ part <+: name := by
  fun_induction splitName name with
  | case1 => exact ⟨List.forall_mem_singleton.mpr rfl, [], [], rfl, List.prefix_rfl⟩
  | case2 rest ih =>
    exact ⟨List.forall_mem_cons.mpr ⟨rfl, ih.1⟩, [], splitName rest, rfl, List.nil_prefix⟩
  | case3 c rest apart absent ih =>
    obtain ⟨-, part, more, split, -⟩ := ih
    simp [absent] at split
  | case4 c rest apart part more split ih =>
    obtain ⟨plain, first, others, same, ⟨tail, rest_eq⟩⟩ := ih
    obtain ⟨rfl, rfl⟩ := List.cons.inj (split.symm.trans same)
    rw [split] at plain
    obtain ⟨plainPart, plainMore⟩ := List.forall_mem_cons.mp plain
    refine ⟨List.forall_mem_cons.mpr ⟨?_, plainMore⟩, c :: part, more, rfl, tail, ?_⟩
    · -- A colon in front of the part would have made a separator with the colon that begins it.
      apply Bool.eq_false_iff.mpr
      intro named
      obtain ⟨rfl, head⟩ | inside := isModuleName_cons.mp named
      · obtain ⟨rest', rfl⟩ := List.head?_eq_some_iff.mp head
        exact apart (rest' ++ tail) rfl rest_eq.symm
      · simp [plainPart] at inside
    · rw [List.cons_append, rest_eq]

theorem plain_relativePath (name : Text) : isModuleName (relativePath name) = false := by
  have joined (parts : List Text) (first : Text) (plain : isModuleName first = false)
      (others : ∀ part ∈ parts, isModuleName part = false) :
      isModuleName (parts.foldl Path.join first) = false := by
    induction parts generalizing first with
    | nil => exact plain
    | cons part parts ih =>
      obtain ⟨next, others⟩ := List.forall_mem_cons.mp others
      exact ih (Path.join first part) (plain_join plain next) others
  obtain ⟨plain, part, more, split, -⟩ := splitName_plain name
  rw [split] at plain
  obtain ⟨first, others⟩ := List.forall_mem_cons.mp plain
  have path : isModuleName (Path.joinAll (splitName name)) = false := by
    rw [split]
    exact joined more part first others
  have dot : (.char '.' : CodePoint) ≠ .char ':' := by decide
  exact (plain_divided dot).mpr ⟨path, by decide⟩

end Separators

section Candidates

/-- Where a root would have the file of a module. -/
def candidate (name root : Text) : Text := Path.join root (relativePath name)

/-- Whether a root has a file of a module that can be read. -/
def holds (disk : Disk) (name root : Text) : Bool :=
  disk.isFile (candidate name root) && disk.isReadable (candidate name root)

theorem modulePath_of_name (disk : Disk) (roots : List Text) {name : Text}
    (named : isModuleName name = true) :
    modulePath disk roots name =
      ((roots.find? (holds disk name)).map (candidate name)).getD name := by
  unfold modulePath
  rw [if_pos named]
  dsimp only
  rw [List.find?_map]
  rfl

theorem modulePath_plain (disk : Disk) (roots : List Text) {name : Text}
    (plain : isModuleName name = false) : modulePath disk roots name = name := by
  simp [modulePath, plain]

/-- What a lookup can come to: the name itself if it is a path or no root has it, and otherwise the
file below the first root that has it. -/
theorem modulePath_cases (disk : Disk) (roots : List Text) (name : Text) :
    (isModuleName name = false ∨ ∀ root ∈ roots, holds disk name root = false) ∧
      modulePath disk roots name = name ∨
    ∃ early root late, isModuleName name = true ∧ roots = early ++ root :: late ∧
      (∀ other ∈ early, holds disk name other = false) ∧ holds disk name root = true ∧
      modulePath disk roots name = candidate name root := by
  cases named : isModuleName name with
  | false => exact .inl ⟨.inl rfl, modulePath_plain disk roots named⟩
  | true =>
    rw [modulePath_of_name disk roots named]
    cases found : roots.find? (holds disk name) with
    | none =>
      refine .inl ⟨.inr ?_, rfl⟩
      intro root member
      simpa using List.find?_eq_none.mp found root member
    | some root =>
      obtain ⟨holding, early, late, split, before⟩ := List.find?_eq_some_iff_append.mp found
      refine .inr ⟨early, root, late, rfl, split, ?_, holding, rfl⟩
      intro other member
      simpa using before other member

/-- Repeated roots make no difference to a lookup. -/
theorem modulePath_firsts (disk : Disk) (roots : List Text) (name : Text) :
    modulePath disk (firsts roots) name = modulePath disk roots name := by
  cases named : isModuleName name with
  | false => rw [modulePath_plain disk _ named, modulePath_plain disk _ named]
  | true => rw [modulePath_of_name disk _ named, modulePath_of_name disk _ named, find?_firsts]

end Candidates

/-- What a name leads to is looked up once: it is the name itself, or a file that can be read and
whose path is no name of a module. The entries of a list that is separated by colons are roots of
this kind. -/
theorem modulePath_settled (disk : Disk) (roots : List Text) (name : Text)
    (plain : ∀ root ∈ roots, ¬ ofString "::" <:+: root) :
    modulePath disk roots (modulePath disk roots name) = modulePath disk roots name ∧
    (modulePath disk roots name = name ∨
      disk.isFile (modulePath disk roots name) = true ∧
      disk.isReadable (modulePath disk roots name) = true ∧
      ¬ ofString "::" <:+: modulePath disk roots name) ∧
    ∀ library, ∀ entry ∈ splitAt (.char ':') library, ¬ ofString "::" <:+: entry := by
  have entries (library : Text) : ∀ entry ∈ splitAt (.char ':') library,
      ¬ ofString "::" <:+: entry := by
    intro entry member inside
    have colon : CodePoint.char ':' ∈ ofString "::" := List.mem_cons_self
    exact splitAt_clean member (inside.subset colon)
  obtain ⟨-, same⟩ | ⟨early, root, late, -, split, -, found, path⟩ :=
    modulePath_cases disk roots name
  · exact ⟨congrArg (modulePath disk roots) same, .inl same, entries⟩
  · have rooted : isModuleName root = false := plain_iff.mpr (plain root (by simp [split]))
    have settled : isModuleName (candidate name root) = false :=
      plain_join rooted (plain_relativePath name)
    obtain ⟨file, readable⟩ := Bool.and_eq_true_iff.mp found
    rw [path]
    exact ⟨modulePath_plain disk roots settled, .inr ⟨file, readable, plain_iff.mp settled⟩,
      entries⟩

/-- Three colons are a separator and a colon that is part of the file's name, which is found below
the current directory. -/
theorem modulePath_settled_odd_colons :
    let disk : Disk := ⟨.directory [(":a.pm", .file [] false)], "/", [], []⟩
    (∀ root ∈ [([] : Text)], ¬ ofString "::" <:+: root) ∧
    modulePath disk [[]] ":::a" = ofString ":a.pm" ∧
    modulePath disk [[]] ":a.pm" = ofString ":a.pm" := by
  intro disk
  have plain : ∀ root ∈ [([] : Text)], ¬ ofString "::" <:+: root := by decide
  have there : disk.Holds ":a.pm" [":a.pm"] [] :=
    Disk.holds_entry rfl (by decide) (by decide) (by decide) (by decide +kernel)
  have opened : disk.IsOpenable ":a.pm" := ⟨_, there.opened⟩
  obtain ⟨file, readable⟩ := Disk.isOpenable_iff.mp opened
  have found : holds disk ":::a" [] = true := Bool.and_eq_true_iff.mpr ⟨file, readable⟩
  have path : modulePath disk [[]] ":::a" = ofString ":a.pm" := by
    rw [modulePath_of_name disk _ (by decide), List.find?_cons_of_pos found]
    rfl
  have again := (modulePath_settled disk [[]] ":::a" plain).1
  rw [path] at again
  exact ⟨plain, path, again⟩

/-- Search roots are the non-empty entries of the include directories and of the library path, each
once and in the order in which they first occur. A lookup comes to the same as with all entries,
repeated ones included: the first of them that has the file decides. -/
theorem searchRoots_keep_lookup (includes : List Text) (environment : Environment) (disk : Disk)
    (name : Text) :
    let library := (environment.get? "PERL5LIB").getD []
    let all := (includes ++ splitAt (.char ':') library).filter (!·.isEmpty)
    let roots := searchRoots includes library
    roots.Nodup ∧
    (∀ root, root ∈ roots ↔ root ≠ [] ∧ (root ∈ includes ∨ root ∈ splitAt (.char ':') library)) ∧
    (roots.Pairwise fun a b => all.idxOf a < all.idxOf b) ∧
    modulePath disk roots name = modulePath disk all name ∧
    ((isModuleName name = false ∨ ∀ root ∈ all, holds disk name root = false) ∧
        modulePath disk all name = name ∨
      ∃ early root late, isModuleName name = true ∧ all = early ++ root :: late ∧
        (∀ other ∈ early, holds disk name other = false) ∧ holds disk name root = true ∧
        modulePath disk all name = candidate name root) := by
  intro library all roots
  refine ⟨nodup_firsts all, ?_, firsts_in_order all, modulePath_firsts disk all name,
    modulePath_cases disk all name⟩
  intro root
  unfold roots searchRoots
  rw [mem_firsts, List.mem_filter, List.mem_append, and_comm]
  simp

end PerlAudit.Source
