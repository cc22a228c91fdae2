import Mathlib.Data.List.Infix
import Mathlib.Data.List.TakeWhile
import PerlAudit.Proofs.Source.Forms
import PerlAudit.Proofs.Text.Pieces

/-!
What the recognisers of a line accept, said by how the line can be taken apart and without going
through it from left to right.
-/

namespace PerlAudit.Source

open Text

def AllBlank (gap : Line) : Prop := ∀ c ∈ gap, isBlank c = true

/-- No word is under way at the end of a text. -/
def EndsNoWord (before : Line) : Prop := ∀ c ∈ before.getLast?, isWord c = false

/-- A line says `use`, as a word that begins there, then blanks and a name. What follows the name is
as required. -/
def Uses (name : Line) (follows : Line → Prop) (s : Line) : Prop :=
  ∃ before gap rest, s = before ++ "use".toList ++ gap ++ name ++ rest ∧ EndsNoWord before ∧
    gap ≠ [] ∧ AllBlank gap ∧ follows rest

/-- A semicolon follows, perhaps behind blanks. -/
def EndsStatement (rest : Line) : Prop :=
  ∃ slack more, rest = slack ++ ';' :: more ∧ AllBlank slack

/-- A blank, two colons or a semicolon follow. -/
def EndsName (rest : Line) : Prop :=
  ∃ stop more, rest = stop ++ more ∧
    (stop = "::".toList ∨ stop = ";".toList ∨ ∃ c, isBlank c = true ∧ stop = [c])

/-- Perl is named on the first line, behind the two characters that call for an interpreter. -/
def NamesPerl (s : Line) : Prop :=
  ∃ skipped rest, s = "#!".toList ++ skipped ++ "perl".toList ++ rest ∧ '\n' ∉ skipped

/-- `perl`, blanks and a dash stand somewhere in the line, and the word characters behind the dash,
up to the next character that is none, include a `w` of either case. -/
def SwitchesWarnings (s : Line) : Prop :=
  ∃ before gap switches rest, s = before ++ "perl".toList ++ gap ++ '-' :: switches ++ rest ∧
    gap ≠ [] ∧ AllBlank gap ∧ (∀ c ∈ switches, isWord c = true) ∧
    (∀ c ∈ rest.head?, isWord c = false) ∧ ('w' ∈ switches ∨ 'W' ∈ switches)

section Blanks

theorem trimStart_blanks {gap : Line} (blank : AllBlank gap) (rest : Line) :
    trimStart (gap ++ rest) = trimStart rest := List.dropWhile_append_of_pos blank

theorem trimStart_solid {c : Char} (solid : isBlank c = false) (rest : Line) :
    trimStart (c :: rest) = c :: rest := List.dropWhile_cons_of_neg (by simp [solid])

/-- Blanks are all that trimming takes away. -/
theorem exists_blanks (s : Line) : ∃ gap, s = gap ++ trimStart s ∧ AllBlank gap :=
  ⟨s.takeWhile isBlank, List.takeWhile_append_dropWhile.symm, fun _ => List.mem_takeWhile_imp⟩

/-- A word behind blanks is found behind all of them, since it does not begin with one. -/
theorem word_after_blanks {c : Char} (solid : isBlank c = false) {word s rest : Line} :
    (afterBlanks? s).bind (after? (c :: word)) = some rest ↔
      ∃ gap, s = gap ++ c :: word ++ rest ∧ gap ≠ [] ∧ AllBlank gap := by
  constructor
  · intro found
    obtain ⟨trimmed, blanks, word⟩ := Option.bind_eq_some_iff.mp found
    cases s with
    | nil => cases blanks
    | cons d s =>
      obtain ⟨gap, split, blank⟩ := exists_blanks s
      have first : isBlank d = true ∧ trimStart s = trimmed := by simpa [afterBlanks?] using blanks
      rw [after?_eq_some_iff, ← first.2] at word
      refine ⟨d :: gap, ?_, List.cons_ne_nil d gap, List.forall_mem_cons.mpr ⟨first.1, blank⟩⟩
      rw [split, word]
      simp
  · rintro ⟨gap, rfl, nonempty, blank⟩
    obtain ⟨d, gap, rfl⟩ := List.exists_cons_of_ne_nil nonempty
    obtain ⟨first, blank⟩ := List.forall_mem_cons.mp blank
    apply Option.bind_eq_some_iff.mpr
    refine ⟨c :: word ++ rest, ?_, after?_eq_some_iff.mpr rfl⟩
    simp [afterBlanks?, first, trimStart_blanks blank, trimStart_solid solid]

end Blanks

section Places

/-- Some place of the line is all it takes, the end of the line included. -/
theorem somewhere_iff {start : Line → Bool} {s : Line} :
    somewhere start s = true ↔ ∃ before rest, s = before ++ rest ∧ start rest = true := by
  induction s with
  | nil => simp [somewhere]
  | cons c s ih =>
    rw [somewhere, Bool.or_eq_true, ih]
    constructor
    · rintro (here | ⟨before, rest, rfl, later⟩)
      · exact ⟨[], c :: s, rfl, here⟩
      · exact ⟨c :: before, rest, rfl, later⟩
    · rintro ⟨before, rest, split, holds⟩
      cases before with
      | nil =>
        left
        rwa [split]
      | cons d before =>
        cases split
        exact .inr ⟨before, rest, rfl, holds⟩

/-- A place where no word is under way. What counts is the character before it, or, at the beginning
of the line, what the caller says about the character before the line. -/
theorem atWordStart_iff {start : Line → Bool} {inWord : Bool} {s : Line} :
    atWordStart start inWord s = true ↔
      ∃ before c rest, s = before ++ c :: rest ∧ start (c :: rest) = true ∧
        (before.getLast?.map isWord).getD inWord = false := by
  induction s generalizing inWord with
  | nil => simp [atWordStart]
  | cons d s ih =>
    rw [atWordStart, Bool.or_eq_true, ih]
    constructor
    · rintro (here | ⟨before, c, rest, rfl, holds, apart⟩)
      · obtain ⟨apart, holds⟩ := Bool.and_eq_true_iff.mp here
        exact ⟨[], d, s, rfl, holds, by simpa using apart⟩
      · refine ⟨d :: before, c, rest, rfl, holds, ?_⟩
        cases last : before.getLast? <;> simp_all [List.getLast?_cons]
    · rintro ⟨before, c, rest, split, holds, apart⟩
      cases before with
      | nil =>
        left
        cases split
        simpa [holds] using apart
      | cons e before =>
        cases split
        refine .inr ⟨before, c, rest, rfl, holds, ?_⟩
        cases last : before.getLast? <;> simp_all [List.getLast?_cons]

end Places

section Pragmas

theorem afterUse?_eq_some_iff {c : Char} (solid : isBlank c = false) {name s rest : Line} :
    afterUse? (c :: name) s = some rest ↔
      ∃ gap, s = "use".toList ++ gap ++ c :: name ++ rest ∧ gap ≠ [] ∧ AllBlank gap := by
  rw [afterUse?, Option.bind_assoc]
  constructor
  · intro found
    obtain ⟨more, use, named⟩ := Option.bind_eq_some_iff.mp found
    obtain ⟨gap, rfl, nonempty, blank⟩ := (word_after_blanks solid).mp named
    rw [after?_eq_some_iff] at use
    exact ⟨gap, by simp [use], nonempty, blank⟩
  · rintro ⟨gap, rfl, nonempty, blank⟩
    apply Option.bind_eq_some_iff.mpr
    refine ⟨gap ++ c :: name ++ rest, after?_eq_some_iff.mpr (by simp), ?_⟩
    exact (word_after_blanks solid).mpr ⟨gap, rfl, nonempty, blank⟩

/-- Where a recogniser asks for `use`, a name and something behind it, the search for a place where
no word is under way finds exactly the lines that are so put together. -/
theorem atWordStart_uses {start : Line → Bool} {follows : Line → Prop} {c : Char} {name : Line}
    (solid : isBlank c = false)
    (starts : ∀ s, start s = true ↔ ∃ rest, afterUse? (c :: name) s = some rest ∧ follows rest)
    (s : Line) : atWordStart start false s = true ↔ Uses (c :: name) follows s := by
  rw [atWordStart_iff]
  constructor
  · rintro ⟨before, d, rest, rfl, holds, apart⟩
    obtain ⟨more, used, follows⟩ := (starts _).mp holds
    obtain ⟨gap, split, nonempty, blank⟩ := (afterUse?_eq_some_iff solid).mp used
    refine ⟨before, gap, more, by simp [split], ?_, nonempty, blank, follows⟩
    intro last ends
    simpa [Option.mem_def.mp ends] using apart
  · rintro ⟨before, gap, rest, rfl, apart, nonempty, blank, follows⟩
    refine ⟨before, 'u', "se".toList ++ gap ++ c :: name ++ rest, by simp, ?_, ?_⟩
    · apply (starts _).mpr
      exact ⟨rest, (afterUse?_eq_some_iff solid).mpr ⟨gap, by simp, nonempty, blank⟩, follows⟩
    · cases last : before.getLast? with
      | none => rfl
      | some d => exact apart d last

theorem endsStatement_iff {rest : Line} :
    EndsStatement rest ↔ (trimStart rest).head? = some ';' := by
  constructor
  · rintro ⟨slack, more, rfl, blank⟩
    rw [trimStart_blanks blank, trimStart_solid (by decide)]
    rfl
  · intro first
    obtain ⟨slack, split, blank⟩ := exists_blanks rest
    obtain ⟨more, begins⟩ := List.head?_eq_some_iff.mp first
    exact ⟨slack, more, by rw [← begins, ← split], blank⟩

theorem startsUseStrict_iff (s : Line) :
    startsUseStrict s = true ↔
      ∃ rest, afterUse? "strict".toList s = some rest ∧ EndsStatement rest := by
  unfold startsUseStrict
  cases afterUse? "strict".toList s with
  | none => simp
  | some rest => simp [endsStatement_iff]

/-- The end of a name, read off the first one or two characters. -/
theorem endsName_cons {c : Char} {more : Line} :
    EndsName (c :: more) ↔ c = ';' ∨ (c = ':' ∧ more.head? = some ':') ∨ isBlank c = true := by
  constructor
  · rintro ⟨stop, rest, split, rfl | rfl | ⟨d, blank, rfl⟩⟩
    · cases split
      exact .inr (.inl ⟨rfl, rfl⟩)
    · cases split
      exact .inl rfl
    · cases split
      exact .inr (.inr blank)
  · rintro (rfl | ⟨rfl, second⟩ | blank)
    · exact ⟨";".toList, more, rfl, .inr (.inl rfl)⟩
    · obtain ⟨rest, rfl⟩ := List.head?_eq_some_iff.mp second
      exact ⟨"::".toList, rest, rfl, .inl rfl⟩
    · exact ⟨[c], more, rfl, .inr (.inr ⟨c, blank, rfl⟩)⟩

theorem not_endsName_nil : ¬EndsName [] := by
  rintro ⟨stop, rest, split, rfl | rfl | ⟨d, blank, rfl⟩⟩ <;> cases split

theorem startsUseWarnings_iff (s : Line) :
    startsUseWarnings s = true ↔
      ∃ rest, afterUse? "warnings".toList s = some rest ∧ EndsName rest := by
  unfold startsUseWarnings
  cases afterUse? "warnings".toList s with
  | none => simp
  | some rest =>
    simp only [Option.any_some, Option.some.injEq, exists_eq_left']
    split
    · simp [endsName_cons]
    · simp [endsName_cons]
    · rename_i c more semicolon colons
      have apart : ¬(c = ':' ∧ more.head? = some ':') := by
        rintro ⟨rfl, second⟩
        obtain ⟨rest, rfl⟩ := List.head?_eq_some_iff.mp second
        exact colons rest rfl rfl
      have other : c ≠ ';' := fun same => semicolon same
      simp [endsName_cons, apart, other]
    · simp [not_endsName_nil]

end Pragmas

section Shebang

/-- Before any line feed is where the line is still the same. -/
theorem isShebang_iff (s : Line) : isShebang s = true ↔ NamesPerl s := by
  unfold isShebang
  rw [Option.any_eq_true]
  constructor
  · rintro ⟨rest, start, named⟩
    rw [after?_eq_some_iff] at start
    obtain ⟨skipped, more, split⟩ := occurs_iff.mp named
    refine ⟨skipped, more ++ rest.dropWhile (· != '\n'), ?_, ?_⟩
    · calc s = "#!".toList ++ (rest.takeWhile (· != '\n') ++ rest.dropWhile (· != '\n')) := by
            rw [List.takeWhile_append_dropWhile, start]
        _ = _ := by simp [← split]
    · intro feed
      have within : '\n' ∈ rest.takeWhile (· != '\n') := by
        rw [← split]
        simp [feed]
      simpa using List.mem_takeWhile_imp within
  · rintro ⟨skipped, rest, rfl, clean⟩
    refine ⟨skipped ++ "perl".toList ++ rest, after?_eq_some_iff.mpr (by simp), ?_⟩
    apply occurs_iff.mpr
    have plain : ∀ c ∈ skipped ++ "perl".toList, (c != '\n') = true := by
      intro c member
      obtain early | late := List.mem_append.mp member
      · have other : c ≠ '\n' := by
          rintro rfl
          exact clean early
        simpa using other
      · have all : ∀ c ∈ "perl".toList, (c != '\n') = true := by simp
        exact all c late
    rw [List.takeWhile_append_of_pos plain]
    exact ⟨skipped, rest.takeWhile (· != '\n'), rfl⟩

theorem startsWarningSwitch_eq (s : Line) :
    startsWarningSwitch s =
      (((after? "perl".toList s).bind afterBlanks?).bind (after? ['-'])).any fun rest =>
        (rest.takeWhile isWord).any fun c => c == 'w' || c == 'W' := by
  unfold startsWarningSwitch
  split
  · rename_i rest found
    rw [found]
    rfl
  · rename_i other
    cases found : (after? "perl".toList s).bind afterBlanks? with
    | none => rfl
    | some rest =>
      have absent : after? ['-'] rest = none := by
        cases dash : after? ['-'] rest with
        | none => rfl
        | some more =>
          exact absurd (found.trans (congrArg some (after?_eq_some_iff.mp dash))) (other _)
      rw [Option.bind_some, absent]
      rfl

/-- The longest run of word characters, taken off what follows it. -/
theorem takeWhile_isWord {switches rest : Line} (words : ∀ c ∈ switches, isWord c = true)
    (ends : ∀ c ∈ rest.head?, isWord c = false) :
    (switches ++ rest).takeWhile isWord = switches := by
  rw [List.takeWhile_append_of_pos words]
  cases rest with
  | nil => rw [List.takeWhile_nil, List.append_nil]
  | cons c rest => rw [List.takeWhile_cons_of_neg (by simp [ends c rfl]), List.append_nil]

theorem head?_dropWhile_isWord (s : Line) : ∀ c ∈ (s.dropWhile isWord).head?, isWord c = false := by
  intro c first
  have stops := List.head?_dropWhile_not isWord s
  simpa [Option.mem_def.mp first] using stops

theorem startsWarningSwitch_iff (s : Line) :
    startsWarningSwitch s = true ↔
      ∃ gap switches rest, s = "perl".toList ++ gap ++ '-' :: switches ++ rest ∧ gap ≠ [] ∧
        AllBlank gap ∧ (∀ c ∈ switches, isWord c = true) ∧ (∀ c ∈ rest.head?, isWord c = false) ∧
        ('w' ∈ switches ∨ 'W' ∈ switches) := by
  rw [startsWarningSwitch_eq, Option.bind_assoc, Option.any_eq_true]
  constructor
  · rintro ⟨more, found, warns⟩
    obtain ⟨behind, perl, dash⟩ := Option.bind_eq_some_iff.mp found
    obtain ⟨gap, rfl, nonempty, blank⟩ := (word_after_blanks (by decide)).mp dash
    rw [after?_eq_some_iff] at perl
    refine ⟨gap, more.takeWhile isWord, more.dropWhile isWord, ?_, nonempty, blank,
      fun _ => List.mem_takeWhile_imp, head?_dropWhile_isWord more, ?_⟩
    · rw [perl]
      simp [List.takeWhile_append_dropWhile]
    · simpa [and_or_left, exists_or] using warns
  · rintro ⟨gap, switches, rest, rfl, nonempty, blank, words, ends, warns⟩
    refine ⟨switches ++ rest, Option.bind_eq_some_iff.mpr
      ⟨gap ++ '-' :: switches ++ rest, after?_eq_some_iff.mpr (by simp), ?_⟩, ?_⟩
    · exact (word_after_blanks (by decide)).mpr ⟨gap, by simp, nonempty, blank⟩
    · rw [takeWhile_isWord words ends]
      simpa [and_or_left, exists_or] using warns

theorem shebangWarns_iff (s : Line) :
    shebangWarns s = true ↔ NamesPerl s ∧ SwitchesWarnings s := by
  rw [shebangWarns, Bool.and_eq_true, isShebang_iff, somewhere_iff]
  apply and_congr_right'
  constructor
  · rintro ⟨before, more, rfl, starts⟩
    obtain ⟨gap, switches, rest, rfl, conditions⟩ := (startsWarningSwitch_iff more).mp starts
    exact ⟨before, gap, switches, rest, by simp, conditions⟩
  · rintro ⟨before, gap, switches, rest, rfl, conditions⟩
    refine ⟨before, "perl".toList ++ gap ++ '-' :: switches ++ rest, by simp, ?_⟩
    exact (startsWarningSwitch_iff _).mpr ⟨gap, switches, rest, rfl, conditions⟩

end Shebang

section Forms

theorem head_of_opensDoc {s : Line} (opens : opensDoc s = true) :
    (trimStart s).head? = some '=' := by
  unfold opensDoc at opens
  split at opens
  · rename_i start
    rw [start]
    rfl
  · cases opens

theorem head_of_endsCode {s : Line} (ends : endsCode s = true) :
    (trimStart s).head? = some '_' := by
  simp only [endsCode, List.any_cons, List.any_nil, Bool.or_false, Bool.or_eq_true,
    Option.isSome_iff_exists, after?_eq_some_iff] at ends
  obtain ⟨rest, start⟩ | ⟨rest, start⟩ := ends
  · rw [start]
    rfl
  · rw [start]
    rfl

theorem isComment_not_endsCode {s : Line} (comment : isComment s = true) : endsCode s = false := by
  have start : (trimStart s).head? = some '#' := by simpa [isComment] using comment
  cases ends : endsCode s with
  | false => rfl
  | true => simp [head_of_endsCode ends] at start

theorem opensDoc_not_endsCode {s : Line} (opens : opensDoc s = true) : endsCode s = false := by
  have start := head_of_opensDoc opens
  cases ends : endsCode s with
  | false => rfl
  | true => simp [head_of_endsCode ends] at start

end Forms

/-- A line enables a pragma, or is a first line that switches warnings on, exactly if it is put
together as described. A line that closes documentation would open it, and none is at once a
comment, the opening of documentation and the end of the code, or any two of these. -/
theorem lines_recognised (s : Line) :
    (enablesStrict s = true ↔ Uses "strict".toList EndsStatement s) ∧
    (enablesWarnings s = true ↔ Uses "warnings".toList EndsName s) ∧
    (shebangWarns s = true ↔ NamesPerl s ∧ SwitchesWarnings s) ∧
    (closesDoc s = true → opensDoc s = true) ∧
    ¬(isComment s = true ∧ opensDoc s = true) ∧
    ¬(isComment s = true ∧ endsCode s = true) ∧
    ¬(opensDoc s = true ∧ endsCode s = true) := by
  refine ⟨atWordStart_uses (by decide) startsUseStrict_iff s,
    atWordStart_uses (by decide) startsUseWarnings_iff s, shebangWarns_iff s, closesDoc_opensDoc,
    ?_, ?_, ?_⟩
  · rintro ⟨comment, opens⟩
    simp [isComment_not_opensDoc comment] at opens
  · rintro ⟨comment, ends⟩
    simp [isComment_not_endsCode comment] at ends
  · rintro ⟨opens, ends⟩
    simp [opensDoc_not_endsCode opens] at ends

end PerlAudit.Source
