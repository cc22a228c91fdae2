import Mathlib.Data.List.DropRight
import PerlAudit.Coverage.Report
import PerlAudit.Proofs.Source.Forms
import PerlAudit.Proofs.Text.Pieces

/-!
The total of a coverage report, read in two other ways: by a pattern that is matched with
backtracking from the first place where it can be, and line by line. A total is never taken from a
line behind the first that has one.
-/

namespace PerlAudit.Coverage

open Text Number Source

section Reading

/-- A line with a total: behind the blanks at its beginning comes the word `Total`, and behind that,
without the blanks at the end, come two characters or more, of which the last is a figure. -/
structure TotalLine (line remainder : Line) : Prop where
  headed : trimStart line = "Total".toList ++ remainder
  long : 2 ≤ (trimEnd remainder).length
  figure : ∃ c, (trimEnd remainder).getLast? = some c ∧ isFigure c = true

def IsTotalLine (line : Line) : Prop := ∃ remainder, TotalLine line remainder

/-- The longest end of a text that holds nothing but figures. -/
structure LongestFigures (s figures : List Char) : Prop where
  ends : figures <:+ s
  all : ∀ c ∈ figures, isFigure c = true
  longest : ∀ other, other <:+ s → (∀ c ∈ other, isFigure c = true) →
    other.length ≤ figures.length

/-- The figures of the first line with a total. The character behind `Total` is none of them. -/
inductive FirstTotal : List Line → List Char → Prop where
  | here {line remainder : Line} {figures : List Char} (rest : List Line)
      (total : TotalLine line remainder)
      (read : LongestFigures (trimEnd remainder).tail figures) : FirstTotal (line :: rest) figures
  | later {line : Line} {rest : List Line} {figures : List Char} (other : ¬IsTotalLine line)
      (more : FirstTotal rest figures) : FirstTotal (line :: rest) figures

end Reading

section Pattern

variable {β : Type}

/-- Takes characters of a class and goes on, and if that fails takes one fewer. -/
def greedy (p : Char → Bool) (next : (taken rest : List Char) → Option β) :
    List Char → Option β
  | [] => next [] []
  | c :: rest =>
    if p c then (greedy p (fun taken => next (c :: taken)) rest).or (next [] (c :: rest))
    else next [] (c :: rest)

/-- Takes one character of a class and goes on, and if that fails takes one more. -/
def reluctant (p : Char → Bool) (next : (rest : List Char) → Option β) : List Char → Option β
  | [] => none
  | c :: rest => if p c then (next rest).or (reluctant p next rest) else none

/-- `\s*$`. The end of a line is before every line feed and at the end of the text. -/
def matchEnd (figures : List Char) : List Char → Option (List Char) :=
  greedy isBlank fun _ s => if s.head?.all (· == '\n') then some figures else none

/-- `([\d.]+)\s*$` -/
def matchFigures : List Char → Option (List Char) :=
  greedy isFigure fun figures s => if figures.isEmpty then none else matchEnd figures s

/-- `\s*Total.+?([\d.]+)\s*$`, where `.` is everything but a line feed. -/
def matchTotal : List Char → Option (List Char) :=
  greedy isBlank fun _ s =>
    (after? "Total".toList s).bind (reluctant (· != '\n') matchFigures)

/-- The match at the first beginning of a line that has one. `fresh` tells whether a line begins
here. -/
def leftmost (matches? : List Char → Option β) (fresh : Bool) : List Char → Option β
  | [] => if fresh then matches? [] else none
  | c :: rest =>
    (if fresh then matches? (c :: rest) else none).or (leftmost matches? (c == '\n') rest)

/-- Taking fewer characters than there are is of no use if what follows cannot begin with one. -/
theorem greedy_eq {p : Char → Bool} {next : (taken rest : List Char) → Option β}
    (stuck : ∀ taken c rest, p c = true → next taken (c :: rest) = none) (s : List Char) :
    greedy p next s = next (s.takeWhile p) (s.dropWhile p) := by
  induction s generalizing next with
  | nil => rfl
  | cons c rest ih =>
    rw [greedy, List.takeWhile_cons, List.dropWhile_cons]
    split
    · rename_i taken
      rw [ih fun more d rest => stuck (c :: more) d rest, stuck [] c rest taken, Option.or_none]
    · simp

theorem isFigure_not_isBlank {c : Char} (figure : isFigure c = true) : isBlank c = false := by
  have digits : ∀ first ∈ zeros, ∀ k < 10, isBlank (Char.ofNat (first + k)) = false := by decide
  obtain rfl | digit : c = '.' ∨ isDigit c = true := by simpa [isFigure] using figure
  · rfl
  · simp only [isDigit, digitValue?, Option.isSome_map, List.find?_isSome, Bool.and_eq_true,
      decide_eq_true_eq] at digit
    obtain ⟨first, member, low, high⟩ := digit
    have blank := digits first member (c.toNat - first) (by omega)
    rwa [Nat.add_sub_cancel' low, Char.ofNat_toNat] at blank

/-- Blanks are given back one by one until the line ends. -/
theorem matchEnd_eq (figures s : List Char) :
    matchEnd figures s = if endsLine s then some figures else none := by
  unfold matchEnd
  induction s with
  | nil => rfl
  | cons c rest ih =>
    rw [greedy, ih]
    by_cases feed : c = '\n'
    · subst feed
      have ended : endsLine ('\n' :: rest) = true := rfl
      rw [ended]
      cases endsLine rest <;> rfl
    · have stays : endsLine (c :: rest) = (isBlank c && endsLine rest) := by
        cases blank : isBlank c <;> simp [endsLine, blank, feed]
      rw [stays]
      cases isBlank c <;> simp [feed]

theorem endsLine_figure {c : Char} (figure : isFigure c = true) (rest : List Char) :
    endsLine (c :: rest) = false := by
  have solid := isFigure_not_isBlank figure
  have feed : c ≠ '\n' := by
    rintro rfl
    exact absurd solid (by decide)
  simp [endsLine, solid, feed]

theorem figures?_eq (s : List Char) :
    figures? s = if (s.takeWhile isFigure).isEmpty then none
      else if endsLine (s.dropWhile isFigure) then some (s.takeWhile isFigure) else none := by
  have dropped : s.drop (s.takeWhile isFigure).length = s.dropWhile isFigure := by
    conv_lhs => enter [2]; rw [← List.takeWhile_append_dropWhile (p := isFigure) (l := s)]
    exact List.drop_left
  simp only [figures?, dropped]
  cases (s.takeWhile isFigure).isEmpty <;> cases endsLine (s.dropWhile isFigure) <;> rfl

theorem matchFigures_eq (s : List Char) : matchFigures s = figures? s := by
  unfold matchFigures
  rw [greedy_eq]
  · rw [figures?_eq, matchEnd_eq]
  · intro figures c rest figure
    rw [matchEnd_eq, endsLine_figure figure]
    simp

theorem reluctant_eq (s : List Char) :
    reluctant (· != '\n') matchFigures s = laterFigures? s := by
  induction s with
  | nil => rfl
  | cons c rest ih =>
    rw [reluctant, laterFigures?, ih, matchFigures_eq]
    cases feed : c == '\n' <;> simp [bne, feed]

theorem matchTotal_eq (s : List Char) : matchTotal s = totalHere? s := by
  unfold matchTotal totalHere? trimStart
  rw [greedy_eq]
  · rw [funext reluctant_eq]
  · intro taken c rest blank
    have other : 'T' ≠ c := by
      rintro rfl
      exact absurd blank (by decide)
    simp [after?, other]

theorem leftmost_eq (fresh : Bool) (s : List Char) :
    leftmost matchTotal fresh s = firstTotal? fresh s := by
  induction s generalizing fresh with
  | nil => cases fresh <;> rfl
  | cons c rest ih => rw [leftmost, firstTotal?, ih, matchTotal_eq]

end Pattern

section Lines

variable {line remainder rest : Line}

/-- Whatever ends a line is no figure and has none behind it on the line. -/
theorem laterFigures?_ended (ended : endsLine rest = true) :
    figures? rest = none ∧ laterFigures? rest = none := by
  induction rest with
  | nil => exact ⟨rfl, rfl⟩
  | cons c rest ih =>
    have other : isFigure c = false := by
      by_contra figure
      rw [endsLine_figure (by simpa using figure)] at ended
      cases ended
    refine ⟨by simp [figures?, other], ?_⟩
    rw [laterFigures?]
    split
    · rfl
    · rename_i feed
      have more : endsLine rest = true := by
        cases blank : isBlank c <;> simp_all [endsLine]
      obtain ⟨first, later⟩ := ih more
      rw [first, later, Option.or_none]

/-- Text whose last character is no blank does not end a line. -/
theorem endsLine_solid {body : List Char} (inside : body ≠ []) (clean : '\n' ∉ body)
    (solid : ∀ h : body ≠ [], isBlank (body.getLast h) = false) (rest : List Char) :
    endsLine (body ++ rest) = false := by
  induction body with
  | nil => exact absurd rfl inside
  | cons c body ih =>
    obtain ⟨feed, clean⟩ : '\n' ≠ c ∧ '\n' ∉ body := by simpa using clean
    cases body with
    | nil =>
      have last : isBlank c = false := solid inside
      simp [endsLine, last, Ne.symm feed]
    | cons d body =>
      have more := ih (List.cons_ne_nil d body) clean fun h => by simpa using solid inside
      cases blank : isBlank c with
      | false => simp [endsLine, blank, Ne.symm feed]
      | true => simpa [endsLine, blank, Ne.symm feed] using more

theorem dropWhile_ended (ended : endsLine rest = true) : rest.dropWhile isFigure = rest := by
  cases rest with
  | nil => rfl
  | cons c rest =>
    cases figure : isFigure c with
    | false => simp [figure]
    | true =>
      rw [endsLine_figure figure] at ended
      cases ended

/-- Figures that begin here end the line only if there is nothing else on it. -/
theorem figures?_solid {body : List Char} (inside : body ≠ []) (clean : '\n' ∉ body)
    (solid : ∀ h : body ≠ [], isBlank (body.getLast h) = false) (ended : endsLine rest = true) :
    figures? (body ++ rest) = if body.all isFigure then some body else none := by
  rw [figures?_eq]
  by_cases all : ∀ c ∈ body, isFigure c = true
  · have dropped : (body ++ rest).dropWhile isFigure = rest := by
      rw [List.dropWhile_append_of_pos all, dropWhile_ended ended]
    have taken : (body ++ rest).takeWhile isFigure = body := by
      have whole := List.takeWhile_append_dropWhile (p := isFigure) (l := body ++ rest)
      rw [dropped] at whole
      exact List.append_cancel_right whole
    rw [taken, dropped, if_neg (by simpa using inside), if_pos ended,
      if_pos (List.all_eq_true.mpr all)]
  · have left : body.dropWhile isFigure ≠ [] := by
      rw [Ne, List.dropWhile_eq_nil_iff]
      exact all
    have dropped : (body ++ rest).dropWhile isFigure = body.dropWhile isFigure ++ rest := by
      rw [List.dropWhile_append, if_neg (by simpa using left)]
    have last (h : body.dropWhile isFigure ≠ []) :
        isBlank ((body.dropWhile isFigure).getLast h) = false := by
      rw [(List.dropWhile_suffix isFigure).getLast h]
      exact solid inside
    have goesOn := endsLine_solid left (fun h => clean ((List.dropWhile_suffix _).mem h)) last rest
    rw [dropped, goesOn, if_neg (mt List.all_eq_true.mp all)]
    simp

/-- The longest figures that a text ends in, if it ends in any. -/
def endFigures? (s : List Char) : Option (List Char) :=
  if (s.rtakeWhile isFigure).isEmpty then none else some (s.rtakeWhile isFigure)

theorem endFigures?_all {s : List Char} (inside : s ≠ []) (all : ∀ c ∈ s, isFigure c = true) :
    endFigures? s = some s := by
  rw [endFigures?, List.rtakeWhile_eq_self_iff.mpr all, if_neg (by simpa using inside)]

/-- The first character does not count unless all are figures. -/
theorem endFigures?_cons {c : Char} {s : List Char} (other : ¬∀ d ∈ c :: s, isFigure d = true) :
    endFigures? (c :: s) = endFigures? s := by
  suffices same : (c :: s).rtakeWhile isFigure = s.rtakeWhile isFigure by
    rw [endFigures?, endFigures?, same]
  rw [List.rtakeWhile, List.rtakeWhile, List.reverse_cons, List.takeWhile_append]
  split
  · rename_i whole
    have taken := (List.takeWhile_prefix isFigure).eq_of_length whole
    have all : ∀ d ∈ s, isFigure d = true := by
      simpa using List.takeWhile_eq_self_iff.mp taken
    have first : ¬isFigure c = true := fun figure =>
      other (List.forall_mem_cons.mpr ⟨figure, all⟩)
    rw [taken, List.takeWhile_cons_of_neg first, List.append_nil]
  · rfl

/-- Behind at least one character, the first figures that end the line are the longest. -/
theorem laterFigures?_solid {body : List Char} (clean : '\n' ∉ body)
    (solid : ∀ h : body ≠ [], isBlank (body.getLast h) = false) (ended : endsLine rest = true) :
    laterFigures? (body ++ rest) = endFigures? body.tail := by
  induction body with
  | nil => exact (laterFigures?_ended ended).2
  | cons c body ih =>
    obtain ⟨feed, clean⟩ : '\n' ≠ c ∧ '\n' ∉ body := by simpa using clean
    have solid (h : body ≠ []) : isBlank (body.getLast h) = false := by
      rw [← List.getLast_cons h]
      exact solid (List.cons_ne_nil c body)
    rw [List.cons_append, laterFigures?, if_neg (by simpa using Ne.symm feed), List.tail_cons,
      ih clean solid]
    cases body with
    | nil => rw [List.nil_append, (laterFigures?_ended ended).1, Option.none_or]; rfl
    | cons d body =>
      rw [figures?_solid (List.cons_ne_nil d body) clean solid ended]
      split
      · rename_i all
        rw [Option.some_or, endFigures?_all (List.cons_ne_nil d body) (List.all_eq_true.mp all)]
      · rename_i other
        rw [Option.none_or, List.tail_cons,
          endFigures?_cons (mt List.all_eq_true.mpr other)]

/-- The figures of one line, if it has a total. -/
def lineFigures? (line : Line) : Option (List Char) :=
  (after? "Total".toList (trimStart line)).bind fun remainder =>
    endFigures? (trimEnd remainder).tail

theorem endsLine_blanks {blanks : List Char} (clean : '\n' ∉ blanks)
    (all : ∀ c ∈ blanks, isBlank c = true) (ended : rest.head?.all (· == '\n') = true) :
    endsLine (blanks ++ rest) = true := by
  have inside : ∀ c ∈ blanks, (isBlank c && c != '\n') = true := by
    intro c member
    have feed : c ≠ '\n' := fun same => clean (same ▸ member)
    simp [all c member, feed]
  unfold endsLine
  rw [List.dropWhile_append_of_pos inside]
  cases rest with
  | nil => rfl
  | cons c rest =>
    obtain rfl : c = '\n' := by simpa using ended
    rfl

theorem laterFigures?_line (clean : '\n' ∉ remainder) (ended : rest.head?.all (· == '\n') = true) :
    laterFigures? (remainder ++ rest) = endFigures? (trimEnd remainder).tail := by
  have split : trimEnd remainder ++ remainder.rtakeWhile isBlank = remainder :=
    List.rdropWhile_append_rtakeWhile
  have stripped : '\n' ∉ trimEnd remainder := fun h => clean (split ▸ List.mem_append_left _ h)
  have blanks : '\n' ∉ remainder.rtakeWhile isBlank := fun h =>
    clean (split ▸ List.mem_append_right _ h)
  have last (h : trimEnd remainder ≠ []) : isBlank ((trimEnd remainder).getLast h) = false := by
    exact Bool.eq_false_iff.mpr (List.rdropWhile_last_not isBlank remainder h)
  have gone := endsLine_blanks blanks (fun _ => List.mem_rtakeWhile_imp) ended
  rw [← laterFigures?_solid stripped last gone, ← List.append_assoc, split]

/-- A word without line feeds is not continued on the next line. -/
theorem after?_line {word : List Char} (clean : '\n' ∉ word)
    (ended : rest.head?.all (· == '\n') = true) :
    after? word (line ++ rest) = (after? word line).map (· ++ rest) := by
  induction word generalizing line with
  | nil => rfl
  | cons w word ih =>
    obtain ⟨feed, clean⟩ : '\n' ≠ w ∧ '\n' ∉ word := by simpa using clean
    cases line with
    | cons c line =>
      rw [List.cons_append, after?, after?, ih clean]
      split <;> rfl
    | nil =>
      cases rest with
      | nil => rfl
      | cons c rest =>
        obtain rfl : c = '\n' := by simpa using ended
        simp [after?, Ne.symm feed]

/-- A line of blanks has no total, and a total may follow on the next. -/
theorem totalHere?_blank (blank : ∀ c ∈ line, isBlank c = true) (rest : List Char) :
    lineFigures? line = none ∧ totalHere? (line ++ rest) = totalHere? rest := by
  have gone : trimStart line = [] := List.dropWhile_eq_nil_iff.mpr blank
  refine ⟨by rw [lineFigures?, gone]; rfl, ?_⟩
  rw [totalHere?, totalHere?, trimStart, trimStart, List.dropWhile_append_of_pos blank]

/-- A line with anything on it has its total on it, if it begins one. -/
theorem totalHere?_line (inked : ¬∀ c ∈ line, isBlank c = true) (clean : '\n' ∉ line)
    (ended : rest.head?.all (· == '\n') = true) :
    totalHere? (line ++ rest) = lineFigures? line := by
  have left : line.dropWhile isBlank ≠ [] := by
    rw [Ne, List.dropWhile_eq_nil_iff]
    exact inked
  have started : trimStart (line ++ rest) = trimStart line ++ rest := by
    rw [trimStart, trimStart, List.dropWhile_append, if_neg (by simpa using left)]
  rw [totalHere?, lineFigures?, started, after?_line (by decide) ended]
  cases found : after? "Total".toList (trimStart line) with
  | none => rfl
  | some remainder =>
    have inside : '\n' ∉ remainder := by
      intro h
      have member : '\n' ∈ trimStart line := by
        rw [after?_eq_some_iff.mp found]
        exact List.mem_append_right _ h
      exact clean ((List.dropWhile_sublist _).mem member)
    exact laterFigures?_line inside ended

/-- The line that is under way begins no total any more. -/
theorem firstTotal?_stale (clean : '\n' ∉ line) (rest : List Char) :
    firstTotal? false line = none ∧
      firstTotal? false (line ++ '\n' :: rest) = firstTotal? true rest := by
  induction line with
  | nil => exact ⟨rfl, rfl⟩
  | cons c line ih =>
    obtain ⟨feed, clean⟩ : '\n' ≠ c ∧ '\n' ∉ line := by simpa using clean
    obtain ⟨last, more⟩ := ih clean
    have goesOn : (c == '\n') = false := by simpa using Ne.symm feed
    rw [List.cons_append, firstTotal?, firstTotal?, goesOn, last, more]
    exact ⟨rfl, rfl⟩

theorem firstTotal?_last (clean : '\n' ∉ line) : firstTotal? true line = totalHere? line := by
  cases line with
  | nil => rfl
  | cons c line =>
    obtain ⟨feed, clean⟩ : '\n' ≠ c ∧ '\n' ∉ line := by simpa using clean
    have goesOn : (c == '\n') = false := by simpa using Ne.symm feed
    rw [firstTotal?, goesOn, (firstTotal?_stale clean []).1]
    simp

theorem firstTotal?_next (clean : '\n' ∉ line) (rest : List Char) :
    firstTotal? true (line ++ '\n' :: rest) =
      (totalHere? (line ++ '\n' :: rest)).or (firstTotal? true rest) := by
  cases line with
  | nil => simp [firstTotal?]
  | cons c line =>
    obtain ⟨feed, clean⟩ : '\n' ≠ c ∧ '\n' ∉ line := by simpa using clean
    have goesOn : (c == '\n') = false := by simpa using Ne.symm feed
    rw [List.cons_append, firstTotal?, goesOn, (firstTotal?_stale clean rest).2]
    simp

/-- What may begin here is looked for first. -/
theorem firstTotal?_absorbs (s : List Char) :
    (totalHere? s).or (firstTotal? true s) = firstTotal? true s := by
  cases s with
  | nil => rfl
  | cons c rest =>
    rw [firstTotal?, if_pos rfl]
    cases totalHere? (c :: rest) <;> rfl

/-- The search goes line by line. -/
theorem firstTotal?_eq_lines (s : List Char) :
    firstTotal? true s = (splitAt '\n' s).findSome? lineFigures? := by
  induction s using parts_induction '\n' with
  | last line clean =>
    rw [splitAt_last clean, firstTotal?_last clean, List.findSome?_singleton]
    by_cases blank : ∀ c ∈ line, isBlank c = true
    · obtain ⟨missed, passed⟩ := totalHere?_blank blank []
      rw [List.append_nil] at passed
      rw [missed, passed]
      rfl
    · have ended : ([] : List Char).head?.all (· == '\n') = true := rfl
      simpa using totalHere?_line blank clean ended
  | next line rest clean ih =>
    rw [splitAt_part rest clean, firstTotal?_next clean, List.findSome?_cons, ← ih]
    by_cases blank : ∀ c ∈ line, isBlank c = true
    · have ended : ∀ c ∈ line ++ ['\n'], isBlank c = true :=
        List.forall_mem_append.mpr ⟨blank, List.forall_mem_singleton.mpr rfl⟩
      have passed := (totalHere?_blank ended rest).2
      rw [List.append_assoc, List.singleton_append] at passed
      rw [passed, firstTotal?_absorbs, (totalHere?_blank blank []).1]
    · rw [totalHere?_line blank clean rfl]
      cases lineFigures? line <;> rfl

end Lines

section Agreement

variable {s figures : List Char}

theorem LongestFigures.unique {others : List Char} (first : LongestFigures s figures)
    (second : LongestFigures s others) : figures = others := by
  have short := first.longest others second.ends second.all
  have long := second.longest figures first.ends first.all
  exact (List.suffix_of_suffix_length_le first.ends second.ends long).eq_of_length
    (Nat.le_antisymm long short)

theorem longestFigures_rtakeWhile (s : List Char) :
    LongestFigures s (s.rtakeWhile isFigure) where
  ends := List.rtakeWhile_suffix _ _
  all := fun _ => List.mem_rtakeWhile_imp
  longest := by
    intro other ends all
    obtain ⟨front, rfl⟩ := ends
    have reversed : ∀ c ∈ other.reverse, isFigure c = true := by simpa using all
    rw [List.rtakeWhile, List.reverse_append, List.takeWhile_append_of_pos reversed]
    simp

theorem endFigures?_eq_some_iff :
    endFigures? s = some figures ↔ figures ≠ [] ∧ LongestFigures s figures := by
  have longest := longestFigures_rtakeWhile s
  unfold endFigures?
  constructor
  · intro h
    split at h
    · cases h
    · rename_i inside
      cases h
      exact ⟨by simpa using inside, longest⟩
  · rintro ⟨inside, read⟩
    rw [longest.unique read, if_neg (by simpa using inside)]

/-- A text has figures at its end behind its first character exactly if it has two characters or
more and the last is a figure. -/
theorem endFigures?_tail_isSome_iff :
    (endFigures? s.tail).isSome = true ↔
      2 ≤ s.length ∧ ∃ c, s.getLast? = some c ∧ isFigure c = true := by
  have missing : endFigures? s.tail = none ↔ s.tail.rtakeWhile isFigure = [] := by
    unfold endFigures?
    split <;> simp_all
  rw [Option.isSome_iff_ne_none, Ne, missing, List.rtakeWhile_eq_nil_iff]
  match s with
  | [] => simp
  | [c] => simp
  | c :: d :: rest => simp [List.getLast?_eq_some_getLast]

/-- The figures of a line are those that its remainder ends in, without its first character. -/
theorem lineFigures?_eq_some_iff {line : Line} :
    lineFigures? line = some figures ↔
      ∃ remainder, TotalLine line remainder ∧
        LongestFigures (trimEnd remainder).tail figures := by
  simp only [lineFigures?, Option.bind_eq_some_iff, after?_eq_some_iff]
  constructor
  · rintro ⟨remainder, headed, found⟩
    obtain ⟨long, figure⟩ := endFigures?_tail_isSome_iff.mp (Option.isSome_of_eq_some found)
    exact ⟨remainder, ⟨headed, long, figure⟩, (endFigures?_eq_some_iff.mp found).2⟩
  · rintro ⟨remainder, total, read⟩
    obtain ⟨others, found⟩ := Option.isSome_iff_exists.mp
      (endFigures?_tail_isSome_iff.mpr ⟨total.long, total.figure⟩)
    obtain rfl := (endFigures?_eq_some_iff.mp found).2.unique read
    exact ⟨remainder, total.headed, found⟩

theorem lineFigures?_eq_none_iff {line : Line} : lineFigures? line = none ↔ ¬IsTotalLine line := by
  rw [← not_iff_not, not_not, ← Ne, Option.ne_none_iff_exists']
  simp only [lineFigures?_eq_some_iff]
  constructor
  · rintro ⟨figures, remainder, total, -⟩
    exact ⟨remainder, total⟩
  · rintro ⟨remainder, total⟩
    exact ⟨_, remainder, total, longestFigures_rtakeWhile _⟩

theorem findSome?_lineFigures?_iff {lines : List Line} :
    lines.findSome? lineFigures? = some figures ↔ FirstTotal lines figures := by
  induction lines with
  | nil =>
    constructor
    · intro found
      cases found
    · intro first
      cases first
  | cons line rest ih =>
    rw [List.findSome?_cons]
    constructor
    · intro h
      cases found : lineFigures? line with
      | none =>
        rw [found] at h
        exact .later (lineFigures?_eq_none_iff.mp found) (ih.mp h)
      | some others =>
        rw [found] at h
        cases h
        obtain ⟨remainder, total, read⟩ := lineFigures?_eq_some_iff.mp found
        exact .here rest total read
    · intro first
      cases first with
      | here rest total read => rw [lineFigures?_eq_some_iff.mpr ⟨_, total, read⟩]
      | later other more => rw [lineFigures?_eq_none_iff.mpr other]; exact ih.mpr more

/-- The total of a report is the first match of the pattern, and a reading line by line finds the
same: there is none exactly if no line is a total line, and otherwise its figures are the longest at
the end of the first total line. -/
theorem total_read_line_by_line (report : Text) :
    totalText? report = (leftmost matchTotal true report.chars).map String.ofList ∧
    (totalText? report = none ↔ ∀ line ∈ splitAt '\n' report.chars, ¬IsTotalLine line) ∧
    (∀ figures, totalText? report = some (String.ofList figures) ↔
      FirstTotal (splitAt '\n' report.chars) figures) ∧
    total? report = (totalText? report).bind fun text => Binary64.parse? text.toList := by
  refine ⟨by rw [leftmost_eq]; rfl, ?_, fun figures => ?_, rfl⟩
  · rw [totalText?, firstTotal?_eq_lines, Option.map_eq_none_iff, List.findSome?_eq_none_iff]
    simp only [lineFigures?_eq_none_iff]
  · rw [totalText?, firstTotal?_eq_lines, ← findSome?_lineFigures?_iff]
    constructor
    · intro h
      obtain ⟨others, found, same⟩ := Option.map_eq_some_iff.mp h
      rw [found, String.ofList_injective same]
    · intro found
      rw [found, Option.map_some]

example : totalText? "Total  n/a\n99.0\n Total: 7.5 \n" = some "7.5" := by decide +kernel

end Agreement

end PerlAudit.Coverage
