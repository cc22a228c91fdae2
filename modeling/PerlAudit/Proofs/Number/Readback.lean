import Mathlib.Data.List.DropRight
import PerlAudit.Number.Decimal
import PerlAudit.Proofs.Number.Rounding


/-!
Numbers read back. The digits of a text stand for one decimal, wherever the point is put and with or
without an exponent.
-/

namespace PerlAudit.Number

open Text

section Digits

theorem decimalDigits_eq (s : List Char) : decimalDigits s = Nat.ofDigitChars 10 s 0 := by
  simp only [decimalDigits, Nat.ofDigitChars, Nat.mul_comm]

theorem decimalDigits_toDigits (n : Nat) : decimalDigits (Nat.toDigits 10 n) = n := by
  rw [decimalDigits_eq, Nat.ofDigitChars_ten_toDigits]

theorem decimalDigits_append (a b : List Char) :
    decimalDigits (a ++ b) = decimalDigits a * 10 ^ b.length + decimalDigits b := by
  rw [decimalDigits_eq, Nat.ofDigitChars_append, Nat.ofDigitChars_eq_ofDigitChars_zero,
    decimalDigits_eq, decimalDigits_eq, Nat.mul_comm]

theorem decimalDigits_cons (c : Char) (s : List Char) :
    decimalDigits (c :: s) = (c.toNat - '0'.toNat) * 10 ^ s.length + decimalDigits s := by
  rw [← List.singleton_append, decimalDigits_append]
  congr 2
  simp [decimalDigits]

theorem decimalDigits_zeros (n : Nat) : decimalDigits (List.replicate n '0') = 0 := by
  rw [decimalDigits_eq, Nat.ofDigitChars_replicate_zero, Nat.mul_zero]

/-- Zeros in front do not count. -/
theorem decimalDigits_dropZeros (s : List Char) :
    decimalDigits (s.dropWhile (· == '0')) = decimalDigits s := by
  induction s with
  | nil => rfl
  | cons c s ih =>
    by_cases zero : c = '0'
    · subst zero
      rw [List.dropWhile_cons_of_pos rfl, ih, decimalDigits_cons]
      simp
    · rw [List.dropWhile_cons_of_neg (by simpa using zero)]

theorem digit_range {c : Char} (digit : c.isDigit = true) : 48 ≤ c.toNat ∧ c.toNat ≤ 57 := by
  simpa [Char.isDigit, UInt32.le_iff_toNat_le] using digit

theorem decimalDigits_lt {s : List Char} (digits : ∀ c ∈ s, c.isDigit = true) :
    decimalDigits s < 10 ^ s.length := by
  induction s with
  | nil => decide
  | cons c s ih =>
    obtain ⟨digit, others⟩ := List.forall_mem_cons.mp digits
    have range := digit_range digit
    have rest := ih others
    have first : c.toNat - '0'.toNat ≤ 9 := by
      have : '0'.toNat = 48 := rfl
      omega
    have scaled := Nat.mul_le_mul_right (10 ^ s.length) first
    rw [decimalDigits_cons, List.length_cons, Nat.pow_succ]
    omega

/-- A number is no smaller than its first place. -/
theorem pow_le_decimalDigits {c : Char} (s : List Char) (digit : c.isDigit = true)
    (leading : c ≠ '0') : 10 ^ s.length ≤ decimalDigits (c :: s) := by
  have first : 1 ≤ c.toNat - '0'.toNat := by
    have range := digit_range digit
    have other : c.toNat ≠ '0'.toNat := fun same => leading (Char.toNat_inj.mp same)
    have : '0'.toNat = 48 := rfl
    omega
  have scaled := Nat.mul_le_mul_right (10 ^ s.length) first
  rw [decimalDigits_cons]
  omega

/-- The powers of ten that are not computed are those that would make no difference. -/
theorem Decimal.toBinary64_eq (negative : Bool) {d : Decimal}
    (digits : ∀ c ∈ d.digits, c.isDigit = true) :
    d.toBinary64 negative = .ofDecimal negative (decimalDigits d.digits) d.exponent := by
  have kept : ∀ c ∈ d.digits.dropWhile (· == '0'), c.isDigit = true := fun c member =>
    digits c ((List.dropWhile_sublist _).mem member)
  rw [← decimalDigits_dropZeros]
  unfold toBinary64
  dsimp only
  cases left : d.digits.dropWhile (· == '0') with
  | nil => exact (Binary64.ofDecimal_zero negative d.exponent).symm
  | cons c rest =>
    have leading : c ≠ '0' := by
      have head := List.head_dropWhile_not (p := (· == '0')) (l := d.digits) (by simp [left])
      simpa [left] using head
    rw [left] at kept
    split
    · rename_i tiny
      have tiny : ((c :: rest).length : Int) + d.exponent < -400 := by simpa using tiny
      exact (Binary64.ofDecimal_tiny negative (decimalDigits_lt kept) (by omega)).symm
    · split
      · rename_i huge
        have size := pow_le_decimalDigits rest (kept c List.mem_cons_self) leading
        rw [List.length_cons] at huge
        exact (Binary64.ofDecimal_huge negative size (by omega)).symm
      · rfl

end Digits

section Numerals

theorem dropUnderscores_eq {s : List Char} (absent : '_' ∉ s) (afterDigit : Bool) :
    dropUnderscores afterDigit s = some s := by
  fun_induction dropUnderscores afterDigit s with
  | case1 => rfl
  | case2 | case3 | case4 => simp at absent
  | case5 afterDigit c rest _ _ ih =>
    rw [ih fun member => absent (List.mem_cons_of_mem c member)]
    rfl

/-- A character that stands for itself in a numeral. -/
def isPlain (c : Char) : Bool := c.toNat < 0x7F && !isAsciiBlank c && c != '_'

theorem plainNumeral_of_solid {s : List Char}
    (solid : ∀ c ∈ s, isAsciiBlank (plainChar c) = false) :
    plainNumeral s = s.map plainChar := by
  have unblank : ∀ c ∈ s.map plainChar, isAsciiBlank c = false := by simpa using solid
  have front : (s.map plainChar).dropWhile isAsciiBlank = s.map plainChar := by
    cases mapped : s.map plainChar with
    | nil => rfl
    | cons c rest =>
      rw [mapped] at unblank
      rw [List.dropWhile_cons_of_neg (by simp [unblank c List.mem_cons_self])]
  have back : (s.map plainChar).reverse.dropWhile isAsciiBlank = (s.map plainChar).reverse := by
    cases mapped : (s.map plainChar).reverse with
    | nil => rfl
    | cons c rest =>
      have member : c ∈ s.map plainChar := by
        rw [← List.mem_reverse, mapped]
        exact List.mem_cons_self
      rw [List.dropWhile_cons_of_neg (by simp [unblank c member])]
  rw [plainNumeral, front, dropEndWhile, back, List.reverse_reverse]

theorem plain_iff {c : Char} :
    isPlain c = true ↔ c.toNat < 0x7F ∧ isAsciiBlank c = false ∧ c ≠ '_' := by
  simp [isPlain, and_assoc]

theorem plainNumeral_eq {s : List Char} (plain : ∀ c ∈ s, isPlain c = true) :
    plainNumeral s = s := by
  have itself : ∀ c ∈ s, plainChar c = c := by
    intro c member
    rw [plainChar, if_pos (plain_iff.mp (plain c member)).1]
  rw [plainNumeral_of_solid, List.map_congr_left itself, List.map_id']
  intro c member
  rw [itself c member]
  exact (plain_iff.mp (plain c member)).2.1

/-- A numeral that begins with a digit or a point is no word. -/
theorem word?_numeral (negative : Bool) {body : List Char} {c : Char} (first : body.head? = some c)
    (numeral : c.isDigit = true ∨ c = '.') : word? negative body = none := by
  have letter (l : Char) (rest : String) (same : String.ofList (body.map Char.toLower) = rest)
      (begins : rest.toList.head? = some l) : c.toLower = l := by
    have heads := congrArg (fun t => t.toList.head?) same
    simpa [first, begins] using heads
  have unchanged : c.toLower = c := by
    obtain digit | rfl := numeral
    · have range := digit_range digit
      unfold Char.toLower
      rw [dif_neg]
      rintro ⟨high, -⟩
      have : 65 ≤ c.toNat := UInt32.le_iff_toNat_le.mp high
      omega
    · rfl
  have notWord (l : Char) (other : l.isDigit = false ∧ l ≠ '.') : c.toLower ≠ l := by
    rintro rfl
    rw [unchanged] at other
    obtain digit | rfl := numeral
    · rw [digit] at other
      cases other.1
    · exact other.2 rfl
  unfold word?
  split
  · rename_i same
    exact absurd (letter 'i' _ same rfl) (notWord 'i' (by decide))
  · rename_i same
    exact absurd (letter 'i' _ same rfl) (notWord 'i' (by decide))
  · rename_i same
    exact absurd (letter 'n' _ same rfl) (notWord 'n' (by decide))
  · rfl

def signed (negative : Bool) (body : List Char) : List Char :=
  if negative then '-' :: body else body

/-- A decimal with or without a sign is read as that decimal. -/
theorem parse?_decimal {text body : List Char} {negative : Bool} {c : Char} {d : Decimal}
    (plain : plainNumeral text = signed negative body) (joined : '_' ∉ body)
    (first : body.head? = some c) (numeral : c.isDigit = true ∨ c = '.')
    (read : decimal? body = some d) :
    Binary64.parse? text = some (d.toBinary64 negative) := by
  have solid : '_' ∉ signed negative body := by
    cases negative with
    | false => exact joined
    | true => simpa [signed] using joined
  have noWord := word?_numeral negative first numeral
  have noSign : c ≠ '-' ∧ c ≠ '+' := by
    obtain digit | rfl := numeral
    · constructor
      · rintro rfl
        cases digit
      · rintro rfl
        cases digit
    · decide
  unfold Binary64.parse?
  rw [plain, dropUnderscores_eq solid]
  cases negative with
  | true =>
    simp only [signed, if_true, Option.bind_eq_bind, Option.bind_some, noWord, read,
      Option.map_some]
  | false =>
    obtain ⟨rest, rfl⟩ : ∃ rest, body = c :: rest := by
      cases body with
      | nil => cases first
      | cons d rest =>
        cases first
        exact ⟨rest, rfl⟩
    simp [signed, noSign, noWord, read]

theorem takeWhile_digits {digits : List Char} (rest : List Char)
    (all : ∀ c ∈ digits, c.isDigit = true) (stops : ∀ c ∈ rest.head?, c.isDigit = false) :
    (digits ++ rest).takeWhile Char.isDigit = digits ∧
      (digits ++ rest).dropWhile Char.isDigit = rest := by
  rw [List.takeWhile_append_of_pos all, List.dropWhile_append_of_pos all]
  cases rest with
  | nil => simp
  | cons c rest => simp [stops c rfl]

/-- Digits and perhaps an exponent. -/
theorem decimal?_whole {whole rest : List Char} {e : Int} (nonempty : whole ≠ [])
    (digits : ∀ c ∈ whole, c.isDigit = true)
    (stops : ∀ c ∈ rest.head?, c.isDigit = false ∧ c ≠ '.') (exponent : exponent? rest = .some e) :
    decimal? (whole ++ rest) = .some ⟨whole, e⟩ := by
  obtain ⟨taken, left⟩ := takeWhile_digits rest digits fun c head =>
    (stops c head).1
  unfold decimal?
  simp only [taken, left]
  split
  · exact absurd rfl (stops '.' rfl).2
  · simp [nonempty, exponent]

/-- Digits around a point and perhaps an exponent. -/
theorem decimal?_point {whole places rest : List Char} {e : Int} (nonempty : whole ++ places ≠ [])
    (digits : ∀ c ∈ whole ++ places, c.isDigit = true)
    (stops : ∀ c ∈ rest.head?, c.isDigit = false) (exponent : exponent? rest = .some e) :
    decimal? (whole ++ '.' :: (places ++ rest)) = .some ⟨whole ++ places, e - places.length⟩ := by
  obtain ⟨before, behind⟩ := List.forall_mem_append.mp digits
  obtain ⟨taken, left⟩ := takeWhile_digits ('.' :: (places ++ rest)) before (by simp)
  obtain ⟨taken', left'⟩ := takeWhile_digits rest behind stops
  unfold decimal?
  simp only [taken, left, taken', left']
  simp only [exponent, Option.map_some, Bool.and_eq_true, List.isEmpty_iff]
  rw [if_neg]
  rintro ⟨rfl, rfl⟩
  exact nonempty rfl

theorem isDigit_of_toDigits {n : Nat} {c : Char} (member : c ∈ Nat.toDigits 10 n) :
    c.isDigit = true :=
  Nat.isDigit_of_mem_toDigits (by decide) (by decide) member

/-- The digits of an exponent, of which there are at least two. -/
theorem exponentText_digits (e : Int) :
    ∃ digits, exponentText e = (if e < 0 then '-' else '+') :: digits ∧ digits ≠ [] ∧
      (∀ c ∈ digits, c.isDigit = true) ∧ decimalDigits digits = e.natAbs := by
  unfold exponentText
  dsimp only
  refine ⟨_, rfl, ?_⟩
  split
  · refine ⟨List.cons_ne_nil _ _, ?_, ?_⟩
    · rintro c (_ | ⟨_, member⟩)
      · rfl
      · exact isDigit_of_toDigits member
    · rw [decimalDigits_cons, decimalDigits_toDigits]
      simp
  · exact ⟨Nat.toDigits_ne_nil, fun c => isDigit_of_toDigits, decimalDigits_toDigits _⟩

theorem exponent?_written (e : Int) : exponent? ('e' :: exponentText e) = some e := by
  obtain ⟨digits, written, nonempty, all, value⟩ := exponentText_digits e
  have checked : (digits.isEmpty || !digits.all Char.isDigit) = false := by
    simpa [nonempty] using all
  have back (minus : Bool) (value' : (if minus then -(e.natAbs : Int) else e.natAbs) = e) :
      (if (digits.isEmpty || !digits.all Char.isDigit) = true then none
        else .some (if minus then -(decimalDigits digits : Int) else decimalDigits digits)) =
          .some e := by
    rw [checked, value, value']
    rfl
  rw [written]
  by_cases negative : e < 0
  · rw [if_pos negative]
    exact back true (by rw [if_pos rfl]; omega)
  · rw [if_neg negative]
    exact back false (by rw [if_neg (by decide)]; omega)

end Numerals

section Layouts

/-- A character of a written number. -/
def isWritten (c : Char) : Bool := c.isDigit || c == '.' || c == 'e' || c == '+' || c == '-'

/-- What a text means: it begins with a digit and holds nothing but the characters of numbers, and
the decimal that is read is as good as this one. -/
structure Means (text : List Char) (significand : Nat) (exponent : Int) : Prop where
  first : ∃ c, text.head? = some c ∧ c.isDigit = true
  written : ∀ c ∈ text, isWritten c = true
  read : ∃ d, decimal? text = some d ∧ ∀ negative,
    d.toBinary64 negative = .ofDecimal negative significand exponent

/-- What may stand behind the digits of a number. -/
def IsTail (rest : List Char) (e : Int) : Prop := rest = [] ∧ e = 0 ∨ rest = 'e' :: exponentText e

namespace IsTail

variable {rest : List Char} {e : Int}

theorem read (tail : IsTail rest e) : exponent? rest = some e := by
  obtain ⟨rfl, rfl⟩ | rfl := tail
  · rfl
  · exact exponent?_written e

theorem stops (tail : IsTail rest e) : ∀ c ∈ rest.head?, c.isDigit = false ∧ c ≠ '.' := by
  obtain ⟨rfl, rfl⟩ | rfl := tail
  · simp
  · rintro c ⟨⟩
    decide

theorem written (tail : IsTail rest e) : ∀ c ∈ rest, isWritten c = true := by
  obtain ⟨rfl, rfl⟩ | rfl := tail
  · simp
  · obtain ⟨digits, text, -, all, -⟩ := exponentText_digits e
    rw [text]
    refine List.forall_mem_cons.mpr ⟨rfl, List.forall_mem_cons.mpr ⟨?_, fun c member => ?_⟩⟩
    · split <;> rfl
    · simp [isWritten, all c member]

end IsTail

variable {whole places rest : List Char} {e : Int}

theorem written_of_digits (digits : ∀ c ∈ whole, c.isDigit = true) :
    ∀ c ∈ whole, isWritten c = true := fun c member => by simp [isWritten, digits c member]

theorem first_of_digits (nonempty : whole ≠ []) (digits : ∀ c ∈ whole, c.isDigit = true)
    (more : List Char) : ∃ c, (whole ++ more).head? = .some c ∧ c.isDigit = true := by
  cases whole with
  | nil => exact absurd rfl nonempty
  | cons c whole => exact ⟨c, rfl, digits c List.mem_cons_self⟩

theorem means_whole (whole : List Char) (nonempty : whole ≠ [])
    (digits : ∀ c ∈ whole, c.isDigit = true) (tail : IsTail rest e) :
    Means (whole ++ rest) (decimalDigits whole) e where
  first := first_of_digits nonempty digits rest
  written := List.forall_mem_append.mpr ⟨written_of_digits digits, tail.written⟩
  read := ⟨_, decimal?_whole nonempty digits tail.stops tail.read, fun negative =>
    Decimal.toBinary64_eq negative digits⟩

theorem means_point (whole places : List Char) (nonempty : whole ≠ [])
    (digits : ∀ c ∈ whole ++ places, c.isDigit = true) (tail : IsTail rest e) :
    Means (whole ++ '.' :: (places ++ rest)) (decimalDigits (whole ++ places))
      (e - places.length) where
  first := first_of_digits nonempty (List.forall_mem_append.mp digits).1 _
  written := by
    obtain ⟨before, behind⟩ := List.forall_mem_append.mp digits
    refine List.forall_mem_append.mpr ⟨written_of_digits before, ?_⟩
    exact List.forall_mem_cons.mpr ⟨rfl,
      List.forall_mem_append.mpr ⟨written_of_digits behind, tail.written⟩⟩
  read := ⟨_,
    decimal?_point (by simp [nonempty]) digits (fun c head => (tail.stops c head).1) tail.read,
    fun negative => Decimal.toBinary64_eq negative digits⟩

/-- What a text means goes by the value alone. -/
theorem Means.congr {text : List Char} {significand significand' : Nat} {exponent exponent' : Int}
    (means : Means text significand exponent)
    (same : ∀ negative, Binary64.ofDecimal negative significand exponent =
      .ofDecimal negative significand' exponent') : Means text significand' exponent' where
  first := means.first
  written := means.written
  read := by
    obtain ⟨d, read, value⟩ := means.read
    exact ⟨d, read, fun negative => (value negative).trans (same negative)⟩

theorem Means.shift {text : List Char} {significand : Nat} {exponent : Int} {n : Nat}
    (means : Means text (significand * 10 ^ n) exponent) :
    Means text significand (exponent + n) :=
  means.congr fun negative => Binary64.ofDecimal_shift negative significand exponent n

theorem digits_zeros (n : Nat) : ∀ c ∈ List.replicate n '0', c.isDigit = true := by
  intro c member
  rw [List.eq_of_mem_replicate member]
  rfl

theorem decimalDigits_append_zeros (digits : List Char) (n : Nat) :
    decimalDigits (digits ++ List.replicate n '0') = decimalDigits digits * 10 ^ n := by
  rw [decimalDigits_append, decimalDigits_zeros, List.length_replicate, Nat.add_zero]

section Places

variable {digits : List Char} (nonempty : digits ≠ []) (all : ∀ c ∈ digits, c.isDigit = true)

theorem isTail_nil : IsTail [] 0 := .inl ⟨rfl, rfl⟩

include all in
/-- Zeros in front of the digits do not count. -/
theorem means_led (n : Nat) :
    Means ('0' :: '.' :: (List.replicate n '0' ++ digits)) (decimalDigits digits)
      (-n - digits.length) := by
  have zeros : ∀ c ∈ ['0'] ++ (List.replicate n '0' ++ digits), c.isDigit = true :=
    List.forall_mem_append.mpr ⟨List.forall_mem_singleton.mpr rfl,
      List.forall_mem_append.mpr ⟨digits_zeros n, all⟩⟩
  have means := means_point ['0'] _ (by simp) zeros isTail_nil
  have value : decimalDigits (['0'] ++ (List.replicate n '0' ++ digits)) =
      decimalDigits digits := by
    rw [decimalDigits_append, decimalDigits_append, decimalDigits_zeros]
    simp [decimalDigits]
  have exponent : (0 : Int) - (List.replicate n '0' ++ digits).length = -n - digits.length := by
    rw [List.length_append, List.length_replicate]
    omega
  rw [value, exponent, List.append_nil] at means
  exact means

include nonempty all in
/-- The point between two of the digits. -/
theorem means_parted {n : Nat} (positive : 0 < n) (inside : n < digits.length) :
    Means (digits.take n ++ '.' :: digits.drop n) (decimalDigits digits)
      (n - digits.length) := by
  have front : digits.take n ≠ [] := by
    rw [Ne, List.take_eq_nil_iff]
    rintro (empty | empty)
    · omega
    · exact nonempty empty
  have means := means_point _ (digits.drop n) front (by rwa [List.take_append_drop]) isTail_nil
  have exponent : (0 : Int) - (digits.drop n).length = n - digits.length := by
    rw [List.length_drop]
    omega
  rw [List.take_append_drop, exponent, List.append_nil] at means
  exact means

include nonempty all in
/-- Zeros behind the digits, and perhaps one more behind the point. -/
theorem means_padded (n : Nat) (pointed : Bool) :
    Means (digits ++ List.replicate n '0' ++ if pointed then ['.', '0'] else [])
      (decimalDigits digits) n := by
  have zeros : ∀ c ∈ digits ++ List.replicate n '0', c.isDigit = true :=
    List.forall_mem_append.mpr ⟨all, digits_zeros n⟩
  cases pointed with
  | true =>
    have means := means_point _ ['0'] (by simp [nonempty])
      (List.forall_mem_append.mpr ⟨zeros, List.forall_mem_singleton.mpr rfl⟩) isTail_nil
    have value : decimalDigits (digits ++ List.replicate n '0' ++ ['0']) =
        decimalDigits digits * 10 ^ (n + 1) := by
      rw [List.append_assoc, ← List.replicate_succ', decimalDigits_append_zeros]
    have exponent : (0 : Int) - ['0'].length + (n + 1 : Nat) = n := by
      rw [List.length_singleton]
      omega
    rw [value] at means
    rw [← exponent]
    exact means.shift
  | false =>
    have means := means_whole _ (by simp [nonempty]) zeros isTail_nil
    rw [decimalDigits_append_zeros] at means
    rw [← Int.zero_add (n : Int)]
    exact means.shift

end Places

/-- Wherever the point is put, a text means the digits it was made of. -/
theorem Layout.place_means (layout : Layout) {digits : List Char} (point : Int)
    (nonempty : digits ≠ []) (all : ∀ c ∈ digits, c.isDigit = true) :
    Means (layout.place digits point) (decimalDigits digits) (point - digits.length) := by
  unfold Layout.place
  split
  · split
    · rename_i low
      have exponent : -(point.natAbs : Int) = point := by omega
      rw [← congrArg (· - (digits.length : Int)) exponent]
      exact means_led all point.natAbs
    · split
      · rename_i positive inside
        have exponent : (point.toNat : Int) = point := by omega
        rw [← congrArg (· - (digits.length : Int)) exponent]
        exact means_parted nonempty all (by omega) (by omega)
      · rename_i positive beyond
        have exponent : ((point.toNat - digits.length : Nat) : Int) = point - digits.length := by
          omega
        rw [← exponent]
        exact means_padded nonempty all _ layout.pointed
  · have scientific : IsTail ('e' :: exponentText (point - 1)) (point - 1) := .inr rfl
    split
    · exact absurd rfl nonempty
    · rename_i d
      exact means_whole [d] nonempty all scientific
    · rename_i d more _
      have means := means_point [d] more (by simp) all scientific
      have exponent : point - 1 - (more.length : Int) = point - (d :: more).length := by
        rw [List.length_cons]
        omega
      rw [exponent] at means
      exact means

/-- Zeros at the end of the digits are left out, and the point tells that they were there. -/
theorem Layout.write_means (layout : Layout) (w : Written) :
    Means (layout.write w) w.significand w.exponent := by
  have all : ∀ c ∈ Nat.toDigits 10 w.significand, c.isDigit = true := fun c => isDigit_of_toDigits
  have value := decimalDigits_toDigits w.significand
  unfold Layout.write
  dsimp only
  generalize Nat.toDigits 10 w.significand = digits at all value ⊢
  have split : dropEndWhile (· == '0') digits ++ digits.rtakeWhile (· == '0') = digits :=
    List.rdropWhile_append_rtakeWhile
  have zeros : digits.rtakeWhile (· == '0') =
      List.replicate (digits.rtakeWhile (· == '0')).length '0' :=
    List.eq_replicate_of_mem fun c member => by simpa using List.mem_rtakeWhile_imp member
  generalize (digits.rtakeWhile (· == '0')).length = count at zeros
  rw [zeros] at split
  generalize dropEndWhile (· == '0') digits = kept at split ⊢
  subst split
  rw [decimalDigits_append_zeros] at value
  split
  · rename_i empty
    have nothing : w.significand = 0 := by
      rw [← value, List.isEmpty_iff.mp empty]
      exact Nat.zero_mul _
    have zero := layout.place_means 1 (List.cons_ne_nil '0' []) (List.forall_mem_singleton.mpr rfl)
    exact zero.congr fun negative => by
      rw [nothing, Binary64.ofDecimal_zero]
      exact Binary64.ofDecimal_zero negative _
  · rename_i nonempty
    have kept_digits := (List.forall_mem_append.mp all).1
    have means := layout.place_means
      ((kept ++ List.replicate count '0').length + w.exponent) (by simpa using nonempty) kept_digits
    refine means.congr fun negative => ?_
    have exponent : ((kept ++ List.replicate count '0').length : Int) + w.exponent - kept.length =
        w.exponent + count := by
      rw [List.length_append, List.length_replicate]
      omega
    rw [exponent, ← Binary64.ofDecimal_shift, value]

end Layouts

section Texts

theorem isPlain_of_isWritten {c : Char} (written : isWritten c = true) : isPlain c = true := by
  simp only [isWritten, Bool.or_eq_true, beq_iff_eq] at written
  obtain (((digit | rfl) | rfl) | rfl) | rfl := written
  · have range := digit_range digit
    rw [plain_iff]
    refine ⟨by omega, ?_, ?_⟩
    · have space : c ≠ ' ' := by
        rintro rfl
        cases digit
      have high : ¬c ≤ '\r' := by
        intro low
        have : c.toNat ≤ '\r'.toNat := low
        have : '\r'.toNat = 13 := rfl
        omega
      simp [isAsciiBlank, space, high]
    · rintro rfl
      cases digit
  all_goals rfl

theorem signText_toList (negative : Bool) (s : List Char) :
    (Binary64.signText negative s).toList = signed negative s := by
  rw [Binary64.signText, String.toList_ofList]
  rfl

/-- A text that means a decimal is read as it, with a sign in front or without. -/
theorem parse?_means {text : List Char} {significand : Nat} {exponent : Int} (negative : Bool)
    (means : Means text significand exponent) :
    Binary64.parse? (Binary64.signText negative text).toList =
      some (.ofDecimal negative significand exponent) := by
  obtain ⟨c, first, digit⟩ := means.first
  obtain ⟨d, read, value⟩ := means.read
  have plain : ∀ c ∈ text, isPlain c = true := fun c member =>
    isPlain_of_isWritten (means.written c member)
  have solid : '_' ∉ text := fun member => absurd (means.written _ member) (by decide)
  rw [signText_toList, ← value]
  refine parse?_decimal (plainNumeral_eq ?_) solid first (.inl digit) read
  cases negative with
  | false => exact plain
  | true => exact List.forall_mem_cons.mpr ⟨rfl, plain⟩

namespace Magnitude

/-- The exact decimal of a magnitude is read as it. -/
theorem ofDecimal_exact (m : Magnitude) (negative : Bool) :
    Binary64.ofDecimal negative m.exact.significand m.exact.exponent = .finite negative m := by
  -- For any number of places: a unit is a power of two, and with as many fives a power of ten.
  have places (n : Nat) (one : Binary64.unitsPerOne = Nat.pow 2 n) :
      Binary64.ofDecimal negative (m.units * Nat.pow 5 n) (-n) = .finite negative m := by
    have up : (-(n : Int)).toNat = 0 := by omega
    have down : (-(-(n : Int))).toNat = n := by omega
    have tens : m.units * Nat.pow 5 n * 10 ^ 0 * Nat.pow 2 n = m.units * 10 ^ n := by
      have power : (10 : Nat) ^ n = Nat.pow 5 n * Nat.pow 2 n := Nat.mul_pow 5 2 n
      rw [Nat.pow_zero, Nat.mul_one, Nat.mul_assoc, power]
    rw [Binary64.ofDecimal_eq, up, down, one, tens]
    apply Binary64.ofUnits_eq_finite
    calc roundUnits (m.units * 10 ^ n) (10 ^ n)
      _ = roundUnits (m.units * 10 ^ n) (1 * 10 ^ n) := by rw [Nat.one_mul]
      _ = roundUnits m.units 1 := roundUnits_scale _ _ (Nat.pow_pos (by decide))
      _ = m.units := roundUnits_onGrid m.onGrid
  exact places Binary64.unitPlaces rfl

theorem readsBack_iff {m : Magnitude} {w : Written} :
    m.readsBack w = true ↔ ∀ negative,
      Binary64.ofDecimal negative w.significand w.exponent = .finite negative m := by
  rw [readsBack, beq_iff_eq]
  constructor
  · intro read negative
    rw [Binary64.ofDecimal_eq] at read ⊢
    exact Binary64.ofUnits_sign read negative
  · intro read
    exact read false

theorem shortest_readsBack (m : Magnitude) : m.readsBack m.shortest = true := by
  unfold shortest
  dsimp only
  cases found : List.find? m.readsBack _ with
  | none => exact readsBack_iff.mpr m.ofDecimal_exact
  | some w => exact List.find?_some found

end Magnitude

namespace Binary64

/-- A number is read back from its shortest text. -/
theorem parse?_shortest (x : Binary64) : parse? x.shortest.toList = some x := by
  cases x with
  | nan => decide +kernel
  | infinite negative => cases negative <;> decide +kernel
  | finite negative m =>
    have means := Layout.write_means ⟨16, true⟩ m.shortest
    calc parse? (signText negative (Layout.write ⟨16, true⟩ m.shortest)).toList
      _ = some (.ofDecimal negative m.shortest.significand m.shortest.exponent) :=
        parse?_means negative means
      _ = some (.finite negative m) := by
        rw [Magnitude.readsBack_iff.mp m.shortest_readsBack negative]

/-- What is rounded with the sign of a number and equals it is the number. -/
theorem ofUnits_eqv {negative : Bool} {num den : Nat} {m : Magnitude}
    (same : (ofUnits negative num den).eqv (.finite negative m) = true) :
    ofUnits negative num den = .finite negative m := by
  unfold ofUnits at same ⊢
  dsimp only at same ⊢
  split at same
  · rename_i grid
    have equal : signedUnits negative ⟨roundUnits num den, grid⟩ = signedUnits negative m := by
      simp only [eqv, le, Bool.and_eq_true, decide_eq_true_eq] at same
      exact Int.le_antisymm same.1 same.2
    have units : roundUnits num den = m.units := by
      cases negative with
      | false => simpa [signedUnits] using equal
      | true => simpa [signedUnits] using equal
    rw [dif_pos grid]
    congr 1
    cases m
    simpa using units
  · cases negative <;> cases same

/-- A number is read back from its brief text too, the sign of zero included. -/
theorem parse?_brief (x : Binary64) : parse? x.brief.toList = some x := by
  unfold brief
  split
  · rename_i same
    cases x with
    | nan => simp [eqv, le] at same
    | infinite negative => cases negative <;> decide +kernel
    | finite negative m =>
      have read := parse?_means negative (Layout.write_means ⟨6, false⟩ (m.rounded 6))
      have text : (finite negative m).rounded =
        signText negative (Layout.write ⟨6, false⟩ (m.rounded 6)) := rfl
      rw [text, read] at same ⊢
      rw [Option.any_some, ofDecimal_eq] at same
      rw [ofDecimal_eq, ofUnits_eqv same]
  · exact parse?_shortest x

end Binary64

end Texts

end PerlAudit.Number
