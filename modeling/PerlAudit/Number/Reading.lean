import PerlAudit.Number.Binary64
import PerlAudit.Text.Numeral

/-!
Numbers as people write them: blanks around, a sign, decimal digits of any script with single
underscores between them, a point, an exponent; or a word for infinity or for no number.
-/

namespace PerlAudit.Number

/-- Removes underscores, each of which must stand between two digits. `afterDigit` tells whether the
character before was a digit. -/
def dropUnderscores (afterDigit : Bool) : List Char → Option (List Char)
  | [] => some []
  | ['_'] => none
  | '_' :: c :: rest =>
    if afterDigit && c.isDigit then (dropUnderscores true rest).map (c :: ·) else none
  | c :: rest => (dropUnderscores c.isDigit rest).map (c :: ·)

/-- A decimal number: its digits without the point, and the power of ten to multiply them by. -/
structure Decimal where
  digits : List Char
  exponent : Int
  deriving DecidableEq, Repr

def decimalDigits (digits : List Char) : Nat :=
  digits.foldl (fun n c => n * 10 + (c.toNat - '0'.toNat)) 0

/-- The exponent part, if the text is one or is empty. -/
def exponent? : List Char → Option Int
  | [] => some 0
  | e :: rest =>
    if e == 'e' || e == 'E' then
      let (negative, digits) :=
        match rest with
        | '-' :: more => (true, more)
        | '+' :: more => (false, more)
        | more => (false, more)
      if digits.isEmpty || !digits.all Char.isDigit then none
      else
        let n : Int := decimalDigits digits
        some (if negative then -n else n)
    else none

def decimal? (s : List Char) : Option Decimal :=
  let whole := s.takeWhile Char.isDigit
  match s.dropWhile Char.isDigit with
  | '.' :: rest =>
    let places := rest.takeWhile Char.isDigit
    if whole.isEmpty && places.isEmpty then none
    else (exponent? (rest.dropWhile Char.isDigit)).map fun e => ⟨whole ++ places, e - places.length⟩
  | rest => if whole.isEmpty then none else (exponent? rest).map fun e => ⟨whole, e⟩

namespace Decimal

/-- Rounds to binary. A number whose first digit stands more than 400 places before or behind the
point is beyond the grid, and its powers of ten are not computed. -/
def toBinary64 (negative : Bool) (d : Decimal) : Binary64 :=
  let digits := d.digits.dropWhile (· == '0')
  let point : Int := digits.length + d.exponent
  if digits.isEmpty || point < -400 then .finite negative .zero
  else if 400 < point then .infinite negative
  else .ofDecimal negative (decimalDigits digits) d.exponent

end Decimal

def word? (negative : Bool) (s : List Char) : Option Binary64 :=
  match String.ofList (s.map Char.toLower) with
  | "inf" => some (.infinite negative)
  | "infinity" => some (.infinite negative)
  | "nan" => some .nan
  | _ => none

/-- Reads a number. -/
def Binary64.parse? (text : List Char) : Option Binary64 := do
  let s ← dropUnderscores false (Text.plainNumeral text)
  let (negative, body) :=
    match s with
    | '-' :: rest => (true, rest)
    | '+' :: rest => (false, rest)
    | rest => (false, rest)
  match word? negative body with
  | some x => some x
  | none => (decimal? body).map (Decimal.toBinary64 negative)

end PerlAudit.Number
