import PerlAudit.Number.Reading

/-!
Numbers written in decimal. The shortest text has the fewest digits that read back as the number,
and of those the nearest; the rounded text has at most six significant digits. Both are positional
for middling sizes and scientific elsewhere.
-/

namespace PerlAudit.Number

/-- Digits `significand`, the last of which stands at `10 ^ exponent`. -/
structure Written where
  significand : Nat
  exponent : Int
  deriving DecidableEq, Repr

namespace Written

/-- The nearest decimal without the last `dropped` digits. -/
def round (w : Written) (dropped : Nat) : Written :=
  ⟨roundQuotient w.significand (Nat.pow 10 dropped), w.exponent + dropped⟩

/-- The two decimals without the last `dropped` digits around a decimal, the nearer first. -/
def neighbours (w : Written) (dropped : Nat) : List Written :=
  let below := w.significand / Nat.pow 10 dropped
  let nearer := (w.round dropped).significand
  let farther := if nearer = below then below + 1 else below
  [⟨nearer, w.exponent + dropped⟩, ⟨farther, w.exponent + dropped⟩]

end Written

def digitCount (n : Nat) : Nat := (Nat.toDigits 10 n).length

namespace Magnitude

/-- With as many fives, the binary places of a unit are decimal ones, so each magnitude has an exact
decimal form. -/
def exact (m : Magnitude) : Written :=
  ⟨m.units * Nat.pow 5 Binary64.unitPlaces, -Binary64.unitPlaces⟩

def readsBack (m : Magnitude) (w : Written) : Bool :=
  Binary64.ofDecimal false w.significand w.exponent == .finite false m

/-- The first decimal that reads back, trying one digit, two digits and so on. Seventeen are always
enough. -/
def shortest (m : Magnitude) : Written :=
  let exact := m.exact
  let length := digitCount exact.significand
  let tries := (List.range 17).flatMap fun k => exact.neighbours (length - (k + 1))
  (tries.find? m.readsBack).getD exact

/-- The nearest decimal of `count` digits. -/
def rounded (m : Magnitude) (count : Nat) : Written :=
  let exact := m.exact
  exact.round (digitCount exact.significand - count)

end Magnitude

/-- How a decimal is laid out. -/
structure Layout where
  /-- Up to this many digits stand before the point of a positional text. -/
  longest : Int
  /-- A positional whole number ends in `.0`. -/
  pointed : Bool
  deriving DecidableEq, Repr

/-- The exponent has a sign and at least two digits. -/
def exponentText (e : Int) : List Char :=
  let digits := Nat.toDigits 10 e.natAbs
  (if e < 0 then '-' else '+') :: (if digits.length < 2 then '0' :: digits else digits)

/-- Lays out digits whose point stands after the first `point` of them. -/
def Layout.place (layout : Layout) (digits : List Char) (point : Int) : List Char :=
  if -4 < point && point ≤ layout.longest then
    if point ≤ 0 then '0' :: '.' :: (List.replicate point.natAbs '0' ++ digits)
    else if point < digits.length then
      digits.take point.toNat ++ '.' :: digits.drop point.toNat
    else
      digits ++ List.replicate (point.toNat - digits.length) '0' ++
        (if layout.pointed then ['.', '0'] else [])
  else
    match digits with
    | [] => []
    | [d] => d :: 'e' :: exponentText (point - 1)
    | d :: more => d :: '.' :: (more ++ 'e' :: exponentText (point - 1))

def Layout.write (layout : Layout) (w : Written) : List Char :=
  let digits := Nat.toDigits 10 w.significand
  let point : Int := digits.length + w.exponent
  let kept := Text.dropEndWhile (· == '0') digits
  if kept.isEmpty then layout.place ['0'] 1 else layout.place kept point

namespace Binary64

def signText (negative : Bool) (s : List Char) : String :=
  String.ofList (if negative then '-' :: s else s)

def spell (layout : Layout) (digits : Magnitude → Written) : Binary64 → String
  | .nan => "nan"
  | .infinite negative => signText negative "inf".toList
  | .finite negative m => signText negative (layout.write (digits m))

/-- The shortest text: positional up to sixteen digits, and a whole number keeps a zero place. -/
def shortest (x : Binary64) : String := x.spell ⟨16, true⟩ Magnitude.shortest

/-- Six significant digits, positional up to six, without idle zeros. -/
def rounded (x : Binary64) : String := x.spell ⟨6, false⟩ (·.rounded 6)

/-- The rounded text if it reads back, and the shortest text otherwise. -/
def brief (x : Binary64) : String :=
  if (parse? x.rounded.toList).any (·.eqv x) then x.rounded else x.shortest

end Binary64

end PerlAudit.Number
