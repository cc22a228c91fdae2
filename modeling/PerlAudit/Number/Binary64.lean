/-!
Binary floating point numbers of 64 bits as exact values. Every finite one is a whole number of
units, where a unit is 2 ^ -1074, and has at most 53 significant bits. Results that fall between two
such numbers go to the nearer one, and a tie goes to the even significand.
-/

namespace PerlAudit.Number

/-- At most 53 significant bits, and at most 2098 bits in all. -/
def OnGrid (units : Nat) : Prop := units.log2 < 2098 ∧ units % Nat.pow 2 (units.log2 - 52) = 0

instance (units : Nat) : Decidable (OnGrid units) := inferInstanceAs (Decidable (_ ∧ _))

structure Magnitude where
  units : Nat
  onGrid : OnGrid units
  deriving DecidableEq, Repr

inductive Binary64 where
  | nan
  | infinite (negative : Bool)
  | finite (negative : Bool) (magnitude : Magnitude)
  deriving DecidableEq, Repr

/-- The whole number nearest to `num / den`; a tie goes to the even one. -/
def roundQuotient (num den : Nat) : Nat :=
  let q := num / den
  let r := num % den
  if 2 * r < den then q
  else if den < 2 * r then q + 1
  else if q % 2 = 0 then q else q + 1

/-- The number of 53 significant bits nearest to `num / den`. -/
def roundUnits (num den : Nat) : Nat :=
  let shift := (num / den).log2 - 52
  roundQuotient num (den * Nat.pow 2 shift) * Nat.pow 2 shift

namespace Magnitude

def zero : Magnitude := ⟨0, by simp [OnGrid]⟩

end Magnitude

namespace Binary64

/-- A unit is one with so many binary places. -/
@[irreducible] def unitPlaces : Nat := 1074

def unitsPerOne : Nat := Nat.pow 2 unitPlaces

/-- Rounds `num / den` units; beyond the grid lies infinity. -/
def ofUnits (negative : Bool) (num den : Nat) : Binary64 :=
  let units := roundUnits num den
  if h : OnGrid units then .finite negative ⟨units, h⟩ else .infinite negative

/-- The number nearest to `significand * 10 ^ exponent`. -/
def ofDecimal (negative : Bool) (significand : Nat) (exponent : Int) : Binary64 :=
  match exponent with
  | .ofNat e => ofUnits negative (significand * Nat.pow 10 e * unitsPerOne) 1
  | .negSucc e => ofUnits negative (significand * unitsPerOne) (Nat.pow 10 (e + 1))

def unlessInfinite : Binary64 → Option Binary64
  | .infinite _ => none
  | x => some x

/-- The nearest number, or nothing if it would be infinite. -/
def ofInt? (n : Int) : Option Binary64 := (ofDecimal (n < 0) n.natAbs 0).unlessInfinite

def zero : Binary64 := .finite false .zero

/-- Signed units of a finite number. -/
def signedUnits (negative : Bool) (m : Magnitude) : Int :=
  if negative then -(m.units : Int) else m.units

/-- Numeric order; nothing is at most NaN, and NaN is at most nothing. -/
def le : Binary64 → Binary64 → Bool
  | .nan, _ => false
  | _, .nan => false
  | .infinite true, _ => true
  | _, .infinite false => true
  | .infinite false, _ => false
  | _, .infinite true => false
  | .finite n x, .finite k y => signedUnits n x ≤ signedUnits k y

def lt (x y : Binary64) : Bool := le x y && !le y x

/-- Numeric equality: the two zeros are equal and NaN equals nothing. -/
def eqv (x y : Binary64) : Bool := le x y && le y x

/-- Whether an integer is at most a number. Neither is rounded. -/
def reachesInt (n : Int) : Binary64 → Bool
  | .nan => false
  | .infinite negative => !negative
  | .finite negative m => n * unitsPerOne ≤ signedUnits negative m

/-- Whether a number is an integer of that value. -/
def isInt (n : Int) : Binary64 → Bool
  | .finite negative m => n * unitsPerOne == signedUnits negative m
  | _ => false

def neg : Binary64 → Binary64
  | .nan => .nan
  | .infinite n => .infinite (!n)
  | .finite n m => .finite (!n) m

def add : Binary64 → Binary64 → Binary64
  | .nan, _ => .nan
  | _, .nan => .nan
  | .infinite n, .infinite k => if n = k then .infinite n else .nan
  | .infinite n, _ => .infinite n
  | _, .infinite k => .infinite k
  | .finite n x, .finite k y =>
    let sum := signedUnits n x + signedUnits k y
    ofUnits (if sum = 0 then n && k else sum < 0) sum.natAbs 1

def mul : Binary64 → Binary64 → Binary64
  | .nan, _ => .nan
  | _, .nan => .nan
  | .infinite n, .infinite k => .infinite (n != k)
  | .infinite n, .finite k y => if y.units = 0 then .nan else .infinite (n != k)
  | .finite n x, .infinite k => if x.units = 0 then .nan else .infinite (n != k)
  | .finite n x, .finite k y => ofUnits (n != k) (x.units * y.units) unitsPerOne

end Binary64

end PerlAudit.Number
