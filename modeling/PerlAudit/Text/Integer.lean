import PerlAudit.Text.Numeral

/-!
Integers as people write them: blanks around, a sign, digits of any script, and single underscores
between digits. Outside the bases that are powers of two at most 4300 digits are read or written.
-/

namespace PerlAudit.Text

inductive Radix where
  | binary
  | octal
  | decimal
  | hexadecimal
  deriving DecidableEq, Repr

namespace Radix

def base : Radix → Nat
  | binary => 2
  | octal => 8
  | decimal => 10
  | hexadecimal => 16

/-- The letter that may announce the base after a zero. -/
def mark? : Radix → Option Char
  | binary => some 'b'
  | octal => some 'o'
  | decimal => none
  | hexadecimal => some 'x'

def isPowerOfTwo : Radix → Bool
  | decimal => false
  | _ => true

end Radix

def digitLimit : Nat := 4300

inductive IntegerFault where
  | malformed
  | tooLong (digits : Nat)
  deriving DecidableEq, Repr

/-- A digit below the base. Letters count from ten in either case. -/
def digitIn? (base : Nat) (c : Char) : Option Nat :=
  let value? :=
    if c.isDigit then some (c.toNat - '0'.toNat)
    else if 'a' ≤ c && c ≤ 'z' then some (c.toNat - 'a'.toNat + 10)
    else if 'A' ≤ c && c ≤ 'Z' then some (c.toNat - 'A'.toNat + 10)
    else none
  value?.filter (· < base)

/-- The digits of a number. Two underscores never meet, and none stands at the end. -/
def digits? (base : Nat) : List Char → Option (List Nat)
  | [] => none
  | [c] => (digitIn? base c).map ([·])
  | c :: '_' :: rest => do
    let d ← digitIn? base c
    let more ← digits? base rest
    return d :: more
  | c :: rest => do
    let d ← digitIn? base c
    let more ← digits? base rest
    return d :: more

def ofDigits (base : Nat) (digits : List Nat) : Nat :=
  digits.foldl (fun n d => n * base + d) 0

/-- Splits a sign off. -/
def signed : List Char → Bool × List Char
  | '-' :: rest => (true, rest)
  | '+' :: rest => (false, rest)
  | rest => (false, rest)

/-- Drops a base mark such as `0x`, with the underscore that may follow it. -/
def dropMark (radix : Radix) : List Char → List Char
  | '0' :: c :: rest =>
    if radix.mark?.any (fun m => c == m || c == m.toUpper) then
      match rest with
      | '_' :: more => more
      | _ => rest
    else '0' :: c :: rest
  | s => s

/-- Reads an integer. Too many digits are noticed before anything else that stands behind them. -/
def readInteger (radix : Radix) (s : List Char) : Except IntegerFault Int :=
  let (negative, body) := signed (plainNumeral s)
  let body := dropMark radix body
  let run := body.takeWhile fun c => c == '_' || (digitIn? radix.base c).isSome
  match digits? radix.base run with
  | none => .error .malformed
  | some digits =>
    if !radix.isPowerOfTwo && digitLimit < digits.length then .error (.tooLong digits.length)
    else if run.length < body.length then .error .malformed
    else
      let n := ofDigits radix.base digits
      .ok (if negative then -(n : Int) else n)

/-- The least number of too many digits. -/
@[irreducible]
def tooLong : Nat := Nat.pow 10 digitLimit

/-- The decimal digits of an integer, if there are not too many to write. -/
def writeInteger? (n : Int) : Option String :=
  if n.natAbs < tooLong then some (toString n) else none

end PerlAudit.Text
