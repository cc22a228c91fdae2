import PerlAudit.Fault
import PerlAudit.Number.Decimal

namespace PerlAudit.Coverage

open Number

/-- How much coverage is asked for, in percent. A whole number is kept as it is, however large. -/
inductive Threshold where
  | whole (n : Int)
  | real (x : Binary64)
  deriving DecidableEq, Repr

namespace Threshold

def isReachedBy (total : Binary64) : Threshold → Bool
  | whole n => total.reachesInt n
  | real x => x.le total

/-- The digits of a whole number, unless fewer of them and an exponent read back as it. -/
def wholeText (n : Int) : Except Fault String :=
  (Binary64.ofInt? n).elim (.error .integerTooLarge) fun x =>
    .ok (if (Binary64.parse? x.rounded.toList).any (·.isInt n) then x.rounded else toString n)

/-- A threshold in as few digits as tell it. -/
def text : Threshold → Except Fault String
  | whole n => wholeText n
  | real x => .ok x.brief

end Threshold

end PerlAudit.Coverage
