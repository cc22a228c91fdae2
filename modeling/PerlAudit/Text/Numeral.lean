import PerlAudit.Text.Blank
import PerlAudit.Text.Digit

/-!
The plain form of a numeral: digits of any script become ASCII digits, blanks beyond ASCII become
spaces, and the white space of ASCII around it does not count.
-/

namespace PerlAudit.Text

def isAsciiBlank (c : Char) : Bool := c == ' ' || ('\t' ≤ c && c ≤ '\r')

/-- What no numeral can hold becomes a question mark. -/
def plainChar (c : Char) : Char :=
  if c.toNat < 0x7F then c
  else if isBlank c then ' '
  else
    match digitValue? c with
    | some d => Char.ofNat ('0'.toNat + d)
    | none => '?'

def plainNumeral (s : List Char) : List Char :=
  dropEndWhile isAsciiBlank ((s.map plainChar).dropWhile isAsciiBlank)

end PerlAudit.Text
