import PerlAudit.Text.Basic
import PerlAudit.Text.Printable

/-!
Quoted texts, as they stand in messages. Single quotes enclose the text unless it holds a single
quote and no double quote. What cannot be printed is escaped by its code.
-/

namespace PerlAudit.Text

/-- Hexadecimal digits of `n`, padded with zeros to `width`. -/
def hexadecimal (width n : Nat) : List Char :=
  let digits := Nat.toDigits 16 n
  List.replicate (width - digits.length) '0' ++ digits

/-- The escape of a code by a letter for its size. -/
def codeEscape (code : Nat) : List Char :=
  if code ≤ 0xFF then '\\' :: 'x' :: hexadecimal 2 code
  else if code ≤ 0xFFFF then '\\' :: 'u' :: hexadecimal 4 code
  else '\\' :: 'U' :: hexadecimal 8 code

def escape (quote : Char) : CodePoint → List Char
  | .half offset => codeEscape (CodePoint.half offset).code
  | .char c =>
    if c == quote || c == '\\' then ['\\', c]
    else if c == '\t' then ['\\', 't']
    else if c == '\n' then ['\\', 'n']
    else if c == '\r' then ['\\', 'r']
    else if isPrintable c then [c]
    else codeEscape c.toNat

def quoteFor (t : Text) : Char := if t.contains '\'' && !t.contains '"' then '"' else '\''

def quoted (t : Text) : Text :=
  let quote := quoteFor t
  ofChars (quote :: t.flatMap (escape quote) ++ [quote])

end PerlAudit.Text
