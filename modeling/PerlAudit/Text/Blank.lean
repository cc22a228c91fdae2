import PerlAudit.Text.Basic

namespace PerlAudit.Text

/-- Blanks are the white space of Unicode and the four separators U+001C to U+001F. -/
def isBlank (c : Char) : Bool :=
  let n := c.toNat
  (0x9 ≤ n && n ≤ 0xD) || (0x1C ≤ n && n ≤ 0x20) || n == 0x85 || n == 0xA0 || n == 0x1680 ||
  (0x2000 ≤ n && n ≤ 0x200A) || n == 0x2028 || n == 0x2029 || n == 0x202F || n == 0x205F ||
  n == 0x3000

/-- Drops the longest suffix whose elements all satisfy `p`. -/
def dropEndWhile {α : Type} (p : α → Bool) (s : List α) : List α :=
  (s.reverse.dropWhile p).reverse

def trimStart (s : List Char) : List Char := s.dropWhile isBlank

def trimEnd (s : List Char) : List Char := dropEndWhile isBlank s

def trim (s : List Char) : List Char := trimEnd (trimStart s)

/-- A text without the blanks at its end. -/
def dropEndBlanks (t : Text) : Text := dropEndWhile (·.isIn isBlank) t

/-- A text without the blanks around it. -/
def dropBlanks (t : Text) : Text := dropEndBlanks (t.dropWhile (·.isIn isBlank))

end PerlAudit.Text
