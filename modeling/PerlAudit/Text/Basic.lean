/-!
Texts. A text is a list of code points. Most code points are characters; the 2048 from U+D800 to
U+DFFF are halves of characters. A half is no character, but a text may hold one: an escape can name
it, and it spells a byte of a file name that is part of no character.
-/

namespace PerlAudit

inductive CodePoint where
  | char (c : Char)
  /-- The half that many places after the first. -/
  | half (offset : Fin 2048)
  deriving DecidableEq, Repr

instance : Coe Char CodePoint := ⟨.char⟩

namespace CodePoint

def firstHalf : Nat := 0xD800

def code : CodePoint → Nat
  | char c => c.toNat
  | half offset => firstHalf + offset

/-- The code point of a number below 0x110000. -/
def ofCode (n : Nat) : CodePoint :=
  if h : firstHalf ≤ n ∧ n < firstHalf + 2048 then half ⟨n - firstHalf, by omega⟩
  else char (Char.ofNat n)

def isHalf : CodePoint → Bool
  | char _ => false
  | half _ => true

def is (p : CodePoint) (c : Char) : Bool := p == char c

/-- Whether a code point is a character of a class. A half is in none. -/
def isIn (p : Char → Bool) : CodePoint → Bool
  | char c => p c
  | half _ => false

/-- The character, or the replacement character for a half. -/
def shown : CodePoint → Char
  | char c => c
  | half _ => '\ufffd'

end CodePoint

abbrev Text := List CodePoint

namespace Text

def ofChars (s : List Char) : Text := s.map .char

def ofString (s : String) : Text := ofChars s.toList

/-- The characters of a text, for what does not tell halves apart. -/
def chars (t : Text) : List Char := t.map CodePoint.shown

/-- Puts texts together with a separator between them. -/
def joinWith (separator : Text) (parts : List Text) : Text := List.intercalate separator parts

def among (t : Text) (words : List Text) : Bool := words.contains t

/-- The order of texts goes by the codes. -/
def precedes (a b : Text) : Bool :=
  !(b.map CodePoint.code).lex (a.map CodePoint.code) fun m n => decide (m < n)

/-- A text that is there and not empty. -/
def given (text : Option Text) : Option Text := text.filter (!·.isEmpty)

end Text

instance : Coe String Text := ⟨Text.ofString⟩

end PerlAudit
