import PerlAudit.Text.Basic
import PerlAudit.Text.Utf8

/-!
File names as texts. The system keeps a name as bytes. In its text each byte that is part of no
character is spelled by a half, and each such half is written back as that byte. Other halves spell
nothing, and no name holds a null character.
-/

namespace PerlAudit.Text

/-- The halves U+DC80 to U+DCFF spell the bytes from 0x80 on. -/
def byteHalves : Nat := 0xDC00

def halfOfByte (b : UInt8) : CodePoint := .ofCode (byteHalves + b.toNat)

def byteOfHalf? : CodePoint → Option UInt8
  | .char _ => none
  | .half offset =>
    let b := (CodePoint.half offset).code - byteHalves
    if 0x80 ≤ b && b ≤ 0xFF then some (UInt8.ofNat b) else none

def pointBytes : CodePoint → Bytes
  | .char c => encode [c]
  | half => (byteOfHalf? half).toList

/-- The bytes of a name. -/
def nameBytes (t : Text) : Bytes := t.flatMap pointBytes

/-- The text of a name's bytes. -/
def spelling (bytes : Bytes) : Text :=
  (utf8Pieces bytes).flatMap fun
    | .char c _ => [.char c]
    | .flaw _ bytes => bytes.map halfOfByte

/-- A name as the system gives it back. Halves that together spell a character become one. -/
def respell (t : Text) : Text := if t.any (·.isHalf) then spelling (nameBytes t) else t

/-- Why a text names no file. -/
inductive NameFlaw where
  /-- Halves stand between two positions, and the first of them spells no byte. -/
  | halves (code first last : Nat)
  | null
  deriving DecidableEq, Repr

/-- The first half that spells no byte, with the halves that follow it. -/
def strayHalves? (position : Nat) : Text → Option NameFlaw
  | [] => none
  | c :: rest =>
    if c.isHalf && (byteOfHalf? c).isNone then
      some (.halves c.code position (position + (rest.takeWhile (·.isHalf)).length))
    else strayHalves? (position + 1) rest

def nameFlaw? (t : Text) : Option NameFlaw :=
  (strayHalves? 0 t).or (if t.contains '\x00' then some .null else none)

end PerlAudit.Text
