import PerlAudit.Document.Cursor
import PerlAudit.Document.Tag
import PerlAudit.Document.Value
import PerlAudit.Text.Lines
import PerlAudit.Text.Lower

namespace PerlAudit.Document

open Text Number

def integerText (radix : Radix) (t : Text) : Except Fault Int :=
  match readInteger radix t.chars with
  | .ok n => .ok n
  | .error .malformed => .error (.integer radix t)
  | .error (.tooLong digits) => .error (.integerTooLong digits)

/-- Splits a sign off. -/
def splitSign : Text → Bool × Text
  | .char '-' :: rest => (true, rest)
  | .char '+' :: rest => (false, rest)
  | rest => (false, rest)

/-- Numbers of base sixty, the last part of which has weight one. -/
def ofSixties (parts : List Int) : Int := parts.foldl (fun n part => n * 60 + part) 0

/-- The integer of a numeral: a sign, then a base mark or parts of base sixty. Underscores do not
count. -/
def integer (t : Text) : Except Fault Int := do
  let plain := t.filter (!·.is '_')
  if plain.isEmpty then throw .emptyNumeral
  let (negative, body) := splitSign plain
  let n ←
    match body with
    | [] => throw .emptyNumeral
    | [.char '0'] => pure 0
    | .char '0' :: .char 'b' :: rest => integerText .binary rest
    | .char '0' :: .char 'x' :: rest => integerText .hexadecimal rest
    | .char '0' :: _ => integerText .octal body
    | _ =>
      if body.contains ':' then do
        let parts ← (splitAt (.char ':') body).mapM (integerText .decimal)
        pure (ofSixties parts)
      else integerText .decimal body
  return if negative then -n else n

def numberText (t : Text) : Except Fault Binary64 :=
  match Binary64.parse? t.chars with
  | some x => .ok x
  | none => .error (.number t)

/-- Adds parts of base sixty, the last of which comes first here and has the given weight. -/
def addSixties (weight : Nat) (sum : Binary64) : List Binary64 → Except Fault Binary64
  | [] => .ok sum
  | part :: rest =>
    match Binary64.ofInt? weight with
    | none => .error .integerTooLarge
    | some w => addSixties (weight * 60) (sum.add (part.mul w)) rest

/-- The number of a numeral, in the same forms. -/
def number (t : Text) : Except Fault Binary64 := do
  let plain := lower (t.filter (!·.is '_'))
  if plain.isEmpty then throw .emptyNumeral
  let (negative, body) := splitSign plain
  let x ←
    if body == ".inf" then pure (.infinite false)
    else if body == ".nan" then pure .nan
    else if body.contains ':' then do
      let parts ← (splitAt (.char ':') body).mapM numberText
      addSixties 1 .zero parts.reverse
    else numberText body
  return if negative then x.neg else x

def truth (t : Text) : Except Fault Bool :=
  let word := lower t
  if word.among ["yes", "true", "on"] then .ok true
  else if word.among ["no", "false", "off"] then .ok false
  else .error (.notTruth word)

def isLeap (year : Nat) : Bool := year % 4 == 0 && (year % 100 != 0 || year % 400 == 0)

def daysIn (year month : Nat) : Nat :=
  if month = 2 then (if isLeap year then 29 else 28)
  else if [4, 6, 9, 11].contains month then 30
  else 31

/-- Why a moment does not exist. -/
def momentFault? (p : MomentParts) : Option MomentFault :=
  let offset := p.offset.filter fun o => 24 * 60 ≤ o.hours * 60 + o.minutes
  let date :=
    if p.year = 0 then some (.year p.year)
    else if p.month = 0 || 12 < p.month then some .month
    else if p.day = 0 || daysIn p.year p.month < p.day then some .day
    else none
  let time :=
    p.time.bind fun (hour, minute, second) =>
      if 23 < hour then some MomentFault.hour
      else if 59 < minute then some .minute
      else if 59 < second then some .second
      else none
  ((offset.map fun o => .offset o.hours o.minutes o.negative).or date).or time

def moment (s : List Char) : Except Fault Unit :=
  let body :=
    match s.getLast? with
    | some '\n' => s.dropLast
    | _ => s
  match moment? body with
  | none => .error .notMoment
  | some (parts, _) =>
    match momentFault? parts with
    | some cause => .error (.moment cause)
    | none => .ok ()

/-- The value of a character of base 64. -/
def sextet? (c : Char) : Option Nat :=
  if 'A' ≤ c && c ≤ 'Z' then some (c.toNat - 'A'.toNat)
  else if 'a' ≤ c && c ≤ 'z' then some (c.toNat - 'a'.toNat + 26)
  else if c.isDigit then some (c.toNat - '0'.toNat + 52)
  else if c == '+' then some 62
  else if c == '/' then some 63
  else none

/-- Bytes in base 64. `count` of the next four characters have been read, `left` holds their bits
that no byte has taken yet, and `pads` the padding since the last of them. Other characters are
skipped, and enough padding ends the text. -/
def base64 (count left pads : Nat) : List Char → Option Bytes
  | [] => if count = 0 then some [] else none
  | c :: rest =>
    if c == '=' then
      if 2 ≤ count && 4 ≤ count + pads + 1 then some []
      else base64 count left (if 2 ≤ count then pads + 1 else pads) rest
    else
      match sextet? c with
      | none => base64 count left pads rest
      | some n =>
        match count with
        | 0 => base64 1 n 0 rest
        | 1 => (base64 2 (n % 16) 0 rest).map (UInt8.ofNat (left * 4 + n / 16) :: ·)
        | 2 => (base64 3 (n % 4) 0 rest).map (UInt8.ofNat (left * 16 + n / 4) :: ·)
        | _ => (base64 0 0 0 rest).map (UInt8.ofNat (left * 64 + n) :: ·)

/-- The value of a scalar of a kind. -/
def scalarValue (tag : Tag) (text : Text) : Reading Value :=
  let made {α : Type} (answer : Except Fault α) (value : α → Value) : Reading Value :=
    match answer with
    | .ok a => .ok (value a)
    | .error fault => .error (.value fault)
  match tag with
  | .null => .ok .null
  | .truth => made (truth text) .truth
  | .integer => made (integer text) .integer
  | .number => made (number text) .number
  | .moment => made (moment text.chars) fun _ => .moment
  | .text => .ok (.text text)
  | .binary =>
    if text.chars.all (·.toNat < 0x80) then
      match base64 0 0 0 text.chars with
      | some bytes => .ok (.bytes bytes)
      | none => .error .malformed
    else .error .malformed
  | _ => .error .malformed

end PerlAudit.Document
