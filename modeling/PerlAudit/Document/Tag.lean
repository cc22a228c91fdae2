import PerlAudit.Fault

/-!
What kind of value a scalar or a collection is. A scalar that is not quoted and has no tag of its
own is judged by its form.
-/

namespace PerlAudit.Document

inductive Tag where
  | null
  | truth
  | integer
  | number
  | binary
  | moment
  | text
  | sequence
  | mapping
  | unordered
  | orderedMapping
  | pairs
  | merge
  | defaultValue
  | unknown
  deriving DecidableEq, Repr

namespace Tag

/-- Where the tags of the common kinds begin. -/
def common : String := "tag:yaml.org,2002:"

def commonTags : List (String × Tag) := [
  ("null", null), ("bool", truth), ("int", integer), ("float", number), ("binary", binary),
  ("timestamp", moment), ("str", text), ("seq", sequence), ("map", mapping), ("set", unordered),
  ("omap", orderedMapping), ("pairs", pairs), ("merge", merge), ("value", defaultValue)]

def ofName (name : String) : Tag :=
  ((commonTags.find? fun (short, _) => common ++ short == name).map (·.2)).getD unknown

end Tag

def truthWords : List String :=
  ["yes", "Yes", "YES", "no", "No", "NO", "true", "True", "TRUE", "false", "False", "FALSE",
    "on", "On", "ON", "off", "Off", "OFF"]

def dropSign : List Char → List Char
  | '-' :: rest => rest
  | '+' :: rest => rest
  | rest => rest

def isDigitOrUnderscore (c : Char) : Bool := c.isDigit || c == '_'

/-- Groups of base sixty behind a number: a colon and a number below sixty, once or more. Gives what
follows them. -/
def sixties : List Char → Option (List Char)
  | ':' :: a :: b :: rest =>
    if '0' ≤ a && a ≤ '5' && b.isDigit then
      match sixties rest with
      | some more => some more
      | none => some rest
    else if a.isDigit then
      match sixties (b :: rest) with
      | some more => some more
      | none => some (b :: rest)
    else none
  | [':', a] => if a.isDigit then some [] else none
  | _ => none
termination_by s => s.length

/-- An exponent with a sign, or nothing. -/
def isExponent : List Char → Bool
  | [] => true
  | e :: sign :: digits =>
    (e == 'e' || e == 'E') && (sign == '-' || sign == '+') && !digits.isEmpty &&
      digits.all Char.isDigit
  | _ => false

def isNumber (s : List Char) : Bool :=
  let body := dropSign s
  let whole := body.takeWhile isDigitOrUnderscore
  let startsWithDigit := whole.head?.any Char.isDigit
  let simple :=
    match body.drop whole.length with
    | '.' :: rest => startsWithDigit && isExponent (rest.dropWhile isDigitOrUnderscore)
    | _ => false
  let fraction :=
    match s with
    | '.' :: d :: rest => d.isDigit && isExponent (rest.dropWhile isDigitOrUnderscore)
    | _ => false
  let sixty :=
    startsWithDigit &&
      match sixties (body.drop whole.length) with
      | some ('.' :: rest) => rest.all isDigitOrUnderscore
      | _ => false
  simple || fraction || sixty || [".inf", ".Inf", ".INF"].contains (String.ofList body) ||
    [".nan", ".NaN", ".NAN"].contains (String.ofList s)

def isInteger (s : List Char) : Bool :=
  match dropSign s with
  | ['0'] => true
  | '0' :: 'b' :: rest => !rest.isEmpty && rest.all fun c => c == '0' || c == '1' || c == '_'
  | '0' :: 'x' :: rest =>
    !rest.isEmpty && rest.all fun c =>
      isDigitOrUnderscore c || ('a' ≤ c && c ≤ 'f') || ('A' ≤ c && c ≤ 'F')
  | '0' :: rest => rest.all fun c => ('0' ≤ c && c ≤ '7') || c == '_'
  | d :: rest =>
    d.isDigit &&
      match rest.dropWhile isDigitOrUnderscore with
      | [] => true
      | more => sixties more == some []
  | [] => false

/-- One or two digits, as many as there are. -/
def oneOrTwo : List Char → Option (Nat × List Char)
  | a :: rest =>
    if a.isDigit then
      let n := a.toNat - '0'.toNat
      match rest with
      | b :: more =>
        if b.isDigit then some (n * 10 + (b.toNat - '0'.toNat), more) else some (n, rest)
      | [] => some (n, [])
    else none
  | [] => none

/-- Exactly `count` digits. -/
def exactly (count : Nat) (s : List Char) : Option (Nat × List Char) :=
  let digits := s.take count
  if digits.length = count && digits.all Char.isDigit then
    some (digits.foldl (fun n d => n * 10 + (d.toNat - '0'.toNat)) 0, s.drop count)
  else none

def after (c : Char) : List Char → Option (List Char)
  | d :: rest => if c = d then some rest else none
  | [] => none

/-- An offset from universal time. -/
structure Offset where
  hours : Nat
  minutes : Nat
  negative : Bool
  deriving DecidableEq, Repr

/-- A date and perhaps a time of day. -/
structure MomentParts where
  year : Nat
  month : Nat
  day : Nat
  time : Option (Nat × Nat × Nat)
  offset : Option Offset
  deriving DecidableEq, Repr

def isSpaceOrTab (c : Char) : Bool := c == ' ' || c == '\t'

/-- The end of a moment: nothing, `Z` or an offset. A last line feed does not count. -/
def offset? (s : List Char) : Option (Option Offset) :=
  match s.dropWhile isSpaceOrTab with
  | [] => if s.isEmpty then some none else none
  | ['Z'] => some none
  | sign :: rest =>
    if sign == '-' || sign == '+' then do
      let (hours, rest) ← oneOrTwo rest
      match rest with
      | [] => return some ⟨hours, 0, sign == '-'⟩
      | ':' :: rest =>
        let (minutes, rest) ← exactly 2 rest
        if rest.isEmpty then return some ⟨hours, minutes, sign == '-'⟩ else none
      | _ => none
    else none

/-- The time of day and what follows it. -/
def time? (s : List Char) : Option ((Nat × Nat × Nat) × List Char) := do
  let (hour, s) ← oneOrTwo s
  let (minute, s) ← exactly 2 (← after ':' s)
  let (second, s) ← exactly 2 (← after ':' s)
  match s with
  | '.' :: rest => return ((hour, minute, second), rest.dropWhile Char.isDigit)
  | rest => return ((hour, minute, second), rest)

/-- Reads a moment, and tells whether month and day have two digits each. -/
def moment? (s : List Char) : Option (MomentParts × Bool) := do
  let (year, s) ← exactly 4 s
  let monthText ← after '-' s
  let (month, s) ← oneOrTwo monthText
  let dayText ← after '-' s
  let (day, rest) ← oneOrTwo dayText
  let full := monthText.length - s.length == 2 && dayText.length - rest.length == 2
  match rest with
  | [] => return (⟨year, month, day, none, none⟩, full)
  | c :: more =>
    let start :=
      if c == 'T' || c == 't' then some more
      else if isSpaceOrTab c then some (more.dropWhile isSpaceOrTab)
      else none
    let (time, rest) ← time? (← start)
    let offset ← offset? rest
    return (⟨year, month, day, some time, offset⟩, full)

/-- A date alone has to be written in full; with a time, month and day may have one digit. -/
def isMoment (s : List Char) : Bool :=
  match moment? s with
  | some (parts, full) => parts.time.isSome || full
  | none => false

/-- The kind of a word by its form. -/
def Tag.ofWord (s : List Char) : Tag :=
  let word := String.ofList s
  if truthWords.contains word then .truth
  else if isNumber s then .number
  else if isInteger s then .integer
  else if word == "<<" then .merge
  else if ["", "~", "null", "Null", "NULL"].contains word then .null
  else if isMoment s then .moment
  else if word == "=" then .defaultValue
  else if ["!", "&", "*"].contains word then .unknown
  else .text

/-- The kind of a scalar by its form. One line feed may follow a word, but not stand alone. -/
def Tag.ofForm (s : List Char) : Tag :=
  match s.dropLast, s.getLast? with
  | c :: word, some '\n' => Tag.ofWord (c :: word)
  | _, some '\n' => .text
  | _, _ => Tag.ofWord s

end PerlAudit.Document
