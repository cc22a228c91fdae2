import PerlAudit.Document.Cursor

namespace PerlAudit.Document

inductive Token where
  | version (major : Int)
  | tagHandle (handle start : String)
  | otherDirective
  | documentStart
  | documentEnd
  | streamEnd
  | blockSequenceStart
  | blockMappingStart
  | blockEnd
  | flowSequenceStart
  | flowSequenceEnd
  | flowMappingStart
  | flowMappingEnd
  | blockEntry
  | flowEntry
  | key
  | value
  | alias (name : String)
  | anchor (name : String)
  | tag (handle : Option String) (suffix : String)
  | scalar (text : Text) (plain : Bool)
  deriving DecidableEq, Repr

/-- Fails unless a condition holds. -/
def require (condition : Bool) : Reading Unit := if condition then .ok () else .error .malformed

def isNameChar (c : Char) : Bool := c.isAlphanum || c == '-' || c == '_'

def isUriChar (c : Char) : Bool := c.isAlphanum || "-;/?:@&=+$,_.!~*'()[]".toList.contains c

def hexValue? (c : Char) : Option Nat :=
  if c.isDigit || ('a' ≤ c && c ≤ 'f') || ('A' ≤ c && c ≤ 'F') then Text.digitIn? 16 c else none

/-- The number that exactly `count` hexadecimal digits give. -/
def hexNumber? (count : Nat) (s : List Char) : Option Nat :=
  let digits := s.take count
  if digits.length = count then (digits.mapM hexValue?).map (Text.ofDigits 16) else none

/-- Bytes given by percent signs, which have to be the text of some characters. -/
def uriEscapes (c : Cursor) : Reading (List Char × Cursor) := do
  let (bytes, c) ← iterate (fun (bytes : Text.Bytes) c =>
    if c.peek == some '%' then
      match hexNumber? 2 (c.rest.drop 1) with
      | some n => .ok (.more (bytes ++ [UInt8.ofNat n]) (c.advanceBy 3))
      | none => .error .malformed
    else .ok (.stop bytes c)) [] c
  match Text.decodeStrict bytes with
  | .ok chars => return (chars, c)
  | .error _ => throw .malformed

/-- Part of a tag. -/
def uri (c : Cursor) : Reading (String × Cursor) := do
  let ((text, found), c) ← iterate (fun (text, found) c =>
    let (run, c) := c.span isUriChar
    if c.peek == some '%' then do
      let (escaped, c) ← uriEscapes c
      return .more (text ++ run ++ escaped, true) c
    else return .stop (text ++ run, found || !run.isEmpty) c) (([] : List Char), false) c
  require found
  return (String.ofList text, c)

/-- A tag handle: `!`, `!!` or a name between exclamation marks. -/
def handle (c : Cursor) : Reading (String × Cursor) := do
  require (c.peek == some '!')
  let c := c.advance
  if c.peek == some ' ' then return ("!", c)
  let (name, c) := c.span isNameChar
  require (c.peek == some '!')
  return ("!" ++ String.ofList name ++ "!", c.advance)

/-- Goes to the end of a line that holds nothing more than a comment. -/
def restOfLine (c : Cursor) : Reading Cursor := do
  let c := c.skipSpaces.skipComment
  require (c.peek.all isLineBreak)
  return c.lineBreak.2

def directiveNumber (c : Cursor) : Reading (Int × Cursor) := do
  let (digits, c) := c.span Char.isDigit
  match Text.readInteger .decimal digits with
  | .ok n => return (n, c)
  | .error .malformed => throw .malformed
  | .error (.tooLong count) => throw (.value (.integerTooLong count))

def directive (c : Cursor) : Reading (Token × Cursor) := do
  let (name, c) := c.advance.span isNameChar
  require (!name.isEmpty && isPlainGap c.peek)
  match String.ofList name with
  | "YAML" =>
    let (major, c) ← directiveNumber c.skipSpaces
    require (c.peek == some '.')
    let (_, c) ← directiveNumber c.advance
    require (isPlainGap c.peek)
    return (.version major, ← restOfLine c)
  | "TAG" =>
    let (handle, c) ← handle c.skipSpaces
    require (c.peek == some ' ')
    let (start, c) ← uri c.skipSpaces
    require (isPlainGap c.peek)
    return (.tagHandle handle start, ← restOfLine c)
  | _ => return (.otherDirective, ← restOfLine (c.skip (!isLineBreak ·)))

/-- The name of an anchor or an alias. -/
def anchorName (c : Cursor) : Reading (String × Cursor) := do
  let (name, c) := c.advance.span isNameChar
  require (!name.isEmpty && (isGap c.peek || c.peek.any ("?:,]\x7d%@\x60".toList.contains ·)))
  return (String.ofList name, c)

/-- Whether a second exclamation mark comes before the next gap. -/
def hasHandle (c : Cursor) : Bool :=
  ((c.rest.drop 1).takeWhile fun ch => ch != ' ' && !isLineBreak ch).contains '!'

def tag (c : Cursor) : Reading (Token × Cursor) := do
  let (token, c) ←
    match c.peekAt 1 with
    | some '<' => do
      let (suffix, c) ← uri (c.advanceBy 2)
      require (c.peek == some '>')
      pure (Token.tag none suffix, c.advance)
    | next =>
      if isGap next then pure (Token.tag none "!", c.advance)
      else do
        let (handle, c) ← if hasHandle c then handle c else pure ("!", c.advance)
        let (suffix, c) ← uri c
        pure (Token.tag (some handle) suffix, c)
  require (isPlainGap c.peek)
  return (token, c)

end PerlAudit.Document
