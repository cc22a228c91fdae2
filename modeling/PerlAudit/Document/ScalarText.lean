import PerlAudit.Document.Token

/-!
The text of scalars. Inside quotes and in plain text a single line break is a space, and further
ones are kept; a block keeps its lines or folds them.
-/

namespace PerlAudit.Document

/-- Blank lines within quotes. A document marker must not begin one. -/
def quotedBreaks (c : Cursor) : Reading (List Char × Cursor) :=
  iterate (fun breaks c => do
    require (!c.atMarker)
    let c := c.skip fun ch => ch == ' ' || ch == '\t'
    if c.atBreak then
      let (text, c) := c.lineBreak
      return .more (breaks ++ text) c
    else return .stop breaks c) [] c

/-- What a line break and the blank lines after it stand for. -/
def fold (first breaks : List Char) : List Char :=
  if first != ['\n'] then first ++ breaks
  else if breaks.isEmpty then [' '] else breaks

/-- Blanks and line breaks within quotes. -/
def quotedBlanks (c : Cursor) : Reading (List Char × Cursor) := do
  let (blanks, c) := c.span fun ch => ch == ' ' || ch == '\t'
  require c.peek.isSome
  if c.atBreak then
    let (first, c) := c.lineBreak
    let (breaks, c) ← quotedBreaks c
    return (fold first breaks, c)
  else return (blanks, c)

/-- The character a single letter stands for after a backslash. -/
def letterEscape? : Char → Option Char
  | '0' => some '\x00'
  | 'a' => some '\x07'
  | 'b' => some '\x08'
  | 't' => some '\t'
  | '\t' => some '\t'
  | 'n' => some '\n'
  | 'v' => some '\x0b'
  | 'f' => some '\x0c'
  | 'r' => some '\r'
  | 'e' => some '\x1b'
  | ' ' => some ' '
  | '"' => some '"'
  | '\\' => some '\\'
  | '/' => some '/'
  | 'N' => some '\x85'
  | '_' => some '\xa0'
  | 'L' => some '\u2028'
  | 'P' => some '\u2029'
  | _ => none

/-- The number of digits after a letter that announces a code point. -/
def codeEscape? : Char → Option Nat
  | 'x' => some 2
  | 'u' => some 4
  | 'U' => some 8
  | _ => none

/-- The code point of a number. -/
def codePoint (code : Nat) : Reading CodePoint :=
  if 0x110000 ≤ code then .error (.value (.noCodePoint code)) else .ok (.ofCode code)

/-- What follows a backslash. -/
def escapeText (c : Cursor) : Reading (Text × Cursor) :=
  match c.peek with
  | none => .error .malformed
  | some letter =>
    match letterEscape? letter, codeEscape? letter with
    | some ch, _ => .ok ([.char ch], c.advance)
    | none, some count =>
      match hexNumber? count (c.rest.drop 1) with
      | none => .error .malformed
      | some code => (codePoint code).map fun point => ([point], c.advanceBy (count + 1))
    | none, none => do
      require (isLineBreak letter)
      let (breaks, c) ← quotedBreaks c.lineBreak.2
      return (.ofChars breaks, c)

/-- Text within quotes up to a blank, a line break or the closing quote. -/
def quotedRun (quote : Char) (c : Cursor) : Reading (Text × Cursor) :=
  let double := quote == '"'
  iterate (fun (text : Text) c =>
    let (run, c) := c.span fun ch =>
      ch != '\'' && ch != '"' && ch != '\\' && !isGap (some ch)
    let text := text ++ Text.ofChars run
    match c.peek with
    | none => .ok (.stop text c)
    | some ch =>
      if !double && ch == '\'' && c.peekAt 1 == some '\'' then
        .ok (.more (text ++ [.char ch]) (c.advanceBy 2))
      else if (double && ch == '\'') || (!double && (ch == '"' || ch == '\\')) then
        .ok (.more (text ++ [.char ch]) c.advance)
      else if double && ch == '\\' then do
        let (escaped, c) ← escapeText c.advance
        return .more (text ++ escaped) c
      else .ok (.stop text c)) [] c

def quotedScalar (quote : Char) (c : Cursor) : Reading (Text × Cursor) := do
  let (first, c) ← quotedRun quote c.advance
  let (text, c) ← iterate (fun text c => do
    if c.peek == some quote then return .stop text c
    let (blanks, c) ← quotedBlanks c
    let (run, c) ← quotedRun quote c
    return .more (text ++ Text.ofChars blanks ++ run) c) first c
  return (text, c.advance)

/-- Characters of a plain scalar up to a gap or an indicator. -/
def plainRun (flow : Bool) : List Char → List Char
  | [] => []
  | c :: rest =>
    let ends :=
      isGap (some c) ||
      (c == ':' &&
        (isGap rest.head? || (flow && rest.head?.any (",[]\x7b\x7d".toList.contains ·)))) ||
      (flow && ",?[]\x7b\x7d".toList.contains c)
    if ends then [] else c :: plainRun flow rest

/-- Blank lines within a plain scalar, or nothing if a document marker ends it. -/
def plainBreaks (c : Cursor) : Reading (Option (List Char) × Cursor) :=
  if c.atMarker then .ok (none, c)
  else
    iterate (fun breaks c =>
      if c.peek == some ' ' then .ok (.more breaks c.advance)
      else if c.atBreak then
        let (text, c) := c.lineBreak
        if c.atMarker then .ok (.stop none c) else .ok (.more (breaks.map (· ++ text)) c)
      else .ok (.stop breaks c)) (some []) c

/-- What stands between two runs of a plain scalar, and whether it goes over a line end. Nothing if
there is no further run. -/
def plainBlanks (c : Cursor) : Reading ((Option (List Char) × Bool) × Cursor) := do
  let (blanks, c) := c.span (· == ' ')
  if c.atBreak then
    let (first, c) := c.lineBreak
    let (breaks, c) ← plainBreaks c
    return ((breaks.map (fold first), true), c)
  else return ((if blanks.isEmpty then none else some blanks, false), c)

structure PlainState where
  text : List Char
  blanks : List Char
  /-- Whether a line ended after the last run. -/
  ended : Bool

/-- A plain scalar below an indentation, and whether a line ended at its end. -/
def plainScalar (flow : Bool) (indent : Int) (c : Cursor) :
    Reading ((List Char × Bool) × Cursor) := do
  let (s, c) ← iterate (fun (s : PlainState) c => do
    if c.peek == some '#' then return .stop s c
    let run := plainRun flow c.rest
    if run.isEmpty then return .stop s c
    let text := s.text ++ s.blanks ++ run
    let ((blanks, ended), c) ← plainBlanks (c.advanceBy run.length)
    match blanks with
    | none => return .stop ⟨text, [], ended⟩ c
    | some blanks =>
      if c.peek == some '#' || (!flow && (c.column : Int) < indent) then
        return .stop ⟨text, [], ended⟩ c
      else return .more ⟨text, blanks, ended⟩ c) ⟨[], [], false⟩ c
  return ((s.text, s.ended), c)

inductive Chomp where
  | clip
  | strip
  | keep
  deriving DecidableEq, Repr

def chomp? : Option Char → Option Chomp
  | some '+' => some .keep
  | some '-' => some .strip
  | _ => none

/-- A digit that gives the indentation of a block. -/
def increment? (c : Cursor) : Reading (Option Nat × Cursor) :=
  match c.peek with
  | some d =>
    if d == '0' then .error .malformed
    else if d.isDigit then .ok (some (d.toNat - '0'.toNat), c.advance)
    else .ok (none, c)
  | none => .ok (none, c)

/-- The head of a block: how it ends, and how far it is indented. -/
def blockHead (c : Cursor) : Reading ((Chomp × Option Nat) × Cursor) := do
  let ((chomp, increment), c) ←
    match chomp? c.peek with
    | some chomp => do
      let (increment, c) ← increment? c.advance
      pure ((chomp, increment), c)
    | none => do
      let (increment, c) ← increment? c
      match increment, chomp? c.peek with
      | some n, some chomp => pure ((chomp, some n), c.advance)
      | _, _ => pure ((Chomp.clip, increment), c)
  require (isPlainGap c.peek)
  return ((chomp, increment), ← restOfLine c)

/-- Blank lines at the beginning of a block, and the largest indentation among them. -/
def blockMargin (c : Cursor) : Reading ((List Char × Nat) × Cursor) :=
  iterate (fun (breaks, widest) c =>
    if c.peek == some ' ' then .ok (.more (breaks, max widest c.advance.column) c.advance)
    else if c.atBreak then
      let (text, c) := c.lineBreak
      .ok (.more (breaks ++ text, widest) c)
    else .ok (.stop (breaks, widest) c)) ([], 0) c

/-- Skips at most the indentation of a block. -/
def skipIndent (indent : Nat) (c : Cursor) : Cursor :=
  c.advanceBy (min (indent - c.column) (c.rest.takeWhile (· == ' ')).length)

/-- Blank lines within a block. -/
def blockBreaks (indent : Nat) (c : Cursor) : Reading (List Char × Cursor) :=
  iterate (fun breaks c =>
    if c.atBreak then
      let (text, c) := c.lineBreak
      .ok (.more (breaks ++ text) (skipIndent indent c))
    else .ok (.stop breaks c)) [] (skipIndent indent c)

structure BlockState where
  text : List Char
  /-- The break that ends the last line. -/
  last : List Char
  breaks : List Char

/-- What stands between two lines of a block. -/
def blockJoint (folded : Bool) (line last : List Char) (next : Option Char) (breaks : List Char) :
    List Char :=
  let flush (c : Option Char) := c != some ' ' && c != some '\t'
  if folded && last == ['\n'] && flush line.head? && flush next then
    if breaks.isEmpty then [' '] else []
  else last

def blockLines (folded : Bool) (indent : Nat) (breaks : List Char) (c : Cursor) :
    Reading (BlockState × Cursor) :=
  iterate (fun (s : BlockState) c =>
    if c.column != indent || c.peek.isNone then .ok (.stop s c)
    else do
      let (line, c) := c.span (!isLineBreak ·)
      let (last, c) := c.lineBreak
      let (breaks, c) ← blockBreaks indent c
      let text := s.text ++ s.breaks ++ line
      if c.column == indent && c.peek.isSome then
        return .more ⟨text ++ blockJoint folded line last c.peek breaks, last, breaks⟩ c
      else return .stop ⟨text, last, breaks⟩ c) ⟨[], [], breaks⟩ c

/-- A block scalar in a collection of the given indentation. -/
def blockScalar (folded : Bool) (parent : Int) (c : Cursor) : Reading (List Char × Cursor) := do
  let ((chomp, increment), c) ← blockHead c.advance
  let least := (max (parent + 1) 1).toNat
  let ((breaks, indent), c) ←
    match increment with
    | none => do
      let ((breaks, widest), c) ← blockMargin c
      pure ((breaks, max least widest), c)
    | some n => do
      let indent := least + n - 1
      let (breaks, c) ← blockBreaks indent c
      pure ((breaks, indent), c)
  let (s, c) ← blockLines folded indent breaks c
  let ending :=
    match chomp with
    | .strip => []
    | .clip => s.last
    | .keep => s.last ++ s.breaks
  return (s.text ++ ending, c)

end PerlAudit.Document
