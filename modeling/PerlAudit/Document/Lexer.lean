import PerlAudit.Document.ScalarText

/-!
From text to tokens. Indentation becomes tokens that open and close block collections. Whether a
scalar is a key is known only at the colon after it, so the places where a key may have begun are
kept, and the tokens that open it are put in there.
-/

namespace PerlAudit.Document

/-- A place where a key may have begun. -/
structure PossibleKey where
  /-- The number of tokens before it. -/
  token : Nat
  /-- Nothing but a key can stand there. -/
  required : Bool
  index : Nat
  line : Nat
  column : Nat
  deriving DecidableEq, Repr

structure Lexer where
  /-- The depth of flow collections. -/
  flow : Nat
  indent : Int
  /-- The indentations of the enclosing block collections, the inner ones first. -/
  indents : List Int
  keyAllowed : Bool
  /-- At most one possible key for each depth. -/
  keys : List (Nat × PossibleKey)
  /-- The tokens so far, the last first. -/
  tokens : List Token
  /-- How many they are. -/
  count : Nat

namespace Lexer

def start : Lexer := ⟨0, -1, [], true, [], [], 0⟩

def push (l : Lexer) (token : Token) : Lexer :=
  { l with tokens := token :: l.tokens, count := l.count + 1 }

/-- Puts a token in after the first `before` tokens. -/
def insert (l : Lexer) (before : Nat) (token : Token) : Lexer :=
  let later := l.count - before
  { l with
    tokens := l.tokens.take later ++ token :: l.tokens.drop later
    count := l.count + 1 }

def allowKey (l : Lexer) (allowed : Bool) : Lexer := { l with keyAllowed := allowed }

def inBlock (l : Lexer) : Bool := l.flow == 0

def dropKey (l : Lexer) : Lexer := { l with keys := l.keys.filter (·.1 != l.flow) }

/-- Gives up the possible key of this depth. -/
def removeKey (l : Lexer) : Reading Lexer := do
  require (!(l.keys.lookup l.flow).any (·.required))
  return l.dropKey

/-- Notes that a key may begin here. -/
def saveKey (l : Lexer) (c : Cursor) : Reading Lexer := do
  if l.keyAllowed then
    let l ← l.removeKey
    let required := l.inBlock && l.indent == c.column
    let key := ⟨l.count, required, c.index, c.line, c.column⟩
    return { l with keys := (l.flow, key) :: l.keys }
  else return l

/-- A key takes one line and at most 1024 characters. -/
def isStale (c : Cursor) (k : PossibleKey) : Bool := k.line != c.line || 1024 < c.index - k.index

def dropStale (l : Lexer) (c : Cursor) : Reading Lexer := do
  require (!l.keys.any fun (_, k) => isStale c k && k.required)
  return { l with keys := l.keys.filter fun (_, k) => !isStale c k }

/-- Leaves the indentations beyond a column, and counts them. -/
def popIndents (column : Int) : Int → List Int → Nat × Int × List Int
  | indent, [] => (0, indent, [])
  | indent, outer :: rest =>
    if column < indent then
      let (count, indent, indents) := popIndents column outer rest
      (count + 1, indent, indents)
    else (0, indent, outer :: rest)

/-- Closes the block collections that are indented beyond a column. -/
def unwind (l : Lexer) (column : Int) : Lexer :=
  if l.inBlock then
    let (count, indent, indents) := popIndents column l.indent l.indents
    { l with
      indent, indents
      tokens := List.replicate count .blockEnd ++ l.tokens
      count := l.count + count }
  else l

def addIndent (l : Lexer) (column : Int) : Lexer :=
  { l with indents := l.indent :: l.indents, indent := column }

/-- Opens a block collection at a column, unless one is open there. -/
def openBlock (l : Lexer) (column : Int) (token : Token) : Lexer :=
  if l.inBlock && l.indent < column then (l.addIndent column).push token else l

/-- Skips what separates tokens. A new line may begin with a key. -/
def toNext (l : Lexer) (c : Cursor) : Reading (Lexer × Cursor) := do
  let c := if c.index == 0 && c.peek == some '\ufeff' then c.advance else c
  let (allowed, c) ← iterate (fun allowed c =>
    let c := c.skipSpaces.skipComment
    if c.atBreak then .ok (.more (allowed || l.inBlock) c.lineBreak.2)
    else .ok (.stop allowed c)) l.keyAllowed c
  return (l.allowKey allowed, c)

/-- A token at the margin, which closes every block. -/
def atMargin (l : Lexer) : Reading Lexer := do
  let l ← (l.unwind (-1)).removeKey
  return l.allowKey false

def documentMarker (l : Lexer) (c : Cursor) (token : Token) : Reading (Next Lexer) := do
  return .more ((← l.atMargin).push token) (c.advanceBy 3)

def flowOpening (l : Lexer) (c : Cursor) (token : Token) : Reading (Next Lexer) := do
  let l ← l.saveKey c
  return .more ({ l with flow := l.flow + 1, keyAllowed := true }.push token) c.advance

/-- A closing bracket outside of all brackets is left to the grammar, which has no place for it. -/
def flowClosing (l : Lexer) (c : Cursor) (token : Token) : Reading (Next Lexer) := do
  require (0 < l.flow)
  let l ← l.removeKey
  return .more ({ l with flow := l.flow - 1, keyAllowed := false }.push token) c.advance

def flowEntry (l : Lexer) (c : Cursor) : Reading (Next Lexer) := do
  return .more ((← (l.allowKey true).removeKey).push .flowEntry) c.advance

def blockEntry (l : Lexer) (c : Cursor) : Reading (Next Lexer) := do
  require (!l.inBlock || l.keyAllowed)
  let l := l.openBlock c.column .blockSequenceStart
  return .more ((← (l.allowKey true).removeKey).push .blockEntry) c.advance

def explicitKey (l : Lexer) (c : Cursor) : Reading (Next Lexer) := do
  require (!l.inBlock || l.keyAllowed)
  let l := l.openBlock c.column .blockMappingStart
  return .more ((← (l.allowKey l.inBlock).removeKey).push .key) c.advance

/-- A colon. What began at the possible key of this depth is a key. -/
def value (l : Lexer) (c : Cursor) : Reading (Next Lexer) :=
  match l.keys.lookup l.flow with
  | some k =>
    let l := (l.dropKey.insert k.token .key).allowKey false
    let l :=
      if l.inBlock && l.indent < k.column then
        (l.addIndent k.column).insert k.token .blockMappingStart
      else l
    .ok (.more (l.push .value) c.advance)
  | none => do
    require (!l.inBlock || l.keyAllowed)
    let l := l.openBlock c.column .blockMappingStart
    return .more ((← (l.allowKey l.inBlock).removeKey).push .value) c.advance

/-- A token that may be or begin a key. -/
def simple (l : Lexer) (c : Cursor) (read : Cursor → Reading (Token × Cursor)) :
    Reading (Next Lexer) := do
  let l ← l.saveKey c
  let (token, c) ← read c
  return .more ((l.allowKey false).push token) c

def quoted (l : Lexer) (c : Cursor) (quote : Char) : Reading (Next Lexer) :=
  l.simple c fun c => (quotedScalar quote c).map fun (text, c) =>
    (.scalar text false, c)

def block (l : Lexer) (c : Cursor) (folded : Bool) : Reading (Next Lexer) := do
  let l ← (l.allowKey true).removeKey
  let (text, c) ← blockScalar folded l.indent c
  return .more (l.push (.scalar (.ofChars text) false)) c

def plain (l : Lexer) (c : Cursor) : Reading (Next Lexer) := do
  let l ← l.saveKey c
  let ((text, ended), c) ← plainScalar (!l.inBlock) (l.indent + 1) c
  return .more ((l.allowKey ended).push (.scalar (.ofChars text) true)) c

/-- Whether a plain scalar may begin here. -/
def startsPlain (l : Lexer) (c : Cursor) (ch : Char) : Bool :=
  !(isGap (some ch) || "-?:,[]\x7b\x7d#&*!|>'\"%@\x60".toList.contains ch) ||
    (!isGap (c.peekAt 1) && (ch == '-' || (l.inBlock && (ch == '?' || ch == ':'))))

/-- Reads the token that begins with `ch`. -/
def token (l : Lexer) (c : Cursor) (ch : Char) : Reading (Next Lexer) :=
  let gapNext := isGap (c.peekAt 1)
  if ch == '%' && c.column == 0 then do
    let l ← l.atMargin
    let (token, c) ← directive c
    return .more (l.push token) c
  else if ch == '-' && c.column == 0 && c.atMarker then l.documentMarker c .documentStart
  else if ch == '.' && c.column == 0 && c.atMarker then l.documentMarker c .documentEnd
  else if ch == '[' then l.flowOpening c .flowSequenceStart
  else if ch == '\x7b' then l.flowOpening c .flowMappingStart
  else if ch == ']' then l.flowClosing c .flowSequenceEnd
  else if ch == '\x7d' then l.flowClosing c .flowMappingEnd
  else if ch == ',' then l.flowEntry c
  else if ch == '-' && gapNext then l.blockEntry c
  else if ch == '?' && (!l.inBlock || gapNext) then l.explicitKey c
  else if ch == ':' && (!l.inBlock || gapNext) then l.value c
  else if ch == '*' then l.simple c fun c => (anchorName c).map fun (name, c) => (.alias name, c)
  else if ch == '&' then l.simple c fun c => (anchorName c).map fun (name, c) => (.anchor name, c)
  else if ch == '!' then l.simple c tag
  else if ch == '|' && l.inBlock then l.block c false
  else if ch == '>' && l.inBlock then l.block c true
  else if ch == '\'' || ch == '"' then l.quoted c ch
  else if l.startsPlain c ch then l.plain c
  else .error .malformed

def step (l : Lexer) (c : Cursor) : Reading (Next Lexer) := do
  let (l, c) ← l.toNext c
  let l := (← l.dropStale c).unwind c.column
  match c.peek with
  | none => return .stop ((← l.atMargin).push .streamEnd) c
  | some ch => l.token c ch

/-- The tokens that nothing can be put in before. -/
def settled (l : Lexer) (c : Cursor) : List Token :=
  let pending := (l.keys.filter fun (_, k) => !isStale c k).map fun (_, k) => k.token
  l.tokens.reverse.take (pending.foldl min l.count)

end Lexer

/-- The tokens of a document. Where a token cannot be read the tokens end; those are given that are
settled by then. -/
structure Tokens where
  ready : List Token
  fault : Option ReadFault

/-- Reads tokens to the end. -/
def Lexer.run (l : Lexer) (c : Cursor) : Tokens :=
  match l.step c with
  | .error fault => ⟨l.settled c, some fault⟩
  | .ok (.stop l _) => ⟨l.tokens.reverse, none⟩
  | .ok (.more next d) =>
    if d.left < c.left then next.run d else ⟨l.settled c, some .malformed⟩
termination_by c.left

/-- The tokens of a text, the last of which ends it. -/
def tokens (text : List Char) : Tokens := Lexer.start.run (.start text)

end PerlAudit.Document
