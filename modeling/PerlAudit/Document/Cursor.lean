import PerlAudit.Fault

/-!
A place in a document's text, and loops that move it forward. Lines end in a line feed, U+0085,
U+2028 or U+2029; a byte order mark takes no column.
-/

namespace PerlAudit.Document

/-- Why a document cannot be read: it is not well formed, or a value in it cannot be made. -/
inductive ReadFault where
  | malformed
  | value (fault : Fault)
  deriving DecidableEq, Repr

abbrev Reading := Except ReadFault

def isLineBreak (c : Char) : Bool :=
  c == '\n' || c == '\x85' || c == '\u2028' || c == '\u2029'

/-- Whether a token may end before this character, or here if there is none. -/
def isGap : Option Char → Bool
  | none => true
  | some c => c == ' ' || c == '\t' || isLineBreak c

/-- A gap, tabs apart. -/
def isPlainGap (c : Option Char) : Bool := isGap c && c != some '\t'

/-- A place in a text: what follows it, and how many characters that are. -/
structure Cursor where
  rest : List Char
  left : Nat
  index : Nat
  line : Nat
  column : Nat
  deriving DecidableEq, Repr

namespace Cursor

def start (text : List Char) : Cursor := ⟨text, text.length, 0, 0, 0⟩

def peek (c : Cursor) : Option Char := c.rest.head?

def peekAt (c : Cursor) (n : Nat) : Option Char := c.rest[n]?

def advance (c : Cursor) : Cursor :=
  match c.rest with
  | [] => c
  | ch :: rest =>
    if isLineBreak ch then ⟨rest, c.left - 1, c.index + 1, c.line + 1, 0⟩
    else if ch == '\ufeff' then ⟨rest, c.left - 1, c.index + 1, c.line, c.column⟩
    else ⟨rest, c.left - 1, c.index + 1, c.line, c.column + 1⟩

def advanceBy (c : Cursor) : Nat → Cursor
  | 0 => c
  | n + 1 => c.advance.advanceBy n

/-- The longest run of characters that satisfy `p`, and the place after it. -/
def span (p : Char → Bool) (c : Cursor) : List Char × Cursor :=
  let run := c.rest.takeWhile p
  (run, c.advanceBy run.length)

def skip (p : Char → Bool) (c : Cursor) : Cursor := (c.span p).2

def skipSpaces (c : Cursor) : Cursor := c.skip (· == ' ')

/-- Skips a comment, if one begins here. -/
def skipComment (c : Cursor) : Cursor := if c.peek == some '#' then c.skip (!isLineBreak ·) else c

def atBreak (c : Cursor) : Bool := c.peek.any isLineBreak

/-- The line break at this place, which counts as a line feed unless it is U+2028 or U+2029. -/
def lineBreak (c : Cursor) : List Char × Cursor :=
  match c.peek with
  | some ch =>
    if ch == '\n' || ch == '\x85' then (['\n'], c.advance)
    else if isLineBreak ch then ([ch], c.advance)
    else ([], c)
  | none => ([], c)

/-- Whether the text here is a document marker, which stands alone in a line or before a gap. -/
def atMarker (c : Cursor) : Bool :=
  match c.rest with
  | '-' :: '-' :: '-' :: rest => isGap rest.head?
  | '.' :: '.' :: '.' :: rest => isGap rest.head?
  | _ => false

end Cursor

/-- A loop goes on from a place, or it stops there. -/
inductive Next (σ : Type) where
  | more (state : σ) (cursor : Cursor)
  | stop (state : σ) (cursor : Cursor)

/-- Repeats a step until it stops. A step that goes on has to move on. -/
def iterate {σ : Type} (step : σ → Cursor → Reading (Next σ)) (state : σ) (c : Cursor) :
    Reading (σ × Cursor) :=
  match step state c with
  | .error fault => .error fault
  | .ok (.stop state c) => .ok (state, c)
  | .ok (.more state next) =>
    if next.left < c.left then iterate step state next else .error .malformed
termination_by c.left

end PerlAudit.Document
