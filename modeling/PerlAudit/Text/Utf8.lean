/-!
UTF-8 text in bytes that may be damaged. The bytes fall into pieces: a character, or a flaw, which
covers the longest beginning of a character that goes wrong. Reading leniently puts U+FFFD for each
flaw; reading strictly reports the first one.
-/

namespace PerlAudit.Text

abbrev Bytes := List UInt8

inductive Flaw where
  | start
  | continuation
  | truncated
  deriving DecidableEq, Repr

inductive Piece where
  | char (c : Char) (size : Nat)
  | flaw (kind : Flaw) (bytes : Bytes)
  deriving DecidableEq, Repr

namespace Piece

def size : Piece → Nat
  | char _ size => size
  | flaw _ bytes => bytes.length

/-- A flaw is shown as the replacement character. -/
def shown : Piece → Char
  | char c _ => c
  | flaw _ _ => '\ufffd'

end Piece

def isContinuation (b : UInt8) : Bool := 0x80 ≤ b && b ≤ 0xBF

/-- What may follow a first byte: the range of the second byte, the number of further continuation
bytes and the payload of the first byte. -/
structure Lead where
  low : UInt8
  high : UInt8
  further : Nat
  payload : Nat
  deriving DecidableEq, Repr

def lead? (b : UInt8) : Option Lead :=
  if 0xC2 ≤ b && b ≤ 0xDF then some ⟨0x80, 0xBF, 0, b.toNat - 0xC0⟩
  else if b == 0xE0 then some ⟨0xA0, 0xBF, 1, 0⟩
  else if b == 0xED then some ⟨0x80, 0x9F, 1, 0xD⟩
  else if 0xE1 ≤ b && b ≤ 0xEF then some ⟨0x80, 0xBF, 1, b.toNat - 0xE0⟩
  else if b == 0xF0 then some ⟨0x90, 0xBF, 2, 0⟩
  else if 0xF1 ≤ b && b ≤ 0xF3 then some ⟨0x80, 0xBF, 2, b.toNat - 0xF0⟩
  else if b == 0xF4 then some ⟨0x80, 0x8F, 2, 4⟩
  else none

/-- Reads `further` continuation bytes after `read`, which are the bytes of the character so far. -/
def continuations : (further : Nat) → (payload : Nat) → (read rest : Bytes) → Piece × Bytes
  | 0, payload, read, rest => (.char (Char.ofNat payload) read.length, rest)
  | _ + 1, _, read, [] => (.flaw .truncated read, [])
  | n + 1, payload, read, b :: rest =>
    if isContinuation b then
      continuations n (payload * 64 + (b.toNat - 0x80)) (read ++ [b]) rest
    else (.flaw .continuation read, b :: rest)

/-- The piece that begins with `b`, and what follows it. -/
def piece (b : UInt8) (rest : Bytes) : Piece × Bytes :=
  if b < 0x80 then (.char (Char.ofNat b.toNat) 1, rest)
  else
    match lead? b, rest with
    | none, _ => (.flaw .start [b], rest)
    | some _, [] => (.flaw .truncated [b], [])
    | some lead, second :: more =>
      if lead.low ≤ second && second ≤ lead.high then
        continuations lead.further (lead.payload * 64 + (second.toNat - 0x80)) [b, second] more
      else (.flaw .continuation [b], second :: more)

theorem continuations_length (further payload : Nat) (read rest : Bytes) :
    (continuations further payload read rest).2.length ≤ rest.length := by
  induction further generalizing payload read rest with
  | zero => simp [continuations]
  | succ n ih =>
    cases rest with
    | nil => simp [continuations]
    | cons b rest =>
      simp only [continuations]
      split
      · exact Nat.le_succ_of_le (ih _ _ _)
      · exact Nat.le_refl _

theorem piece_length (b : UInt8) (rest : Bytes) : (piece b rest).2.length ≤ rest.length := by
  unfold piece
  split
  · exact Nat.le_refl _
  · split
    · exact Nat.le_refl _
    · exact Nat.le_refl _
    · split
      · exact Nat.le_succ_of_le (continuations_length _ _ _ _)
      · exact Nat.le_refl _

def utf8Pieces : Bytes → List Piece
  | [] => []
  | b :: rest => (piece b rest).1 :: utf8Pieces (piece b rest).2
termination_by bytes => bytes.length
decreasing_by exact Nat.lt_succ_of_le (piece_length b rest)

/-- Lenient reading. -/
def decode (bytes : Bytes) : List Char := (utf8Pieces bytes).map Piece.shown

/-- Where strict reading stops. -/
structure Damage where
  kind : Flaw
  position : Nat
  bytes : Bytes
  deriving DecidableEq, Repr

def decodePieces (position : Nat) : List Piece → Except Damage (List Char)
  | [] => .ok []
  | .char c size :: rest => (decodePieces (position + size) rest).map (c :: ·)
  | .flaw kind bytes :: _ => .error ⟨kind, position, bytes⟩

/-- Strict reading. -/
def decodeStrict (bytes : Bytes) : Except Damage (List Char) := decodePieces 0 (utf8Pieces bytes)

def encode (s : List Char) : Bytes := (String.ofList s).toUTF8.toList

end PerlAudit.Text
