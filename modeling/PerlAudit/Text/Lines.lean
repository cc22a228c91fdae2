import PerlAudit.Text.Basic

namespace PerlAudit.Text

/-- Every line ends in a line feed: CR LF and a lone CR become one. -/
def unifyNewlines : List Char → List Char
  | [] => []
  | '\r' :: '\n' :: rest => '\n' :: unifyNewlines rest
  | '\r' :: rest => '\n' :: unifyNewlines rest
  | c :: rest => c :: unifyNewlines rest

/-- The lines of a text, each with the line feed that ends it. -/
def lines : List Char → List (List Char)
  | [] => []
  | '\n' :: rest => ['\n'] :: lines rest
  | c :: rest =>
    match lines rest with
    | [] => [[c]]
    | line :: more => (c :: line) :: more

/-- Characters at which a text meant for people is broken. -/
def isBreak (c : Char) : Bool :=
  let n := c.toNat
  (0xA ≤ n && n ≤ 0xD) || (0x1C ≤ n && n ≤ 0x1E) || n == 0x85 || n == 0x2028 || n == 0x2029

/-- The segments between breaks. CR LF is one break, and a break at the end opens no segment. -/
def segments : Text → List Text
  | [] => []
  | .char '\r' :: .char '\n' :: rest => [] :: segments rest
  | c :: rest =>
    if c.isIn isBreak then [] :: segments rest
    else
      match segments rest with
      | [] => [[c]]
      | segment :: more => (c :: segment) :: more

/-- Splits at every occurrence of a separator. The result has one part more than there are
separators. -/
def splitAt {α : Type} [DecidableEq α] (separator : α) : List α → List (List α)
  | [] => [[]]
  | c :: rest =>
    if c = separator then [] :: splitAt separator rest
    else
      match splitAt separator rest with
      | [] => [[c]]
      | part :: more => (c :: part) :: more

/-- Whether `word` occurs somewhere in `text`. -/
def occurs {α : Type} [BEq α] (word : List α) : List α → Bool
  | [] => word.isEmpty
  | c :: rest => word.isPrefixOf (c :: rest) || occurs word rest

end PerlAudit.Text
