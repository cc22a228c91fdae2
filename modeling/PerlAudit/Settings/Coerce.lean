import PerlAudit.Document.Value

/-!
Reading a loosely typed value as the type a setting has. What does not fit is ignored, not refused.
-/

namespace PerlAudit.Value

open Text Number

def isTextual : Value → Bool
  | text _ => true
  | integer _ => true
  | number _ => true
  | _ => false

/-- A text, or a number as text. A truth value is neither. -/
def asText (v : Value) : Except Fault (Option Text) :=
  if v.isTextual then (v.shown 0).map some else .ok none

/-- A number, or a text that reads as one, perhaps with percent signs. -/
def asNumber : Value → Except Fault (Option Binary64)
  | integer n => (integer n).toNumber.map some
  | number x => .ok (some x)
  | text s => .ok (Binary64.parse? (dropEndWhile (· == '%') (trim s.chars)))
  | _ => .ok none

/-- A truth value, or a text that names one. -/
def asTruth : Value → Option Bool
  | truth b => some b
  | text s =>
    let word := String.ofList ((trim s.chars).map Char.toLower)
    if ["true", "yes", "1"].contains word then some true
    else if ["false", "no", "0"].contains word then some false
    else none
  | _ => none

/-- Items that are texts, numbers or truth values, as texts. -/
def itemTexts : List Value → Except Fault (List Text)
  | [] => .ok []
  | item :: rest =>
    match item with
    | truth _ | integer _ | number _ | text _ => do
      let first ← item.shown 0
      let more ← itemTexts rest
      return first :: more
    | _ => itemTexts rest

/-- A list of texts; a single text is a list of one. -/
def asTexts : Value → Except Fault (List Text)
  | text s => .ok [s]
  | list items => itemTexts items
  | bytes b => .ok (b.map fun byte => ofString (toString byte.toNat))
  | _ => .ok []

/-- The entries of a mapping. -/
def asMapping : Value → Value
  | mapping entries => mapping entries
  | _ => mapping []

end PerlAudit.Value
