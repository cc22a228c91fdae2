import PerlAudit.Fault
import PerlAudit.Number.Decimal

namespace PerlAudit

open Text Number

inductive Value where
  | null
  | truth (b : Bool)
  | integer (n : Int)
  | number (x : Binary64)
  | text (s : Text)
  | bytes (b : Bytes)
  /-- A date or a point in time, of which nothing more is asked. -/
  | moment
  | list (items : List Value)
  | mapping (entries : List (Value × Value))
  /-- A collection without order. -/
  | unordered
  deriving Inhabited, Repr

namespace Value

def typeName : Value → String
  | null => "NoneType"
  | truth _ => "bool"
  | integer _ => "int"
  | number _ => "float"
  | text _ => "str"
  | bytes _ => "bytes"
  | moment => "datetime"
  | list _ => "list"
  | mapping _ => "dict"
  | unordered => "set"

/-- The value of a text key; of equal keys the last counts. -/
def get? (key : Text) : Value → Option Value
  | mapping entries =>
    (entries.reverse.find? fun
      | (text other, _) => other == key
      | _ => false).map (·.2)
  | _ => none

/-- The number a value stands for. -/
def toNumber : Value → Except Fault Binary64
  | truth b => .ok (.ofDecimal false (if b then 1 else 0) 0)
  | integer n => (Binary64.ofInt? n).elim (.error .integerTooLarge) .ok
  | number x => .ok x
  | text s =>
    match Binary64.parse? s.chars with
    | some x => .ok x
    | none => .error (.number s)
  | v => .error (.notNumber v.typeName)

mutual

/-- How a value is shown inside a collection, if at most `depth` collections lie in one another. -/
def inner : (depth : Nat) → Value → Except Fault Text
  | _, null => .ok "None"
  | _, truth b => .ok (if b then "True" else "False")
  | _, integer n => integerText n
  | _, number x => .ok x.shortest
  | _, text s => .ok (quoted s)
  | _, bytes _ => .ok "b''"
  | _, moment => .ok ""
  | _, unordered => .ok "set()"
  | 0, list _ => .error .tooDeepToShow
  | 0, mapping _ => .error .tooDeepToShow
  | depth + 1, list items => do
    let shown ← innerItems depth items
    return "[" ++ joinWith ", " shown ++ "]"
  | depth + 1, mapping entries => do
    let shown ← innerEntries depth entries
    return "\x7b" ++ joinWith ", " shown ++ "\x7d"

def innerItems : (depth : Nat) → List Value → Except Fault (List Text)
  | _, [] => .ok []
  | depth, v :: rest => do
    let shown ← v.inner depth
    let more ← innerItems depth rest
    return shown :: more

def innerEntries : (depth : Nat) → List (Value × Value) → Except Fault (List Text)
  | _, [] => .ok []
  | depth, (key, v) :: rest => do
    let name ← key.inner depth
    let shown ← v.inner depth
    let more ← innerEntries depth rest
    return (name ++ ": " ++ shown) :: more

end

/-- How a value is shown by itself: a text is not quoted. -/
def shown (depth : Nat) : Value → Except Fault Text
  | text s => .ok s
  | v => v.inner depth

end Value

end PerlAudit
