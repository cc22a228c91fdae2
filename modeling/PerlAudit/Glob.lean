import PerlAudit.Text.Basic

/-!
File name patterns. A star stands for any run of code points, a question mark for any one, and a
bracket set for one of its members; a set opened by `!` stands for one code point outside it. A
bracket that is never closed stands for itself.
-/

namespace PerlAudit.Glob

/-- A member of a set: one code point, or all from one to another. -/
inductive Member where
  | single (c : CodePoint)
  | span (first last : CodePoint)
  deriving DecidableEq, Repr

namespace Member

def isEmpty : Member → Bool
  | single _ => false
  | span first last => last.code < first.code

def contains (c : CodePoint) : Member → Bool
  | single d => c == d
  | span first last => first.code ≤ c.code && c.code ≤ last.code

end Member

inductive Item where
  | point (c : CodePoint)
  | anyPoint
  | anyRun
  | set (negated : Bool) (members : List Member)
  deriving DecidableEq, Repr

/-- The members of a set. A hyphen joins its two neighbours unless it is the first or the last. -/
def allMembers : Text → List Member
  | [] => []
  | first :: .char '-' :: last :: rest => .span first last :: allMembers rest
  | c :: rest => .single c :: allMembers rest

def members (body : Text) : List Member := (allMembers body).filter (!·.isEmpty)

/-- A set opened by `!` is negated, also when only empty spans stand before the `!`. If a span
begins with that `!`, its hyphen and its end remain as members. -/
def setItem : Text → Item
  | .char '!' :: rest => .set true (members rest)
  | body =>
    match members body with
    | .single (.char '!') :: more => .set true more
    | .span (.char '!') last :: more => .set true (.single '-' :: .single last :: more)
    | all => .set false all

/-- Splits off what opens a set: a `!`, and a closing bracket that comes too early to close it. -/
def opening : Text → Text × Text
  | .char '!' :: .char ']' :: rest => (['!', ']'], rest)
  | .char '!' :: rest => (['!'], rest)
  | .char ']' :: rest => ([']'], rest)
  | rest => ([], rest)

theorem opening_length (s : Text) : (opening s).2.length ≤ s.length := by
  unfold opening
  split <;> simp only [List.length_cons] <;> omega

/-- Splits the body of a set from what follows its closing bracket. -/
def setBody? (s : Text) : Option (Text × Text) :=
  match (opening s).2.dropWhile (!·.is ']') with
  | [] => none
  | _ :: after => some ((opening s).1 ++ (opening s).2.takeWhile (!·.is ']'), after)

theorem setBody?_length {s body rest : Text} (h : setBody? s = some (body, rest)) :
    rest.length < s.length := by
  unfold setBody? at h
  split at h
  · contradiction
  · rename_i after heq
    simp only [Option.some.injEq, Prod.mk.injEq] at h
    have shorter := (List.dropWhile_sublist (!·.is ']') (l := (opening s).2)).length_le
    rw [heq, h.2, List.length_cons] at shorter
    exact Nat.lt_of_lt_of_le shorter (opening_length s)

def items : Text → List Item
  | [] => []
  | .char '*' :: rest => .anyRun :: items rest
  | .char '?' :: rest => .anyPoint :: items rest
  | .char '[' :: rest =>
    match _h : setBody? rest with
    | some (body, after) => setItem body :: items after
    | none => .point '[' :: items rest
  | c :: rest => .point c :: items rest
termination_by s => s.length
decreasing_by
  all_goals first
    | exact Nat.lt_succ_self _
    | exact Nat.lt_succ_of_lt (setBody?_length ‹_›)

def Item.accepts (c : CodePoint) : Item → Bool
  | .point d => c == d
  | .anyPoint => true
  | .anyRun => false
  | .set negated members => members.any (·.contains c) != negated

/-- A text and all that is left of it after some of its code points, the longest first. -/
def suffixes : Text → List Text
  | [] => [[]]
  | c :: rest => (c :: rest) :: suffixes rest

/-- What may be left of a text after one more item. `left` holds what may be left before it, the
longest first. -/
def advance (left : List Text) : Item → List Text
  | .anyRun =>
    match left with
    | [] => []
    | longest :: _ => suffixes longest
  | item =>
    left.filterMap fun
      | [] => none
      | c :: rest => if item.accepts c then some rest else none

/-- Whether the items match the whole text. -/
def accepts (items : List Item) (s : Text) : Bool := (items.foldl advance [s]).contains []

def test (pattern text : Text) : Bool := accepts (items pattern) text

end PerlAudit.Glob
