import PerlAudit.Fault
import PerlAudit.Text.Blank
import PerlAudit.Text.Lines

/-!
Results as a TAP stream. Results are numbered from one; a plan says how many there will be, or at
the end how many there were. Remarks go to a stream of their own, behind a number sign.
-/

namespace PerlAudit.Tap

open Text

inductive Outcome where
  | pass
  | fail
  | skip
  deriving DecidableEq, Repr

/-- What a check found. -/
structure Result where
  outcome : Outcome
  label : Text
  diagnostic : Option Text
  deriving DecidableEq, Repr

namespace Result

def passed (label : Text) : Result := ⟨.pass, label, none⟩

def failed (label : Text) (diagnostic : Option Text) : Result := ⟨.fail, label, diagnostic⟩

def skipped (label : Text) (reason : Option Text) : Result := ⟨.skip, label, reason⟩

def isOk (r : Result) : Bool := r.outcome != .fail

/-- A diagnostic that says something. -/
def remark? (r : Result) : Option Text := given r.diagnostic

end Result

/-- A number of tests as it is declared. A truth value is a number too, but it is written as a
word. -/
inductive Tests where
  | number (n : Int)
  | truth (b : Bool)
  deriving DecidableEq, Repr

namespace Tests

def value : Tests → Int
  | number n => n
  | truth b => if b then 1 else 0

/-- How a number of tests is written, unless it has too many digits. -/
def shown : Tests → Except Fault Text
  | number n => integerText n
  | truth b => .ok (if b then "True" else "False")

end Tests

/-- A line of the result stream. A plan holds the number of tests as it is written. Results are
counted one by one, so their numbers never have too many digits. -/
inductive Line where
  | plan (shown : Text)
  | ok (number : Nat) (label : Text)
  | notOk (number : Nat) (label : Text)
  | skip (number : Nat) (reason : Option Text)
  deriving DecidableEq, Repr

def Line.text : Line → Text
  | plan shown => "1.." ++ shown
  | ok number label => "ok " ++ toString number ++ " - " ++ label
  | notOk number label => "not ok " ++ toString number ++ " - " ++ label
  | skip number none => "ok " ++ toString number ++ " # skip"
  | skip number (some reason) => "ok " ++ toString number ++ " # skip " ++ reason

/-- What a reporter says: a line of the result stream, or a line of the remark stream. -/
inductive Said where
  | line (line : Line)
  | remark (text : Text)
  deriving DecidableEq, Repr

/-- The lines of a remark, each behind a number sign and without blanks at its end. -/
def remarkLines (message : Text) : List Text :=
  let segments := segments (dropEndWhile (·.is '\n') message)
  let lines := if segments.isEmpty then [[]] else segments
  lines.map fun line => dropEndBlanks ("# " ++ line)

def remarks (message : Text) : List Said := (remarkLines message).map .remark

/-- The counts of a run. -/
structure Summary where
  planned : Option Tests
  run : Nat
  passed : Nat
  failed : Nat
  skipped : Nat
  deriving DecidableEq, Repr

/-- A run is good if nothing failed and it went as planned. -/
def Summary.isOk (s : Summary) : Bool :=
  s.failed == 0 && s.planned.all (·.value == (s.run : Int))

structure Reporter where
  planned : Option Tests
  noPlan : Bool
  count : Nat
  passed : Nat
  failed : Nat
  skipped : Nat
  finalized : Bool
  deriving DecidableEq, Repr

namespace Reporter

def fresh : Reporter := ⟨none, false, 0, 0, 0, 0, false⟩

def hasPlan (r : Reporter) : Bool := r.planned.isSome || r.noPlan

/-- Declares a plan. It is in force before its line is written, so one that cannot be written stays
in force without a line. -/
def plan (r : Reporter) (tests : Tests) : Reporter × Except Fault (List Said) :=
  if r.hasPlan then (r, .error (.plan .twice))
  else if r.count != 0 then (r, .error (.plan .late))
  else if tests.value < 0 then (r, do throw (.plan (.negative (← tests.shown))))
  else ({ r with planned := some tests }, do return [.line (.plan (← tests.shown))])

/-- Goes on without a plan unless there is one. -/
def ensurePlan (r : Reporter) : Reporter := if r.hasPlan then r else { r with noPlan := true }

def record (r : Reporter) (result : Result) : Reporter × List Said :=
  let number := r.count + 1
  match result.outcome with
  | .skip =>
    ({ r with count := number, skipped := r.skipped + 1 }, [.line (.skip number result.remark?)])
  | .pass =>
    ({ r with count := number, passed := r.passed + 1 }, [.line (.ok number result.label)])
  | .fail =>
    ({ r with count := number, failed := r.failed + 1 },
      .line (.notOk number result.label) :: remarks ("  Failed test '" ++ result.label ++ "'") ++
        (result.remark?.map remarks).getD [])

def summary (r : Reporter) : Summary := ⟨r.planned, r.count, r.passed, r.failed, r.skipped⟩

def isPassing (r : Reporter) : Bool := r.summary.isOk

/-- What is said of a run that did not go as planned. -/
def mismatch (r : Reporter) : Except Fault (List Text) :=
  match r.planned with
  | none => .ok []
  | some tests =>
    if tests.value = r.count then .ok []
    else do
      let shown ← tests.shown
      return ["Looks like you planned " ++ shown ++ " tests but ran " ++ toString r.count ++ "."]

/-- What is said at the end of a run that is not good. -/
def closingMessages (r : Reporter) : Except Fault (List Text) := do
  let mismatch ← r.mismatch
  let failures : Text :=
    "Looks like you failed " ++ toString r.failed ++ " test(s) of " ++ toString r.count ++ "."
  return mismatch ++ if r.failed = 0 then [] else [failures]

/-- What is said at the end: the plan if there was none, and how the run differs from a good one. -/
def closing (r : Reporter) : Except Fault (List Said) := do
  let plan := if r.planned.isNone && r.count != 0 then [.line (.plan (toString r.count))] else []
  let messages ← r.closingMessages
  return plan ++ messages.flatMap remarks

/-- Closes a run, once. It counts as closed even if the messages cannot be written. -/
def finalize (r : Reporter) : Reporter × Except Fault (List Said) :=
  if r.finalized then (r, .ok []) else ({ r with finalized := true }, r.closing)

end Reporter

end PerlAudit.Tap
