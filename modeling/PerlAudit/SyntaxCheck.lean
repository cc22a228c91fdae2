import PerlAudit.Session

namespace PerlAudit.SyntaxCheck

open Text

structure Verdict where
  ok : Bool
  output : Text
  deriving DecidableEq, Repr

def Verdict.diagnostic (v : Verdict) : Option Text := if v.ok then none else some v.output

def command (perl : Text) (includes : List Text) (path : Text) : List Text :=
  perl :: includes.flatMap (fun directory => [ofString "-I", directory]) ++ [ofString "-c", path]

/-- A file compiles if the interpreter says so, whatever else it says and however it exits. -/
def verdict (path : Text) (answer : Command.Completion) : Verdict :=
  match answer.error with
  | some error => ⟨false, error⟩
  | none => ⟨occurs (path ++ ofString " syntax OK") answer.output, answer.output⟩

def check (perl : Text) (includes : List Text) (path : Text) : Audit Verdict := do
  let answer ← Audit.run (command perl includes path) { mergeErrors := true }
  return verdict path answer

end PerlAudit.SyntaxCheck
