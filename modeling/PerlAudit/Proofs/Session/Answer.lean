import PerlAudit.Session

namespace PerlAudit

open Command (Request Capture Completion)

/-- A command and what it is wanted for. -/
structure Command.Call where
  argv : List Text
  capture : Capture
  deriving DecidableEq, Repr

def Command.Call.request (c : Command.Call) : Request := Command.request c.argv c.capture

namespace Host

/-- A machine that is a disk and answers to commands, and has no more than that. -/
def plain (disk : Files.Disk) (respond : Command.Respond) : Host :=
  { disk
    environment := []
    homes := []
    script := []
    respond
    stamp := ""
    readDocument := fun _ => .error .malformed
    showDepth := 0 }

/-- How a command is answered after others, by the machine or in its place. -/
def answer (h : Host) (before : List Request) (c : Command.Call) : Completion :=
  match h.standIn with
  | some answer => answer before c.argv c.capture
  | none => Command.complete c.argv (c.argv.headD []) c.capture (h.respond before c.request)

/-- How commands are answered one after the other. -/
def answers (h : Host) (before : List Request) : List Command.Call → List Completion
  | [] => []
  | c :: rest => h.answer before c :: h.answers (before ++ [c.request]) rest

/-- A command that is answered with an error has no status, and only such a command. -/
def Candid (h : Host) : Prop :=
  ∀ standIn, h.standIn = some standIn → ∀ before argv capture,
    (standIn before argv capture).error.isSome = (standIn before argv capture).status.isNone

/-- A machine is candid by itself. -/
theorem Candid.answer {h : Host} (candid : h.Candid) (before : List Request) (c : Command.Call) :
    (h.answer before c).error.isSome = (h.answer before c).status.isNone := by
  unfold Host.answer
  cases found : h.standIn with
  | some standIn => exact candid standIn found before c.argv c.capture
  | none => cases h.respond before c.request <;> rfl

theorem answers_length (h : Host) (before : List Request) (calls : List Command.Call) :
    (h.answers before calls).length = calls.length := by
  induction calls generalizing before with
  | nil => rfl
  | cons c rest ih => simp [answers, ih]

/-- A good answer of a candid host is one with status zero. -/
theorem Candid.isOk {h : Host} (candid : h.Candid) (before : List Request) (c : Command.Call) :
    (h.answer before c).isOk = ((h.answer before c).status == some 0) := by
  have error := candid.answer before c
  unfold Completion.isOk
  cases status : (h.answer before c).status with
  | none => simp
  | some status => simp_all

theorem Candid.answers {h : Host} (candid : h.Candid) (before : List Request)
    (calls : List Command.Call) :
    ∀ a ∈ h.answers before calls, a.isOk = (a.status == some 0) := by
  induction calls generalizing before with
  | nil => simp [Host.answers]
  | cons c rest ih =>
    intro a member
    obtain rfl | later := List.mem_cons.mp member
    · exact candid.isOk before c
    · exact ih _ a later

end Host

end PerlAudit
