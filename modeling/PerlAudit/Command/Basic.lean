import PerlAudit.Files.Errno
import PerlAudit.Text.Lines
import PerlAudit.Text.Quoted
import PerlAudit.Text.Utf8

namespace PerlAudit.Command

open Text Files

/-- Where a stream of a program goes. -/
inductive Sink where
  | captured
  | withOutput
  | discarded
  deriving DecidableEq, Repr

/-- Which of its streams a command is wanted for. -/
structure Capture where
  mergeErrors : Bool := false
  discardOutput : Bool := false
  discardErrors : Bool := false
  deriving DecidableEq, Repr

structure Request where
  argv : List Text
  output : Sink
  errors : Sink
  deriving DecidableEq, Repr

/-- Discarded output cannot take the errors in, so then they are captured. -/
def request (argv : List Text) (capture : Capture) : Request :=
  { argv
    output := if capture.discardOutput then .discarded else .captured
    errors :=
      if capture.mergeErrors && !capture.discardOutput then .withOutput
      else if capture.discardErrors then .discarded
      else .captured }

/-- A program cannot be started, or it writes and ends. -/
inductive Reply where
  | refused (reason : Errno)
  | finished (output errors : Bytes) (status : Int)
  deriving DecidableEq, Repr

/-- How a machine answers: by the requests before, and the request. -/
abbrev Respond := List Request → Request → Reply

/-- Captured bytes as text. -/
def captured (bytes : Bytes) : Text := ofChars (unifyNewlines (decode bytes))

structure Completion where
  argv : List Text
  status : Option Int
  output : Text
  error : Option Text
  deriving DecidableEq, Repr

def Completion.isOk (c : Completion) : Bool := c.error.isNone && c.status == some 0

/-- How commands are answered where no machine runs them: by the requests before, the words of the
command and what it is wanted for. -/
abbrev StandIn := List Request → List Text → Capture → Completion

/-- The text of the streams that were wanted, the output before the errors. -/
def wantedText (capture : Capture) (output errors : Bytes) : Text :=
  if capture.discardOutput then
    if capture.discardErrors then [] else captured errors
  else if capture.mergeErrors then captured (output ++ errors)
  else if capture.discardErrors then captured output
  else captured output ++ captured errors

/-- Why `program` was not started. -/
def refusalText (program : Text) (reason : Errno) : Text :=
  "[Errno " ++ toString reason.code ++ "] " ++ reason.text ++ ": " ++ quoted program

def complete (argv : List Text) (program : Text) (capture : Capture) : Reply → Completion
  | .refused reason =>
    ⟨argv, none, [], some ("Unable to run '" ++ program ++ "': " ++ refusalText program reason)⟩
  | .finished output errors status => ⟨argv, some status, wantedText capture output errors, none⟩

end PerlAudit.Command
