import PerlAudit.Coverage.Threshold

namespace PerlAudit.Coverage

open Number

/-- What became of one script under the coverage tool. -/
structure Measured where
  path : Text
  status : Option Int
  output : Text
  deriving DecidableEq, Repr

def Measured.isOk (m : Measured) : Bool := m.status == some 0

/-- A sweep over scripts and what the tool reported. -/
structure Run where
  threshold : Threshold
  targets : List Text
  files : List Measured
  report : Text
  total : Option Binary64
  deriving DecidableEq, Repr

namespace Run

def start (threshold : Threshold) (targets : List Text) : Run := ⟨threshold, targets, [], [], none⟩

/-- Whether the total reaches the threshold. -/
def passed (r : Run) : Bool := r.total.any fun total => r.threshold.isReachedBy total

end Run

end PerlAudit.Coverage
