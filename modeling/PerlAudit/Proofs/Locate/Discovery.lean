import PerlAudit.Locate
import PerlAudit.Proofs.Files.Naming
import PerlAudit.Proofs.Session.Ledger


namespace PerlAudit

open Audit Files
open Text (Bytes nameFlaw?)

theorem Files.Disk.grown_cwd (d : Disk) (growth : List (Location × Bytes)) :
    (d.grown growth).cwd = d.cwd := by
  apply grown_induct
  intro d place bytes
  unfold append
  split <;> rfl

namespace Session

/-- Everything on the disk has a name, and so have the working directory and the log files. -/
structure WellNamed (s : Session) : Prop where
  tree : s.host.disk.top.WellNamed
  cwd : nameFlaw? s.host.disk.cwd = none
  logs : ∀ place ∈ s.logFiles, ∀ name ∈ place, nameFlaw? name = none

variable {s t : Session} {commands : List Command.Request} {ops : List Tap.Operation}

theorem Ledger.cwd (h : Ledger s t commands ops) : t.host.disk.cwd = s.host.disk.cwd := by
  obtain ⟨growth, -, host⟩ := h.host
  rw [host]
  exact Disk.grown_cwd _ growth

end Session

namespace Locate

open Session Source

theorem logSkipped_writes (skipped : List (Text × Errno)) (s : Session) :
    Writes (logSkipped skipped) s () [] [] := by
  induction skipped generalizing s with
  | nil => exact writes_pure () s
  | cons entry rest ih => exact (debug_writes _ _ s).bind fun t _ => ih t

end Locate

end PerlAudit
