import PerlAudit.Main
import PerlAudit.Proofs.Source.Forms
import PerlAudit.Proofs.Source.VisibleCode
import PerlAudit.Proofs.Tap.Readback
import PerlAudit.Proofs.Session.Account
import PerlAudit.Proofs.Coverage.Protocol
import PerlAudit.Proofs.Checks.Single
import PerlAudit.Proofs.Checks.Sweep
import PerlAudit.Proofs.Cli.ExitStatus
import PerlAudit.Proofs.Settings.Threshold
import PerlAudit.Proofs.Coverage.TotalLine
import PerlAudit.Proofs.Checks.Refusal
import PerlAudit.Proofs.Files.Outline
import PerlAudit.Proofs.Cli.FailClosed
import PerlAudit.Proofs.Cli.Programs
import PerlAudit.Proofs.Source.DecidingLine
import PerlAudit.Proofs.Coverage.GateLabel
import PerlAudit.Proofs.Coverage.Table
import PerlAudit.Proofs.Locate.Listing
import PerlAudit.Proofs.Files.Growth
import PerlAudit.Proofs.Source.Insertion
import PerlAudit.Proofs.Checks.Opened
import PerlAudit.Proofs.Checks.LineEnds
import PerlAudit.Proofs.Source.ModuleName
import PerlAudit.Proofs.Tools.Recall
import PerlAudit.Proofs.Settings.Exclusion
import PerlAudit.Proofs.Files.Opening
import PerlAudit.Proofs.Tap.Remarks
import PerlAudit.Proofs.Log.Delivery
