import PerlAudit.Proofs.Session.Ledger
import PerlAudit.Tools

/-!
Actions that do not look at the disk. Logging and asking tools are such: on every disk they answer
the same and have the log files gain the same.
-/

namespace PerlAudit

open Files (Disk Location)
open Text (Bytes)

namespace Session

/-- The same session, on another disk. -/
def onDisk (s : Session) (d : Disk) : Session := { s with host.disk := d }

section OnDisk

variable (s : Session) (d : Disk)

@[simp] theorem respond_onDisk : (s.onDisk d).host.respond = s.host.respond := rfl

@[simp] theorem standIn_onDisk : (s.onDisk d).host.standIn = s.host.standIn := rfl

@[simp] theorem requests_onDisk : (s.onDisk d).requests = s.requests := rfl

@[simp] theorem tools_onDisk : (s.onDisk d).tools = s.tools := rfl

end OnDisk

end Session

namespace Audit

open Session

variable {α β : Type} {s : Session}

/-- An action, which may be made from the disk it starts on, answers the same whatever that disk is.
On the disk it does no more than to have the log files gain certain bytes. -/
def Blind (x : Disk → Audit α) (s : Session) : Prop :=
  ∃ (a : α) (t : Session) (growth : List (Location × Bytes)), t.logFiles = s.logFiles ∧
    (∀ g ∈ growth, g.1 ∈ s.logFiles) ∧
    ∀ d, x d (s.onDisk d) = .ok a (t.onDisk (d.grown growth))

theorem Blind.bind {x : Disk → Audit α} {f : α → Audit β} (first : Blind x s)
    (second : ∀ a t, Blind (fun _ => f a) t) : Blind (fun d => x d >>= f) s := by
  obtain ⟨a, t, growth, logs, inside, answers⟩ := first
  obtain ⟨b, u, more, logsLater, insideLater, answersLater⟩ := second a t
  rw [logs] at logsLater insideLater
  refine ⟨b, u, growth ++ more, logsLater, List.forall_mem_append.mpr ⟨inside, insideLater⟩,
    fun d => ?_⟩
  refine (bind_eq (answers d)).trans ((answersLater _).trans ?_)
  rw [Disk.grown_append]

/-- An action that leaves the disk alone. -/
theorem blind_still {x : Disk → Audit α} {a : α} {t : Session} (logs : t.logFiles = s.logFiles)
    (answers : ∀ d, x d (s.onDisk d) = .ok a (t.onDisk d)) : Blind x s :=
  ⟨a, t, [], logs, List.forall_mem_nil _, answers⟩

theorem blind_pure (a : α) (s : Session) : Blind (fun _ => pure a) s :=
  blind_still rfl fun _ => rfl

theorem blind_get {f : Session → Audit β} (h : Blind (fun d => f (s.onDisk d)) s) :
    Blind (fun _ => get >>= f) s := h

theorem blind_tell (events : List Event) (s : Session) :
    Blind (fun d => set ((s.onDisk d).tell events)) s :=
  blind_still (t := s.tell events) rfl fun _ => rfl

/-- A change of the session that has nothing to do with its disk. -/
theorem blind_modify {f : Session → Session} (logs : (f s).logFiles = s.logFiles)
    (apart : ∀ d, f (s.onDisk d) = (f s).onDisk d) : Blind (fun _ => modify f) s :=
  blind_still logs fun d => congrArg (EStateM.Result.ok _) (apart d)

/-- Whatever becomes of a record, it does not depend on the disk. -/
theorem blind_debug (name message : Text) (s : Session) :
    Blind (fun _ => debug name message) s := by
  let r : Log.Record := ⟨Log.debug, "DEBUG", Log.loggerName (some name), message⟩
  refine ⟨⟨⟩, deliver s r, (audience s r).flatMap (·.growth s.host.stamp r),
    (deliver_ledger s r).logFiles, fun _ => mem_growth_audience, fun d => ?_⟩
  exact debug_eq name message (s.onDisk d)

theorem blind_runHere (program : Text) (words : List Text) (capture : Command.Capture)
    (s : Session) : Blind (fun _ => runHere (program :: words) capture) s := by
  refine (blind_debug _ _ s).bind fun _ t => blind_get ?_
  simp only [respond_onDisk, requests_onDisk]
  refine (blind_tell _ t).bind fun _ u => ?_
  split
  · exact (blind_debug _ _ u).bind fun _ v => blind_pure _ v
  · exact (blind_debug _ _ u).bind fun _ v => blind_pure _ v

theorem blind_run (program : Text) (words : List Text) (capture : Command.Capture) (s : Session) :
    Blind (fun _ => run (program :: words) capture) s := by
  refine blind_get ?_
  simp only [standIn_onDisk, requests_onDisk]
  split
  · exact blind_runHere program words capture s
  · exact (blind_tell _ s).bind fun _ t => blind_pure _ t

end Audit

theorem Tools.blind_version (perl : Text) (s : Session) :
    Audit.Blind (fun _ => Tools.version perl) s := by
  refine Audit.blind_get ?_
  simp only [Session.tools_onDisk]
  split
  · exact Audit.blind_pure _ s
  · refine (Audit.blind_run _ _ _ s).bind fun answer t => ?_
    refine (Audit.blind_debug _ _ t).bind fun _ u => ?_
    exact (Audit.blind_modify rfl fun _ => rfl).bind fun _ v => Audit.blind_pure _ v

end PerlAudit
