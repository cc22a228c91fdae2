import PerlAudit.Proofs.Session.Ledger

/-!
What an action does to a session, seen from outside: the commands it starts and the results it
reports, in order. What it logs does not count. Accounts of actions that follow each other add up.
-/

namespace PerlAudit

open Command (Request Capture Completion)

namespace Session

/-- What happened between two sessions of one run. Commands are answered as before. -/
structure Account (s t : Session) (commands : List Request) (results : List Tap.Result) : Prop where
  respond : t.host.respond = s.host.respond
  standIn : t.host.standIn = s.host.standIn
  journal : ∃ events, t.journal = s.journal ++ events ∧ startedBy events = commands ∧
    recordedBy events = results

namespace Account

variable {s t u : Session} {commands more : List Request} {results others : List Tap.Result}

theorem refl (s : Session) : Account s s [] [] := ⟨rfl, rfl, [], by simp, rfl, rfl⟩

theorem trans (first : Account s t commands results) (second : Account t u more others) :
    Account s u (commands ++ more) (results ++ others) := by
  obtain ⟨events, early, started, recorded⟩ := first.journal
  obtain ⟨later, late, startedLater, recordedLater⟩ := second.journal
  refine ⟨second.respond.trans first.respond, second.standIn.trans first.standIn,
    events ++ later, ?_, ?_, ?_⟩
  · rw [late, early, List.append_assoc]
  · rw [startedBy_append, started, startedLater]
  · rw [recordedBy_append, recorded, recordedLater]

theorem answer (h : Account s t commands results) : t.host.answer = s.host.answer := by
  funext before c
  rw [Host.answer, Host.answer, h.standIn, h.respond]

theorem answers (h : Account s t commands results) (before : List Request)
    (calls : List Command.Call) : t.host.answers before calls = s.host.answers before calls := by
  induction calls generalizing before with
  | nil => rfl
  | cons c rest ih => rw [Host.answers, Host.answers, h.answer, ih]

theorem requests (h : Account s t commands results) : t.requests = s.requests ++ commands := by
  obtain ⟨events, journal, rfl, -⟩ := h.journal
  rw [Session.requests, journal, startedBy_append]
  rfl

end Account

/-- An account is what a ledger says of commands and results. -/
theorem Ledger.account {s t : Session} {commands : List Request} {ops : List Tap.Operation}
    (h : Ledger s t commands ops) : Account s t commands (Tap.recorded ops) := by
  obtain ⟨events, journal, started, recorded, -⟩ := h.journal
  exact ⟨h.respond, h.standIn, events, journal, started, recorded⟩

end Session

namespace Audit

open Session

variable {α β : Type} {s : Session} {commands more : List Request}
  {results others : List Tap.Result}

/-- An action answers, and this is its account. -/
def Does (x : Audit α) (s : Session) (a : α) (commands : List Request)
    (results : List Tap.Result) : Prop :=
  ∃ t, x s = .ok a t ∧ Account s t commands results

/-- An action faults, and this is its account. -/
def Faults (x : Audit α) (s : Session) (fault : Fault) (commands : List Request)
    (results : List Tap.Result) : Prop :=
  ∃ t, x s = .error fault t ∧ Account s t commands results

theorem Writes.does {x : Audit α} {a : α} {ops : List Tap.Operation}
    (h : Writes x s a commands ops) : Does x s a commands (Tap.recorded ops) := by
  obtain ⟨t, answered, ledger⟩ := h
  exact ⟨t, answered, ledger.account⟩

/-- Accounts of actions in sequence add up. -/
theorem Does.bind {x : Audit α} {f : α → Audit β} {a : α} {b : β}
    (first : Does x s a commands results)
    (second : ∀ t, Account s t commands results → Does (f a) t b more others) :
    Does (x >>= f) s b (commands ++ more) (results ++ others) := by
  obtain ⟨t, answered, account⟩ := first
  obtain ⟨u, answered', account'⟩ := second t account
  exact ⟨u, (bind_eq answered).trans answered', account.trans account'⟩

theorem Does.bind_faults {x : Audit α} {f : α → Audit β} {a : α} {fault : Fault}
    (first : Does x s a commands results)
    (second : ∀ t, Account s t commands results → Faults (f a) t fault more others) :
    Faults (x >>= f) s fault (commands ++ more) (results ++ others) := by
  obtain ⟨t, answered, account⟩ := first
  obtain ⟨u, faulted, account'⟩ := second t account
  exact ⟨u, (bind_eq answered).trans faulted, account.trans account'⟩

theorem Faults.bind {x : Audit α} {fault : Fault} (h : Faults x s fault commands results)
    (f : α → Audit β) : Faults (x >>= f) s fault commands results := by
  obtain ⟨t, faulted, account⟩ := h
  exact ⟨t, bind_error faulted, account⟩

theorem Does.map {x : Audit α} {a : α} (h : Does x s a commands results) (f : α → β) :
    Does (x >>= fun a => pure (f a)) s (f a) commands results := by
  obtain ⟨t, answered, account⟩ := h
  exact ⟨t, bind_eq answered, account⟩

theorem does_pure (a : α) (s : Session) : Does (pure a) s a [] [] := ⟨s, rfl, .refl s⟩

theorem debug_does (name message : Text) (s : Session) : Does (debug name message) s () [] [] :=
  (debug_writes name message s).does

theorem emit_does (result : Tap.Result) (s : Session) : Does (emit result) s () [] [result] :=
  (emit_writes result s).does

theorem lift_does (a : α) (s : Session) : Does (lift (.ok a)) s a [] [] := does_pure a s

theorem lift_faults (fault : Fault) (s : Session) :
    Faults (lift (.error fault) : Audit α) s fault [] [] := ⟨s, rfl, .refl s⟩

theorem run_does (c : Command.Call) (named : c.argv ≠ []) (s : Session) :
    Does (run c.argv c.capture) s (s.host.answer s.requests c) [c.request] [] :=
  (run_writes c named s).does

end Audit

end PerlAudit
