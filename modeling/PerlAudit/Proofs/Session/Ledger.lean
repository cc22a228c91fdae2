import PerlAudit.Proofs.Log.Handling
import PerlAudit.Proofs.Session.Answer
import PerlAudit.Proofs.Tap.Transcript

/-!
The ledger of a run: which commands were started between two sessions, what was asked of the
reporter, and that nothing else can be seen from outside but log records. On the disk nothing
changes but log files. Ledgers of actions that follow each other add up.
-/

namespace PerlAudit

open Command (Request Capture Completion)
open Files (Disk Location)
open Tap (Operation Transcript)
open Text (Bytes)

namespace Event

def said? : Event → Option Tap.Said
  | said words => some words
  | _ => none

/-- Whether an event puts on standard output what the reporter did not say. -/
def isPrinted : Event → Bool
  | printed _ => true
  | _ => false

end Event

namespace Session

/-- The results that a journal reports. -/
def recordedBy (journal : List Event) : List Tap.Result :=
  journal.filterMap fun
    | .recorded result => some result
    | _ => none

/-- What a journal has the reporter say. -/
def saidBy (journal : List Event) : List Tap.Said := journal.filterMap Event.said?

theorem startedBy_append (early late : List Event) :
    startedBy (early ++ late) = startedBy early ++ startedBy late := List.filterMap_append

theorem recordedBy_append (early late : List Event) :
    recordedBy (early ++ late) = recordedBy early ++ recordedBy late := List.filterMap_append

theorem saidBy_append (early late : List Event) :
    saidBy (early ++ late) = saidBy early ++ saidBy late := List.filterMap_append

theorem saidBy_said (said : List Tap.Said) : saidBy (said.map .said) = said := by
  simp [saidBy, List.filterMap_map, Function.comp_def, Event.said?]

/-- The reporter and everything it has said. -/
def transcript (s : Session) : Transcript := ⟨s.reporter, saidBy s.journal⟩

/-- What happened between two sessions of one run. -/
structure Ledger (s t : Session) (commands : List Request) (ops : List Operation) : Prop where
  host : ∃ growth, (∀ g ∈ growth, g.1 ∈ s.logFiles) ∧
    t.host = { s.host with disk := s.host.disk.grown growth }
  sinks : t.sinks = s.sinks
  journal : ∃ events, t.journal = s.journal ++ events ∧ startedBy events = commands ∧
    recordedBy events = Tap.recorded ops ∧ ∀ e ∈ events, e.isPrinted = false
  transcript : t.transcript = ops.foldl Transcript.step s.transcript

namespace Ledger

variable {s t u : Session} {commands more : List Request} {ops others : List Operation}

theorem refl (s : Session) : Ledger s s [] [] where
  host := ⟨[], List.forall_mem_nil _, rfl⟩
  sinks := rfl
  journal := ⟨[], by simp, rfl, rfl, nofun⟩
  transcript := rfl

theorem logFiles (h : Ledger s t commands ops) : t.logFiles = s.logFiles := by
  obtain ⟨growth, -, host⟩ := h.host
  rw [Session.logFiles, Session.logFiles, h.sinks, host]

theorem trans (first : Ledger s t commands ops) (second : Ledger t u more others) :
    Ledger s u (commands ++ more) (ops ++ others) := by
  obtain ⟨growth, inside, host⟩ := first.host
  obtain ⟨more, insideLater, hostLater⟩ := second.host
  rw [first.logFiles] at insideLater
  obtain ⟨events, early, started, recorded, silent⟩ := first.journal
  obtain ⟨later, late, startedLater, recordedLater, silentLater⟩ := second.journal
  refine ⟨⟨growth ++ more, List.forall_mem_append.mpr ⟨inside, insideLater⟩, ?_⟩,
    second.sinks.trans first.sinks, ⟨events ++ later, ?_, ?_, ?_, ?_⟩, ?_⟩
  · rw [hostLater, host, Disk.grown_append]
  · rw [late, early, List.append_assoc]
  · rw [startedBy_append, started, startedLater]
  · rw [recordedBy_append, recorded, recordedLater, Tap.recorded_append]
  · exact List.forall_mem_append.mpr ⟨silent, silentLater⟩
  · rw [second.transcript, first.transcript, List.foldl_append]

/-- A session is the same from outside if it differs in what it knows about tools and loggers, or in
the sweep it remembers. -/
theorem unseen (h : Ledger s t commands ops) (host : u.host = t.host) (sinks : u.sinks = t.sinks)
    (journal : u.journal = t.journal) (reporter : u.reporter = t.reporter) :
    Ledger s u commands ops where
  host := host ▸ h.host
  sinks := sinks.trans h.sinks
  journal := journal ▸ h.journal
  transcript := by
    rw [← h.transcript, Session.transcript, Session.transcript, journal, reporter]

theorem respond (h : Ledger s t commands ops) : t.host.respond = s.host.respond := by
  obtain ⟨growth, -, host⟩ := h.host
  rw [host]

theorem standIn (h : Ledger s t commands ops) : t.host.standIn = s.host.standIn := by
  obtain ⟨growth, -, host⟩ := h.host
  rw [host]

theorem getVar? (h : Ledger s t commands ops) (name : Text) :
    t.host.getVar? name = s.host.getVar? name := by
  obtain ⟨growth, -, host⟩ := h.host
  rw [host]
  rfl

theorem requests (h : Ledger s t commands ops) : t.requests = s.requests ++ commands := by
  obtain ⟨events, journal, rfl, -⟩ := h.journal
  rw [Session.requests, journal, startedBy_append]
  rfl

theorem recorded (h : Ledger s t commands ops) :
    recordedBy t.journal = recordedBy s.journal ++ Tap.recorded ops := by
  obtain ⟨events, journal, -, recorded, -⟩ := h.journal
  rw [journal, recordedBy_append, recorded]

end Ledger

/-- Telling events that neither record nor print is a matter of the commands among them. -/
theorem ledger_tell (s : Session) {events : List Event} (recorded : recordedBy events = [])
    (said : saidBy events = []) (silent : ∀ e ∈ events, e.isPrinted = false) :
    Ledger s (s.tell events) (startedBy events) [] where
  host := (Ledger.refl s).host
  sinks := rfl
  journal := ⟨events, rfl, rfl, recorded, silent⟩
  transcript := by
    rw [List.foldl_nil, transcript, transcript, tell, saidBy_append, said, List.append_nil]

end Session

namespace Audit

open Session

variable {α β : Type} {s : Session} {commands more : List Request} {ops others : List Operation}

/-- Whatever becomes of a record, nothing is started, reported or said. -/
theorem deliver_ledger (s : Session) (r : Log.Record) : Ledger s (deliver s r) [] [] := by
  let events := (audience s r).flatMap (·.events s.host.stamp r)
  have logged : ∀ e ∈ events, ∃ text, e = .logged text := by
    intro e mem
    obtain ⟨h, -, told⟩ := List.mem_flatMap.mp mem
    exact h.mem_events _ r told
  have none_of {α : Type} {f : Event → Option α} (skips : ∀ text, f (.logged text) = none) :
      events.filterMap f = [] := by
    apply List.filterMap_eq_nil_iff.mpr
    intro e mem
    obtain ⟨text, rfl⟩ := logged e mem
    exact skips text
  have silent : ∀ e ∈ events, e.isPrinted = false := by
    intro e mem
    obtain ⟨text, rfl⟩ := logged e mem
    rfl
  have told := ledger_tell s (none_of fun _ => rfl) (none_of fun _ => rfl) silent
  rw [show startedBy events = [] from none_of fun _ => rfl] at told
  exact ⟨⟨_, fun _ => mem_growth_audience, rfl⟩, rfl, told.journal, told.transcript⟩

/-- An action answers, and this is its ledger. -/
def Writes (x : Audit α) (s : Session) (a : α) (commands : List Request) (ops : List Operation) :
    Prop :=
  ∃ t, x s = .ok a t ∧ Ledger s t commands ops

theorem bind_eq {x : Audit α} {f : α → Audit β} {a : α} {t : Session} (h : x s = .ok a t) :
    (x >>= f) s = f a t := by
  simp only [bind, EStateM.bind, h]

theorem bind_error {x : Audit α} {f : α → Audit β} {fault : Fault} {t : Session}
    (h : x s = .error fault t) : (x >>= f) s = .error fault t := by
  simp only [bind, EStateM.bind, h]

theorem bind_ok {x : Audit α} {f : α → Audit β} {b : β} {u : Session}
    (h : (x >>= f) s = .ok b u) : ∃ a t, x s = .ok a t ∧ f a t = .ok b u := by
  cases first : x s with
  | ok a t => exact ⟨a, t, rfl, (bind_eq first).symm.trans h⟩
  | error fault t => simp [Bind.bind, EStateM.bind, first] at h

/-- Ledgers of actions in sequence add up. -/
theorem Writes.bind {x : Audit α} {f : α → Audit β} {a : α} {b : β}
    (first : Writes x s a commands ops)
    (second : ∀ t, Ledger s t commands ops → Writes (f a) t b more others) :
    Writes (x >>= f) s b (commands ++ more) (ops ++ others) := by
  obtain ⟨t, answered, ledger⟩ := first
  obtain ⟨u, answered', ledger'⟩ := second t ledger
  exact ⟨u, (bind_eq answered).trans answered', ledger.trans ledger'⟩

theorem Writes.map {x : Audit α} {a : α} (h : Writes x s a commands ops) (f : α → β) :
    Writes (x >>= fun a => pure (f a)) s (f a) commands ops := by
  obtain ⟨t, answered, ledger⟩ := h
  exact ⟨t, bind_eq answered, ledger⟩

theorem writes_pure (a : α) (s : Session) : Writes (pure a) s a [] [] := ⟨s, rfl, .refl s⟩

/-- Looking at a session leaves it as it is. -/
theorem Writes.after {x : Audit α} {f : α → Audit β} {a : α} {b : β} (looked : x s = .ok a s)
    (h : Writes (f a) s b commands ops) : Writes (x >>= f) s b commands ops := by
  obtain ⟨t, answered, ledger⟩ := h
  exact ⟨t, (bind_eq looked).trans answered, ledger⟩

theorem writes_get {f : Session → Audit β} {b : β} (h : Writes (f s) s b commands ops) :
    Writes (get >>= f) s b commands ops := h

theorem debug_writes (name message : Text) (s : Session) : Writes (debug name message) s () [] [] :=
  ⟨_, debug_eq name message s, deliver_ledger s _⟩

theorem started_writes (request : Request) (s : Session) :
    Writes (set (s.tell [.started request])) s ⟨⟩ [request] [] :=
  ⟨_, rfl, ledger_tell s rfl rfl (by simp [Event.isPrinted])⟩

theorem ensurePlan_writes (s : Session) : Writes ensurePlan s () [] [.ensurePlan] :=
  ⟨_, rfl, (Ledger.refl s).host, rfl, (Ledger.refl s).journal, by
    simp [Session.transcript, Transcript.step, Tap.Reporter.perform]⟩

/-- A result is reported once, after going on without a plan unless there is one. -/
theorem emit_writes (result : Tap.Result) (s : Session) :
    Writes (emit result) s () [] [.ensurePlan, .record result] := by
  have told (said : List Tap.Said) : startedBy (said.map .said) = [] ∧
      recordedBy (said.map .said) = [] ∧ ∀ e ∈ said.map Event.said, e.isPrinted = false := by
    refine ⟨?_, ?_, ?_⟩
    · simp [startedBy, List.filterMap_map]
    · simp [recordedBy, List.filterMap_map]
    · simp [Event.isPrinted]
  obtain ⟨started, recorded, silent⟩ := told (s.reporter.ensurePlan.record result).2
  refine ⟨_, rfl, (Ledger.refl s).host, rfl, ⟨_, rfl, ?_, ?_, ?_⟩, ?_⟩
  · exact started
  · exact congrArg (result :: ·) recorded
  · exact List.forall_mem_cons.mpr ⟨rfl, silent⟩
  · simp only [Session.transcript, Session.tell, saidBy_append, List.foldl_cons, List.foldl_nil,
      Transcript.step, Tap.Reporter.perform, List.append_nil, Transcript.mk.injEq, true_and]
    exact congrArg (saidBy s.journal ++ ·) (saidBy_said _)

theorem runHere_writes (program : Text) (words : List Text) (capture : Capture) (s : Session) :
    let request := Command.request (program :: words) capture
    Writes (runHere (program :: words) capture) s
      (Command.complete (program :: words) program capture (s.host.respond s.requests request))
      [request] [] := by
  intro request
  have logged := debug_writes "process" ("Running " ++ Text.joinWith " " (program :: words)) s
  refine logged.bind fun t ledger => writes_get ?_
  have requests : t.requests = s.requests := by simpa using ledger.requests
  rw [← ledger.respond, ← requests]
  refine (started_writes request t).bind fun u _ => ?_
  generalize t.host.respond t.requests request = reply
  cases reply with
  | refused reason => exact (debug_writes _ _ u).bind fun v _ => writes_pure _ v
  | finished output errors status => exact (debug_writes _ _ u).bind fun v _ => writes_pure _ v

/-- A command is started once, and answered by what was started before it. -/
theorem run_writes (c : Command.Call) (named : c.argv ≠ []) (s : Session) :
    Writes (run c.argv c.capture) s (s.host.answer s.requests c) [c.request] [] := by
  obtain ⟨argv, capture⟩ := c
  obtain ⟨program, words, rfl⟩ := List.exists_cons_of_ne_nil named
  refine writes_get ?_
  unfold Host.answer
  cases s.host.standIn with
  | none => exact runHere_writes program words capture s
  | some answer => exact (started_writes _ s).bind fun t _ => writes_pure _ t

end Audit

end PerlAudit
