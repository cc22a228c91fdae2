import PerlAudit.Proofs.Session.Ledger

/-!
What an action can tell apart. Sessions are alike if they differ at most in what has been reported.
An action that asks the reporter nothing then answers alike in both and reports the same results, so
results that were reported earlier have no influence on it.
-/

namespace PerlAudit

open Command (Request Capture Completion)

namespace Session

/-- Two sessions are the same but for the reporter, what was reported and the last sweep. -/
structure Alike (s t : Session) : Prop where
  host : t.host = s.host
  sinks : t.sinks = s.sinks
  loggers : t.loggers = s.loggers
  tools : t.tools = s.tools
  requests : t.requests = s.requests

namespace Alike

variable {s t : Session}

theorem tell (h : Alike s t) (events : List Event) : Alike (s.tell events) (t.tell events) where
  host := h.host
  sinks := h.sinks
  loggers := h.loggers
  tools := h.tools
  requests := by
    have started (u : Session) : (u.tell events).requests = u.requests ++ startedBy events :=
      startedBy_append u.journal events
    rw [started, started, h.requests]

end Alike

end Session

namespace Audit

open Session

variable {α β : Type} {s t : Session}

theorem deliver_alike (h : Alike s t) (r : Log.Record) : Alike (deliver s r) (deliver t r) := by
  have heard : audience t r = audience s r := by
    unfold audience consider handlersFor
    rw [h.loggers, h.sinks, h.host]
  have told := h.tell ((audience s r).flatMap (·.events s.host.stamp r))
  unfold deliver
  rw [heard, h.host]
  refine ⟨rfl, h.sinks, ?_, h.tools, told.requests⟩
  unfold consider
  rw [h.loggers, h.sinks]

/-- Where one action answers in one session, the other answers alike in the other session, reports
the same results and leaves the sessions alike. -/
def Agree (x y : Audit α) (s t : Session) : Prop :=
  ∀ a u, x s = .ok a u → ∃ v results, y t = .ok a v ∧ Alike u v ∧
    recordedBy u.journal = recordedBy s.journal ++ results ∧
    recordedBy v.journal = recordedBy t.journal ++ results

theorem Agree.bind {x y : Audit α} {f g : α → Audit β} (first : Agree x y s t)
    (second : ∀ a u v, Alike u v → Agree (f a) (g a) u v) : Agree (x >>= f) (y >>= g) s t := by
  intro b u answered
  obtain ⟨a, s', answered, later⟩ := bind_ok answered
  obtain ⟨t', results, answers, alike, recorded, records⟩ := first a s' answered
  obtain ⟨v, more, answersLater, alike, recordedLater, recordsLater⟩ :=
    second a s' t' alike b u later
  refine ⟨v, results ++ more, (bind_eq answers).trans answersLater, alike, ?_, ?_⟩
  · rw [recordedLater, recorded, List.append_assoc]
  · rw [recordsLater, records, List.append_assoc]

/-- Actions that record nothing agree if they answer alike and leave the sessions alike. -/
theorem Agree.quiet {x y : Audit α} {a : α} {u v : Session} (answered : x s = .ok a u)
    (answers : y t = .ok a v) (alike : Alike u v)
    (recorded : recordedBy u.journal = recordedBy s.journal)
    (records : recordedBy v.journal = recordedBy t.journal) : Agree x y s t := by
  intro b w same
  rw [answered] at same
  cases same
  exact ⟨v, [], answers, alike, by rw [recorded, List.append_nil], by rw [records, List.append_nil]⟩

/-- Looking at what alike sessions have in common. -/
theorem agree_look {x y : Audit α} {a : α} (h : Alike s t) (looked : x s = .ok a s)
    (looks : y t = .ok a t) : Agree x y s t := .quiet looked looks h rfl rfl

theorem agree_pure (a : α) (h : Alike s t) : Agree (pure a) (pure a) s t := agree_look h rfl rfl

theorem agree_get {f g : Session → Audit β} (h : Agree (f s) (g t) s t) :
    Agree (get >>= f) (get >>= g) s t := h

theorem agree_disk (h : Alike s t) : Agree disk disk s t :=
  agree_look h rfl (congrArg (fun host : Host => EStateM.Result.ok host.disk t) h.host)

theorem agree_getVar? (name : Text) (h : Alike s t) : Agree (getVar? name) (getVar? name) s t :=
  agree_look h rfl (congrArg (fun host : Host => EStateM.Result.ok (host.getVar? name) t) h.host)

/-- What is known about tools is common to alike sessions. -/
theorem agree_tools (f : Tools → Tools) (h : Alike s t) :
    Agree (modify fun s => { s with tools := f s.tools })
      (modify fun s => { s with tools := f s.tools }) s t :=
  .quiet rfl rfl ⟨h.host, h.sinks, h.loggers, congrArg f h.tools, h.requests⟩ rfl rfl

theorem agree_throw (fault : Fault) : Agree (throw fault : Audit α) (throw fault) s t := by
  intro a u answered
  have faulted : (throw fault : Audit α) s = .error fault s := rfl
  rw [faulted] at answered
  cases answered

theorem agree_lift (answer : Except Fault α) (h : Alike s t) :
    Agree (lift answer) (lift answer) s t := by
  cases answer with
  | ok a => exact agree_pure a h
  | error fault => exact agree_throw fault

theorem agree_debug (name message : Text) (h : Alike s t) :
    Agree (debug name message) (debug name message) s t := by
  have quiet (u : Session) (r : Log.Record) :
      recordedBy (deliver u r).journal = recordedBy u.journal :=
    (deliver_ledger u r).recorded.trans (List.append_nil _)
  exact .quiet (debug_eq name message s) (debug_eq name message t) (deliver_alike h _) (quiet s _)
    (quiet t _)

theorem agree_emit (result : Tap.Result) (h : Alike s t) :
    Agree (emit result) (emit result) s t := by
  have started (u : Session) (said : List Tap.Said) :
      startedBy (u.journal ++ .recorded result :: said.map .said) = u.requests := by
    simp [startedBy, Session.requests, List.filterMap_map]
  have reported (u : Session) (said : List Tap.Said) :
      recordedBy (u.journal ++ .recorded result :: said.map .said) =
        recordedBy u.journal ++ [result] := by
    simp [recordedBy, List.filterMap_map]
  intro a u answered
  cases answered
  exact ⟨_, [result], rfl,
    ⟨h.host, h.sinks, h.loggers, h.tools,
      (started t _).trans (h.requests.trans (started s _).symm)⟩, reported s _, reported t _⟩

theorem agree_tell (events : List Event) (h : Alike s t) (silent : recordedBy events = []) :
    Agree (set (s.tell events)) (set (t.tell events)) s t := by
  have quiet (u : Session) : recordedBy (u.tell events).journal = recordedBy u.journal := by
    simp [Session.tell, recordedBy_append, silent]
  exact .quiet rfl rfl (h.tell events) (quiet s) (quiet t)

theorem agree_runHere (argv : List Text) (capture : Capture) (h : Alike s t) :
    Agree (runHere argv capture) (runHere argv capture) s t := by
  refine (agree_debug _ _ h).bind fun _ u v h => ?_
  cases argv with
  | nil => exact agree_throw .emptyCommand
  | cons program words =>
    refine agree_get ?_
    dsimp only
    rw [h.host, h.requests]
    refine (agree_tell _ h rfl).bind fun _ u v h => ?_
    split
    · exact (agree_debug _ _ h).bind fun _ _ _ h => agree_pure _ h
    · exact (agree_debug _ _ h).bind fun _ _ _ h => agree_pure _ h

theorem agree_run (argv : List Text) (capture : Capture) (h : Alike s t) :
    Agree (run argv capture) (run argv capture) s t := by
  refine agree_get ?_
  rw [h.host, h.requests]
  split
  · exact agree_runHere argv capture h
  · exact (agree_tell _ h rfl).bind fun _ _ _ h => agree_pure _ h

end Audit

end PerlAudit
