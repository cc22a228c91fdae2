import PerlAudit.Session

/-!
What becomes of one record, said once: the logger's decision is kept, certain handlers are its
audience, the console is told and log files grow. Everything else about records is read off this.
-/

namespace PerlAudit

open Files (Disk Location)
open Text (Bytes)

namespace Files.Disk

/-- A disk on which files have gained some bytes, in that order. -/
def grown (d : Disk) (growth : List (Location × Bytes)) : Disk :=
  growth.foldl (fun d (place, bytes) => d.append place bytes) d

theorem grown_nil (d : Disk) : d.grown [] = d := rfl

theorem grown_cons (d : Disk) (place : Location) (bytes : Bytes) (rest : List (Location × Bytes)) :
    d.grown ((place, bytes) :: rest) = (d.append place bytes).grown rest := rfl

theorem grown_append (d : Disk) (early late : List (Location × Bytes)) :
    d.grown (early ++ late) = (d.grown early).grown late := List.foldl_append

/-- What growing does not change need only be unchanged by adding to one file. -/
theorem grown_induct {α : Type} {f : Disk → α}
    (kept : ∀ d place bytes, f (d.append place bytes) = f d) (d : Disk)
    (growth : List (Location × Bytes)) : f (d.grown growth) = f d := by
  induction growth generalizing d with
  | nil => rfl
  | cons g rest ih => exact (ih _).trans (kept d g.1 g.2)

end Files.Disk

namespace Log.Handler

variable (h : Handler) (stamp : String) (r : Record)

/-- What a handler puts on the console. -/
def events : List Event :=
  if r.level < h.level then []
  else
    match h.stream with
    | .console => [.logged (h.form.text stamp r)]
    | .file _ => []

/-- What a handler adds to its log file. -/
def growth : List (Location × Bytes) :=
  let text := h.form.text stamp r
  if r.level < h.level then []
  else
    match h.stream with
    | .console => []
    | .file place => if text.any (·.isHalf) then [] else [(place, Text.encode text.chars)]

theorem mem_events {e : Event} (mem : e ∈ h.events stamp r) : ∃ text, e = .logged text := by
  obtain ⟨level, form, stream⟩ := h
  unfold events at mem
  split at mem
  · cases mem
  · cases stream with
    | console => exact ⟨_, List.mem_singleton.mp mem⟩
    | file place => cases mem

theorem mem_growth {g : Location × Bytes} (mem : g ∈ h.growth stamp r) : h.place? = some g.1 := by
  obtain ⟨level, form, stream⟩ := h
  unfold growth at mem
  dsimp only at mem
  split at mem
  · cases mem
  · cases stream with
    | console => cases mem
    | file place =>
      dsimp only at mem
      split at mem
      · cases mem
      · cases List.mem_singleton.mp mem
        rfl

end Log.Handler

namespace Session

/-- The log files that records may come to. -/
def logFiles (s : Session) : List Location :=
  (s.sinks.handlers ++ s.host.listeners).filterMap Log.Handler.place?

end Session

namespace Audit

open Session

variable {s : Session}

theorem handle_eq (r : Log.Record) (s : Session) (h : Log.Handler) :
    handle r s h = { s.tell (h.events s.host.stamp r) with
      host.disk := s.host.disk.grown (h.growth s.host.stamp r) } := by
  have still : s = { s.tell [] with host.disk := s.host.disk.grown [] } := by
    simp [Session.tell, Disk.grown_nil]
  obtain ⟨level, form, stream⟩ := h
  unfold handle Log.Handler.events Log.Handler.growth
  dsimp only
  split
  · exact still
  · cases stream with
    | console => rfl
    | file place =>
      dsimp only
      split
      · exact still
      · simp [Session.tell, Disk.grown]

theorem foldl_handle (r : Log.Record) (handlers : List Log.Handler) (s : Session) :
    handlers.foldl (handle r) s = { s.tell (handlers.flatMap (·.events s.host.stamp r)) with
      host.disk := s.host.disk.grown (handlers.flatMap (·.growth s.host.stamp r)) } := by
  induction handlers generalizing s with
  | nil => simp [Session.tell, Disk.grown_nil]
  | cons h rest ih =>
    rw [List.foldl_cons, handle_eq, ih]
    simp [Session.tell, Disk.grown_append]

/-- The handlers that a record comes to: none unless its logger takes it up. -/
def audience (s : Session) (r : Log.Record) : List Log.Handler :=
  let (taken, t) := consider s r.logger r.level
  if taken then Log.orLastResort (handlersFor t r.logger) else []

/-- The session after a record has been handed to its logger. -/
def deliver (s : Session) (r : Log.Record) : Session :=
  { s with
    host.disk := s.host.disk.grown ((audience s r).flatMap (·.growth s.host.stamp r))
    loggers := (consider s r.logger r.level).2.loggers
    journal := s.journal ++ (audience s r).flatMap (·.events s.host.stamp r) }

theorem mem_handlersFor {logger : Text} {h : Log.Handler} (mem : h ∈ handlersFor s logger) :
    h ∈ s.sinks.handlers ++ s.host.listeners := by
  unfold handlersFor at mem
  split at mem
  · split at mem
    · exact mem
    · rw [List.append_nil] at mem
      exact List.mem_append_left _ mem
  · exact List.mem_append_right _ mem

theorem mem_orLastResort {handlers : List Log.Handler} {h : Log.Handler}
    (mem : h ∈ Log.orLastResort handlers) : h ∈ handlers ∨ h = Log.lastResort := by
  unfold Log.orLastResort at mem
  split at mem
  · exact .inr (List.mem_singleton.mp mem)
  · exact .inl mem

theorem mem_audience {r : Log.Record} {h : Log.Handler} (mem : h ∈ audience s r) :
    h ∈ s.sinks.handlers ++ s.host.listeners ∨ h = Log.lastResort := by
  unfold audience at mem
  dsimp only at mem
  split at mem
  · obtain member | last := mem_orLastResort mem
    · have among := mem_handlersFor member
      exact .inl among
    · exact .inr last
  · cases mem

/-- Only log files grow by a record. -/
theorem mem_growth_audience {r : Log.Record} {stamp : String} {g : Location × Bytes}
    (mem : g ∈ (audience s r).flatMap (·.growth stamp r)) : g.1 ∈ s.logFiles := by
  obtain ⟨h, among, grows⟩ := List.mem_flatMap.mp mem
  have place := h.mem_growth stamp r grows
  obtain member | rfl := mem_audience among
  · exact List.mem_filterMap.mpr ⟨h, member, place⟩
  · cases place

/-- Handing a record to the handlers, one after the other, delivers it. -/
theorem deliver_of_taken (r : Log.Record) (taken : (consider s r.logger r.level).1 = true) :
    deliver s r =
      let t := (consider s r.logger r.level).2
      (Log.orLastResort (handlersFor t r.logger)).foldl (handle r) t := by
  dsimp only
  rw [foldl_handle]
  unfold deliver audience
  dsimp only
  rw [if_pos taken]
  rfl

theorem deliver_of_left (r : Log.Record) (left : (consider s r.logger r.level).1 = false) :
    deliver s r = (consider s r.logger r.level).2 := by
  unfold deliver audience
  dsimp only
  rw [left]
  simp [Disk.grown_nil, consider]

section Log

variable {level : Log.Level} {name : Option Text} (message : Text) (s : Session)

theorem log_eq : log level name message s =
    let logger := Log.loggerName name
    let t := (consider s logger level).2
    (if (consider s logger level).1 then
      lift (Log.levelName level) >>= fun levelName =>
        set ((Log.orLastResort (handlersFor t logger)).foldl
          (handle ⟨level, levelName, logger, message⟩) t)
    else pure ()) t := rfl

theorem log_of_left (left : (consider s (Log.loggerName name) level).1 = false) :
    log level name message s = .ok () (consider s (Log.loggerName name) level).2 := by
  rw [log_eq]
  dsimp only
  rw [left]
  rfl

theorem log_of_taken (taken : (consider s (Log.loggerName name) level).1 = true) :
    log level name message s =
      (lift (Log.levelName level) >>= fun levelName => set
        (deliver s ⟨level, levelName, Log.loggerName name, message⟩))
        (consider s (Log.loggerName name) level).2 := by
  have delivered (levelName : Text) :
      deliver s ⟨level, levelName, Log.loggerName name, message⟩ = _ := deliver_of_taken _ taken
  simp only [delivered]
  rw [log_eq]
  dsimp only
  rw [if_pos taken]

/-- A record whose level has a name is delivered. -/
theorem log_of_named {levelName : Text} (named : Log.levelName level = .ok levelName) :
    log level name message s =
      .ok () (deliver s ⟨level, levelName, Log.loggerName name, message⟩) := by
  cases taken : (consider s (Log.loggerName name) level).1 with
  | false =>
    rw [log_of_left message s taken]
    exact congrArg _ (deliver_of_left ⟨level, levelName, Log.loggerName name, message⟩ taken).symm
  | true =>
    rw [log_of_taken message s taken, named]
    rfl

/-- A record whose level has no name is a fault once it is taken up. It comes to no handler. -/
theorem log_of_unnamed {fault : Fault} (unnamed : Log.levelName level = .error fault) :
    log level name message s =
      let considered := consider s (Log.loggerName name) level
      if considered.1 then .error fault considered.2 else .ok () considered.2 := by
  dsimp only
  cases taken : (consider s (Log.loggerName name) level).1 with
  | false => exact log_of_left message s taken
  | true =>
    rw [log_of_taken message s taken, unnamed]
    rfl

end Log

theorem debug_eq (name message : Text) (s : Session) :
    debug name message s =
      .ok () (deliver s ⟨Log.debug, "DEBUG", Log.loggerName (some name), message⟩) :=
  log_of_named message s rfl

end Audit

end PerlAudit
