import PerlAudit.Proofs.Log.Family
import PerlAudit.Proofs.Log.Setup

/-!
Runs of the log, in which handlers are replaced and records are handed in. Between requests the open
files are those of the handlers, and after a request its handlers stay in force: what is decided
about loggers from then on agrees with them.
-/

namespace PerlAudit.Log

open Audit Files Session Text

/-- A record that a logger is asked to take up. -/
structure Call where
  level : Level
  name : Option Text
  message : Text
  deriving DecidableEq, Repr

namespace Call

variable (c : Call)

def logger : Text := loggerName c.name

def record (levelName : Text) : Record := ⟨c.level, levelName, c.logger, c.message⟩

/-- The name of the logger does not begin with a dot. -/
def IsPlain : Prop := ∀ part, c.name = some part → part.head? ≠ some (.char '.')

def perform : Audit Unit := Audit.log c.level c.name c.message

/-- The session after a record has been handed in, whether it is a fault or not. -/
def reach (s : Session) : Session := reached (c.perform s)

theorem reach_of_named {levelName : Text} (named : Log.levelName c.level = .ok levelName)
    (s : Session) : c.reach s = deliver s (c.record levelName) := by
  rw [reach, perform, log_of_named c.message s named]
  rfl

theorem reach_of_unnamed {fault : Fault} (unnamed : Log.levelName c.level = .error fault)
    (s : Session) : c.reach s = (consider s c.logger c.level).2 := by
  rw [reach, perform, log_of_unnamed c.message s unnamed]
  dsimp only
  split <;> rfl

theorem reach_loggers (s : Session) :
    (c.reach s).loggers = (consider s c.logger c.level).2.loggers := by
  cases named : Log.levelName c.level with
  | ok levelName =>
    rw [c.reach_of_named named]
    rfl
  | error fault => rw [c.reach_of_unnamed named]

theorem reach_ledger (s : Session) : Ledger s (c.reach s) [] [] := by
  cases named : Log.levelName c.level with
  | ok levelName =>
    rw [c.reach_of_named named]
    exact deliver_ledger s _
  | error fault =>
    rw [c.reach_of_unnamed named]
    exact (Ledger.refl s).unseen rfl rfl rfl rfl

end Call

/-- What can be asked of the log. -/
inductive Request where
  | configure (verbose : Bool) (file : Option Text)
  | log (call : Call)
  deriving DecidableEq, Repr

def Request.perform : Request → Audit Unit
  | configure verbose file => configureLog verbose file
  | log call => call.perform

/-- The session after some requests, whether they answer or fault. -/
def after (s : Session) (requests : List Request) : Session :=
  requests.foldl (fun s request => reached (request.perform s)) s

theorem after_log (s : Session) (call : Call) (requests : List Request) :
    after s (.log call :: requests) = after (call.reach s) requests := rfl

theorem after_append (s : Session) (early late : List Request) :
    after s (early ++ late) = after (after s early) late := List.foldl_append

/-- A request closes every file whose handler it takes off, and opens the one that it asks for. -/
theorem sound_request {s : Session} (sound : s.sinks.Sound) (request : Request) :
    (reached (request.perform s)).sinks.Sound := by
  cases request with
  | configure verbose file =>
    change (reached (configureLog verbose file s)).sinks.Sound
    rw [reached_configureLog, Sinks.Sound, configured, sound, leftOpen_places, List.nil_append,
      requested_places]
  | log call =>
    have same : (reached (call.perform s)).sinks = s.sinks := (call.reach_ledger s).sinks
    change (reached (call.perform s)).sinks.Sound
    rw [same]
    exact sound

/-- Whatever is asked of the log, the files that are open are those of the handlers. -/
theorem sound_after {s : Session} (sound : s.sinks.Sound) (requests : List Request) :
    (after s requests).sinks.Sound := by
  induction requests generalizing s with
  | nil => exact sound
  | cons request requests ih => exact ih (sound_request sound request)

theorem levelFor_le_warning (verbose : Bool) : levelFor verbose ≤ warning := by
  cases verbose <;> decide

/-- Below warnings, a level that handlers take has a name. -/
theorem levelName_of_low {verbose : Bool} {level : Level} (high : levelFor verbose ≤ level)
    (low : level < warning) : ∃ name, levelName level = .ok name := by
  have positive : 0 < levelFor verbose := by cases verbose <;> decide
  have thirty : 30 ≤ tooLong := by decide +kernel
  have small (n : Int) (positive : 0 ≤ n) (low : n < 30) : n.natAbs < tooLong := by omega
  have short := small level (Int.le_trans (Int.le_of_lt positive) high) low
  unfold levelName integerText writeInteger?
  rw [if_pos short]
  simp only [Except.map]
  repeat' split
  all_goals exact ⟨_, rfl⟩

theorem Loggers.learn_decided (l : Loggers) (logger : Text) :
    (l.learn logger).decided = l.decided := by
  unfold learn
  split <;> rfl

theorem Loggers.mem_learn {l : Loggers} {logger other : Text} :
    other ∈ (l.learn logger).known ↔ other = logger ∨ other ∈ l.known := by
  unfold learn
  by_cases known : logger ∈ l.known
  · simp only [List.contains_eq_mem, known, decide_true, if_true]
    constructor
    · exact .inr
    · rintro (rfl | before)
      · exact known
      · exact before
  · simp [known]

/-- Keeping a decision does not change which loggers are heard. -/
theorem Loggers.reaches_settle (l : Loggers) (threshold : Level) (logger : Text) (level : Level)
    (name : Text) : (l.settle threshold logger level).reaches name = l.reaches name := by
  unfold reaches
  induction name.length generalizing name with
  | zero => rfl
  | succ steps ih =>
    have same : (l.settle threshold logger level).reachesIn steps = l.reachesIn steps := funext ih
    rw [reachesIn, reachesIn, same]
    rfl

/-- The handlers in force are those of a request, and what has been decided about loggers agrees
with them. -/
structure InForce (verbose : Bool) (file : Option Location) (s : Session) : Prop where
  sinks : s.sinks = ⟨levelFor verbose, false, requested verbose file, file.toList⟩
  family : ofString family ∈ s.loggers.known
  low : ∀ logger level, level < levelFor verbose →
    s.loggers.decided.lookup (logger, level) ≠ some true
  high : ∀ logger level, levelFor verbose ≤ level → warning ≤ level ∨ IsKin logger →
    s.loggers.decided.lookup (logger, level) ≠ some false

theorem configured_inForce {s : Session} (sound : s.sinks.Sound) (verbose : Bool)
    (opened : Option (Location × Disk)) :
    InForce verbose (opened.map (·.1)) (configured s verbose opened) where
  sinks := by
    rw [configured, sound, leftOpen_places, List.nil_append]
  family := Loggers.mem_learn.mpr (.inl rfl)
  low := by
    intro logger level _
    simp [configured, Loggers.forget]
  high := by
    intro logger level _ _
    simp [configured, Loggers.forget]

namespace InForce

variable {verbose : Bool} {file : Option Location} {s : Session} {logger : Text} {level : Level}

theorem threshold_eq (h : InForce verbose file s) (heard : Bool) :
    s.sinks.threshold heard = if heard then levelFor verbose else warning := by
  have levelled : (levelFor verbose != 0) = true := by cases verbose <;> decide
  rw [h.sinks, Sinks.threshold, levelled, Bool.and_true]

/-- No logger takes up a record below the level of the handlers. -/
theorem left (h : InForce verbose file s) (low : level < levelFor verbose) :
    (consider s logger level).1 = false := by
  unfold consider Loggers.takes
  dsimp only
  rw [Loggers.learn_decided, h.threshold_eq]
  cases decided : s.loggers.decided.lookup (logger, level) with
  | some verdict =>
    cases verdict with
    | true => exact absurd decided (h.low _ _ low)
    | false => rfl
  | none =>
    apply decide_eq_false
    split
    · exact Int.not_le.mpr low
    · exact Int.not_le.mpr (Int.lt_of_lt_of_le low (levelFor_le_warning verbose))

theorem hears (h : InForce verbose file s) (kin : IsKin logger) :
    (s.loggers.learn logger).reaches logger = true :=
  Loggers.reaches_kin (Loggers.mem_learn.mpr (.inr h.family)) kin

/-- A record that is important enough is taken up by the family's kin, and a warning by every
logger. -/
theorem taken (h : InForce verbose file s) (high : levelFor verbose ≤ level)
    (sure : warning ≤ level ∨ IsKin logger) : (consider s logger level).1 = true := by
  unfold consider Loggers.takes
  dsimp only
  rw [Loggers.learn_decided, h.threshold_eq]
  cases decided : s.loggers.decided.lookup (logger, level) with
  | some verdict =>
    cases verdict with
    | true => rfl
    | false => exact absurd decided (h.high _ _ high sure)
  | none =>
    apply decide_eq_true
    obtain warned | kin := sure
    · split
      · exact high
      · exact warned
    · rw [h.hears kin, if_pos rfl]
      exact high

theorem handlersFor_considered (s : Session) (logger : Text) (level : Level) :
    handlersFor (consider s logger level).2 logger =
      if (s.loggers.learn logger).reaches logger then
        s.sinks.handlers ++ if s.sinks.propagates then s.host.listeners else []
      else s.host.listeners := by
  unfold handlersFor consider
  dsimp only
  rw [Loggers.reaches_settle]

/-- A record that is taken up by a logger that the family hears comes to the handlers of the request
and to no others. -/
theorem audience_heard (h : InForce verbose file s) {r : Record}
    (taken : (consider s r.logger r.level).1 = true)
    (heard : (s.loggers.learn r.logger).reaches r.logger = true) :
    audience s r = requested verbose file := by
  unfold audience
  dsimp only
  rw [if_pos taken, handlersFor_considered, if_pos heard, h.sinks]
  exact congrArg orLastResort (List.append_nil _)

theorem audience_kin (h : InForce verbose file s) {r : Record} (high : levelFor verbose ≤ r.level)
    (kin : IsKin r.logger) : audience s r = requested verbose file :=
  h.audience_heard (h.taken high (.inr kin)) (h.hears kin)

/-- A record that the family does not hear comes to the handlers above it, if to any. -/
theorem audience_unheard {r : Record}
    (unheard : (s.loggers.learn r.logger).reaches r.logger = false) :
    audience s r =
      if (consider s r.logger r.level).1 then orLastResort s.host.listeners else [] := by
  unfold audience
  dsimp only
  rw [handlersFor_considered, unheard]
  rfl

/-- Whatever the logger, a record comes to the handlers of the request, to those above the family
or to none. -/
theorem audience_cases (h : InForce verbose file s) (r : Record) :
    audience s r = [] ∨ audience s r = requested verbose file ∨
      audience s r = orLastResort s.host.listeners := by
  cases taken : (consider s r.logger r.level).1 with
  | false =>
    unfold audience
    dsimp only
    rw [taken]
    exact .inl rfl
  | true =>
    cases heard : (s.loggers.learn r.logger).reaches r.logger with
    | false =>
      rw [audience_unheard heard, taken]
      exact .inr (.inr rfl)
    | true => exact .inr (.inl (h.audience_heard taken heard))

theorem decided (s : Session) (call : Call) :
    (call.reach s).loggers.decided = ((call.logger, call.level),
      (consider s call.logger call.level).1) :: s.loggers.decided := by
  rw [call.reach_loggers, ← Loggers.learn_decided s.loggers call.logger]
  rfl

/-- A record leaves the handlers in force, and what it decides agrees with them. -/
theorem reach (h : InForce verbose file s) (call : Call) : InForce verbose file (call.reach s) where
  sinks := (call.reach_ledger s).sinks.trans h.sinks
  family := by
    rw [call.reach_loggers]
    exact Loggers.mem_learn.mpr (.inr h.family)
  low := by
    intro logger level low
    rw [decided, List.lookup_cons]
    split
    · rename_i same
      obtain ⟨rfl, rfl⟩ : logger = call.logger ∧ level = call.level := by simpa using same
      rw [h.left low]
      simp
    · exact h.low logger level low
  high := by
    intro logger level high sure
    rw [decided, List.lookup_cons]
    split
    · rename_i same
      obtain ⟨rfl, rfl⟩ : logger = call.logger ∧ level = call.level := by simpa using same
      rw [h.taken high sure]
      simp
    · exact h.high logger level high sure

/-- Records leave the handlers in force. -/
theorem later (h : InForce verbose file s) (calls : List Call) :
    InForce verbose file (after s (calls.map .log)) := by
  induction calls generalizing s with
  | nil => exact h
  | cons call calls ih =>
    rw [List.map_cons, after_log]
    exact ih (h.reach call)

end InForce

end PerlAudit.Log
