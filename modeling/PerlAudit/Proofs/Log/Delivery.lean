import PerlAudit.Proofs.Files.Opening
import PerlAudit.Proofs.Log.InForce

namespace PerlAudit.Log

open Audit Files Session Text

/-- A request makes known the family or the logger that it is handed to. -/
theorem known_request (s : Session) (request : Request) : ∃ name,
    (reached (request.perform s)).loggers.known = (s.loggers.learn (loggerName name)).known := by
  cases request with
  | configure verbose file =>
    refine ⟨none, ?_⟩
    change (reached (configureLog verbose file s)).loggers.known = _
    rw [reached_configureLog]
    rfl
  | log call =>
    refine ⟨call.name, ?_⟩
    change (call.reach s).loggers.known = _
    rw [call.reach_loggers]
    rfl

/-- The name that ends behind the dot is never made known. -/
theorem bare_unknown {s : Session} (bare : below [] ∉ s.loggers.known) (requests : List Request) :
    below [] ∉ (after s requests).loggers.known := by
  induction requests generalizing s with
  | nil => exact bare
  | cons request requests ih =>
    apply ih
    obtain ⟨name, known⟩ := known_request s request
    rw [known, Loggers.mem_learn]
    rintro (same | before)
    · exact loggerName_ne_below_nil name same.symm
    · exact bare before

/-- A logger that is known stays so. -/
theorem known_after {s : Session} {logger : Text} (known : logger ∈ s.loggers.known)
    (requests : List Request) : logger ∈ (after s requests).loggers.known := by
  induction requests generalizing s with
  | nil => exact known
  | cons request requests ih =>
    apply ih
    obtain ⟨name, learned⟩ := known_request s request
    rw [learned]
    exact Loggers.mem_learn.mpr (.inr known)

/-- A logger that was handed a record is known. -/
theorem known_of_log {s : Session} {requests : List Request} {call : Call}
    (asked : .log call ∈ requests) : call.logger ∈ (after s requests).loggers.known := by
  obtain ⟨early, late, rfl⟩ := List.append_of_mem asked
  rw [after_append, after_log]
  apply known_after
  rw [call.reach_loggers]
  exact Loggers.mem_learn.mpr (.inl rfl)

/-- A file that can be opened is not lost by records, whatever log they go to. -/
theorem openFile_later {s : Session} {path : Text} {place : Location} {content : Bytes}
    (opens : s.host.disk.openFile path = .ok (place, content)) (calls : List Call) :
    ∃ added,
      (after s (calls.map .log)).host.disk.openFile path = .ok (place, content ++ added) := by
  induction calls generalizing s content with
  | nil =>
    refine ⟨[], ?_⟩
    rw [List.append_nil]
    exact opens
  | cons call calls ih =>
    obtain ⟨growth, -, host⟩ := (call.reach_ledger s).host
    have grown := Disk.openFile_grown opens growth
    have disk : (call.reach s).host.disk = s.host.disk.grown growth := by rw [host]
    rw [← disk] at grown
    obtain ⟨added, later⟩ := ih grown
    rw [List.append_assoc, ← after_log] at later
    exact ⟨_, later⟩

/-- Opening a log file changes no file, and the path that was given leads to the log file. -/
theorem openLog?_opens {d : Disk} {name : Text} {place : Location} {larger : Disk}
    (opening : openLog? d name = some (place, larger)) :
    d.Within larger ∧
      ∃ content, larger.openFile (Path.absolute d.cwd name) = .ok (place, content) := by
  unfold openLog? at opening
  dsimp only at opening
  split at opening
  · rename_i named
    cases outcome : d.openForAppend (Path.absolute d.cwd name) with
    | error reason =>
      rw [outcome] at opening
      cases opening
    | ok found =>
      rw [outcome] at opening
      cases opening
      exact Disk.openForAppend_opens named outcome
  · cases opening

/-- Replacing the handlers changes no file. -/
theorem configured_within (s : Session) (verbose : Bool) (file : Option Text) :
    s.host.disk.Within (configured s verbose (file.bind (openLog? s.host.disk))).host.disk := by
  cases opening : file.bind (openLog? s.host.disk) with
  | none => exact .refl _
  | some opened =>
    obtain ⟨name, rfl, opens⟩ := Option.bind_eq_some_iff.mp opening
    exact (openLog?_opens opens).1

theorem unheard_dotted {l : Loggers} {logger part : Text} (dot : below [.char '.'] ∈ l.known)
    (bare : below [] ∉ l.known) (dotted : logger = below (.char '.' :: part)) :
    (l.learn logger).reaches logger = false := by
  subst dotted
  apply Loggers.reaches_dotted
  · exact Loggers.mem_learn.mpr (.inr dot)
  · rw [Loggers.mem_learn]
    rintro (same | among)
    · exact absurd (below_injective same) (List.cons_ne_nil _ _).symm
    · exact bare among

/-- The handlers of the last request, which was made in the session `asked`, where a log file could
be opened or not. -/
structure Replaced (verbose : Bool) (file : Option Text) (opened : Option (Location × Disk))
    (asked s : Session) : Prop where
  faults : (∃ fault t, configureLog verbose file asked = .error fault t) ↔
    file ≠ none ∧ opened = none
  level : s.sinks.level = levelFor verbose
  propagates : s.sinks.propagates = false
  handlers : s.sinks.handlers = requested verbose (opened.map (·.1))
  /-- The files of earlier requests are closed. -/
  streams : s.sinks.opened = (opened.map (·.1)).toList
  /-- The request itself changes no file. -/
  kept : ∀ path place content, asked.host.disk.openFile path = .ok (place, content) →
    (after asked [.configure verbose file]).host.disk.openFile path = .ok (place, content)
  /-- The path that was given leads to the log file. -/
  leads : ∀ name place disk, file = some name → opened = some (place, disk) → ∃ content,
    s.host.disk.openFile (Path.absolute asked.host.disk.cwd name) = .ok (place, content)

/-- A record went once to the console and, if it can be written, to the end of the log file and of
no other. -/
structure Written (file : Option Location) (r : Record) (s t : Session) : Prop where
  console : t.journal = s.journal ++ [.logged (Form.console.text s.host.stamp r)]
  files : ∀ path place content, s.host.disk.openFile path = .ok (place, content) →
    t.host.disk.openFile path = .ok (place, content ++
      if file = some place ∧ ∀ c ∈ Form.file.text s.host.stamp r, c.isHalf = false then
        encode (Form.file.text s.host.stamp r).chars
      else [])

/-- A record passed the family's handlers by. Where there are none above, the last resort shows the
bare message of a warning. -/
structure PassedBy (r : Record) (s t : Session) : Prop where
  console : s.host.listeners = [] → t.journal =
    s.journal ++ if warning ≤ r.level then [.logged (r.message ++ "\n")] else []
  files : ∀ path place content, place ∉ s.host.listeners.filterMap Handler.place? →
    s.host.disk.openFile path = .ok (place, content) →
    t.host.disk.openFile path = .ok (place, content)

/-- What becomes of a record while the handlers of a request are in force. -/
structure Delivered (verbose : Bool) (file : Option Location) (call : Call) (s t : Session) :
    Prop where
  low : call.level < levelFor verbose →
    call.perform s = .ok () t ∧ t.journal = s.journal ∧ t.host = s.host
  /-- A level of too many digits has no name. -/
  unnamed : ∀ fault, levelName call.level = .error fault → levelFor verbose ≤ call.level →
    call.perform s = .error fault t ∧ t.journal = s.journal ∧ t.host = s.host
  heard : ∀ name, levelName call.level = .ok name → levelFor verbose ≤ call.level → call.IsPlain →
    call.perform s = .ok () t ∧ Written file (call.record name) s t
  /-- Whatever the logger, only the files of handlers can grow. -/
  files : ∀ path place content, place ∉ s.logFiles →
    s.host.disk.openFile path = .ok (place, content) →
    t.host.disk.openFile path = .ok (place, content)
  /-- Whatever the logger, the console gets one record at most, if nobody listens above. -/
  once : s.host.listeners = [] → ∃ events, t.journal = s.journal ++ events ∧ events.length ≤ 1

theorem events_requested {verbose : Bool} {r : Record} (high : levelFor verbose ≤ r.level)
    (file : Option Location) (stamp : String) :
    (requested verbose file).flatMap (·.events stamp r) =
      [.logged (Form.console.text stamp r)] := by
  have taken : ¬r.level < levelFor verbose := Int.not_lt.mpr high
  cases file <;> simp [requested, Handler.events, taken]

theorem gained_requested {verbose : Bool} {r : Record} (high : levelFor verbose ≤ r.level)
    (file : Option Location) (stamp : String) (place : Location) :
    Disk.gained place ((requested verbose file).flatMap (·.growth stamp r)) =
      if file = some place ∧ ∀ c ∈ Form.file.text stamp r, c.isHalf = false then
        encode (Form.file.text stamp r).chars
      else [] := by
  have taken : ¬r.level < levelFor verbose := Int.not_lt.mpr high
  cases file with
  | none => simp [requested, Handler.growth, Disk.gained]
  | some log =>
    have grows : (requested verbose (some log)).flatMap (·.growth stamp r) =
        if (Form.file.text stamp r).any (·.isHalf) then []
        else [(log, encode (Form.file.text stamp r).chars)] := by
      simp only [requested, Option.map_some, Option.toList_some, List.flatMap_cons,
        List.flatMap_nil, Handler.growth, if_neg taken, List.nil_append, List.append_nil]
    rw [grows]
    by_cases half : (Form.file.text stamp r).any (·.isHalf)
    · have broken : ¬∀ c ∈ Form.file.text stamp r, c.isHalf = false := by simpa using half
      rw [if_pos half, if_neg fun both => broken both.2]
      rfl
    · have whole : ∀ c ∈ Form.file.text stamp r, c.isHalf = false := by simpa using half
      rw [if_neg half]
      by_cases here : log = place
      · rw [if_pos ⟨congrArg some here, whole⟩]
        simp [Disk.gained, here]
      · rw [if_neg fun both => here (Option.some.inj both.1)]
        simp [Disk.gained, here]

theorem events_lastResort (stamp : String) (r : Record) : lastResort.events stamp r =
    if warning ≤ r.level then [.logged (r.message ++ "\n")] else [] := by
  unfold Handler.events lastResort
  by_cases warned : warning ≤ r.level
  · rw [if_pos warned, if_neg (Int.not_lt.mpr warned)]
    rfl
  · rw [if_neg warned, if_pos (Int.not_le.mp warned)]

namespace InForce

variable {verbose : Bool} {file : Option Location} {s : Session} {call : Call}

theorem reach_low (h : InForce verbose file s) (low : call.level < levelFor verbose) :
    call.perform s = .ok () (call.reach s) ∧ (call.reach s).journal = s.journal ∧
      (call.reach s).host = s.host := by
  have passed : call.perform s = .ok () (consider s call.logger call.level).2 :=
    log_of_left call.message s (h.left low)
  rw [Call.reach, passed]
  exact ⟨rfl, rfl, rfl⟩

theorem reach_unnamed (h : InForce verbose file s) {fault : Fault}
    (unnamed : levelName call.level = .error fault) (high : levelFor verbose ≤ call.level) :
    call.perform s = .error fault (call.reach s) ∧ (call.reach s).journal = s.journal ∧
      (call.reach s).host = s.host := by
  have warned : warning ≤ call.level := by
    by_contra unwarned
    obtain ⟨name, named⟩ := levelName_of_low high (Int.not_le.mp unwarned)
    rw [unnamed] at named
    cases named
  have faulted : call.perform s = .error fault (consider s call.logger call.level).2 :=
    (log_of_unnamed call.message s unnamed).trans (if_pos (h.taken high (.inl warned)))
  rw [Call.reach, faulted]
  exact ⟨rfl, rfl, rfl⟩

theorem reach_heard (h : InForce verbose file s) {name : Text}
    (named : levelName call.level = .ok name) (high : levelFor verbose ≤ call.level)
    (plain : call.IsPlain) :
    call.perform s = .ok () (call.reach s) ∧ Written file (call.record name) s (call.reach s) := by
  have heard : audience s (call.record name) = requested verbose file :=
    h.audience_kin high (isKin_loggerName plain)
  have answered : call.perform s = .ok () (deliver s (call.record name)) :=
    log_of_named call.message s named
  rw [call.reach_of_named named]
  refine ⟨answered, ?_, ?_⟩
  · unfold deliver
    rw [heard, events_requested high]
  · intro path place content opens
    unfold deliver
    rw [heard, Disk.openFile_grown opens, gained_requested high]

theorem reach_once (h : InForce verbose file s) (alone : s.host.listeners = []) :
    ∃ events, (call.reach s).journal = s.journal ++ events ∧ events.length ≤ 1 := by
  have silent (same : (call.reach s).journal = s.journal) :
      ∃ events, (call.reach s).journal = s.journal ++ events ∧ events.length ≤ 1 :=
    ⟨[], same.trans (List.append_nil _).symm, Nat.zero_le 1⟩
  by_cases low : call.level < levelFor verbose
  · exact silent (h.reach_low low).2.1
  · have high : levelFor verbose ≤ call.level := Int.not_lt.mp low
    cases named : levelName call.level with
    | error fault => exact silent (h.reach_unnamed named high).2.1
    | ok name =>
      rw [call.reach_of_named named]
      refine ⟨_, rfl, ?_⟩
      obtain nobody | requested | above := h.audience_cases (call.record name)
      · rw [nobody]
        exact Nat.zero_le 1
      · rw [requested, events_requested high]
        exact Nat.le_refl 1
      · rw [above, alone]
        change ([lastResort].flatMap _).length ≤ 1
        rw [List.flatMap_singleton, events_lastResort]
        split <;> simp

/-- A record of a logger that the family does not hear passes its handlers by. -/
theorem reach_unheard (h : InForce verbose file s) {name : Text}
    (named : levelName call.level = .ok name)
    (unheard : (s.loggers.learn call.logger).reaches call.logger = false) :
    PassedBy (call.record name) s (call.reach s) := by
  have above := audience_unheard (show
    (s.loggers.learn (call.record name).logger).reaches (call.record name).logger = false from
      unheard)
  rw [call.reach_of_named named]
  constructor
  · intro alone
    unfold deliver
    rw [above, alone]
    dsimp only
    rw [← events_lastResort s.host.stamp]
    cases taken : (consider s (call.record name).logger (call.record name).level).1 with
    | true =>
      change s.journal ++ [lastResort].flatMap _ = _
      rw [List.flatMap_singleton]
    | false =>
      -- A warning is taken up by every logger, so this is none.
      have unwarned : ¬warning ≤ (call.record name).level := by
        intro warned
        have high := Int.le_trans (levelFor_le_warning verbose) warned
        rw [h.taken high (.inl warned)] at taken
        cases taken
      rw [events_lastResort, if_neg unwarned]
      rfl
  · intro path place content elsewhere opens
    apply Disk.openFile_grown_elsewhere opens
    rintro g grows rfl
    obtain ⟨handler, among, grows⟩ := List.mem_flatMap.mp grows
    have writes := handler.mem_growth _ _ grows
    rw [above] at among
    split at among
    · obtain listener | rfl := mem_orLastResort among
      · exact elsewhere (List.mem_filterMap.mpr ⟨handler, listener, writes⟩)
      · cases writes
    · cases among

theorem delivered (h : InForce verbose file s) (call : Call) :
    Delivered verbose file call s (call.reach s) where
  low := h.reach_low
  unnamed _ := h.reach_unnamed
  heard _ := h.reach_heard
  files := by
    intro path place content elsewhere opens
    obtain ⟨growth, inside, host⟩ := (call.reach_ledger s).host
    rw [host]
    apply Disk.openFile_grown_elsewhere opens
    rintro g grows rfl
    exact elsewhere (inside g grows)
  once := h.reach_once

end InForce

theorem replaced (host : Host) (before : List Request) (verbose : Bool) (file : Option Text)
    (later : List Call) :
    let asked := after (.start host) before
    let opened := file.bind (openLog? asked.host.disk)
    let s := after asked (.configure verbose file :: later.map .log)
    Replaced verbose file opened asked s ∧ InForce verbose (opened.map (·.1)) s := by
  intro asked opened s
  have replaces : after asked [.configure verbose file] = configured asked verbose opened :=
    reached_configureLog verbose file asked
  have reaches : s = after (configured asked verbose opened) (later.map .log) := by
    rw [← replaces]
    rfl
  have sound : asked.sinks.Sound := @sound_after (.start host) Sinks.sound_initial before
  have inForce : InForce verbose (opened.map (·.1)) s := by
    rw [reaches]
    exact (configured_inForce sound verbose opened).later later
  refine ⟨⟨configureLog_faults_iff verbose file asked, ?_, ?_, ?_, ?_, ?_, ?_⟩, inForce⟩
  · rw [inForce.sinks]
  · rw [inForce.sinks]
  · rw [inForce.sinks]
  · rw [inForce.sinks]
  · intro path place content opens
    rw [replaces]
    exact (configured_within asked verbose file).openFile opens
  · rintro name place disk rfl opening
    obtain ⟨-, content, opens⟩ := openLog?_opens opening
    have placed : (configured asked verbose opened).host.disk = disk := by
      rw [opening]
      rfl
    rw [← placed] at opens
    obtain ⟨added, later⟩ := openFile_later opens later
    rw [← reaches] at later
    exact ⟨_, later⟩

/-- A run of the log. The handlers are those of the last request for them: the console and, if one
was asked for and could be opened, the log file; all other files are closed. From their level on a
record goes once to the console and, if it can be written, to the end of that file and of no other.
Below their level it goes nowhere. This is said of loggers whose name does not begin with a dot.
Once the logger of a single dot is known, the others pass these handlers by. -/
theorem records_reach_current_sinks (host : Host) (before : List Request) (verbose : Bool)
    (file : Option Text) (later : List Call) (call : Call) :
    let asked := after (.start host) before
    let opened := file.bind (openLog? asked.host.disk)
    let s := after asked (.configure verbose file :: later.map .log)
    let t := after s [.log call]
    Replaced verbose file opened asked s ∧ Delivered verbose (opened.map (·.1)) call s t ∧
    ∀ part dot name, call.name = some (.char '.' :: part) → dot.name = some [.char '.'] →
      .log dot ∈ before ++ later.map .log → levelName call.level = .ok name →
      PassedBy (call.record name) s t := by
  intro asked opened s t
  obtain ⟨replaced, inForce⟩ := replaced host before verbose file later
  refine ⟨replaced, inForce.delivered call, ?_⟩
  intro part dot name begins dotted asks named
  -- The dot may have been named under earlier handlers, so this is about the run from its start.
  have whole : s = after (.start host) (before ++ .configure verbose file :: later.map .log) :=
    (after_append _ _ _).symm
  have dotKnown : below [.char '.'] ∈ s.loggers.known := by
    have logger : dot.logger = below [.char '.'] := congrArg loggerName dotted
    rw [whole, ← logger]
    apply known_of_log
    rw [List.mem_append] at asks ⊢
    exact asks.imp_right (List.mem_cons_of_mem _)
  have bare : below [] ∉ s.loggers.known := by
    rw [whole]
    exact bare_unknown List.not_mem_nil _
  exact inForce.reach_unheard named (unheard_dotted dotKnown bare (congrArg loggerName begins))

/-- The logger `.x` is below the family by its name, and yet its record goes nowhere. -/
theorem dotted_record_lost :
    let s := after (.start (.plain ⟨.empty, "/", [], []⟩ fun _ _ => .refused .noEntry))
      [.configure false none]
    let t := after s [.log ⟨info, some ".x", "m"⟩]
    s.sinks = ⟨info, false, [⟨info, .console, .console⟩], []⟩ ∧ t.sinks = s.sinks ∧
      t.journal = [] := by
  dsimp only
  refine ⟨by decide, by decide, ?_⟩
  exact List.isEmpty_iff.mp (by decide)

end PerlAudit.Log
