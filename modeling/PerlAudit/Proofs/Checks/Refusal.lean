import PerlAudit.Proofs.Checks.Single
import PerlAudit.Proofs.Number.Rounding
import PerlAudit.Proofs.Settings.Threshold

namespace PerlAudit

namespace Value

open Text Number

/-- An integer of too many digits to be written has no nearest number. -/
theorem ofInt?_of_unwritable {n : Int} (long : writeInteger? n = none) :
    Binary64.ofInt? n = none := by
  have large : tooLong ≤ n.natAbs := by
    by_contra short
    rw [writeInteger?, if_pos (Nat.lt_of_not_le short)] at long
    cases long
  have whole : Binary64.ofDecimal (n < 0) n.natAbs 0 =
      Binary64.ofUnits (n < 0) (n.natAbs * Nat.pow 10 0 * Binary64.unitsPerOne) 1 := rfl
  have power : Nat.pow 2 2098 ≤ tooLong := by decide +kernel
  have one : 0 < Binary64.unitsPerOne := by decide +kernel
  have scaled : n.natAbs ≤ n.natAbs * Nat.pow 10 0 * Binary64.unitsPerOne :=
    (Nat.le_mul_of_pos_right _ Nat.one_pos).trans (Nat.le_mul_of_pos_right _ one)
  have beyond := power.trans (large.trans scaled)
  rw [← Nat.div_one (_ * _)] at beyond
  rw [Binary64.ofInt?, whole, Binary64.ofUnits_of_large beyond]
  rfl

/-- What may be passed as a threshold: a truth value, a number, a text or a list. -/
def isArgument : Value → Bool
  | truth _ | integer _ | number _ | text _ | list _ => true
  | _ => false

/-- An integer of too many digits to be written stands in a value, at any depth. -/
inductive Overlong : Value → Prop where
  | integer {n : Int} (long : writeInteger? n = none) : Overlong (.integer n)
  | item {items : List Value} {v : Value} (member : v ∈ items) (inside : Overlong v) :
      Overlong (.list items)
  | key {entries : List (Value × Value)} {e : Value × Value} (member : e ∈ entries)
      (inside : Overlong e.1) : Overlong (.mapping entries)
  | value {entries : List (Value × Value)} {e : Value × Value} (member : e ∈ entries)
      (inside : Overlong e.2) : Overlong (.mapping entries)

theorem overlong_integer {n : Int} : (integer n).Overlong ↔ writeInteger? n = none := by
  constructor
  · intro long
    cases long
    assumption
  · exact .integer

theorem overlong_list {items : List Value} :
    (list items).Overlong ↔ ∃ v ∈ items, v.Overlong := by
  constructor
  · intro long
    cases long with
    | item member inside => exact ⟨_, member, inside⟩
  · rintro ⟨v, member, inside⟩
    exact .item member inside

theorem overlong_mapping {entries : List (Value × Value)} :
    (mapping entries).Overlong ↔ ∃ e ∈ entries, e.1.Overlong ∨ e.2.Overlong := by
  constructor
  · intro long
    cases long with
    | key member inside => exact ⟨_, member, .inl inside⟩
    | value member inside => exact ⟨_, member, .inr inside⟩
  · rintro ⟨e, member, inside | inside⟩
    · exact .key member inside
    · exact .value member inside

/-- More collections lie in one another than a depth allows. -/
inductive DeeperThan : Nat → Value → Prop where
  | list {items : List Value} : DeeperThan 0 (.list items)
  | mapping {entries : List (Value × Value)} : DeeperThan 0 (.mapping entries)
  | item {depth : Nat} {items : List Value} {v : Value} (member : v ∈ items)
      (inside : DeeperThan depth v) : DeeperThan (depth + 1) (.list items)
  | key {depth : Nat} {entries : List (Value × Value)} {e : Value × Value} (member : e ∈ entries)
      (inside : DeeperThan depth e.1) : DeeperThan (depth + 1) (.mapping entries)
  | value {depth : Nat} {entries : List (Value × Value)} {e : Value × Value} (member : e ∈ entries)
      (inside : DeeperThan depth e.2) : DeeperThan (depth + 1) (.mapping entries)

theorem deeperThan_list {depth : Nat} {items : List Value} :
    DeeperThan (depth + 1) (list items) ↔ ∃ v ∈ items, DeeperThan depth v := by
  constructor
  · intro deep
    cases deep with
    | item member inside => exact ⟨_, member, inside⟩
  · rintro ⟨v, member, inside⟩
    exact .item member inside

theorem deeperThan_mapping {depth : Nat} {entries : List (Value × Value)} :
    DeeperThan (depth + 1) (mapping entries) ↔
      ∃ e ∈ entries, DeeperThan depth e.1 ∨ DeeperThan depth e.2 := by
  constructor
  · intro deep
    cases deep with
    | key member inside => exact ⟨_, member, .inl inside⟩
    | value member inside => exact ⟨_, member, .inr inside⟩
  · rintro ⟨e, member, inside | inside⟩
    · exact .key member inside
    · exact .value member inside

/-- An answer is there unless an integer is too long or collections lie too deep. The fault says
which it is; if it is both, it is what comes first. -/
def FailsIff {α : Type} (answer : Except Fault α) (long deep : Prop) : Prop :=
  ((∃ a, answer = .ok a) ∧ ¬long ∧ ¬deep) ∨ (answer = .error .integerUnwritable ∧ long) ∨
    (answer = .error .tooDeepToShow ∧ deep)

namespace FailsIff

variable {α β : Type} {p q p' q' : Prop}

theorem never {answer : Except Fault α} {a : α} (h : answer = .ok a) (short : ¬p) (flat : ¬q) :
    FailsIff answer p q := .inl ⟨⟨a, h⟩, short, flat⟩

theorem bind {x : Except Fault α} {f : α → Except Fault β} (first : FailsIff x p q)
    (second : ∀ a, FailsIff (f a) p' q') : FailsIff (x >>= f) (p ∨ p') (q ∨ q') := by
  obtain ⟨⟨a, rfl⟩, short, flat⟩ | ⟨rfl, long⟩ | ⟨rfl, deep⟩ := first
  · obtain ⟨answered, short', flat'⟩ | ⟨error, long⟩ | ⟨error, deep⟩ := second a
    · exact .inl ⟨answered, by simp [short, short'], by simp [flat, flat']⟩
    · exact .inr (.inl ⟨error, .inr long⟩)
    · exact .inr (.inr ⟨error, .inr deep⟩)
  · exact .inr (.inl ⟨rfl, .inl long⟩)
  · exact .inr (.inr ⟨rfl, .inl deep⟩)

theorem map {x : Except Fault α} (h : FailsIff x p q) (f : α → β) :
    FailsIff (x >>= fun a => pure (f a)) p q := by
  obtain ⟨⟨a, rfl⟩, fine⟩ | ⟨rfl, long⟩ | ⟨rfl, deep⟩ := h
  · exact .inl ⟨⟨f a, rfl⟩, fine⟩
  · exact .inr (.inl ⟨rfl, long⟩)
  · exact .inr (.inr ⟨rfl, deep⟩)

theorem iff {x : Except Fault α} (h : FailsIff x p q) (long : p ↔ p') (deep : q ↔ q') :
    FailsIff x p' q' := by
  rwa [FailsIff, ← long, ← deep]

end FailsIff

theorem integerText_fails (n : Int) (depth : Nat) :
    FailsIff (integerText n) (writeInteger? n = none) (DeeperThan depth (.integer n)) := by
  have flat : ¬DeeperThan depth (.integer n) := by
    intro deep
    cases deep
  unfold integerText
  cases writeInteger? n with
  | some t => exact .never rfl (by simp) flat
  | none => exact .inr (.inl ⟨rfl, rfl⟩)

mutual

/-- A value can be shown unless there is an integer in it that cannot be written, or collections
lie too deep in it. -/
theorem inner_fails (depth : Nat) (v : Value) :
    FailsIff (v.inner depth) v.Overlong (DeeperThan depth v) := by
  match depth, v with
  | depth, .integer n => exact (integerText_fails n depth).iff overlong_integer.symm .rfl
  | 0, .list items => exact .inr (.inr ⟨rfl, .list⟩)
  | 0, .mapping entries => exact .inr (.inr ⟨rfl, .mapping⟩)
  | depth + 1, .list items =>
    exact ((innerItems_fails depth items).map _).iff overlong_list.symm deeperThan_list.symm
  | depth + 1, .mapping entries =>
    exact ((innerEntries_fails depth entries).map _).iff overlong_mapping.symm
      deeperThan_mapping.symm
  | _, .null | _, .truth _ | _, .number _ | _, .text _ | _, .bytes _ | _, .moment
  | _, .unordered =>
    exact .never (by rw [inner]) (fun long => by cases long) fun deep => by cases deep

theorem innerItems_fails (depth : Nat) (items : List Value) :
    FailsIff (innerItems depth items) (∃ v ∈ items, v.Overlong)
      (∃ v ∈ items, DeeperThan depth v) := by
  match items with
  | [] => exact .never rfl (by simp) (by simp)
  | v :: rest =>
    have shown :=
      (inner_fails depth v).bind fun first => (innerItems_fails depth rest).map (first :: ·)
    exact shown.iff (by simp) (by simp)

theorem innerEntries_fails (depth : Nat) (entries : List (Value × Value)) :
    FailsIff (innerEntries depth entries) (∃ e ∈ entries, e.1.Overlong ∨ e.2.Overlong)
      (∃ e ∈ entries, DeeperThan depth e.1 ∨ DeeperThan depth e.2) := by
  match entries with
  | [] => exact .never rfl (by simp) (by simp)
  | (key, v) :: rest =>
    have shown := (inner_fails depth key).bind fun name => (inner_fails depth v).bind fun text =>
      (innerEntries_fails depth rest).map fun more => (name ++ ofString ": " ++ text) :: more
    exact shown.iff (by simp [or_assoc]) (by simp [or_assoc])

end

theorem toNumber_integer (n : Int) : (integer n).toNumber =
    (Binary64.ofInt? n).elim (Except.error Fault.integerTooLarge) Except.ok := rfl

theorem toNumber_error {v : Value} {fault : Fault} (h : v.toNumber = .error fault) :
    (∃ n, v = .integer n ∧ Binary64.ofInt? n = none ∧ fault = .integerTooLarge) ∨
      Checks.isBadThreshold fault = true := by
  cases v with
  | integer n =>
    refine .inl ⟨n, rfl, ?_⟩
    rw [toNumber_integer] at h
    cases nearest : Binary64.ofInt? n with
    | none =>
      rw [nearest] at h
      cases h
      exact ⟨rfl, rfl⟩
    | some x =>
      rw [nearest] at h
      cases h
  | text s =>
    refine .inr ?_
    cases parsed : Binary64.parse? s.chars with
    | some x => simp [toNumber, parsed] at h
    | none =>
      simp only [toNumber, parsed] at h
      cases h
      rfl
  | truth | number => cases h
  | null | bytes | moment | list | mapping | unordered =>
    cases h
    exact .inr rfl

/-- Of what may be passed as a threshold, only lists have a depth. -/
theorem DeeperThan.list_of_argument {depth : Nat} {v : Value} (deep : DeeperThan depth v)
    (argument : v.isArgument = true) : ∃ items, v = .list items := by
  cases deep with
  | list | item => exact ⟨_, rfl⟩
  | mapping | key | value => cases argument

theorem shown_list_fails (depth : Nat) (items : List Value) :
    FailsIff ((list items).shown depth) (list items).Overlong (DeeperThan depth (list items)) :=
  inner_fails depth (.list items)

theorem shown_answers {depth : Nat} {v : Value} (writable : ¬v.Overlong)
    (flat : ¬DeeperThan depth v) : ∃ t, v.shown depth = .ok t := by
  have inner : ∃ t, v.inner depth = .ok t := by
    obtain ⟨answered, -⟩ | ⟨-, long⟩ | ⟨-, deep⟩ := inner_fails depth v
    · exact answered
    · exact absurd long writable
    · exact absurd deep flat
  cases v with
  | text s => exact ⟨s, rfl⟩
  | null | truth | integer | number | bytes | moment | list | mapping | unordered => exact inner

end Value

namespace Checks

open Audit Session Settings Number
open Tap (Result)

/-- Thresholds that are no percentage and yet are not refused as such, where values are shown to a
certain depth. -/
inductive Slips (depth : Nat) (v : Value) : Prop where
  | notNumber (reads : v.toNumber = .ok .nan)
  | tooLarge {n : Int} (whole : v = .integer n) (large : Binary64.ofInt? n = none)
  | unwritable {items : List Value} (collection : v = .list items) (long : v.Overlong)
  | nested {items : List Value} (collection : v = .list items) (deep : v.DeeperThan depth)

/-- A sweep that is refused reports one failure, and nothing else happens: no command is started, no
tool is looked for, nothing is logged, and an earlier sweep is forgotten. -/
structure SweepRefused (s t : Session) : Prop where
  recorded : ∃ result : Result, result.outcome = .fail ∧
    recordedBy t.journal = recordedBy s.journal ++ [result]
  count : t.reporter.count = s.reporter.count + 1
  passed : t.reporter.passed = s.reporter.passed
  failed : t.reporter.failed = s.reporter.failed + 1
  skipped : t.reporter.skipped = s.reporter.skipped
  requests : t.requests = s.requests
  tools : t.tools = s.tools
  host : t.host = s.host
  sinks : t.sinks = s.sinks
  loggers : t.loggers = s.loggers
  sweep : t.sweep = none

/-- Reports a failure in place of a sweep. -/
def refuseSweep (label : Text) (cause : Option Text) : Audit (Option Binary64) := do
  Audit.emit (.failed label cause)
  modify fun s => { s with sweep := none }
  return none

theorem refuseSweep_refuses (label : Text) (cause : Option Text) (s : Session) :
    ∃ t, refuseSweep label cause s = .ok none t ∧ SweepRefused s t := by
  obtain ⟨u, emitted, ledger⟩ := emit_writes (.failed label cause) s
  have reporter : u.reporter = (s.reporter.ensurePlan.record (.failed label cause)).1 :=
    congrArg Tap.Transcript.reporter ledger.transcript
  obtain ⟨count, passed, failed, skipped, -⟩ := emitted_counters s.reporter (.failed label cause)
  rw [← reporter] at count passed failed skipped
  have requests := ledger.requests
  have recorded := ledger.recorded
  cases emitted
  refine ⟨_, rfl, ?_⟩
  exact { recorded := ⟨_, rfl, recorded⟩, count, passed, failed, skipped,
          requests := requests.trans (List.append_nil _), tools := rfl, host := rfl, sinks := rfl,
          loggers := rfl, sweep := rfl }

section Outcome

variable (settings : Settings) (script : Text) (bases : List Text) {v : Value} {fault : Fault}
  {s : Session}

theorem coverageOk_of_limit {limit : Coverage.Threshold} (good : limitOf v = .ok limit) :
    coverageOk settings script (some v) bases =
      coverageSweep settings script limit bases >>= fun run => pure run.total := by
  rw [coverageOk, Option.map_some, good]

/-- A bad threshold is shown in the label of the failure. -/
theorem coverageOk_of_bad (failed : limitOf v = .error fault)
    (caught : isBadThreshold fault = true) :
    coverageOk settings script (some v) bases s =
      (Audit.lift (v.shown s.host.showDepth) >>= fun shown =>
        refuseSweep ("coverage >= " ++ shown ++ "%") (some fault.message)) s := by
  rw [coverageOk, Option.map_some, failed]
  dsimp only
  rw [if_pos caught]
  rfl

theorem coverageOk_of_uncaught (failed : limitOf v = .error fault)
    (uncaught : isBadThreshold fault = false) :
    coverageOk settings script (some v) bases = throw fault := by
  rw [coverageOk, Option.map_some, failed]
  exact if_neg (Bool.eq_false_iff.mp uncaught)

end Outcome

theorem limitOf_number {v : Value} {x : Binary64} (h : v.toNumber = .ok x) :
    limitOf v = (checkThreshold x).map .real := by
  rw [limitOf, h]
  rfl

theorem limitOf_error {v : Value} {fault : Fault} (h : v.toNumber = .error fault) :
    limitOf v = .error fault := by
  rw [limitOf, h]
  rfl

/-- A threshold that is no percentage has no limit, unless it slips through. -/
theorem limitOf_bad {depth : Nat} {v : Value} (bad : ¬∃ x, v.toNumber = .ok x ∧ IsPercentage x)
    (caught : ¬Slips depth v) :
    ∃ fault, limitOf v = .error fault ∧ isBadThreshold fault = true := by
  cases reads : v.toNumber with
  | error fault =>
    refine ⟨fault, limitOf_error reads, ?_⟩
    obtain ⟨n, whole, large, -⟩ | bad := Value.toNumber_error reads
    · exact absurd (.tooLarge whole large) caught
    · exact bad
  | ok x =>
    cases checked : checkThreshold x with
    | error fault =>
      obtain ⟨cause, rfl⟩ := checkThreshold_error checked
      exact ⟨_, by rw [limitOf_number reads, checked]; rfl, rfl⟩
    | ok y =>
      obtain ⟨-, rfl | range⟩ := checkThreshold_eq_ok_iff.mp checked
      · exact absurd (.notNumber reads) caught
      · exact absurd ⟨x, reads, range⟩ bad

/-- What becomes of a threshold that is no percentage. It is refused, unless it is not a number,
which makes a sweep run that no total can satisfy, or an integer beyond all numbers, or a list that
cannot be shown because of an integer in it that cannot be written or because it is nested too
deeply. These fault. -/
theorem bad_threshold_refused (settings : Settings) (script : Text) (v : Value) (bases : List Text)
    (s : Session) (argument : v.isArgument = true)
    (bad : ¬∃ x, v.toNumber = .ok x ∧ IsPercentage x) :
    let depth := s.host.showDepth
    (¬Slips depth v →
      ∃ t, coverageOk settings script (some v) bases s = .ok none t ∧ SweepRefused s t) ∧
    (v.toNumber = .ok .nan → coverageOk settings script (some v) bases s =
      (coverageSweep settings script (.real .nan) bases >>= fun run => pure run.total) s) ∧
    (∀ n, v = .integer n → Binary64.ofInt? n = none →
      coverageOk settings script (some v) bases s = .error .integerTooLarge s) ∧
    (∀ items, v = .list items → v.Overlong ∨ v.DeeperThan depth →
      ∃ fault, coverageOk settings script (some v) bases s = .error fault s ∧
        (fault = .integerUnwritable ∧ v.Overlong ∨
          fault = .tooDeepToShow ∧ v.DeeperThan depth)) := by
  intro depth
  refine ⟨fun caught => ?_, fun reads => ?_, fun n whole large => ?_, fun items list hinders => ?_⟩
  · obtain ⟨fault, failed, caughtFault⟩ := limitOf_bad bad caught
    have writable : ¬v.Overlong := by
      intro long
      cases long with
      | integer long => exact caught (.tooLarge rfl (Value.ofInt?_of_unwritable long))
      | item member inside => exact caught (.unwritable rfl (.item member inside))
      | key | value => cases argument
    have flat : ¬v.DeeperThan depth := by
      intro deep
      obtain ⟨items, rfl⟩ := deep.list_of_argument argument
      exact caught (.nested rfl deep)
    obtain ⟨shown, answered⟩ := Value.shown_answers writable flat
    rw [coverageOk_of_bad settings script bases failed caughtFault, answered]
    exact refuseSweep_refuses _ _ s
  · have passed : checkThreshold .nan = .ok .nan := checkThreshold_eq_ok_iff.mpr ⟨rfl, .inl rfl⟩
    have good : limitOf v = .ok (.real .nan) := by
      rw [limitOf_number reads, passed]
      rfl
    rw [coverageOk_of_limit settings script bases good]
  · subst whole
    have failed : limitOf (.integer n) = .error .integerTooLarge :=
      limitOf_error (by rw [Value.toNumber_integer, large]; rfl)
    rw [coverageOk_of_uncaught settings script bases failed rfl]
    rfl
  · subst list
    rw [coverageOk_of_bad settings script bases (limitOf_error rfl) rfl]
    obtain ⟨-, writable, flat⟩ | ⟨faulted, long⟩ | ⟨faulted, deep⟩ :=
      Value.shown_list_fails depth items
    · exact absurd hinders (by simp [writable, flat])
    · refine ⟨_, ?_, .inl ⟨rfl, long⟩⟩
      rw [faulted]
      rfl
    · refine ⟨_, ?_, .inr ⟨rfl, deep⟩⟩
      rw [faulted]
      rfl

/-- An endless threshold is refused, and the sweep before it is forgotten. -/
theorem bad_threshold_refused_endless :
    let v : Value := .number (.infinite false)
    let respond : Command.Respond := fun _ _ => .finished [] [] 0
    let s := { Session.start (.plain ⟨.empty, "/", [], []⟩ respond) with
      sweep := some (Coverage.Run.start (.whole 80) []) }
    v.isArgument = true ∧ (¬∃ x, v.toNumber = .ok x ∧ IsPercentage x) ∧ ¬Slips s.host.showDepth v ∧
      ∃ t, coverageOk (.default "/") "t.pl" (some v) ["/lib"] s = .ok none t ∧
        SweepRefused s t := by
  intro v respond s
  have bad : ¬∃ x, v.toNumber = .ok x ∧ IsPercentage x := by
    rintro ⟨x, reads, range⟩
    cases reads
    have below : Binary64.le (.infinite false) (.ofDecimal false 100 0) = false := by
      decide +kernel
    exact absurd range.2 (Bool.eq_false_iff.mp below)
  have caught : ¬Slips s.host.showDepth v := by
    intro slips
    cases slips with
    | notNumber reads => cases reads
    | tooLarge whole => exact Value.noConfusion whole
    | unwritable collection | nested collection => exact Value.noConfusion collection
  exact ⟨rfl, bad, caught,
    (bad_threshold_refused (.default "/") "t.pl" v ["/lib"] s rfl bad).1 caught⟩

/-- A threshold beyond all numbers is no percentage, and it is not refused. -/
theorem huge_threshold_not_refused :
    let v : Value := .integer (Nat.pow 10 400)
    let respond : Command.Respond := fun _ _ => .finished [] [] 0
    let s := Session.start (.plain ⟨.empty, "/", [], []⟩ respond)
    v.isArgument = true ∧ (¬∃ x, v.toNumber = .ok x ∧ IsPercentage x) ∧
      ¬∃ t, coverageOk (.default "/") "t.pl" (some v) [] s = .ok none t := by
  intro v respond s
  have large : Binary64.ofInt? (Nat.pow 10 400) = none := by decide +kernel
  have failed : v.toNumber = .error .integerTooLarge := by
    rw [Value.toNumber_integer, large]
    rfl
  refine ⟨rfl, ?_, ?_⟩
  · rintro ⟨x, reads, -⟩
    rw [failed] at reads
    cases reads
  · rintro ⟨t, answered⟩
    rw [coverageOk_of_uncaught _ _ _ (limitOf_error failed) rfl] at answered
    cases answered

end Checks

end PerlAudit
