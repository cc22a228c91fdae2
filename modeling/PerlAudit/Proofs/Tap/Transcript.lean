import Mathlib.Data.List.Induction
import PerlAudit.Session

/-!
Whole runs of a reporter. A transcript is what a reporter has become and everything it has said,
after any operations in any order. A plan with too many digits to be written is the one request that
can fault without being refused.
-/

namespace PerlAudit.Tap

/-- What can be asked of a reporter. -/
inductive Operation where
  | plan (tests : Tests)
  | ensurePlan
  | record (result : Result)
  | remark (message : Text)
  | isPassing
  | summary
  | finalize
  deriving DecidableEq, Repr

/-- What is heard of an answer. A fault says nothing. -/
def heard {α : Type} : Except Fault (List α) → List α
  | .ok answer => answer
  | .error _ => []

/-- The reporter after an operation, and what the operation says. -/
def Reporter.perform (r : Reporter) : Operation → Reporter × List Said
  | .plan tests => ((r.plan tests).1, heard (r.plan tests).2)
  | .ensurePlan => (r.ensurePlan, [])
  | .record result => r.record result
  | .remark message => (r, remarks message)
  | .isPassing => (r, [])
  | .summary => (r, [])
  | .finalize => (r.finalize.1, heard r.finalize.2)

structure Transcript where
  reporter : Reporter
  said : List Said
  deriving DecidableEq, Repr

namespace Transcript

def fresh : Transcript := ⟨.fresh, []⟩

def step (t : Transcript) (op : Operation) : Transcript :=
  ⟨(t.reporter.perform op).1, t.said ++ (t.reporter.perform op).2⟩

def after (ops : List Operation) : Transcript := ops.foldl step fresh

end Transcript

def Said.line? : Said → Option Line
  | line l => some l
  | remark _ => none

/-- The lines of the result stream. -/
def linesOf (said : List Said) : List Line := said.filterMap Said.line?

namespace Line

/-- The number of a result. -/
def number? : Line → Option Nat
  | plan _ => none
  | ok number _ => some number
  | notOk number _ => some number
  | skip number _ => some number

def isPlan : Line → Bool
  | plan _ => true
  | _ => false

def isNotOk : Line → Bool
  | notOk .. => true
  | _ => false

end Line

def Operation.result? : Operation → Option Result
  | record result => some result
  | _ => none

/-- The results that some operations record. -/
def recorded (ops : List Operation) : List Result := ops.filterMap Operation.result?

theorem recorded_append (early late : List Operation) :
    recorded (early ++ late) = recorded early ++ recorded late := List.filterMap_append

/-- The line of a result. -/
def Result.line (r : Result) (number : Nat) : Line :=
  match r.outcome with
  | .skip => .skip number r.remark?
  | .pass => .ok number r.label
  | .fail => .notOk number r.label

/-- The lines of results that are numbered from `first` on. -/
def numbered (first : Nat) : List Result → List Line
  | [] => []
  | r :: rest => r.line first :: numbered (first + 1) rest

theorem numbered_append (first : Nat) (early late : List Result) :
    numbered first (early ++ late) =
      numbered first early ++ numbered (first + early.length) late := by
  induction early generalizing first with
  | nil => rfl
  | cons r early ih =>
    simp only [List.cons_append, numbered, ih, List.length_cons]
    rw [show first + 1 + early.length = first + (early.length + 1) by omega]

theorem line_not_plan (r : Result) (number : Nat) : (r.line number).isPlan = false := by
  unfold Result.line
  split <;> rfl

theorem line_number (r : Result) (number : Nat) : (r.line number).number? = some number := by
  unfold Result.line
  split <;> rfl

/-- What no plan has is read off the results alone. -/
theorem filterMap_results {α : Type} {f : Line → Option α} (plans : ∀ n, f (.plan n) = none)
    (lines : List Line) : lines.filterMap f = (lines.filter (!·.isPlan)).filterMap f := by
  rw [List.filterMap_filter]
  congr 1
  funext l
  cases l with
  | plan n => exact plans n
  | ok | notOk | skip => rfl

theorem line_isNotOk (r : Result) (number : Nat) :
    (r.line number).isNotOk = (r.outcome == .fail) := by
  unfold Result.line
  cases r.outcome <;> rfl

theorem numbered_numbers (first : Nat) (results : List Result) :
    (numbered first results).filterMap Line.number? = List.range' first results.length := by
  induction results generalizing first with
  | nil => rfl
  | cons r rest ih =>
    rw [numbered, List.filterMap_cons_some (line_number r first), ih, List.length_cons,
      List.range'_succ]

theorem numbered_no_plan (first : Nat) (results : List Result) :
    ∀ l ∈ numbered first results, l.isPlan = false := by
  induction results generalizing first with
  | nil => simp [numbered]
  | cons r rest ih =>
    intro l member
    obtain rfl | member := List.mem_cons.mp member
    · exact line_not_plan r first
    · exact ih (first + 1) l member

theorem numbered_verdicts (first : Nat) (results : List Result) :
    (numbered first results).map Line.isNotOk = results.map (·.outcome == .fail) := by
  induction results generalizing first with
  | nil => rfl
  | cons r rest ih => simp only [numbered, List.map_cons, line_isNotOk, ih]

theorem linesOf_append (said more : List Said) :
    linesOf (said ++ more) = linesOf said ++ linesOf more := List.filterMap_append

theorem linesOf_remarks (message : Text) : linesOf (remarks message) = [] := by
  simp [linesOf, remarks, List.filterMap_map, Function.comp_def, Said.line?]

theorem mem_linesOf {said : List Said} {l : Line} : l ∈ linesOf said ↔ Said.line l ∈ said := by
  simp only [linesOf, List.mem_filterMap]
  constructor
  · rintro ⟨s, member, same⟩
    cases s with
    | line other => cases same; exact member
    | remark text => cases same
  · exact fun member => ⟨.line l, member, rfl⟩

theorem record_lines (r : Reporter) (result : Result) :
    linesOf (r.record result).2 = [result.line (r.count + 1)] := by
  unfold Reporter.record Result.line
  cases result.outcome with
  | skip => rfl
  | pass => rfl
  | fail =>
    have quiet : linesOf ((result.remark?.map remarks).getD []) = [] := by
      cases result.remark? with
      | none => rfl
      | some message => exact linesOf_remarks message
    change .notOk _ _ :: linesOf (remarks _ ++ _) = _
    rw [linesOf_append, linesOf_remarks, quiet]
    rfl

theorem linesOf_flatMap_remarks (messages : List Text) :
    linesOf (messages.flatMap remarks) = [] := by
  induction messages with
  | nil => rfl
  | cons message messages ih => rw [List.flatMap_cons, linesOf_append, linesOf_remarks, ih]; rfl

/-- What closing a run writes after some results, if no plan was declared. -/
def trailer (count : Nat) : List Line := if count = 0 then [] else [.plan (toString count)]

/-- Whether or not its messages can be written, closing a run writes a plan only if none was
declared. -/
theorem closing_lines (r : Reporter) :
    linesOf (heard r.closing) = if r.planned.isNone then trailer r.count else [] := by
  have trailing : linesOf (if r.planned.isNone && r.count != 0 then
      [.line (.plan (toString r.count))] else []) =
      if r.planned.isNone then trailer r.count else [] := by
    by_cases nothing : r.count = 0
    · simp [nothing, trailer, linesOf]
    · cases r.planned.isNone <;> simp [nothing, trailer, linesOf, Said.line?]
  unfold Reporter.closing
  cases told : r.closingMessages with
  | ok messages =>
    change linesOf (_ ++ messages.flatMap remarks) = _
    rw [linesOf_append, linesOf_flatMap_remarks, List.append_nil, trailing]
  | error fault =>
    -- Only a plan that was declared can keep the messages from being written.
    have declared : r.planned.isNone = false := by
      cases planned : r.planned with
      | none => simp [Reporter.closingMessages, Reporter.mismatch, planned, bind, Except.bind,
          pure, Except.pure] at told
      | some tests => rfl
    rw [declared]
    rfl

theorem integerText_error {n : Int} {fault : Fault} (h : Text.integerText n = .error fault) :
    fault = .integerUnwritable := by
  unfold Text.integerText at h
  cases written : Text.writeInteger? n with
  | some shown =>
    rw [written] at h
    cases h
  | none =>
    rw [written] at h
    cases h
    rfl

theorem Tests.shown_error {tests : Tests} {fault : Fault} (h : tests.shown = .error fault) :
    fault = .integerUnwritable := by
  cases tests with
  | number n =>
    rw [Tests.shown] at h
    exact integerText_error h
  | truth b => cases h

/-- What can become of a plan. -/
inductive Planning (r : Reporter) (tests : Tests) : Reporter × Except Fault (List Said) → Prop where
  | twice (planned : r.hasPlan = true) : Planning r tests (r, .error (.plan .twice))
  | late (unplanned : r.hasPlan = false) (counted : 0 < r.count) :
      Planning r tests (r, .error (.plan .late))
  | negative {shown : Text} (unplanned : r.hasPlan = false) (uncounted : r.count = 0)
      (below : tests.value < 0) (writable : tests.shown = .ok shown) :
      Planning r tests (r, .error (.plan (.negative shown)))
  | unwritable (unplanned : r.hasPlan = false) (uncounted : r.count = 0)
      (long : tests.shown = .error .integerUnwritable) :
      Planning r tests (if tests.value < 0 then r else { r with planned := some tests },
        .error .integerUnwritable)
  | declared {shown : Text} (unplanned : r.hasPlan = false) (uncounted : r.count = 0)
      (natural : 0 ≤ tests.value) (writable : tests.shown = .ok shown) :
      Planning r tests ({ r with planned := some tests }, .ok [.line (.plan shown)])

theorem plan_planning (r : Reporter) (tests : Tests) : Planning r tests (r.plan tests) := by
  unfold Reporter.plan
  cases planned : r.hasPlan with
  | true => exact .twice planned
  | false =>
    by_cases counted : r.count = 0
    · have uncounted : (r.count != 0) = false := by simp [counted]
      simp only [Bool.false_eq_true, if_false, uncounted]
      cases writable : tests.shown with
      | error fault =>
        obtain rfl := Tests.shown_error writable
        have outcome := Planning.unwritable planned counted writable
        by_cases below : tests.value < 0
        · rw [if_pos below] at outcome ⊢
          exact outcome
        · rw [if_neg below] at outcome ⊢
          exact outcome
      | ok shown =>
        by_cases below : tests.value < 0
        · rw [if_pos below]
          exact .negative planned counted below writable
        · rw [if_neg below]
          exact .declared planned counted (by omega) writable
    · have late : (r.count != 0) = true := by simp [counted]
      simp only [Bool.false_eq_true, if_false, late, if_true]
      exact .late planned (Nat.pos_of_ne_zero counted)

/-- A plan that can be written is refused exactly if one is in force, if a result came before it or
if it is negative. -/
theorem plan_refused_iff (r : Reporter) {tests : Tests} {shown : Text}
    (writable : tests.shown = .ok shown) :
    (∃ cause, (r.plan tests).2 = .error (.plan cause)) ↔
      r.hasPlan = true ∨ 0 < r.count ∨ tests.value < 0 := by
  generalize planning : r.plan tests = answer
  have outcome := planning ▸ plan_planning r tests
  cases outcome with
  | twice planned => simp [planned]
  | late unplanned counted => simp [counted]
  | negative unplanned uncounted below => simp [below]
  | unwritable unplanned uncounted long => simp [writable] at long
  | declared unplanned uncounted natural => simp [unplanned, uncounted, natural]

/-- A plan that is refused changes nothing. -/
theorem plan_of_refused {r : Reporter} {tests : Tests} {cause : PlanFault}
    (refused : (r.plan tests).2 = .error (.plan cause)) : (r.plan tests).1 = r := by
  generalize planning : r.plan tests = answer at refused ⊢
  have outcome := planning ▸ plan_planning r tests
  cases outcome with
  | twice | late | negative => rfl
  | unwritable | declared => cases refused

theorem plan_of_hasPlan {r : Reporter} (planned : r.hasPlan = true) (tests : Tests) :
    r.plan tests = (r, .error (.plan .twice)) := by
  simp [Reporter.plan, planned]

/-- How the lines of a run lie, by the plan that was declared and whether the run was closed. A
declared plan is the first line if it could be written. Without one, closing wrote how many results
there were early on; others may have come late. -/
inductive Layout (results : List Result) : Option Tests → Bool → List Line → Prop where
  | declared {tests : Tests} {shown : Text} (writable : tests.shown = .ok shown)
      (finalized : Bool) :
      Layout results (some tests) finalized (.plan shown :: numbered 1 results)
  | unwritten {tests : Tests} {fault : Fault} (long : tests.shown = .error fault)
      (finalized : Bool) : Layout results (some tests) finalized (numbered 1 results)
  | running : Layout results none false (numbered 1 results)
  | closed (early late : List Result) (split : results = early ++ late) :
      Layout results none true
        (numbered 1 early ++ trailer early.length ++ numbered (early.length + 1) late)

theorem Layout.record {results : List Result} {planned : Option Tests} {finalized : Bool}
    {lines : List Line} (h : Layout results planned finalized lines) (r : Result) :
    Layout (results ++ [r]) planned finalized (lines ++ [r.line (results.length + 1)]) := by
  have last (first : Nat) (rs : List Result) :
      numbered first rs ++ [r.line (rs.length + first)] = numbered first (rs ++ [r]) := by
    rw [numbered_append, Nat.add_comm]
    rfl
  cases h with
  | declared writable =>
    rw [List.cons_append, last 1]
    exact .declared writable finalized
  | unwritten long =>
    rw [last 1]
    exact .unwritten long finalized
  | running =>
    rw [last 1]
    exact .running
  | closed early late split =>
    subst split
    rw [List.length_append, List.append_assoc, List.append_assoc,
      show early.length + late.length + 1 = late.length + (early.length + 1) by omega, last,
      ← List.append_assoc]
    exact .closed early (late ++ [r]) (by simp)

theorem Layout.finalize {results : List Result} {planned : Option Tests} {lines : List Line}
    (h : Layout results planned false lines) :
    Layout results planned true
      (lines ++ if planned.isNone then trailer results.length else []) := by
  cases h with
  | declared writable => simpa using Layout.declared writable true
  | unwritten long => simpa using Layout.unwritten long true
  | running => simpa [numbered] using Layout.closed results [] (by simp)

/-- Before the first result nothing is written but a declared plan. -/
theorem Layout.nothing {finalized : Bool} {lines : List Line}
    (h : Layout [] none finalized lines) : lines = [] := by
  cases h with
  | running => rfl
  | closed early late split =>
    obtain ⟨rfl, rfl⟩ : early = [] ∧ late = [] := by simpa using split.symm
    rfl

theorem Layout.plans {results : List Result} {planned : Option Tests} {finalized : Bool}
    {lines : List Line} (h : Layout results planned finalized lines) :
    lines.countP Line.isPlan ≤ 1 := by
  have planless (first : Nat) (rs : List Result) :
      (numbered first rs).countP Line.isPlan = 0 := by
    apply List.countP_eq_zero.mpr
    intro l member
    simp [numbered_no_plan first rs l member]
  cases h with
  | declared => exact Nat.le_of_eq (by rw [List.countP_cons_of_pos rfl, planless])
  | unwritten | running => simp [planless]
  | closed early late split =>
    have once : (trailer early.length).countP Line.isPlan ≤ 1 := by
      unfold trailer
      split <;> simp [Line.isPlan]
    simpa [planless] using once

/-- Without its plans a stream is the results, numbered from one. -/
theorem Layout.results {results : List Result} {planned : Option Tests} {finalized : Bool}
    {lines : List Line} (h : Layout results planned finalized lines) :
    lines.filter (!·.isPlan) = numbered 1 results := by
  have all (first : Nat) (rs : List Result) :
      (numbered first rs).filter (!·.isPlan) = numbered first rs := by
    apply List.filter_eq_self.mpr
    intro l member
    simp [numbered_no_plan first rs l member]
  cases h with
  | declared => rw [List.filter_cons_of_neg (by simp [Line.isPlan]), all]
  | unwritten | running => simp [all]
  | closed early late split =>
    have drops : (trailer early.length).filter (!·.isPlan) = [] := by
      unfold trailer
      split <;> rfl
    subst split
    simp [all, drops, numbered_append, Nat.add_comm]

/-- What every run keeps to. -/
structure Coherent (ops : List Operation) (t : Transcript) : Prop where
  total : t.reporter.count = t.reporter.passed + t.reporter.failed + t.reporter.skipped
  counted : t.reporter.count = (recorded ops).length
  failures : t.reporter.failed = (recorded ops).countP (·.outcome == .fail)
  exclusive : t.reporter.planned.isSome = true → t.reporter.noPlan = false
  closed : t.reporter.finalized = true ↔ .finalize ∈ ops
  layout : Layout (recorded ops) t.reporter.planned t.reporter.finalized (linesOf t.said)

theorem recorded_concat (ops : List Operation) (op : Operation) :
    recorded (ops ++ [op]) = recorded ops ++ op.result?.toList := by
  cases h : op.result? <;> simp [recorded, h]

/-- An operation that neither records nor closes counts for nothing by itself. -/
theorem Coherent.idle {ops : List Operation} {t : Transcript} (h : Coherent ops t) {op : Operation}
    (records : op.result? = none) (closes : op ≠ .finalize) : Coherent (ops ++ [op]) t := by
  have same : recorded (ops ++ [op]) = recorded ops := by simp [recorded_concat, records]
  have closed : Operation.finalize ∈ ops ++ [op] ↔ .finalize ∈ ops := by simp [Ne.symm closes]
  exact ⟨h.total, same ▸ h.counted, same ▸ h.failures, h.exclusive, h.closed.trans closed.symm,
    same ▸ h.layout⟩

/-- Nothing is written before a plan is declared or a result is recorded. -/
theorem Coherent.unwritten {ops : List Operation} {t : Transcript} (h : Coherent ops t)
    (unplanned : t.reporter.hasPlan = false) (uncounted : t.reporter.count = 0) :
    linesOf t.said = [] := by
  have undeclared : t.reporter.planned = none := by simp_all [Reporter.hasPlan]
  have empty : recorded ops = [] := List.eq_nil_of_length_eq_zero (h.counted ▸ uncounted)
  have layout := h.layout
  rw [empty, undeclared] at layout
  exact layout.nothing

theorem Coherent.plan {ops : List Operation} {t : Transcript} (h : Coherent ops t)
    (tests : Tests) : Coherent (ops ++ [.plan tests]) (t.step (.plan tests)) := by
  have idle : Coherent (ops ++ [.plan tests]) t := h.idle rfl (by simp)
  have declares {said : List Said} (unplanned : t.reporter.hasPlan = false)
      (uncounted : t.reporter.count = 0)
      (layout : ∀ finalized, Layout [] (some tests) finalized (linesOf said)) :
      Coherent (ops ++ [.plan tests])
        ⟨{ t.reporter with planned := some tests }, t.said ++ said⟩ := by
    have planless : t.reporter.noPlan = false := by simp_all [Reporter.hasPlan]
    have empty : recorded (ops ++ [.plan tests]) = [] :=
      List.eq_nil_of_length_eq_zero (idle.counted ▸ uncounted)
    refine ⟨idle.total, idle.counted, idle.failures, fun _ => planless, idle.closed, ?_⟩
    rw [empty, linesOf_append, h.unwritten unplanned uncounted]
    exact layout _
  simp only [Transcript.step, Reporter.perform]
  generalize planning : t.reporter.plan tests = answer
  have outcome := planning ▸ plan_planning t.reporter tests
  cases outcome with
  | twice | late | negative => simpa [heard] using idle
  | unwritable unplanned uncounted long =>
    by_cases below : tests.value < 0
    · simpa [heard, below] using idle
    · rw [if_neg below]
      exact declares unplanned uncounted fun finalized => .unwritten long finalized
  | declared unplanned uncounted natural writable =>
    exact declares unplanned uncounted fun finalized => .declared writable finalized

theorem Coherent.ensurePlan {ops : List Operation} {t : Transcript} (h : Coherent ops t) :
    Coherent (ops ++ [.ensurePlan]) (t.step .ensurePlan) := by
  have idle : Coherent (ops ++ [.ensurePlan]) t := h.idle rfl (by simp)
  simp only [Transcript.step, Reporter.perform, Reporter.ensurePlan, List.append_nil]
  split
  · exact idle
  · rename_i unplanned
    have undeclared : t.reporter.planned = none := by simp_all [Reporter.hasPlan]
    exact ⟨idle.total, idle.counted, idle.failures, by simp [undeclared], idle.closed, idle.layout⟩

theorem Coherent.remark {ops : List Operation} {t : Transcript} (h : Coherent ops t)
    (message : Text) : Coherent (ops ++ [.remark message]) (t.step (.remark message)) := by
  have idle : Coherent (ops ++ [.remark message]) t := h.idle rfl (by simp)
  refine ⟨idle.total, idle.counted, idle.failures, idle.exclusive, idle.closed, ?_⟩
  simpa only [Transcript.step, Reporter.perform, linesOf_append, linesOf_remarks,
    List.append_nil] using idle.layout

theorem Coherent.finalize {ops : List Operation} {t : Transcript} (h : Coherent ops t) :
    Coherent (ops ++ [.finalize]) (t.step .finalize) := by
  have same : recorded (ops ++ [.finalize]) = recorded ops := by
    simp [recorded_concat, Operation.result?]
  simp only [Transcript.step, Reporter.perform, Reporter.finalize]
  cases closed : t.reporter.finalized with
  | true =>
    simp only [if_true, heard, List.append_nil]
    exact ⟨h.total, same ▸ h.counted, same ▸ h.failures, h.exclusive, by simp [closed],
      same ▸ h.layout⟩
  | false =>
    simp only [Bool.false_eq_true, if_false]
    refine ⟨h.total, same ▸ h.counted, same ▸ h.failures, h.exclusive, by simp, ?_⟩
    rw [same, linesOf_append, closing_lines, h.counted]
    exact (closed ▸ h.layout).finalize

/-- A result is counted once, and neither plans nor closes a run. -/
theorem record_counters (r : Reporter) (result : Result) :
    (r.record result).1.count = r.count + 1 ∧
    (r.record result).1.passed + (r.record result).1.failed + (r.record result).1.skipped =
      r.passed + r.failed + r.skipped + 1 ∧
    (r.record result).1.failed = r.failed + [result].countP (·.outcome == .fail) ∧
    (r.record result).1.planned = r.planned ∧ (r.record result).1.noPlan = r.noPlan ∧
    (r.record result).1.finalized = r.finalized := by
  unfold Reporter.record
  cases outcome : result.outcome <;> simp [outcome] <;> omega

theorem Coherent.record {ops : List Operation} {t : Transcript} (h : Coherent ops t)
    (result : Result) : Coherent (ops ++ [.record result]) (t.step (.record result)) := by
  have more : recorded (ops ++ [.record result]) = recorded ops ++ [result] := by
    simp [recorded_concat, Operation.result?]
  obtain ⟨count, total, failed, planned, noPlan, finalized⟩ := record_counters t.reporter result
  simp only [Transcript.step, Reporter.perform]
  constructor
  · rw [count, total, h.total]
  · rw [count, more, h.counted, List.length_append, List.length_singleton]
  · rw [failed, more, h.failures, List.countP_append]
  · rw [planned, noPlan]
    exact h.exclusive
  · simp [finalized, h.closed]
  · rw [more, planned, finalized, linesOf_append, record_lines, h.counted]
    exact h.layout.record result

theorem Coherent.step {ops : List Operation} {t : Transcript} (h : Coherent ops t)
    (op : Operation) : Coherent (ops ++ [op]) (t.step op) := by
  cases op with
  | plan tests => exact h.plan tests
  | ensurePlan => exact h.ensurePlan
  | record result => exact h.record result
  | remark message => exact h.remark message
  | isPassing | summary =>
    simpa [Transcript.step, Reporter.perform] using h.idle rfl (by simp)
  | finalize => exact h.finalize

theorem after_concat (ops : List Operation) (op : Operation) :
    Transcript.after (ops ++ [op]) = (Transcript.after ops).step op := by
  simp [Transcript.after]

theorem after_coherent (ops : List Operation) : Coherent ops (Transcript.after ops) := by
  induction ops using List.reverseRecOn with
  | nil => exact ⟨rfl, rfl, rfl, by simp [Transcript.after, Transcript.fresh, Reporter.fresh],
      by simp [Transcript.after, Transcript.fresh, Reporter.fresh], .running⟩
  | append_singleton ops op ih =>
    rw [after_concat]
    exact ih.step op

theorem step_planned {t : Transcript} {tests : Tests} (declared : t.reporter.planned = some tests)
    (op : Operation) : (t.step op).reporter.planned = some tests := by
  cases op with
  | plan other =>
    have twice := plan_of_hasPlan (r := t.reporter) (by simp [Reporter.hasPlan, declared]) other
    simpa only [Transcript.step, Reporter.perform, twice] using declared
  | ensurePlan =>
    have planned : t.reporter.hasPlan = true := by simp [Reporter.hasPlan, declared]
    simpa [Transcript.step, Reporter.perform, Reporter.ensurePlan, planned] using declared
  | record result => exact (record_counters t.reporter result).2.2.2.1.trans declared
  | remark | isPassing | summary => exact declared
  | finalize =>
    simp only [Transcript.step, Reporter.perform, Reporter.finalize]
    split <;> exact declared

/-- A plan that was declared is never given up. -/
theorem planned_persists {t : Transcript} {tests : Tests}
    (declared : t.reporter.planned = some tests) (later : List Operation) :
    (later.foldl Transcript.step t).reporter.planned = some tests := by
  induction later generalizing t with
  | nil => exact declared
  | cons op later ih => exact ih (step_planned declared op)

theorem step_hasPlan {t : Transcript} (h : t.reporter.hasPlan = true) (op : Operation) :
    (t.step op).reporter.hasPlan = true := by
  cases op with
  | plan tests =>
    simpa only [Transcript.step, Reporter.perform, plan_of_hasPlan h] using h
  | ensurePlan => simp [Transcript.step, Reporter.perform, Reporter.ensurePlan, h]
  | record result =>
    obtain ⟨-, -, -, planned, noPlan, -⟩ := record_counters t.reporter result
    simpa only [Transcript.step, Reporter.perform, Reporter.hasPlan, planned, noPlan] using h
  | remark | isPassing | summary => exact h
  | finalize =>
    simp only [Transcript.step, Reporter.perform, Reporter.finalize]
    split <;> exact h

/-- Once a run has a plan or does without, it is settled, and every later plan is refused. -/
theorem plan_refused_later {t : Transcript} (h : t.reporter.hasPlan = true)
    (later : List Operation) (tests : Tests) :
    ((later.foldl Transcript.step t).reporter.plan tests).2 = .error (.plan .twice) := by
  induction later generalizing t with
  | nil => exact congrArg Prod.snd (plan_of_hasPlan h tests)
  | cons op later ih => exact ih (step_hasPlan h op)

/-- Who writes a plan: an operation that declares it, while the stream is empty, or the one that
first closes the run, with the count so far. -/
theorem plan_written {ops : List Operation} {t : Transcript} (h : Coherent ops t) {op : Operation}
    {shown : Text} (written : .line (.plan shown) ∈ (t.reporter.perform op).2) :
    (∃ tests, op = .plan tests ∧ tests.shown = .ok shown ∧ linesOf t.said = [] ∧
      (t.step op).reporter.planned = some tests) ∨
    (op = .finalize ∧ shown = toString t.reporter.count) := by
  cases op with
  | plan tests =>
    left
    refine ⟨tests, rfl, ?_⟩
    simp only [Transcript.step, Reporter.perform] at written ⊢
    generalize planning : t.reporter.plan tests = answer at written ⊢
    have outcome := planning ▸ plan_planning t.reporter tests
    cases outcome with
    | twice | late | negative | unwritable => cases written
    | declared unplanned uncounted natural writable =>
      obtain rfl : shown = _ := by simpa [heard] using written
      exact ⟨writable, h.unwritten unplanned uncounted, rfl⟩
  | ensurePlan | isPassing | summary => simp [Reporter.perform] at written
  | record result =>
    rw [← mem_linesOf] at written
    simp only [Reporter.perform, record_lines, List.mem_singleton] at written
    have := line_not_plan result (t.reporter.count + 1)
    simp [← written, Line.isPlan] at this
  | remark message =>
    rw [← mem_linesOf] at written
    simp [Reporter.perform, linesOf_remarks] at written
  | finalize =>
    right
    refine ⟨rfl, ?_⟩
    rw [← mem_linesOf] at written
    simp only [Reporter.perform, Reporter.finalize] at written
    split at written
    · cases written
    · rw [closing_lines] at written
      simp only [trailer] at written
      split at written
      · split at written <;> simp_all
      · cases written

/-- Closing a run for the first time faults exactly if it did not go as planned and the plan cannot
be written. -/
theorem closing_error_iff (r : Reporter) (fault : Fault) :
    r.closing = .error fault ↔ fault = .integerUnwritable ∧ ∃ tests, r.planned = some tests ∧
      tests.value ≠ r.count ∧ tests.shown = .error .integerUnwritable := by
  have messages : (∃ said, r.closing = .ok said) ∧ (∃ told, r.mismatch = .ok told) ∨
      ∃ fault, r.closing = .error fault ∧ r.mismatch = .error fault := by
    unfold Reporter.closing Reporter.closingMessages
    cases r.mismatch with
    | ok told => exact .inl ⟨⟨_, rfl⟩, told, rfl⟩
    | error fault => exact .inr ⟨fault, rfl, rfl⟩
  have told : r.mismatch = .error fault ↔ fault = .integerUnwritable ∧ ∃ tests,
      r.planned = some tests ∧ tests.value ≠ r.count ∧
        tests.shown = .error .integerUnwritable := by
    unfold Reporter.mismatch
    cases r.planned with
    | none => simp
    | some tests =>
      by_cases kept : tests.value = r.count
      · simp [kept]
      · simp only [if_neg kept, Option.some.injEq]
        cases writable : tests.shown with
        | ok shown =>
          simp only [bind, Except.bind, pure, Except.pure]
          simp [writable]
        | error cause =>
          obtain rfl := Tests.shown_error writable
          constructor
          · intro same
            cases same
            exact ⟨rfl, tests, rfl, kept, writable⟩
          · rintro ⟨rfl, -⟩
            rfl
  obtain ⟨⟨said, closes⟩, other, tells⟩ | ⟨cause, closes, tells⟩ := messages
  · rw [← told, closes, tells]
    simp
  · rw [← told, closes, tells, Except.error.injEq, Except.error.injEq]

/-- The account a reporter has kept after some operations. -/
structure KeepsAccount (ops : List Operation) (t : Transcript) : Prop where
  total : t.reporter.count = t.reporter.passed + t.reporter.failed + t.reporter.skipped
  counted : t.reporter.count = (recorded ops).length
  /-- Results are numbered from one. -/
  numbers : (linesOf t.said).filterMap Line.number? = List.range' 1 t.reporter.count
  /-- The stream tells which results failed. -/
  failures : ((linesOf t.said).filter (!·.isPlan)).map Line.isNotOk =
    (recorded ops).map (·.outcome == .fail)
  plans : (linesOf t.said).countP Line.isPlan ≤ 1
  /-- A plan is written by declaring it, before anything else, or by closing the run. -/
  written : ∀ (op : Operation) (shown : Text), .line (.plan shown) ∈ (t.reporter.perform op).2 →
    (∃ tests, op = .plan tests ∧ tests.shown = .ok shown ∧ linesOf t.said = [] ∧
      ∀ later, (Transcript.after (ops ++ op :: later)).reporter.planned = some tests) ∨
    (op = .finalize ∧ shown = toString t.reporter.count)
  exclusive : ¬(t.reporter.planned.isSome = true ∧ t.reporter.noPlan = true)
  /-- When a plan that can be written is refused. -/
  refused : ∀ (tests : Tests) (shown : Text), tests.shown = .ok shown →
    ((∃ cause, (t.reporter.plan tests).2 = .error (.plan cause)) ↔
      t.reporter.hasPlan = true ∨ 0 < t.reporter.count ∨ tests.value < 0)
  /-- A plan that is refused changes nothing. -/
  unchanged : ∀ (tests : Tests) (cause : PlanFault),
    (t.reporter.plan tests).2 = .error (.plan cause) → t.step (.plan tests) = t ∧
      ∀ s : Session, s.reporter = t.reporter → Audit.plan tests s = .error (.plan cause) s
  /-- A plan that cannot be written is refused if one is in force or a result came before it.
  Otherwise it faults; no line is written, and it is in force all the same unless it is negative. -/
  unwritable : ∀ tests : Tests, tests.shown = .error .integerUnwritable →
    ((∃ cause, (t.reporter.plan tests).2 = .error (.plan cause)) ↔
      t.reporter.hasPlan = true ∨ 0 < t.reporter.count) ∧
    (t.reporter.hasPlan = false → t.reporter.count = 0 → t.reporter.plan tests =
      (if tests.value < 0 then t.reporter else { t.reporter with planned := some tests },
        .error .integerUnwritable))
  /-- Closing a run again says nothing and does not fault. -/
  closedAgain : .finalize ∈ ops → t.reporter.finalize.2 = .ok []
  /-- When the first closing of a run faults. -/
  closing : .finalize ∉ ops → ∀ fault, t.reporter.finalize.2 = .error fault ↔
    fault = .integerUnwritable ∧ ∃ tests, t.reporter.planned = some tests ∧
      tests.value ≠ t.reporter.count ∧ tests.shown = .error .integerUnwritable

theorem plan_unwritable (r : Reporter) {tests : Tests}
    (long : tests.shown = .error .integerUnwritable) :
    ((∃ cause, (r.plan tests).2 = .error (.plan cause)) ↔ r.hasPlan = true ∨ 0 < r.count) ∧
    (r.hasPlan = false → r.count = 0 → r.plan tests =
      (if tests.value < 0 then r else { r with planned := some tests },
        .error .integerUnwritable)) := by
  generalize planning : r.plan tests = answer
  have outcome := planning ▸ plan_planning r tests
  cases outcome with
  | twice planned => simp [planned]
  | late unplanned counted => simp [counted, Nat.ne_of_gt counted]
  | negative _ _ _ writable | declared _ _ _ writable => simp [writable] at long
  | unwritable unplanned uncounted =>
    refine ⟨?_, fun _ _ => rfl⟩
    simp [unplanned, uncounted]

/-- A turn of the reporter that faults leaves the session as it is but for the reporter. -/
theorem report_of_error {turn : Reporter → Reporter × Except Fault (List Said)} {s : Session}
    {fault : Fault} (h : (turn s.reporter).2 = .error fault) :
    Audit.report turn s = .error fault { s with reporter := (turn s.reporter).1 } := by
  unfold Audit.report
  change (Audit.lift (turn s.reporter).2 >>= fun said => modify fun s =>
    s.tell (said.map Event.said)) { s with reporter := (turn s.reporter).1 } = _
  rw [h]
  rfl

theorem report_of_ok {turn : Reporter → Reporter × Except Fault (List Said)} {s : Session}
    {said : List Said} (h : (turn s.reporter).2 = .ok said) :
    Audit.report turn s =
      .ok () { s.tell (said.map .said) with reporter := (turn s.reporter).1 } := by
  unfold Audit.report
  change (Audit.lift (turn s.reporter).2 >>= fun said => modify fun s =>
    s.tell (said.map Event.said)) { s with reporter := (turn s.reporter).1 } = _
  rw [h]
  rfl

/-- The account a reporter keeps, whatever is asked of it and in whatever order. Each result is
counted once, and the stream numbers the results from one and tells which failed. At most one plan
is written: by the operation that declares it, before anything else, or else by closing the run.
No run both has a plan and does without. A plan that can be written is refused exactly if one is in
force, if a result came before it or if it is negative; then everything stays as it is. Closing a
run again says nothing. -/
theorem reporter_keeps_account (ops : List Operation) :
    KeepsAccount ops (Transcript.after ops) := by
  have h : Coherent ops (Transcript.after ops) := after_coherent ops
  constructor
  case total => exact h.total
  case counted => exact h.counted
  case numbers => rw [filterMap_results (fun _ => rfl), h.layout.results, numbered_numbers,
    h.counted]
  case failures => rw [h.layout.results, numbered_verdicts]
  case plans => exact h.layout.plans
  case written =>
    intro op shown written
    obtain ⟨tests, declares, writable, empty, planned⟩ | closes := plan_written h written
    · refine .inl ⟨tests, declares, writable, empty, fun later => ?_⟩
      rw [Transcript.after, List.foldl_append]
      exact planned_persists planned later
    · exact .inr closes
  case exclusive =>
    rintro ⟨declared, planless⟩
    simp [h.exclusive declared] at planless
  case refused => exact fun tests shown writable => plan_refused_iff _ writable
  case unchanged =>
    intro tests cause refused
    have same := plan_of_refused refused
    refine ⟨by simp [Transcript.step, Reporter.perform, refused, same, heard], fun s held => ?_⟩
    rw [← held] at refused same
    rw [Audit.plan, report_of_error refused, same]
  case unwritable => exact fun tests long => plan_unwritable _ long
  case closedAgain =>
    intro closed
    simp [Reporter.finalize, h.closed.mpr closed]
  case closing =>
    intro still fault
    have unclosed : (Transcript.after ops).reporter.finalized = false := by
      simpa using mt h.closed.mp still
    rw [← closing_error_iff]
    simp [Reporter.finalize, unclosed]

theorem shown_tooLong {n : Int} (long : Text.tooLong ≤ n.natAbs) :
    (Tests.number n).shown = .error .integerUnwritable := by
  have unwritten : Text.writeInteger? n = none := by
    rw [Text.writeInteger?, if_neg (Nat.not_lt.mpr long)]
  rw [Tests.shown, Text.integerText, unwritten]

/-- A plan need not be written as a number, and a negative one need not be refused: a truth value is
written as a word, and a number of too many digits faults, whether it is then in force or not. -/
theorem plan_without_number :
    Reporter.fresh.plan (.truth true) =
      ({ Reporter.fresh with planned := some (.truth true) }, .ok [.line (.plan "True")]) ∧
    Reporter.fresh.plan (.number (-Text.tooLong)) = (.fresh, .error .integerUnwritable) ∧
    Reporter.fresh.plan (.number Text.tooLong) =
      ({ Reporter.fresh with planned := some (.number Text.tooLong) },
        .error .integerUnwritable) := by
  have positive : 0 < Text.tooLong := by decide +kernel
  have large : (Tests.number Text.tooLong).shown = .error .integerUnwritable :=
    shown_tooLong (by simp)
  have small : (Tests.number (-Text.tooLong)).shown = .error .integerUnwritable :=
    shown_tooLong (by simp)
  refine ⟨rfl, ?_, ?_⟩
  · rw [(plan_unwritable .fresh small).2 rfl rfl, if_pos]
    change -(Text.tooLong : Int) < 0
    omega
  · rw [(plan_unwritable .fresh large).2 rfl rfl, if_neg]
    change ¬(Text.tooLong : Int) < 0
    omega

end PerlAudit.Tap
