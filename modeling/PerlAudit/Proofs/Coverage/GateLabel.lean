import PerlAudit.Proofs.Coverage.Protocol
import PerlAudit.Proofs.Coverage.TotalLine
import PerlAudit.Proofs.Number.Readback

namespace PerlAudit

open Text

namespace Number.Binary64

/-- The text of a number holds no percent sign. -/
theorem spell_no_percent (layout : Layout) (digits : Magnitude → Written) (x : Binary64) :
    '%' ∉ (x.spell layout digits).toList := by
  cases x with
  | nan => exact (by decide : '%' ∉ "nan".toList)
  | infinite negative =>
    have sign (negative : Bool) : '%' ∉ (signText negative "inf".toList).toList := by
      cases negative <;> decide
    exact sign negative
  | finite negative m =>
    have means := layout.write_means (digits m)
    have body : '%' ∉ layout.write (digits m) := fun member =>
      absurd (means.written _ member) (by decide)
    rw [spell, signText_toList]
    cases negative with
    | false => exact body
    | true => simpa [signed] using body

theorem brief_no_percent (x : Binary64) : '%' ∉ x.brief.toList := by
  unfold brief
  split
  · exact spell_no_percent _ _ x
  · exact spell_no_percent _ _ x

end Number.Binary64

namespace Coverage

open Number Audit
open Command (Call)
open Tap (Result)

/-- The label of the gate: what was measured, and what was asked for. -/
def gateLabel (shown limit : Text) : Text := "coverage = " ++ shown ++ "% >= " ++ limit ++ "%"

/-- The figures of a total are figures. -/
theorem totalText?_figures {report : Text} {figures : String}
    (found : totalText? report = some figures) : ∀ c ∈ figures.toList, isFigure c = true := by
  rw [totalText?, firstTotal?_eq_lines] at found
  obtain ⟨chars, first, rfl⟩ := Option.map_eq_some_iff.mp found
  obtain ⟨line, -, here⟩ := List.exists_of_findSome?_eq_some first
  obtain ⟨remainder, -, read⟩ := lineFigures?_eq_some_iff.mp here
  rw [String.toList_ofList]
  exact read.all

/-- There are two percent signs in a label, and they tell where its numbers are. -/
theorem gateLabel_inj {shown limit shown' limit' : Text} (shownClean : CodePoint.char '%' ∉ shown)
    (limitClean : CodePoint.char '%' ∉ limit)
    (same : gateLabel shown limit = gateLabel shown' limit') : shown = shown' ∧ limit = limit' := by
  have signs (a b : Text) : (gateLabel a b).count (.char '%') =
      a.count (.char '%') + b.count (.char '%') + 2 := by
    have lead : (ofString "coverage = ").count (.char '%') = 0 := by decide
    have middle : (ofString "% >= ").count (.char '%') = 1 := by decide
    have last : (ofString "%").count (.char '%') = 1 := by decide
    rw [gateLabel]
    simp only [List.count_append, lead, middle, last]
    omega
  have counted := congrArg (List.count (.char '%')) same
  rw [signs, signs, List.count_eq_zero.mpr shownClean, List.count_eq_zero.mpr limitClean] at counted
  have shownClean' : CodePoint.char '%' ∉ shown' := List.count_eq_zero.mp (by omega)
  have limitClean' : CodePoint.char '%' ∉ limit' := List.count_eq_zero.mp (by omega)
  have parts {a b : Text} (first : CodePoint.char '%' ∉ a) (second : CodePoint.char '%' ∉ b) :
      splitAt (.char '%') (gateLabel a b) =
        [ofString "coverage = " ++ a, ofString " >= " ++ b, []] := by
    have lead : CodePoint.char '%' ∉ ofString "coverage = " ++ a :=
      List.not_mem_append (by decide) first
    have middle : CodePoint.char '%' ∉ ofString " >= " ++ b :=
      List.not_mem_append (by decide) second
    have label : gateLabel a b = (ofString "coverage = " ++ a) ++
        .char '%' :: ((ofString " >= " ++ b) ++ .char '%' :: []) := by
      simp [gateLabel, ofString, ofChars]
    rw [label, splitAt_part _ lead, splitAt_part _ middle]
    rfl
  have split := congrArg (splitAt (CodePoint.char '%')) same
  rw [parts shownClean limitClean, parts shownClean' limitClean'] at split
  simp only [List.cons.injEq, List.append_cancel_left_eq, and_true] at split
  exact split

/-- The label holds the figures of the report and the brief text of the threshold. -/
theorem gateResult_label {run : Run} {x total : Binary64} {gate : Result}
    (asked : run.threshold = .real x) (read : run.total = total? run.report)
    (measured : run.total = some total) (judged : gateResult run = .ok gate) :
    ∃ figures : String, totalText? run.report = some figures ∧
      Binary64.parse? figures.toList = some total ∧ gate.label = gateLabel figures x.brief := by
  obtain ⟨figures, found, value⟩ : ∃ figures, totalText? run.report = some figures ∧
      Binary64.parse? figures.toList = some total := by
    rw [read, total?] at measured
    exact Option.bind_eq_some_iff.mp measured
  refine ⟨figures, found, value, ?_⟩
  have limit : run.threshold.text = .ok x.brief := by rw [asked]; rfl
  unfold gateResult at judged
  rw [limit, measured, found] at judged
  cases passed : run.passed with
  | true =>
    simp only [passed, if_true] at judged
    cases judged
    rfl
  | false =>
    simp only [passed, Bool.false_eq_true, if_false] at judged
    cases judged
    rfl

/-- However a label is taken apart into two numbers, they are the total and the threshold. -/
theorem gateLabel_reads {report shown limit : Text} {figures : String} {total x : Binary64}
    (found : totalText? report = some figures) (value : Binary64.parse? figures.toList = some total)
    (label : gateLabel figures x.brief = gateLabel shown limit) :
    Binary64.parse? shown.chars = some total ∧ Binary64.parse? limit.chars = some x := by
  have figuresClean : CodePoint.char '%' ∉ ofString figures := by
    intro member
    obtain ⟨c, inside, same⟩ := List.mem_map.mp member
    cases same
    exact absurd (totalText?_figures found _ inside) (by decide)
  have limitClean : CodePoint.char '%' ∉ ofString x.brief := by
    intro member
    obtain ⟨c, inside, same⟩ := List.mem_map.mp member
    cases same
    exact x.brief_no_percent inside
  have chars (t : String) : (ofString t).chars = t.toList := by
    simp [ofString, ofChars, Text.chars, Function.comp_def, CodePoint.shown]
  obtain ⟨rfl, rfl⟩ := gateLabel_inj figuresClean limitClean label
  rw [chars, chars]
  exact ⟨value, x.parse?_brief⟩

/-- Let a sweep come to a report with a total. Whatever number the threshold is, the last result of
the sweep has a label that can be taken apart into two numbers, in one way only. They are read as
the total and as the threshold, and the result is a pass exactly if the first reaches the second. -/
theorem gate_label_tells_outcome (perl : Text) {tool : Text} (x : Binary64) (targets : List Text)
    (s : Session) {total : Binary64} (named : tool ≠ [])
    (reset : (s.host.answer s.requests (resetCall tool)).isOk = true)
    (measured : total? (reportOf (reportAnswer s perl tool targets)) = some total) :
    ∃ run results gate,
      Does (sweep perl (some tool) (.real x) targets) s run
        ((course perl tool targets).map Call.request) (results ++ [gate]) ∧
      run.total = some total ∧ run.threshold = .real x ∧
      (∃ shown limit, gate.label = gateLabel shown limit) ∧
      (∀ shown limit, gate.label = gateLabel shown limit →
        Binary64.parse? shown.chars = some total ∧ Binary64.parse? limit.chars = some x) ∧
      gate.outcome = if x.le total then .pass else .fail := by
  let answers := scriptAnswers s perl tool targets
  let report := reportAnswer s perl tool targets
  let run := gathered (.real x) targets answers report
  have writable : (Threshold.real x).isTooLarge = false := rfl
  have read : run.total = total? run.report := rfl
  obtain ⟨gate, judged, outcome, does⟩ := sweep_after_good_reset perl targets named reset writable
  obtain ⟨figures, found, value, label⟩ := gateResult_label rfl read measured judged
  refine ⟨run, captureResults targets answers ++ [reportResult report (reportOf report)], gate, ?_,
    measured, rfl, ⟨figures, x.brief, label⟩, ?_, ?_⟩
  · rw [List.append_assoc]
    exact does
  · intro shown limit same
    exact gateLabel_reads found value (label.symm.trans same)
  · have passed : run.passed = x.le total := by
      have held : run.total = some total := measured
      rw [Run.passed, held]
      rfl
    rw [← passed]
    exact outcome

/-- A total just below the threshold is shown in full, and so is the threshold. -/
theorem gate_label_tells_outcome_close :
    let respond : Command.Respond := fun _ _ => .finished (encode "Total 49.9999999\n".toList) [] 0
    let s := Session.start (.plain ⟨.empty, "/", [], []⟩ respond)
    let x := Binary64.ofDecimal false 50 0
    let total := Binary64.ofDecimal false 499999999 (-7)
    ofString "cover" ≠ [] ∧ (s.host.answer s.requests (resetCall "cover")).isOk = true ∧
    total? (reportOf (reportAnswer s "perl" "cover" [])) = some total ∧
    ∃ run results gate,
      Does (sweep "perl" (some (ofString "cover")) (.real x) []) s run
        ((course "perl" "cover" []).map Call.request) (results ++ [gate]) ∧
      (∀ shown limit, gate.label = gateLabel shown limit →
        Binary64.parse? shown.chars = some total ∧ Binary64.parse? limit.chars = some x) ∧
      gate.outcome = .fail := by
  intro respond s x total
  have named : ofString "cover" ≠ [] := by decide
  have reset : (s.host.answer s.requests (resetCall "cover")).isOk = true := rfl
  have measured : total? (reportOf (reportAnswer s "perl" "cover" [])) = some total := by
    decide +kernel
  have below : x.le total = false := by decide +kernel
  obtain ⟨run, results, gate, does, -, -, -, reads, outcome⟩ :=
    gate_label_tells_outcome "perl" x [] s named reset measured
  rw [below] at outcome
  exact ⟨named, reset, measured, run, results, gate, does, reads, outcome⟩

end Coverage

end PerlAudit
