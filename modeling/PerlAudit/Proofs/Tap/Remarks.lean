import Mathlib.Data.List.DropRight
import Mathlib.Data.List.Forall2
import PerlAudit.Proofs.Tap.Readback

/-!
Three classes of code points are at work in remarks: line feeds are dropped at the end of a message,
breaks cut it into segments, and blanks are dropped at the end of a line. Every line feed is a break
and every break is a blank, so nothing is lost that can be seen.
-/

namespace PerlAudit.Text

/-- What can be seen of a text: everything but the blanks. -/
def visible (t : Text) : Text := t.filter (!·.isIn isBlank)

@[simp]
theorem visible_append (s t : Text) : visible (s ++ t) = visible s ++ visible t :=
  List.filter_append ..

theorem visible_eq_nil_iff {t : Text} : visible t = [] ↔ ∀ c ∈ t, c.isIn isBlank = true := by
  simp [visible]

theorem isBlank_of_isBreak {c : CodePoint} (broken : c.isIn isBreak = true) :
    c.isIn isBlank = true := by
  cases c with
  | half offset => cases broken
  | char c =>
    simp only [CodePoint.isIn, isBreak, isBlank, Bool.or_eq_true, Bool.and_eq_true,
      decide_eq_true_eq, beq_iff_eq] at broken ⊢
    omega

/-- Nothing is lost that can be seen if blanks are dropped at the end of a text. -/
theorem visible_dropEndWhile {p : CodePoint → Bool}
    (blank : ∀ c, p c = true → c.isIn isBlank = true) (t : Text) :
    visible (dropEndWhile p t) = visible t := by
  have dropped : visible (t.rtakeWhile p) = [] := by
    apply visible_eq_nil_iff.mpr
    intro c member
    exact blank c (List.mem_rtakeWhile_imp member)
  calc visible (dropEndWhile p t)
      = visible (dropEndWhile p t) ++ visible (t.rtakeWhile p) := by rw [dropped, List.append_nil]
    _ = visible (t.rdropWhile p ++ t.rtakeWhile p) := (visible_append ..).symm
    _ = visible t := by rw [List.rdropWhile_append_rtakeWhile]

theorem last_of_dropEndBlanks {t : Text} : ∀ c ∈ (dropEndBlanks t).getLast?,
    c.isIn isBlank = false := by
  intro c last
  obtain ⟨nonempty, rfl⟩ := List.mem_getLast?_eq_getLast last
  exact Bool.eq_false_iff.mpr (List.rdropWhile_last_not _ t nonempty)

/-- Blanks are dropped from the later of two texts, and from the earlier if nothing is left of the
later. -/
theorem dropEndBlanks_append (s t : Text) : dropEndBlanks (s ++ t) =
    if dropEndBlanks t = [] then dropEndBlanks s else s ++ dropEndBlanks t := by
  unfold dropEndBlanks dropEndWhile
  rw [List.reverse_append, List.dropWhile_append]
  by_cases nothing : t.reverse.dropWhile (·.isIn isBlank) = []
  · simp [nothing]
  · simp [nothing]

theorem segments_unbroken {t segment : Text} (member : segment ∈ segments t) :
    ∀ c ∈ segment, c.isIn isBreak = false := by
  fun_induction segments t generalizing segment with
  | case1 => cases member
  | case2 rest ih =>
    obtain rfl | later := List.mem_cons.mp member
    · exact List.forall_mem_nil _
    · exact ih later
  | case3 c rest other broken ih =>
    obtain rfl | later := List.mem_cons.mp member
    · exact List.forall_mem_nil _
    · exact ih later
  | case4 c rest other whole nothing ih =>
    rw [List.mem_singleton.mp member]
    exact List.forall_mem_singleton.mpr (Bool.eq_false_iff.mpr whole)
  | case5 c rest other whole first more found ih =>
    rw [found] at ih
    obtain rfl | later := List.mem_cons.mp member
    · exact List.forall_mem_cons.mpr ⟨Bool.eq_false_iff.mpr whole, ih List.mem_cons_self⟩
    · exact ih (List.mem_cons_of_mem _ later)

/-- Every separator that is left out between segments is a blank. -/
theorem visible_segments (t : Text) : visible (segments t).flatten = visible t := by
  fun_induction segments t with
  | case1 => rfl
  | case2 rest ih =>
    have pair : visible [.char '\r', .char '\n'] = [] := by decide
    calc visible (segments rest).flatten
        = visible [.char '\r', .char '\n'] ++ visible rest := by rw [pair, ih, List.nil_append]
      _ = visible (.char '\r' :: .char '\n' :: rest) := (visible_append ..).symm
  | case3 c rest other broken ih =>
    have separator : visible [c] = [] := by
      simpa [visible_eq_nil_iff] using isBlank_of_isBreak broken
    calc visible (segments rest).flatten
        = visible [c] ++ visible rest := by rw [separator, ih, List.nil_append]
      _ = visible (c :: rest) := (visible_append ..).symm
  | case4 c rest other whole nothing ih =>
    rw [nothing] at ih
    calc visible [c]
        = visible [c] ++ visible rest := by rw [← ih]; simp [visible]
      _ = visible (c :: rest) := (visible_append ..).symm
  | case5 c rest other whole first more found ih =>
    rw [found] at ih
    calc visible ((c :: first) :: more).flatten
        = visible ([c] ++ (first :: more).flatten) := rfl
      _ = visible [c] ++ visible rest := by rw [visible_append, ih]
      _ = visible (c :: rest) := (visible_append ..).symm

end PerlAudit.Text

namespace PerlAudit.Tap

open Text

/-- The form of a line of the remark stream: a number sign, alone or in front of a space and of a
text that does not end in a blank. -/
def IsRemark (line : Text) : Prop :=
  line = "#" ∨ ofString "# " <+: line ∧ ∀ c ∈ line.getLast?, c.isIn isBlank = false

/-- The text behind the number sign and the space. -/
def unmarked (line : Text) : Text := line.drop 2

/-- A line behind a number sign. The space goes with the blanks if there is nothing else. -/
theorem marked_eq (line : Text) : dropEndBlanks ("# " ++ line) =
    if dropEndBlanks line = [] then ofString "#" else "# " ++ dropEndBlanks line :=
  dropEndBlanks_append "# " line

theorem isRemark_marked (line : Text) : IsRemark (dropEndBlanks ("# " ++ line)) := by
  rw [marked_eq]
  split
  · exact .inl rfl
  · rename_i nonempty
    right
    constructor
    · exact List.prefix_append ..
    · intro c last
      rw [List.getLast?_append_of_ne_nil _ nonempty] at last
      exact last_of_dropEndBlanks c last

theorem visible_unmarked (line : Text) :
    visible (unmarked (dropEndBlanks ("# " ++ line))) = visible line := by
  have kept : visible (dropEndBlanks line) = visible line :=
    visible_dropEndWhile (fun _ blank => blank) line
  rw [marked_eq]
  split
  · rename_i nothing
    rw [← kept, nothing]
    rfl
  · exact kept

/-- The lines of a message before they are marked. A message without any has an empty one. -/
theorem exists_lines (message : Text) : ∃ lines : List Text,
    remarkLines message = lines.map (fun line => dropEndBlanks ("# " ++ line)) ∧ lines ≠ [] ∧
    (∀ line ∈ lines, ∀ c ∈ line, c.isIn isBreak = false) ∧
    visible lines.flatten = visible message := by
  have feeds : ∀ c : CodePoint, c.is '\n' = true → c.isIn isBlank = true := by
    intro c feed
    rw [of_decide_eq_true feed]
    rfl
  have seen := (visible_segments (dropEndWhile (·.is '\n') message)).trans
    (visible_dropEndWhile feeds message)
  by_cases nothing : segments (dropEndWhile (·.is '\n') message) = []
  · refine ⟨[[]], ?_, by simp, by simp, ?_⟩
    · simp [remarkLines, nothing]
    · rw [nothing] at seen
      exact seen
  · refine ⟨segments (dropEndWhile (·.is '\n') message), ?_, nothing, ?_, seen⟩
    · simp [remarkLines, nothing]
    · intro line member
      exact segments_unbroken member

theorem remarkLines_isRemark {message line : Text} (member : line ∈ remarkLines message) :
    IsRemark line := by
  obtain ⟨lines, told, -⟩ := exists_lines message
  rw [told] at member
  obtain ⟨line, -, rfl⟩ := List.mem_map.mp member
  exact isRemark_marked line

theorem remarkLines_unbroken {message line : Text} (member : line ∈ remarkLines message) :
    ∀ c ∈ line, c.isIn isBreak = false := by
  obtain ⟨lines, told, -, unbroken, -⟩ := exists_lines message
  rw [told] at member
  obtain ⟨line, inside, rfl⟩ := List.mem_map.mp member
  have mark : ∀ c ∈ ofString "# ", c.isIn isBreak = false := by decide
  have whole := List.forall_mem_append.mpr ⟨mark, unbroken line inside⟩
  intro c within
  exact whole c ((List.rdropWhile_prefix _ _).subset within)

/-- All that can be seen of a message is read off its lines. -/
theorem visible_remarkLines (message : Text) :
    visible ((remarkLines message).flatMap unmarked) = visible message := by
  obtain ⟨lines, told, -, -, seen⟩ := exists_lines message
  rw [told, ← seen]
  clear told seen
  induction lines with
  | nil => rfl
  | cons line lines ih =>
    rw [List.map_cons, List.flatMap_cons, List.flatten_cons, visible_append, visible_append, ih,
      visible_unmarked]

/-- A line behind a number sign is neither a plan nor a result. -/
theorem readLine?_remark {line : Text} (form : IsRemark line) : readLine? line = none := by
  obtain rfl | ⟨⟨rest, rfl⟩, -⟩ := form
  · rfl
  · rfl

def Said.remark? : Said → Option Text
  | line _ => none
  | remark text => some text

/-- The lines of the remark stream. -/
def remarksIn (said : List Said) : List Text := said.filterMap Said.remark?

/-- The text of the remark stream. -/
def remarkText (said : List Said) : Text := said.flatMap fun s => (Event.said s).errorText

theorem remarkText_eq (said : List Said) :
    remarkText said = (remarksIn said).flatMap (· ++ [.char '\n']) := by
  induction said with
  | nil => rfl
  | cons s said ih =>
    rw [remarkText, List.flatMap_cons, ← remarkText, ih]
    cases s <;> rfl

theorem remarksIn_append (said more : List Said) :
    remarksIn (said ++ more) = remarksIn said ++ remarksIn more := List.filterMap_append

theorem remarksIn_remarks (message : Text) : remarksIn (remarks message) = remarkLines message := by
  simp [remarksIn, remarks, List.filterMap_map, Function.comp_def, Said.remark?]

namespace Reporter

/-- The messages that an operation has for the remark stream. -/
def messages (r : Reporter) : Operation → List Text
  | .record result =>
    if result.outcome = .fail then
      ("  Failed test '" ++ result.label ++ "'") :: result.remark?.toList
    else []
  | .remark message => [message]
  | .finalize => if r.finalized then [] else heard r.closingMessages
  | _ => []

/-- The messages of a run, in order. -/
def messagesOf (r : Reporter) : List Operation → List Text
  | [] => []
  | op :: rest => r.messages op ++ (r.perform op).1.messagesOf rest

theorem record_remarks (r : Reporter) (result : Result) :
    remarksIn (r.record result).2 = (r.messages (.record result)).flatMap remarkLines := by
  simp only [Reporter.record, Reporter.messages]
  cases result.outcome with
  | skip | pass => rfl
  | fail =>
    have reason : remarksIn ((result.remark?.map remarks).getD []) =
        result.remark?.toList.flatMap remarkLines := by
      cases result.remark? with
      | none => rfl
      | some message => simpa using remarksIn_remarks message
    change remarksIn (remarks _ ++ _) = _
    rw [remarksIn_append, remarksIn_remarks, reason]
    rfl

theorem remarksIn_flatMap_remarks (messages : List Text) :
    remarksIn (messages.flatMap remarks) = messages.flatMap remarkLines := by
  induction messages with
  | nil => rfl
  | cons message messages ih =>
    rw [List.flatMap_cons, remarksIn_append, remarksIn_remarks, ih, List.flatMap_cons]

theorem closing_remarks (r : Reporter) :
    remarksIn (heard r.closing) = (heard r.closingMessages).flatMap remarkLines := by
  have plan : remarksIn (if r.planned.isNone && r.count != 0 then
      [.line (.plan (toString r.count))] else []) = [] := by
    split <;> rfl
  unfold Reporter.closing
  cases r.closingMessages with
  | error fault => rfl
  | ok messages =>
    change remarksIn (_ ++ messages.flatMap remarks) = _
    rw [remarksIn_append, plan, remarksIn_flatMap_remarks]
    rfl

/-- What an operation adds to the remark stream is its messages. -/
theorem perform_remarks (r : Reporter) (op : Operation) :
    remarksIn (r.perform op).2 = (r.messages op).flatMap remarkLines := by
  cases op with
  | plan tests =>
    simp only [Reporter.perform]
    generalize planning : r.plan tests = answer
    have outcome := planning ▸ plan_planning r tests
    cases outcome <;> rfl
  | ensurePlan | isPassing | summary => rfl
  | record result => exact r.record_remarks result
  | remark message => simpa [Reporter.perform, messages] using remarksIn_remarks message
  | finalize =>
    simp only [Reporter.perform, Reporter.finalize, messages]
    split
    · rfl
    · exact r.closing_remarks

end Reporter

/-- The remark stream of a run is its messages, one after the other. -/
theorem foldl_remarks (t : Transcript) (ops : List Operation) :
    remarksIn (ops.foldl Transcript.step t).said =
      remarksIn t.said ++ (t.reporter.messagesOf ops).flatMap remarkLines := by
  induction ops generalizing t with
  | nil => simp [Reporter.messagesOf]
  | cons op ops ih =>
    rw [List.foldl_cons, ih, Transcript.step, remarksIn_append, Reporter.perform_remarks,
      Reporter.messagesOf, List.flatMap_append, List.append_assoc]

/-- Remarks are never taken for results and lose nothing that can be seen, whatever is asked of a
reporter and whatever its labels and messages hold. The remark stream, cut at its line feeds, is
whole lines and nothing left over. Each line is a number sign, alone or in front of a space and of a
text that does not end in a blank; it holds no break of any kind and cannot be read as a line of the
result stream. The lines fall into pieces, one for each message in order, and the text of a piece is
the message but for blanks. -/
theorem remarks_stand_apart (ops : List Operation) :
    ∃ pieces : List (List Text),
      splitAt (.char '\n') (remarkText (Transcript.after ops).said) = pieces.flatten ++ [[]] ∧
      (∀ line ∈ pieces.flatten, IsRemark line ∧ (∀ c ∈ line, c.isIn isBreak = false) ∧
        readLine? line = none) ∧
      List.Forall₂ (fun message lines => lines ≠ [] ∧
          visible (lines.flatMap unmarked) = visible message)
        (Reporter.fresh.messagesOf ops) pieces := by
  have lines : remarksIn (Transcript.after ops).said =
      ((Reporter.fresh.messagesOf ops).map remarkLines).flatten := foldl_remarks .fresh ops
  have inside {line : Text} (member : line ∈ ((Reporter.fresh.messagesOf ops).map
      remarkLines).flatten) : ∃ message, line ∈ remarkLines message := by
    obtain ⟨message, -, told⟩ := List.mem_flatMap.mp member
    exact ⟨message, told⟩
  refine ⟨(Reporter.fresh.messagesOf ops).map remarkLines, ?_, ?_, ?_⟩
  · rw [remarkText_eq, lines]
    apply splitAt_ended
    intro line member feed
    obtain ⟨message, told⟩ := inside member
    exact absurd (remarkLines_unbroken told _ feed) (by decide)
  · intro line member
    obtain ⟨message, told⟩ := inside member
    have form := remarkLines_isRemark told
    exact ⟨form, remarkLines_unbroken told, readLine?_remark form⟩
  · rw [List.forall₂_map_right_iff, List.forall₂_same]
    intro message _
    obtain ⟨lines, told, nonempty, -⟩ := exists_lines message
    refine ⟨?_, visible_remarkLines message⟩
    rw [told]
    intro nothing
    exact nonempty (List.map_eq_nil_iff.mp nothing)

end PerlAudit.Tap
