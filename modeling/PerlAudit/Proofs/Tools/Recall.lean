import PerlAudit.Proofs.Session.Account
import PerlAudit.Proofs.Source.ModuleName
import PerlAudit.Proofs.Tools.Lookup

/-!
What is known about tools over a whole run, while the machine changes in any way between two
questions. An interpreter is settled by its first answer, even if that gives no version; the
coverage tool is settled by the first path that turns up.
-/

namespace PerlAudit.Tools

open Audit Session
open Checks (versionCall versionFor)
open Command (Request)
open Number (Binary64)
open Source (firsts firsts_filter nodup_firsts)
open Text (given)

/-- What is asked about tools. -/
inductive Question where
  | cover (wanted : Option Text)
  | version (perl : Text)
  | warnings (perl : Text)
  deriving DecidableEq, Repr

inductive Answer where
  | cover (path : Option Text)
  | version (number : Option Binary64)
  | warnings (capable : Bool)
  deriving DecidableEq, Repr

def Answer.cover? : Answer → Option (Option Text)
  | cover path => some path
  | _ => none

namespace Question

def ask : Question → Audit Answer
  | cover wanted => return .cover (← coverPath wanted)
  | version perl => return .version (← Tools.version perl)
  | warnings perl => return .warnings (← canUseWarnings perl)

/-- The interpreter that a question is about. -/
def perl? : Question → Option Text
  | cover _ => none
  | version perl => some perl
  | warnings perl => some perl

/-- The answer that goes with a version. -/
def told? (number : Option Binary64) : Question → Option Answer
  | cover _ => none
  | version _ => some (.version number)
  | warnings _ => some (.warnings (number.all (warningsVersion.le ·)))

end Question

/-- The machine becomes another one, or a question is asked. -/
inductive Move where
  | change (host : Host)
  | ask (question : Question)

namespace Move

def host? : Move → Option Host
  | change host => some host
  | ask _ => none

def question? : Move → Option Question
  | change _ => none
  | ask question => some question

/-- Whether a move is a question about this interpreter or none at all. -/
def keepsTo (perl : Text) (m : Move) : Bool := m.question?.all (·.perl? == some perl)

end Move

/-- A question, the session it was asked in and the answer it got. -/
structure Exchange where
  session : Session
  question : Question
  answer : Answer

def exchanges : List Move → Audit (List Exchange)
  | [] => return []
  | .change host :: rest => do
    modify fun s => { s with host }
    exchanges rest
  | .ask question :: rest => do
    let session ← get
    let answer ← question.ask
    let more ← exchanges rest
    return ⟨session, question, answer⟩ :: more

/-- The coverage tool that a question would find now if none were known. -/
def Question.offer? (s : Session) : Question → Option Text
  | cover wanted =>
    (given wanted).or (search s.host.disk ((s.host.getVar? "PATH").getD standardPath) coverName)
  | _ => none

def Exchange.offer? (e : Exchange) : Option Text := e.question.offer? e.session

/-- The answers about the coverage tool. -/
def covers (all : List Exchange) : List (Option Text) := all.filterMap (·.answer.cover?)

/-- The exchanges about an interpreter. -/
def about (perl : Text) (all : List Exchange) : List Exchange :=
  all.filter (·.question.perl? == some perl)

section Steps

/-- What one question does. Commands are started to answer it, and what it finds out is known. -/
structure Asked (q : Question) (s t : Session) (answer : Answer) : Prop where
  ledger : Ledger s t (q.perl?.elim [] (probes · s)) []
  cover : t.tools.cover = s.tools.cover.or (q.offer? s)
  versions : ∀ perl, t.tools.versions.lookup perl =
    if q.perl? = some perl then some (versionFor perl s) else s.tools.versions.lookup perl
  covered : q.perl? = none → answer = .cover t.tools.cover
  told : ∀ perl, q.perl? = some perl → q.told? (versionFor perl s) = some answer

/-- A question about an interpreter is a matter of its version. -/
theorem Asked.of_version {q : Question} {perl : Text} {s t : Session} {answer : Answer}
    (concerns : q.perl? = some perl) (ledger : Ledger s t (probes perl s) [])
    (tools : t.tools = { s.tools with versions := learned perl s })
    (told : q.told? (versionFor perl s) = some answer) : Asked q s t answer where
  ledger := by rwa [concerns]
  cover := by
    have unoffered : q.offer? s = none := by
      cases q with
      | cover => simp [Question.perl?] at concerns
      | version | warnings => rfl
    rw [tools, unoffered, Option.or_none]
  versions other := by
    rw [tools, lookup_learned, concerns]
    by_cases same : other = perl
    · simp [same]
    · simp [same, Ne.symm same]
  covered unconcerned := by simp [concerns] at unconcerned
  told other same := by
    cases concerns.symm.trans same
    exact told

theorem ask_eq (q : Question) (s : Session) :
    ∃ answer t, q.ask s = .ok answer t ∧ Asked q s t answer := by
  cases q with
  | cover wanted =>
    obtain ⟨t, answered, ledger, tools⟩ := coverPath_eq wanted s
    refine ⟨_, t, bind_eq answered, ledger, ?_, ?_, ?_, ?_⟩
    · rw [tools]
      rfl
    · simp [tools, Question.perl?]
    · simp [tools]
    · simp [Question.perl?]
  | version perl =>
    obtain ⟨t, answered, ledger, tools⟩ := version_eq perl s
    exact ⟨_, t, bind_eq answered, .of_version rfl ledger tools rfl⟩
  | warnings perl =>
    obtain ⟨t, answered, ledger, tools⟩ := version_eq perl s
    exact ⟨_, t, bind_eq (bind_eq answered), .of_version rfl ledger tools rfl⟩

end Steps

section Runs

/-- Moves made one after the other, each in the session that the one before it reached. -/
inductive Course : Session → List Move → List Exchange → Session → Prop where
  | done (s : Session) : Course s [] [] s
  | change {s t : Session} {host : Host} {rest : List Move} {all : List Exchange}
      (more : Course { s with host } rest all t) : Course s (.change host :: rest) all t
  | ask {s t u : Session} {q : Question} {answer : Answer} {rest : List Move} {all : List Exchange}
      (first : Asked q s t answer) (more : Course t rest all u) :
      Course s (.ask q :: rest) (⟨s, q, answer⟩ :: all) u

theorem exists_course (moves : List Move) (s : Session) :
    ∃ all t, exchanges moves s = .ok all t ∧ Course s moves all t := by
  induction moves generalizing s with
  | nil => exact ⟨[], s, rfl, .done s⟩
  | cons move rest ih =>
    cases move with
    | change host =>
      obtain ⟨all, t, ran, course⟩ := ih { s with host }
      exact ⟨all, t, ran, .change course⟩
    | ask q =>
      obtain ⟨answer, t, answered, first⟩ := ask_eq q s
      obtain ⟨all, u, ran, course⟩ := ih t
      refine ⟨_, u, ?_, .ask first course⟩
      have here : (get : Audit Session) s = .ok s s := rfl
      exact (bind_eq here).trans ((bind_eq answered).trans (bind_eq ran))

variable {s t : Session} {moves : List Move} {all : List Exchange}

theorem Course.questions (course : Course s moves all t) :
    all.map (·.question) = moves.filterMap Move.question? := by
  induction course with
  | done => rfl
  | change _ ih => exact ih
  | ask _ _ ih => simp [Move.question?, ih]

/-- The interpreters that are asked about. -/
def interpreters (moves : List Move) : List Text :=
  (moves.filterMap Move.question?).filterMap Question.perl?

def isUnknown (s : Session) (perl : Text) : Bool := (s.tools.versions.lookup perl).isNone

/-- Interpreters that are not known are asked, each once and in the order in which they come up. -/
theorem Course.started (course : Course s moves all t) :
    t.requests =
      s.requests ++ (firsts ((interpreters moves).filter (isUnknown s))).map probe := by
  induction course with
  | done s => simp [interpreters, firsts]
  | change _ ih => exact ih
  | @ask s t u q answer rest all first _ ih =>
    rw [ih, first.ledger.requests, List.append_assoc, List.append_cancel_left_eq]
    cases concerns : q.perl? with
    | none =>
      have same : isUnknown t = isUnknown s := by
        funext perl
        simp [isUnknown, first.versions, concerns]
      simp [interpreters, Move.question?, concerns, same]
    | some perl =>
      have asked : interpreters (.ask q :: rest) = perl :: interpreters rest := by
        simp [interpreters, Move.question?, concerns]
      have learnt (other : Text) : isUnknown t other = (other != perl && isUnknown s other) := by
        unfold isUnknown
        rw [first.versions, concerns]
        by_cases same : other = perl
        · simp [same]
        · simp [same, Ne.symm same]
      have left : (interpreters rest).filter (isUnknown t) =
          ((interpreters rest).filter (isUnknown s)).filter (· != perl) := by
        rw [List.filter_filter]
        exact List.filter_congr fun other _ => learnt other
      rw [asked, left, Option.elim_some, probes]
      cases known : s.tools.versions.lookup perl with
      | none =>
        have unknown : isUnknown s perl = true := by simp [isUnknown, known]
        rw [List.filter_cons_of_pos unknown, firsts, firsts_filter]
        rfl
      | some number =>
        have unknown : ¬ isUnknown s perl = true := by simp [isUnknown, known]
        have absent : ∀ other ∈ (interpreters rest).filter (isUnknown s),
            (other != perl) = true := by
          intro other member
          rw [bne_iff_ne]
          rintro rfl
          exact unknown (List.mem_filter.mp member).2
        rw [List.filter_cons_of_neg unknown, List.filter_eq_self.mpr absent]
        rfl

/-- A known version is the one that is told. -/
theorem Course.told_known (course : Course s moves all t) {perl : Text} {number : Option Binary64}
    (known : s.tools.versions.lookup perl = some number) :
    ∀ e ∈ about perl all, e.question.told? number = some e.answer := by
  induction course with
  | done => simp [about]
  | change _ ih => exact ih known
  | @ask s t u q answer rest all first _ ih =>
    have version : versionFor perl s = number := by simp [versionFor, known]
    have later : t.tools.versions.lookup perl = some number := by
      rw [first.versions, version, known, ite_self]
    intro e member
    by_cases concerns : q.perl? = some perl
    · rw [about, List.filter_cons_of_pos (by simpa using concerns), List.mem_cons] at member
      obtain rfl | member := member
      · exact version ▸ first.told perl concerns
      · exact ih later e member
    · rw [about, List.filter_cons_of_neg (by simpa using concerns)] at member
      exact ih later e member

/-- A version that was not known is the one that the first question finds. -/
theorem Course.told_first (course : Course s moves all t) {perl : Text}
    (unknown : s.tools.versions.lookup perl = none) {first : Exchange} {rest : List Exchange}
    (asked : about perl all = first :: rest) :
    ∀ e ∈ first :: rest, e.question.told? (reported perl first.session) = some e.answer := by
  induction course with
  | done => simp [about] at asked
  | change _ ih => exact ih unknown asked
  | @ask s t u q answer moves all step more ih =>
    by_cases concerns : q.perl? = some perl
    · rw [about, List.filter_cons_of_pos (by simpa using concerns), List.cons.injEq] at asked
      obtain ⟨rfl, rfl⟩ := asked
      have version : versionFor perl s = reported perl s := by
        rw [versionFor, unknown, Option.getD_none, reported]
      have known : t.tools.versions.lookup perl = some (reported perl s) := by
        rw [step.versions, if_pos concerns, version]
      exact List.forall_mem_cons.mpr
        ⟨version ▸ step.told perl concerns, more.told_known known⟩
    · rw [about, List.filter_cons_of_neg (by simpa using concerns)] at asked
      exact ih (by rw [step.versions, if_neg concerns, unknown]) asked

/-- The coverage tool is the one known before, or the first that turned up since. -/
theorem Course.covered (course : Course s moves all t) {early late : List Exchange} {e : Exchange}
    (asked : all = early ++ e :: late) (concerns : e.question.perl? = none) :
    e.answer = .cover (s.tools.cover.or ((early ++ [e]).findSome? (·.offer?))) := by
  induction course generalizing early with
  | done => simp at asked
  | change _ ih => exact ih asked
  | @ask s t u q answer moves all step more ih =>
    cases early with
    | nil =>
      rw [List.nil_append, List.cons.injEq] at asked
      obtain ⟨rfl, -⟩ := asked
      rw [step.covered concerns, step.cover]
      simp [Exchange.offer?]
    | cons earlier early =>
      rw [List.cons_append, List.cons.injEq] at asked
      obtain ⟨rfl, later⟩ := asked
      rw [ih later, step.cover, Option.or_assoc, List.cons_append, List.findSome?_cons]
      have offer : (Exchange.mk s q answer).offer? = q.offer? s := rfl
      rw [offer]
      cases q.offer? s with
      | none => rfl
      | some path => rfl

theorem Asked.covers_cons {q : Question} {answer : Answer} (step : Asked q s t answer)
    (all : List Exchange) : covers (⟨s, q, answer⟩ :: all) =
      if q.perl? = none then t.tools.cover :: covers all else covers all := by
  cases concerns : q.perl? with
  | none =>
    rw [step.covered concerns]
    rfl
  | some perl =>
    have other : answer.cover? = none := by
      have told := step.told perl concerns
      cases q with
      | cover => simp [Question.told?] at told
      | version | warnings =>
        cases told
        rfl
    simp [covers, other]

/-- Once the coverage tool is known, every answer names it. -/
theorem Course.covers_known (course : Course s moves all t) {path : Text}
    (known : s.tools.cover = some path) : ∀ answer ∈ covers all, answer = some path := by
  induction course with
  | done => simp [covers]
  | change _ ih => exact ih known
  | @ask s t u q answer rest all step _ ih =>
    have later : t.tools.cover = some path := by rw [step.cover, known, Option.some_or]
    rw [step.covers_cons]
    split
    · exact List.forall_mem_cons.mpr ⟨later, ih later⟩
    · exact ih later

/-- The coverage tool is missing for a while, and then it is always the same. -/
theorem Course.covers_stay (course : Course s moves all t) (unknown : s.tools.cover = none) :
    ∃ waits calls path,
      covers all = List.replicate waits none ++ List.replicate calls (some path) := by
  induction course with
  | done => exact ⟨0, 0, [], rfl⟩
  | change _ ih => exact ih unknown
  | @ask s t u q answer rest all step more ih =>
    rw [step.covers_cons]
    cases found : t.tools.cover with
    | none =>
      obtain ⟨waits, calls, path, shape⟩ := ih found
      split
      · exact ⟨waits + 1, calls, path, by rw [shape]; rfl⟩
      · exact ⟨waits, calls, path, shape⟩
    | some path =>
      have rest := List.eq_replicate_of_mem (more.covers_known found)
      split
      · exact ⟨0, (covers all).length + 1, path, congrArg (some path :: ·) rest⟩
      · exact ⟨0, (covers all).length, path, rest⟩

end Runs

section Others

/-- A machine that would give one answer for an interpreter whatever was started before. -/
def Steady (perl : Text) (host : Host) : Prop :=
  ∀ before other, host.answer before (versionCall perl) = host.answer other (versionCall perl)

/-- Two sessions that tell the same about an interpreter, now and later. -/
structure Alike (perl : Text) (s t : Session) : Prop where
  answer : ∀ before other,
    s.host.answer before (versionCall perl) = t.host.answer other (versionCall perl)
  known : s.tools.versions.lookup perl = t.tools.versions.lookup perl

namespace Alike

variable {perl : Text} {s t u v : Session} {q : Question} {answer other : Answer}

theorem versionFor_eq (h : Alike perl s t) : versionFor perl s = versionFor perl t := by
  rw [versionFor, versionFor, h.known, h.answer]

/-- A question about another interpreter, or about the coverage tool, changes nothing. -/
theorem ask_other (h : Alike perl s t) (step : Asked q s u answer)
    (concerns : q.perl? ≠ some perl) : Alike perl u t where
  answer := by
    rw [step.ledger.account.answer]
    exact h.answer
  known := by rw [step.versions, if_neg concerns, h.known]

theorem ask_both (h : Alike perl s t) (here : Asked q s u answer) (there : Asked q t v other)
    (concerns : q.perl? = some perl) : answer = other ∧ Alike perl u v := by
  have told := here.told perl concerns
  rw [h.versionFor_eq, there.told perl concerns] at told
  refine ⟨(Option.some.inj told).symm, ?_, ?_⟩
  · rw [here.ledger.account.answer, there.ledger.account.answer]
    exact h.answer
  · rw [here.versions, there.versions, if_pos concerns, if_pos concerns, h.versionFor_eq]

end Alike

def Exchange.said (e : Exchange) : Question × Answer := (e.question, e.answer)

/-- Questions about other tools can be left out. -/
theorem Course.said_apart {perl : Text} {s t u v : Session} {moves : List Move}
    {all less : List Exchange} (course : Course s moves all u)
    (alone : Course t (moves.filter (·.keepsTo perl)) less v) (alike : Alike perl s t)
    (steady : ∀ host ∈ moves.filterMap Move.host?, Steady perl host) :
    less.map Exchange.said = (about perl all).map Exchange.said := by
  induction course generalizing t less with
  | done =>
    cases alone
    rfl
  | @change s u host rest all _ ih =>
    obtain ⟨first, others⟩ := List.forall_mem_cons.mp steady
    cases alone with
    | change more => exact ih more ⟨first, alike.known⟩ others
  | @ask s s' u q answer rest all step _ ih =>
    by_cases concerns : q.perl? = some perl
    · have kept : Move.keepsTo perl (.ask q) = true := by
        simp [Move.keepsTo, Move.question?, concerns]
      rw [List.filter_cons_of_pos kept] at alone
      rw [about, List.filter_cons_of_pos (by simpa using concerns)]
      cases alone with
      | ask there more =>
        obtain ⟨rfl, alike⟩ := alike.ask_both step there concerns
        exact congrArg ((q, answer) :: ·) (ih more alike steady)
    · have left : ¬ Move.keepsTo perl (.ask q) = true := by
        simpa [Move.keepsTo, Move.question?] using concerns
      rw [List.filter_cons_of_neg left] at alone
      rw [about, List.filter_cons_of_neg (by simpa using concerns)]
      exact ih alone (alike.ask_other step concerns) steady

end Others

/-- What is remembered of tools over a run that began with nothing known. -/
structure Remembered (moves : List Move) (s : Session) (all : List Exchange) (t : Session) :
    Prop where
  /-- Every question is answered. -/
  answered : all.map (·.question) = moves.filterMap Move.question?
  /-- Each interpreter is asked once, when it first comes up, and nothing else is started. -/
  started : t.requests = s.requests ++ (firsts (interpreters moves)).map probe
  once : ((firsts (interpreters moves)).map probe).Nodup
  /-- What an interpreter gave at the first question, a version or none, is told at each. -/
  versions : ∀ perl first rest, about perl all = first :: rest →
    ∀ e ∈ first :: rest, e.question.told? (reported perl first.session) = some e.answer
  /-- What is told about an interpreter is told as well if nothing else is asked. -/
  apart : ∀ perl, (∀ host ∈ s.host :: moves.filterMap Move.host?, Steady perl host) →
    ∃ less u, exchanges (moves.filter (·.keepsTo perl)) s = .ok less u ∧
      less.map Exchange.said = (about perl all).map Exchange.said
  /-- The coverage tool is the first that turned up. -/
  cover : ∀ early e late, all = early ++ e :: late → e.question.perl? = none →
    e.answer = .cover ((early ++ [e]).findSome? (·.offer?))
  /-- It is missing for a while, and from then on it is always the same. -/
  stays : ∃ waits calls path,
    covers all = List.replicate waits none ++ List.replicate calls (some path)

/-- However the machine changes between questions about tools, what was found out is never found out
again and never told in another way. -/
theorem tools_remembered (moves : List Move) (s : Session) :
    let start : Session := { s with tools := .unknown }
    ∃ all t, exchanges moves start = .ok all t ∧ Remembered moves start all t := by
  intro start
  have unknown (perl : Text) : start.tools.versions.lookup perl = none := rfl
  have missing : start.tools.cover = none := rfl
  obtain ⟨all, t, ran, course⟩ := exists_course moves start
  refine ⟨all, t, ran, course.questions, ?_, ?_, ?_, ?_, ?_, course.covers_stay missing⟩
  · have every : (interpreters moves).filter (isUnknown start) = interpreters moves := by
      apply List.filter_eq_self.mpr
      simp [isUnknown, unknown]
    rw [course.started, every]
  · exact (nodup_firsts _).map probe_injective
  · intro perl first rest asked
    exact course.told_first (unknown perl) asked
  · intro perl steady
    obtain ⟨here, others⟩ := List.forall_mem_cons.mp steady
    obtain ⟨less, u, ranAlone, alone⟩ := exists_course (moves.filter (·.keepsTo perl)) start
    exact ⟨less, u, ranAlone, course.said_apart alone ⟨here, rfl⟩ others⟩
  · intro early e late asked concerns
    rw [course.covered asked concerns, missing, Option.none_or]

end PerlAudit.Tools
