import PerlAudit.Proofs.Session.Ledger
import PerlAudit.Tools


namespace PerlAudit

open Command (Request)
open Number (Binary64)

namespace Audit

/-- An action that finds out nothing about tools if it answers. -/
def KeepsTools {α : Type} (x : Audit α) (s : Session) : Prop :=
  ∀ a t, x s = .ok a t → t.tools = s.tools

theorem KeepsTools.bind {α β : Type} {x : Audit α} {f : α → Audit β} {s : Session}
    (first : KeepsTools x s) (second : ∀ a t, KeepsTools (f a) t) : KeepsTools (x >>= f) s := by
  intro b u answered
  obtain ⟨a, t, early, late⟩ := bind_ok answered
  exact (second a t b u late).trans (first a t early)

theorem keepsTools_get {β : Type} {f : Session → Audit β} {s : Session}
    (h : KeepsTools (f s) s) : KeepsTools (get >>= f) s := h

theorem keepsTools_pure {α : Type} (a : α) (s : Session) : KeepsTools (pure a) s := by
  rintro _ _ ⟨⟩
  rfl

theorem keepsTools_tell (s : Session) (events : List Event) :
    KeepsTools (set (s.tell events)) s := by
  rintro _ _ ⟨⟩
  rfl

theorem keepsTools_debug (name message : Text) (s : Session) :
    KeepsTools (debug name message) s := by
  intro _ _ answered
  rw [debug_eq] at answered
  cases answered
  rfl

theorem keepsTools_runHere (argv : List Text) (capture : Command.Capture) (s : Session) :
    KeepsTools (runHere argv capture) s := by
  apply (keepsTools_debug _ _ s).bind
  intro _ t
  cases argv with
  | nil =>
    intro _ _ faulted
    cases faulted
  | cons program words =>
    apply keepsTools_get
    apply (keepsTools_tell t _).bind
    intro _ u
    generalize t.host.respond t.requests _ = reply
    cases reply with
    | refused => exact (keepsTools_debug _ _ u).bind fun _ => keepsTools_pure _
    | finished => exact (keepsTools_debug _ _ u).bind fun _ => keepsTools_pure _

theorem keepsTools_run (argv : List Text) (capture : Command.Capture) (s : Session) :
    KeepsTools (run argv capture) s := by
  apply keepsTools_get
  cases s.host.standIn with
  | none => exact keepsTools_runHere argv capture s
  | some answer => exact (keepsTools_tell s _).bind fun _ => keepsTools_pure _

end Audit

namespace Checks

/-- How an interpreter is asked for its version. -/
def versionCall (perl : Text) : Command.Call :=
  ⟨[perl, "-e", "print $]"], { discardErrors := true }⟩

/-- The version of an interpreter: the one known, or else the one it gives. -/
def versionFor (perl : Text) (s : Session) : Option Number.Binary64 :=
  (s.tools.versions.lookup perl).getD
    (Tools.versionOf (s.host.answer s.requests (versionCall perl)))

end Checks

namespace Tools

open Audit Session
open Checks (versionCall versionFor)
open Text (given)

/-- The coverage tool: the one known, the one asked for or one on the search path. -/
def coverFor (wanted : Option Text) (s : Session) : Option Text :=
  s.tools.cover.or ((given wanted).or
    (search s.host.disk ((s.host.getVar? "PATH").getD standardPath) coverName))

/-- The version that an interpreter would give if it were asked now. -/
def reported (perl : Text) (s : Session) : Option Binary64 :=
  versionOf (s.host.answer s.requests (versionCall perl))

/-- What is known of versions after an interpreter was asked about. -/
def learned (perl : Text) (s : Session) : List (Text × Option Binary64) :=
  (s.tools.versions.lookup perl).elim ((perl, reported perl s) :: s.tools.versions)
    fun _ => s.tools.versions

/-- How an interpreter is asked. -/
def probe (perl : Text) : Request := (versionCall perl).request

theorem probe_injective : Function.Injective probe := by
  intro perl other same
  simpa [probe, versionCall, Command.Call.request, Command.request] using same

/-- What is started to find out about an interpreter. -/
def probes (perl : Text) (s : Session) : List Request :=
  (s.tools.versions.lookup perl).elim [probe perl] fun _ => []

theorem lookup_learned (perl other : Text) (s : Session) :
    (learned perl s).lookup other =
      if other = perl then some (versionFor perl s) else s.tools.versions.lookup other := by
  unfold learned versionFor
  cases known : s.tools.versions.lookup perl with
  | some number =>
    by_cases same : other = perl
    · simp [same, known]
    · simp [same]
  | none =>
    by_cases same : other = perl
    · simp [same, reported]
    · have apart : (other == perl) = false := beq_eq_false_iff_ne.mpr same
      simp [List.lookup_cons, same, apart]

/-- An interpreter is asked unless its version is known. From then on it is known. -/
theorem version_eq (perl : Text) (s : Session) :
    ∃ t, version perl s = .ok (versionFor perl s) t ∧ Ledger s t (probes perl s) [] ∧
      t.tools = { s.tools with versions := learned perl s } := by
  have here : (get : Audit Session) s = .ok s s := rfl
  unfold version versionFor probes learned
  cases known : s.tools.versions.lookup perl with
  | some number =>
    refine ⟨s, ?_, .refl s, rfl⟩
    rw [bind_eq here, known]
    rfl
  | none =>
    let number := reported perl s
    let shown := (number.map Binary64.shortest).getD "None"
    obtain ⟨t, asked, ledger⟩ := run_writes (versionCall perl) (by simp [versionCall]) s
    obtain ⟨u, logged, later⟩ :=
      debug_writes "tools" ("perl " ++ perl ++ " reports version " ++ shown) t
    have kept : u.tools = s.tools :=
      (keepsTools_debug _ _ t _ u logged).trans (keepsTools_run _ _ s _ t asked)
    let told := { u with tools.versions := (perl, number) :: u.tools.versions }
    refine ⟨told, ?_, (ledger.trans later).unseen rfl rfl rfl rfl, ?_⟩
    · rw [bind_eq here, known]
      exact (bind_eq asked).trans (bind_eq logged)
    · simp only [told, kept, Option.elim_none, number]

/-- The coverage tool that is answered is the one that is known from then on. -/
theorem coverPath_eq (wanted : Option Text) (s : Session) :
    ∃ t, coverPath wanted s = .ok (coverFor wanted s) t ∧ Ledger s t [] [] ∧
      t.tools = { s.tools with cover := coverFor wanted s } := by
  have here : (get : Audit Session) s = .ok s s := rfl
  unfold coverPath coverFor
  cases known : s.tools.cover with
  | some path =>
    refine ⟨s, ?_, .refl s, ?_⟩
    · rw [bind_eq here, known]
      rfl
    · rw [Option.some_or, ← known]
  | none =>
    cases asked : given wanted with
    | some path =>
      let told := { s with tools.cover := some path }
      refine ⟨told, ?_, (Ledger.refl s).unseen rfl rfl rfl rfl, rfl⟩
      rw [bind_eq here, known]
      rfl
    | none =>
      let found := search s.host.disk ((s.host.getVar? "PATH").getD standardPath) coverName
      let told := { s with tools.cover := found }
      have stored : (set told : Audit PUnit) s = .ok ⟨⟩ told := rfl
      have unseen : Ledger s told [] [] := (Ledger.refl s).unseen rfl rfl rfl rfl
      obtain ⟨t, logged, ledger⟩ :=
        debug_writes "tools" ("cover binary resolved to " ++ found.getD "None") told
      refine ⟨t, ?_, unseen.trans ledger, keepsTools_debug _ _ told _ t logged⟩
      rw [bind_eq here, known]
      exact (bind_eq stored).trans (bind_eq logged)

end Tools

end PerlAudit
