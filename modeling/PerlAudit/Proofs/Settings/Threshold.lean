import PerlAudit.Proofs.Document.Filling
import PerlAudit.Proofs.Settings.Flat

namespace PerlAudit

namespace Number.Binary64

theorem ofUnits_ne_nan (negative : Bool) (num den : Nat) : ofUnits negative num den ≠ .nan := by
  unfold ofUnits
  dsimp only
  split <;> nofun

theorem ofDecimal_ne_nan (negative : Bool) (significand : Nat) (exponent : Int) :
    ofDecimal negative significand exponent ≠ .nan := by
  cases exponent <;> exact ofUnits_ne_nan _ _ _

/-- Numbers that are numbers can be compared. -/
theorem le_total {x y : Binary64} (number : x ≠ .nan) (other : y ≠ .nan) :
    le x y = true ∨ le y x = true := by
  match x, y with
  | .nan, _ => exact absurd rfl number
  | _, .nan => exact absurd rfl other
  | .infinite true, .infinite _ | .infinite true, .finite .. => exact .inl rfl
  | .infinite false, .infinite false | .finite .., .infinite false => exact .inl rfl
  | .infinite false, .infinite true | .infinite false, .finite .. => exact .inr rfl
  | .finite .., .infinite true => exact .inr rfl
  | .finite n m, .finite k l => simpa [le] using Int.le_total _ _

theorem le_of_not_lt {x y : Binary64} (number : x ≠ .nan) (other : y ≠ .nan)
    (h : lt y x = false) : le x y = true := by
  obtain below | above := le_total number other
  · exact below
  · simpa [lt, above] using h

theorem not_lt_of_le {x y : Binary64} (h : le x y = true) : lt y x = false := by
  simp [lt, h]

theorem lt_nan (x : Binary64) : lt x .nan = false := by
  cases x <;> rfl

end Number.Binary64

namespace Settings

open Text Files Number

/-- A number from 0 to 100. What is not a number is not in order with either. -/
def IsPercentage (x : Binary64) : Prop :=
  Binary64.le .zero x = true ∧ Binary64.le x (.ofDecimal false 100 0) = true

/-- The range is checked by what it excludes, and nothing excludes what is not a number. -/
theorem checkThreshold_eq_ok_iff {x y : Binary64} :
    checkThreshold x = .ok y ↔ y = x ∧ (x = .nan ∨ IsPercentage x) := by
  have bound : Binary64.ofDecimal false 100 0 ≠ .nan := Binary64.ofDecimal_ne_nan _ _ _
  unfold checkThreshold IsPercentage
  generalize Binary64.ofDecimal false 100 0 = top at bound ⊢
  constructor
  · intro h
    split at h
    · cases h
    · rename_i inside
      cases h
      obtain ⟨low, high⟩ : x.lt .zero = false ∧ top.lt x = false := by simpa using inside
      refine ⟨rfl, or_iff_not_imp_left.mpr fun number => ⟨?_, ?_⟩⟩
      · exact Binary64.le_of_not_lt (by nofun) number low
      · exact Binary64.le_of_not_lt number bound high
  · rintro ⟨rfl, rfl | ⟨low, high⟩⟩
    · rw [Binary64.lt_nan]
      rfl
    · rw [Binary64.not_lt_of_le low, Binary64.not_lt_of_le high]
      rfl

theorem checkThreshold_error {x : Binary64} {fault : Fault} (h : checkThreshold x = .error fault) :
    ∃ cause, fault = .settings cause := by
  unfold checkThreshold at h
  split at h
  · cases h
    exact ⟨_, rfl⟩
  · cases h

theorem default_isPercentage : IsPercentage (.ofDecimal false 50 0) :=
  ⟨by decide +kernel, by decide +kernel⟩

end Settings

namespace Value

open Text Number

/-- Only an integer may be too large for a number. -/
theorem asNumber_error {v : Value} {fault : Fault} (h : v.asNumber = .error fault) :
    ∃ n, v = .integer n ∧ Binary64.ofInt? n = none ∧ fault = .integerTooLarge := by
  cases v with
  | integer n =>
    have rounds : (integer n).asNumber =
        ((Binary64.ofInt? n).elim (Except.error Fault.integerTooLarge) Except.ok).map some := rfl
    rw [rounds] at h
    refine ⟨n, rfl, ?_⟩
    cases nearest : Binary64.ofInt? n with
    | none =>
      rw [nearest] at h
      cases h
      exact ⟨rfl, rfl⟩
    | some x =>
      rw [nearest] at h
      cases h
  | null | truth | number | text | bytes | moment | list | mapping | unordered => cases h

theorem integerText_error {n : Int} {fault : Fault} (h : integerText n = .error fault) :
    writeInteger? n = none ∧ fault = .integerUnwritable := by
  unfold integerText at h
  split at h
  · cases h
  · rename_i unwritable
    cases h
    exact ⟨unwritable, rfl⟩

/-- Only an integer may have too many digits to be shown. -/
theorem asText_error {v : Value} {fault : Fault} (h : v.asText = .error fault) :
    ∃ n, v = .integer n ∧ writeInteger? n = none ∧ fault = .integerUnwritable := by
  cases v with
  | integer n =>
    refine ⟨n, rfl, ?_⟩
    have shown : (integer n).asText = (integerText n).map some := rfl
    rw [shown] at h
    cases written : integerText n with
    | ok t => simp [written, Except.map] at h
    | error other =>
      obtain rfl : other = fault := by simpa [written, Except.map] using h
      exact integerText_error written
  | null | truth | number | text | bytes | moment | list | mapping | unordered => cases h

theorem itemTexts_error {items : List Value} {fault : Fault} (h : itemTexts items = .error fault) :
    ∃ n, .integer n ∈ items ∧ writeInteger? n = none ∧ fault = .integerUnwritable := by
  induction items with
  | nil => cases h
  | cons item rest ih =>
    have later (h : itemTexts rest = .error fault) : ∃ n, .integer n ∈ item :: rest ∧
        writeInteger? n = none ∧ fault = .integerUnwritable := by
      obtain ⟨n, member, unwritable⟩ := ih h
      exact ⟨n, List.mem_cons_of_mem _ member, unwritable⟩
    have shown {t : Text} (h : (itemTexts rest).map (t :: ·) = .error fault) :
        itemTexts rest = .error fault := by
      cases more : itemTexts rest with
      | error other => simpa [more, Except.map] using h
      | ok texts => simp [more, Except.map] at h
    cases item with
    | integer n =>
      have both : itemTexts (.integer n :: rest) =
          integerText n >>= fun first => (itemTexts rest).map (first :: ·) := rfl
      rw [both] at h
      cases written : integerText n with
      | error other =>
        obtain rfl : other = fault := by simpa [written, bind, Except.bind] using h
        exact ⟨n, List.mem_cons_self, integerText_error written⟩
      | ok t =>
        rw [written] at h
        exact later (shown h)
    | truth | number | text => exact later (shown h)
    | null | bytes | moment | list | mapping | unordered => exact later h

theorem asTexts_error {v : Value} {fault : Fault} (h : v.asTexts = .error fault) :
    ∃ items n, v = .list items ∧ .integer n ∈ items ∧ writeInteger? n = none ∧
      fault = .integerUnwritable := by
  cases v with
  | list items =>
    obtain ⟨n, unwritable⟩ := itemTexts_error h
    exact ⟨items, n, rfl, unwritable⟩
  | null | truth | integer | number | text | bytes | moment | mapping | unordered => cases h

end Value

namespace Settings

open Text Number

/-- What a document says about the threshold. -/
def thresholdEntry (data : Value) : Value := entry (entry data "coverage") "threshold"

/-- An integer of too many digits stands where a text is wanted. -/
inductive Unwritable (data : Value) : Prop where
  | single {n : Int} (long : writeInteger? n = none)
      (place : entry data "perl" = .integer n ∨ entry (entry data "coverage") "cover" = .integer n)
  | item {n : Int} {items : List Value} (long : writeInteger? n = none)
      (member : .integer n ∈ items)
      (place : data.get? "include_dirs" = some (.list items) ∨ entry data "exclude" = .list items)

/-- What the settings of a document may come to. -/
inductive Reading (data : Value) : Except Fault Settings → Prop where
  | inRange {settings : Settings} {x : Binary64} (threshold : settings.threshold = .real x)
      (range : IsPercentage x) : Reading data (.ok settings)
  | refused (cause : SettingsFault) : Reading data (.error (.settings cause))
  | notNumber {settings : Settings} (threshold : settings.threshold = .real .nan)
      (given : (thresholdEntry data).asNumber = .ok (some .nan)) : Reading data (.ok settings)
  | tooLarge {n : Int} (given : thresholdEntry data = .integer n)
      (large : Binary64.ofInt? n = none) : Reading data (.error .integerTooLarge)
  | unwritable (long : Unwritable data) : Reading data (.error .integerUnwritable)

/-- An answer that is made in two steps is made by the first if that fails. -/
theorem answer_bind {α β : Type} {P : Except Fault β → Prop} {x : Except Fault α}
    {f : α → Except Fault β} (fails : ∀ fault, x = .error fault → P (.error fault))
    (goes : ∀ a, x = .ok a → P (f a)) : P (x >>= f) := by
  cases x with
  | error fault => exact fails fault rfl
  | ok a => exact goes a rfl

/-- A threshold that is in range before the coverage section is read. -/
theorem withCoverage_reading {data : Value} {s : Settings} {x : Binary64}
    (threshold : s.threshold = .real x) (range : IsPercentage x) :
    Reading data (s.withCoverage (entry data "coverage")) := by
  unfold withCoverage
  cases found : entry data "coverage" with
  | mapping entries =>
    cases entries with
    | nil => exact .inRange threshold range
    | cons first rest =>
      refine answer_bind (P := Reading data) (fun fault failed => ?_) fun cover _ => ?_
      · obtain ⟨n, given, long, rfl⟩ := Value.asText_error failed
        exact .unwritable (.single long (.inr (found ▸ given)))
      · cases given : entry (.mapping (first :: rest)) "threshold" with
        | null => exact .inRange threshold range
        | truth | integer | number | text | bytes | moment | list | mapping | unordered =>
          rw [← found] at given
          refine answer_bind (P := Reading data) (fun fault failed => ?_) fun number reads => ?_
          · obtain ⟨n, same, large, rfl⟩ := Value.asNumber_error failed
            exact .tooLarge (given.trans same) large
          · cases number with
            | none => exact .refused _
            | some x =>
              refine answer_bind (P := Reading data) (fun fault bad => ?_) fun y good => ?_
              · obtain ⟨cause, rfl⟩ := checkThreshold_error bad
                exact .refused cause
              · obtain ⟨rfl, rfl | range⟩ := checkThreshold_eq_ok_iff.mp good
                · exact .notNumber rfl ((congrArg Value.asNumber given).trans reads)
                · exact .inRange rfl range
  | null | truth | integer | number | text | bytes | moment | list | unordered =>
    exact .inRange threshold range

/-- Whatever a document says, its settings come to one of these. -/
theorem withDocument_reading {s : Settings} {x : Binary64} (threshold : s.threshold = .real x)
    (range : IsPercentage x) (data : Value) : Reading data (s.withDocument data) := by
  have rest (changed : List Text → Settings)
      (kept : ∀ exclude, (changed exclude).threshold = .real x) :
      Reading data ((entry data "exclude").asTexts >>= fun exclude =>
        (changed exclude).withCoverage (entry data "coverage")) := by
    refine answer_bind (P := Reading data) (fun fault failed => ?_) fun exclude _ => ?_
    · obtain ⟨items, n, given, member, long, rfl⟩ := Value.asTexts_error failed
      exact .unwritable (.item long member (.inr given))
    · exact withCoverage_reading (kept exclude) range
  refine answer_bind (P := Reading data) (fun fault failed => ?_) fun perl _ => ?_
  · obtain ⟨n, given, long, rfl⟩ := Value.asText_error failed
    exact .unwritable (.single long (.inl given))
  · cases given : data.get? "include_dirs" with
    | none => exact rest _ fun _ => threshold
    | some dirs =>
      refine answer_bind (P := Reading data) (fun fault failed => ?_) fun includeDirs _ => ?_
      · obtain ⟨items, n, rfl, member, long, rfl⟩ := Value.asTexts_error failed
        exact .unwritable (.item long member (.inl given))
      · exact rest _ fun _ => threshold

/-- The environment has no say about the threshold. -/
theorem Reading.withEnvironment {data : Value} {answer : Except Fault Settings}
    (h : Reading data answer) (environment : Environment) :
    Reading data (answer >>= fun s => pure (s.withEnvironment environment)) := by
  cases h with
  | inRange threshold range => exact .inRange threshold range
  | refused cause => exact .refused cause
  | notNumber threshold given => exact .notNumber threshold given
  | tooLarge given large => exact .tooLarge given large
  | unwritable long => exact .unwritable long

/-- The document of a text. A text that cannot be read says nothing. -/
def documentOf (host : Host) (chars : List Char) : Value :=
  (host.readDocument (unifyNewlines chars)).toOption.getD .null

theorem lookAt_of_read {disk : Files.Disk} {file : Text} {content : Bytes}
    (readable : disk.read file = .ok content) : ∃ node, lookAt disk file = .ok (some node) := by
  unfold Files.Disk.read Files.Disk.openFile at readable
  unfold lookAt
  cases found : disk.find file with
  | error reason => simp [found] at readable
  | ok there => exact ⟨there.2, rfl⟩

/-- What settings may come to that are made of the content of a file. -/
theorem readFile_reading {host : Host} {file : Text} {content : Bytes} {chars : List Char}
    (readable : host.disk.read file = .ok content) (bytes : decodeStrict content = .ok chars)
    {s : Settings} {x : Binary64} (threshold : s.threshold = .real x) (range : IsPercentage x) :
    (∃ fault, host.readDocument (unifyNewlines chars) = .error (.value fault) ∧
      readFile host file = .error fault) ∨
    Reading (documentOf host chars) (readFile host file >>= s.withDocument) := by
  have empty (data : Value) : Reading data (s.withDocument (.mapping [])) :=
    .inRange threshold range
  unfold readFile documentOf
  dsimp only
  rw [readable]
  dsimp only
  rw [bytes]
  dsimp only
  split
  · exact .inr (empty _)
  · cases document : host.readDocument (unifyNewlines chars) with
    | error cause =>
      cases cause with
      | malformed => exact .inr (.refused _)
      | value fault => exact .inl ⟨fault, rfl, rfl⟩
    | ok data =>
      refine .inr ?_
      cases data with
      | null => exact empty _
      | mapping entries => exact withDocument_reading threshold range (.mapping entries)
      | truth | integer | number | text | bytes | moment | list | unordered => exact .refused _

/-- A file that can be read is all that settings are made of. -/
theorem load_eq {host : Host} {path file root : Text} {content : Bytes}
    (environment : Environment) (located : locate host path = .ok file)
    (rooted : resolve host.disk (Path.parent file) = .ok root)
    (readable : host.disk.read file = .ok content) :
    load host environment path = (readFile host file >>= (Settings.default root).withDocument)
      >>= fun s => pure (s.withEnvironment environment) := by
  obtain ⟨node, there⟩ := lookAt_of_read readable
  rw [bind_assoc]
  simp only [load, located, rooted, there, bind, Except.bind]
  rfl

/-- What the threshold gate lets through. A settings file that can be read gives a threshold from 0
to 100 or is refused, or else its bytes are damaged, a value of its document cannot be made, or its
document holds one of three things: a threshold that is not a number, one that is beyond all
numbers, or an integer of too many digits in the place of a text. -/
theorem loaded_threshold_passed_gate (host : Host) (environment : Environment)
    (path file root : Text) (content : Bytes) (located : locate host path = .ok file)
    (rooted : resolve host.disk (Path.parent file) = .ok root)
    (readable : host.disk.read file = .ok content) :
    (∃ damage, decodeStrict content = .error damage ∧
      load host environment path = .error (.damaged damage)) ∨
    ∃ chars, decodeStrict content = .ok chars ∧
      ((∃ fault, host.readDocument (unifyNewlines chars) = .error (.value fault) ∧
          load host environment path = .error fault) ∨
        Reading (documentOf host chars) (load host environment path)) := by
  have loads := load_eq environment located rooted readable
  cases bytes : decodeStrict content with
  | error damage =>
    refine .inl ⟨damage, rfl, ?_⟩
    have unread : readFile host file = .error (.damaged damage) := by
      simp only [readFile, readable, bytes]
      rfl
    rw [loads, unread]
    rfl
  | ok chars =>
    refine .inr ⟨chars, rfl, ?_⟩
    obtain ⟨fault, unmade, failed⟩ | reading :=
      readFile_reading (s := .default root) readable bytes rfl default_isPercentage
    · refine .inl ⟨fault, unmade, ?_⟩
      rw [loads, failed]
      rfl
    · right
      rw [loads]
      exact reading.withEnvironment environment

/-- A machine with one settings file. -/
def lonelyFile (content : Bytes) : Host :=
  { disk := .flat [("c.yml", .file content false)]
    environment := []
    homes := []
    script := []
    respond := fun _ _ => .refused .noEntry
    stamp := ""
    readDocument
    showDepth := 0 }

section LonelyFile

open Files Disk

variable (content : Bytes)

theorem lonelyFile_entry : IsEntry "c.yml" where
  filled := by decide
  flat := by decide
  other := by decide
  nameable := by decide
  spelled := by decide
  short := by decide +kernel

theorem lonelyFile_found :
    (lonelyFile content).disk.find "/c.yml" = .ok (["c.yml"], .file content false) := by
  refine find_flat_file [""] ⟨?_, ?_, ?_⟩ ?_ ?_ lonelyFile_entry rfl
  all_goals decide +kernel

theorem lonelyFile_located : locate (lonelyFile content) "c.yml" = .ok "/c.yml" := by
  have path : expandHome (lonelyFile content) (Path.compact "c.yml") = .ok "c.yml" := by
    have plain : Path.names (Path.compact "c.yml") = [ofString "c.yml"] := by decide +kernel
    rw [expandHome, plain]
    rfl
  have looked : lookAt (lonelyFile content).disk "c.yml" = .ok (some (.file content false)) := by
    have found : (lonelyFile content).disk.find "c.yml" =
        .ok (["c.yml"], .file content false) := by
      refine find_flat_file [] ⟨?_, ?_, ?_⟩ ?_ ?_ lonelyFile_entry rfl
      all_goals decide +kernel
    rw [lookAt, found]
  have resolved : resolve (lonelyFile content).disk "c.yml" = .ok "/c.yml" := by
    refine resolve_entry [] rfl rfl ?_ ?_ lonelyFile_entry ?_ ?_ ?_ ?_ ?_ ?_
    case refine_8 =>
      intro loop
      cases (lonelyFile_found content).symm.trans loop
    all_goals decide +kernel
  simp only [locate, path, looked, bind, Except.bind]
  exact resolved

theorem lonelyFile_rooted :
    resolve (lonelyFile content).disk (Path.parent "/c.yml") = .ok "/" := by
  have above : Path.parent "/c.yml" = "/" := by decide +kernel
  rw [above]
  exact resolve_top

theorem lonelyFile_readable : (lonelyFile content).disk.read "/c.yml" = .ok content := by
  unfold Disk.read Disk.openFile
  rw [lonelyFile_found]
  rfl

end LonelyFile

/-- Settings whose threshold is not a number, as they are written. -/
def numberless : List Char := "coverage: \x7bthreshold: .nan\x7d\n".toList

theorem loaded_threshold_passed_gate_numberless :
    ∃ file root content,
      locate (lonelyFile (encode numberless)) "c.yml" = .ok file ∧
      resolve (lonelyFile (encode numberless)).disk (Path.parent file) = .ok root ∧
      (lonelyFile (encode numberless)).disk.read file = .ok content ∧
      ((∃ damage, decodeStrict content = .error damage ∧
          load (lonelyFile (encode numberless)) [] "c.yml" = .error (.damaged damage)) ∨
        ∃ chars, decodeStrict content = .ok chars ∧
          ((∃ fault, (lonelyFile (encode numberless)).readDocument (unifyNewlines chars) =
                .error (.value fault) ∧
              load (lonelyFile (encode numberless)) [] "c.yml" = .error fault) ∨
            Reading (documentOf (lonelyFile (encode numberless)) chars)
              (load (lonelyFile (encode numberless)) [] "c.yml"))) :=
  ⟨"/c.yml", "/", encode numberless, lonelyFile_located _, lonelyFile_rooted _,
    lonelyFile_readable _,
    loaded_threshold_passed_gate (lonelyFile (encode numberless)) [] "c.yml" "/c.yml" "/"
      (encode numberless) (lonelyFile_located _) (lonelyFile_rooted _) (lonelyFile_readable _)⟩

/-- The document of those settings. -/
def numberlessDocument : Value :=
  .mapping [(.text "coverage", .mapping [(.text "threshold", .number .nan)])]

theorem numberless_read :
    (lonelyFile (encode numberless)).readDocument (unifyNewlines numberless) =
      .ok numberlessDocument := by
  let graph : Document.Graph := #[⟨.mapping, .mapping [(1, 2)]⟩, ⟨.text, .scalar "coverage"⟩,
    ⟨.mapping, .mapping [(3, 4)]⟩, ⟨.text, .scalar "threshold"⟩, ⟨.number, .scalar ".nan"⟩]
  have composed : Document.compose (Document.tokens (unifyNewlines numberless)) =
      .ok (some 0, graph) := by decide +kernel
  have allowed : (unifyNewlines numberless).all Document.isAllowed = true := by decide +kernel
  let top : Array (Option Document.Made) := #[some .collection, none, none, none, none]
  let inner : Array (Option Document.Made) :=
    #[some .collection, some (.plain (.text "coverage")), some .collection, none, none]
  let full : Array (Option Document.Made) :=
    #[some .collection, some (.plain (.text "coverage")), some .collection,
      some (.plain (.text "threshold")), some (.plain (.number .nan))]
  have first : Document.Making.fill 0 ⟨graph, top, []⟩ = .ok () ⟨graph, inner, [2]⟩ := by
    rw [Document.Making.fill_plain rfl rfl (by decide)]
    rfl
  have second : Document.Making.fill 2 ⟨graph, inner, []⟩ = .ok () ⟨graph, full, []⟩ := by
    rw [Document.Making.fill_plain rfl rfl (by decide)]
    rfl
  have filled : (discard (Document.Making.make 0) >>= fun _ =>
        Document.Making.fillAll (graph.size + 1))
      ⟨graph, Array.replicate graph.size none, []⟩ = .ok () ⟨graph, full, []⟩ :=
    calc Document.Making.fillAll 6 ⟨graph, top, [0]⟩
      _ = Document.Making.fillAll 5 ⟨graph, inner, [2]⟩ := Document.Making.fillAll_single 5 first
      _ = Document.Making.fillAll 4 ⟨graph, full, []⟩ := Document.Making.fillAll_single 4 second
      _ = .ok () ⟨graph, full, []⟩ := rfl
  exact (Document.read_of_filled allowed composed filled).trans rfl

/-- The gate lets a threshold through that is in no order with 0 or 100. -/
theorem load_accepts_numberless :
    ∃ settings, load (lonelyFile (encode numberless)) [] "c.yml" = .ok settings ∧
      settings.threshold = .real .nan ∧ ¬IsPercentage .nan := by
  have bytes : decodeStrict (encode numberless) = .ok numberless := by decide +kernel
  have unblank : ¬(trim (unifyNewlines numberless)).isEmpty := by decide +kernel
  have passed : checkThreshold .nan = .ok .nan := checkThreshold_eq_ok_iff.mpr ⟨rfl, .inl rfl⟩
  have read : readFile (lonelyFile (encode numberless)) "/c.yml" = .ok numberlessDocument := by
    simp only [readFile, lonelyFile_readable, bytes, if_neg unblank, numberless_read]
    rfl
  have gate (s : Settings) : ∃ t, s.withDocument numberlessDocument = .ok t ∧
      t.threshold = .real .nan := by
    have perl : (entry numberlessDocument "perl").asText = .ok none := rfl
    have dirs : numberlessDocument.get? "include_dirs" = none := rfl
    have exclude : (entry numberlessDocument "exclude").asTexts = .ok [] := rfl
    have coverage : entry numberlessDocument "coverage" =
      .mapping [(.text "threshold", .number .nan)] := rfl
    have cover : (entry (.mapping [(.text "threshold", .number .nan)]) "cover").asText =
      .ok none := rfl
    have threshold : entry (.mapping [(.text "threshold", .number .nan)]) "threshold" =
      .number .nan := rfl
    simp only [withDocument, perl, dirs, exclude, coverage, withCoverage, cover, threshold,
      Value.asNumber, passed, bind, Except.bind]
    exact ⟨_, rfl, rfl⟩
  obtain ⟨t, made, threshold⟩ := gate (.default "/")
  rw [load_eq [] (lonelyFile_located _) (lonelyFile_rooted _) (lonelyFile_readable _)]
  simp only [read, made, bind, Except.bind]
  exact ⟨t.withEnvironment [], rfl, threshold, fun range => Bool.noConfusion range.1⟩

end Settings

end PerlAudit
