import PerlAudit.Options.Manual
import PerlAudit.Text.Lines
import PerlAudit.Text.Quoted

/-!
Reading a command line. A long option may be shortened as long as one option fits; flags of one
letter may be joined; a word such as `-1` is a number and no option; after `--` there are no
options.
-/

namespace PerlAudit.Options

open Text Number

/-- A word that looks like an option. -/
structure Match where
  spec : Option Spec
  name : Text
  value : Option Text
  deriving DecidableEq, Repr

/-- The word that ends the options. -/
def dashes : Text := "--"

inductive Word where
  | plain
  | dashes
  | option (m : Match)
  deriving DecidableEq, Repr

def Word.isOption : Word → Bool
  | option _ => true
  | _ => false

/-- Splits at the first equals sign. -/
def splitEquals (s : Text) : Text × Option Text :=
  match s.dropWhile (!·.is '=') with
  | [] => (s, none)
  | _ :: value => (s.takeWhile (!·.is '='), some value)

/-- A hyphen and a number, perhaps before a last line feed. -/
def isNegativeNumber : List Char → Bool
  | '-' :: rest =>
    let body :=
      match rest.getLast? with
      | some '\n' => rest.dropLast
      | _ => rest
    match body.dropWhile isDigit with
    | [] => !body.isEmpty
    | '.' :: places => !places.isEmpty && places.all isDigit
    | _ => false
  | _ => false

/-- The options that an abbreviation may stand for. -/
def candidates (g : Grammar) (s : Text) : List Match :=
  match s with
  | .char '-' :: .char '-' :: _ =>
    let (start, value) := splitEquals s
    (g.names.filter fun (name, _) => start.isPrefixOf name).map fun (name, spec) =>
      ⟨some spec, name, value⟩
  | _ =>
    g.names.filterMap fun (name, spec) =>
      if name == s.take 2 then some ⟨some spec, name, some (s.drop 2)⟩
      else if s.isPrefixOf name then some ⟨some spec, name, none⟩
      else none

/-- What a word is in a grammar. -/
def classify (g : Grammar) (word : Text) : Except Stop Word :=
  if word.head? != some '-' then .ok .plain
  else
    match g.find? word with
    | some spec => .ok (.option ⟨some spec, word, none⟩)
    | none =>
      if word.length = 1 then .ok .plain
      else
        let (start, value) := splitEquals word
        match value, g.find? start with
        | some value, some spec => .ok (.option ⟨some spec, start, some value⟩)
        | _, _ =>
          match candidates g word with
          | [m] => .ok (.option m)
          | [] =>
            if isNegativeNumber word.chars || word.contains ' ' then .ok .plain
            else .ok (.option ⟨none, word, none⟩)
          | many =>
            .error (g.refuse ("ambiguous option: " ++ word ++ " could match " ++
              joinWith ", " (many.map (·.name))))

/-- Every word with what it is. -/
def classifyAll (g : Grammar) : List Text → Except Stop (List (Text × Word))
  | [] => .ok []
  | word :: rest =>
    if word == dashes then .ok ((word, .dashes) :: rest.map (·, .plain))
    else do
      let kind ← classify g word
      let more ← classifyAll g rest
      return (word, kind) :: more

/-- Options joined in one word: those that are complete, and the last if it looks for its value in
the next word. -/
structure Joined where
  complete : List (Spec × Option Text)
  last : Option Spec
  deriving DecidableEq, Repr

/-- Takes a word apart that has something behind an option's name. Behind a flag of one letter there
may be others, and nothing else. -/
def unjoin (g : Grammar) (spec : Spec) (short : Bool) (value : Text) : Except Stop Joined :=
  let ignored := g.refuseOption spec ("ignored explicit argument " ++ quoted value)
  if spec.takesValue then .ok ⟨[(spec, some value)], none⟩
  else
    match value with
    | [] => .error ignored
    | c :: rest =>
      match g.find? ['-', c], short, rest with
      | none, _, _ => .error ignored
      | _, false, _ => .error ignored
      | some next, true, [] => .ok ⟨[(spec, none)], some next⟩
      | some next, true, rest =>
        (unjoin g next true rest).map fun j => { j with complete := (spec, none) :: j.complete }
termination_by value.length

def isShort (name : Text) : Bool := (name.drop 1).head?.all (!·.is '-')

/-- Reads the value of an option. In the place of a value `--` is dropped as it is among other
words, and nothing is left to read. -/
def readOption (g : Grammar) (spec : Spec) (value : Option Text) : Except Stop Given :=
  let value := value.filter (· != dashes)
  match spec.kind with
  | .help => .error (.help (Options.text g.manual))
  | .verbose => .ok .verbose
  | .warnings => .ok .warnings
  | .config => .ok (.config value)
  | .perl => .ok (.perl value)
  | .logFile => .ok (.logFile value)
  | .cover => .ok (.cover value)
  | .plan =>
    match value.map fun text => (text, readInteger .decimal text.chars) with
    | none => .ok (.plan none)
    | some (_, .ok n) => .ok (.plan (some n))
    | some (text, .error _) => .error (g.refuseOption spec ("invalid int value: " ++ quoted text))
  | .threshold =>
    match value.map fun text => (text, Binary64.parse? text.chars) with
    | none => .ok (.threshold none)
    | some (_, some x) => .ok (.threshold (some x))
    | some (text, none) => .error (g.refuseOption spec ("invalid float value: " ++ quoted text))

/-- What has been read of a command line. -/
structure Progress where
  given : List Given
  words : Option (List Text)
  unknown : List Text
  deriving DecidableEq, Repr

abbrev Rest := List (Text × Word)

/-- The words up to the next option. -/
def run (rest : Rest) : Rest := rest.takeWhile (!·.2.isOption)

/-- How many words the grammar takes here for its own. A command takes all that follows it. -/
def wordCount (g : Grammar) (rest : Rest) : Option Nat :=
  let hasPlain := (run rest).any (·.2 == .plain)
  match g.words with
  | .command _ => if hasPlain then some rest.length else none
  | .some _ _ => if hasPlain then some (run rest).length else none
  | .any _ _ => some (run rest).length

/-- Words as they are kept: but for a command, the first `--` is dropped. -/
def keptWords (g : Grammar) (words : List Text) : List Text :=
  if g.words.isCommand then words else words.erase dashes

/-- Reads one option, with its value from the next word if need be. -/
def takeOption (g : Grammar) (word : Text) (m : Match) (rest : Rest) :
    Except Stop (List Given × List Text × Nat) :=
  match m.spec with
  | none => .ok ([], [word], 0)
  | some spec => do
    let joined ←
      match m.value with
      | some value => unjoin g spec (isShort m.name) value
      | none => .ok ⟨[], some spec⟩
    let (last, used) ←
      match joined.last with
      | none => .ok ([], 0)
      | some spec =>
        if spec.takesValue then
          match rest with
          | (value, .plain) :: _ => .ok ([(spec, some value)], 1)
          | _ => .error (g.refuseOption spec "expected one argument")
        else .ok ([(spec, none)], 0)
    let given ← (joined.complete ++ last).mapM fun (spec, value) => readOption g spec value
    return (given, [], used)

/-- Reads the rest of a command line, options and other words in turn. -/
def consume (g : Grammar) (p : Progress) (rest : Rest) : Except Stop Progress :=
  match rest with
  | (word, .option m) :: more => do
    let (given, unknown, used) ← takeOption g word m more
    consume g { p with given := p.given ++ given, unknown := p.unknown ++ unknown } (more.drop used)
  | [] =>
    match p.words, wordCount g [] with
    | none, some _ => .ok { p with words := some [] }
    | _, _ => .ok p
  | first :: more =>
    match p.words, wordCount g (first :: more) with
    | none, some count =>
      let words := keptWords g (((first :: more).take count).map (·.1))
      consume g { p with words := some words } (more.drop (count - 1))
    | _, _ =>
      let skipped := (run (first :: more)).map (·.1)
      consume g { p with unknown := p.unknown ++ skipped } (more.drop (skipped.length - 1))
termination_by rest.length
decreasing_by all_goals simp only [List.length_cons, List.length_drop]; omega

/-- Reads a command line by a grammar. -/
def parse (g : Grammar) (words : List Text) : Except Stop Progress := do
  let rest ← classifyAll g words
  let p ← consume g ⟨[], none, []⟩ rest
  match p.words, g.words with
  | none, .command _ => throw (g.refuse "the following arguments are required: command")
  | none, .some name _ => throw (g.refuse ("the following arguments are required: " ++ name))
  | _, _ => return p

/-- What to do. -/
inductive Task where
  | checkSyntax (files : List Text)
  | checkStrict (files : List Text)
  | checkWarnings (files : List Text)
  | checkFiles (warnings : Bool) (dirs : List Text)
  | checkCover (threshold : Option (Option Binary64)) (cover : Option Text) (dirs : List Text)
  deriving DecidableEq, Repr

/-- A command line that can be carried out. A setting that was not given is missing, and so is the
value of one that was given without. -/
structure Invocation where
  verbose : Bool
  config : Option Text
  plan : Option (Option Int)
  perl : Option Text
  logFile : Option (Option Text)
  task : Task
  deriving DecidableEq, Repr

/-- The last value of the options that `pick` picks. -/
def last? {α : Type} (given : List Given) (pick : Given → Option α) : Option α :=
  (given.filterMap pick).getLast?

def coverTask (given : List Given) (words : List Text) : Task :=
  .checkCover
    (last? given fun | .threshold x => some x | _ => none)
    (last? given fun | .cover path => some path | _ => none).join words

/-- A command: its grammar, and the task that its options and its words make. -/
structure Verb where
  grammar : Grammar
  task : List Given → List Text → Task

def verbs (width : Int) : List (Text × Verb) := [
  ("syntax", ⟨checkGrammar width "syntax", fun _ => .checkSyntax⟩),
  ("strict", ⟨checkGrammar width "strict", fun _ => .checkStrict⟩),
  ("warnings", ⟨checkGrammar width "warnings", fun _ => .checkWarnings⟩),
  ("files", ⟨filesGrammar width, fun given => .checkFiles (given.contains .warnings)⟩),
  ("cover", ⟨coverGrammar width, coverTask⟩)]

/-- Reads a whole command line; `width` is that of the lines in which it is answered. -/
def read (width : Int) (argv : List Text) : Except Stop Invocation := do
  let topGrammar := topGrammar width
  let top ← parse topGrammar argv
  let words := top.words.getD []
  let command := words.head?.getD []
  match (verbs width).lookup command with
  | none =>
    throw (topGrammar.refuse ("argument command: invalid choice: " ++ quoted command ++
      " (choose from " ++ joinWith ", " (choices.map fun (name, _) => quoted name) ++ ")"))
  | some verb =>
    let sub ← parse verb.grammar (words.drop 1)
    let unknown := top.unknown ++ sub.unknown
    if !unknown.isEmpty then
      throw (topGrammar.refuse ("unrecognized arguments: " ++ joinWith " " unknown))
    let given := top.given
    return {
      verbose := (top.given ++ sub.given).contains .verbose
      config := (last? given fun | .config path => some path | _ => none).getD (some (ofString "."))
      plan := last? given fun | .plan count => some count | _ => none
      perl := (last? given fun | .perl path => some path | _ => none).join
      logFile := last? given fun | .logFile path => some path | _ => none
      task := verb.task sub.given (sub.words.getD []) }

end PerlAudit.Options
