import PerlAudit.Number.Decimal
import PerlAudit.Options.Layout

namespace PerlAudit.Options

open Text Number

inductive Kind where
  | help
  | verbose
  | config
  | plan
  | perl
  | logFile
  | warnings
  | threshold
  | cover
  deriving DecidableEq, Repr

/-- An option; `value` is what its value is called, if it takes one. -/
structure Spec where
  kind : Kind
  names : List Text
  value : Option Text
  about : Text
  deriving DecidableEq, Repr

namespace Spec

def takesValue (s : Spec) : Bool := s.value.isSome

def shown (s : Spec) : Text := joinWith "/" s.names

def withValue (s : Spec) (name : Text) : Text :=
  match s.value with
  | none => name
  | some value => name ++ " " ++ value

def usage (s : Spec) : Text := "[" ++ s.withValue (s.names.headD []) ++ "]"

def entry (s : Spec) : Entry :=
  ⟨sectionIndent, joinWith ", " (s.names.map s.withValue), some s.about⟩

end Spec

/-- An option with its value. There is none where `--` stands for it, as in `--perl=--`. -/
inductive Given where
  | verbose
  | config (path : Option Text)
  | plan (count : Option Int)
  | perl (path : Option Text)
  | logFile (path : Option Text)
  | warnings
  | threshold (x : Option Binary64)
  | cover (path : Option Text)
  deriving DecidableEq, Repr

/-- What the other words are: a command and all that follows it, one or more names, or any number.
-/
inductive Words where
  | command (choices : List (Text × Text))
  | some (name about : Text)
  | any (name about : Text)
  deriving DecidableEq, Repr

namespace Words

def choiceLabel (choices : List (Text × Text)) : Text :=
  "\x7b" ++ joinWith "," (choices.map (·.1)) ++ "\x7d"

def usage : Words → List Text
  | command choices => [choiceLabel choices, "..."]
  | some name _ => [name, "[" ++ name ++ " ...]"]
  | any name _ => ["[" ++ name ++ " ...]"]

def entries : Words → List Entry
  | command choices =>
    ⟨sectionIndent, choiceLabel choices, none⟩ ::
      choices.map fun (name, about) => ⟨2 * sectionIndent, name, Option.some about⟩
  | some name about => [⟨sectionIndent, name, Option.some about⟩]
  | any name about => [⟨sectionIndent, name, Option.some about⟩]

def isCommand : Words → Bool
  | command _ => true
  | _ => false

end Words

/-- A grammar, and the width of the lines in which it is explained. -/
structure Grammar where
  width : Int
  program : Text
  about : Option Text
  options : List Spec
  words : Words
  deriving DecidableEq, Repr

/-- Why a command line is not carried out. -/
inductive Stop where
  | help (text : Text)
  | refused (text : Text)
  deriving DecidableEq, Repr

namespace Grammar

def usage (g : Grammar) : List Text :=
  Usage.lines ⟨g.program, g.options.map Spec.usage, g.words.usage⟩ g.width

/-- The whole explanation. -/
def manual (g : Grammar) : List Text :=
  let words := g.words.entries
  let options := g.options.map Spec.entry
  let position := aboutColumn g.width ((words ++ options).map (·.label))
  let lines (entries : List Entry) := entries.flatMap fun e => e.lines g.width position
  g.usage ++ ((g.about.map fun about => [] :: filled g.width about).getD []) ++
    [] :: ofString "positional arguments:" :: lines words ++
    [] :: ofString "options:" :: lines options

def refuse (g : Grammar) (message : Text) : Stop :=
  .refused (Options.text g.usage ++ g.program ++ ": error: " ++ message ++ "\n")

def refuseOption (g : Grammar) (s : Spec) (message : Text) : Stop :=
  g.refuse ("argument " ++ s.shown ++ ": " ++ message)

def find? (g : Grammar) (name : Text) : Option Spec := g.options.find? (·.names.contains name)

/-- All names of options, each with its option. -/
def names (g : Grammar) : List (Text × Spec) :=
  g.options.flatMap fun spec => spec.names.map (·, spec)

end Grammar

end PerlAudit.Options
