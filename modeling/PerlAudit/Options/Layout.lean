import PerlAudit.Environment
import PerlAudit.Text.Integer
import PerlAudit.Text.Wrap

/-!
The layout of what the command line says about itself. Lines have the width of the screen, less two.
-/

namespace PerlAudit.Options

open Text

def standardColumns : Int := 80

/-- How wide the screen is, as the environment has it. -/
def columns (environment : Environment) : Int :=
  match (environment.get? "COLUMNS").map fun text => readInteger .decimal text.chars with
  | some (.ok count) => if count ≤ 0 then standardColumns else count
  | _ => standardColumns

def blanks (count : Nat) : Text := List.replicate count ' '

/-- Lines as one text. -/
def text (lines : List Text) : Text := lines.flatMap (· ++ "\n")

/-- Puts parts on lines, as many as there is room for and at least one. Every line starts after
`indent` columns, but of the first line `used` are taken; `line` is what is on it. -/
def pack (width : Int) (indent used : Nat) (line : List Text) :
    List Text → List (List Text)
  | [] => if line.isEmpty then [] else [line]
  | part :: rest =>
    if !line.isEmpty && decide (width < (used + part.length : Nat)) then
      line :: pack width indent (indent + part.length + 1) [part] rest
    else pack width indent (used + part.length + 1) (line ++ [part]) rest

/-- Parts on lines that are all indented. -/
def packed (width : Int) (indent : Nat) (parts : List Text) : List Text :=
  (pack width indent indent [] parts).map fun line => blanks indent ++ joinWith " " line

/-- How a program is called. -/
structure Usage where
  program : Text
  options : List Text
  words : List Text
  deriving DecidableEq, Repr

def usageHead : Text := "usage: "

/-- A usage on one line if it fits. Otherwise options and other words have lines of their own, which
start after the name of the program, or below it if it takes more than three quarters of a line. -/
def Usage.lines (u : Usage) (width : Int) : List Text :=
  let whole := usageHead ++ joinWith " " (u.program :: u.options ++ u.words)
  let begun := usageHead ++ u.program
  if (whole.length : Int) ≤ width then [whole]
  else if (4 * begun.length : Int) ≤ 3 * width then
    let indent := begun.length + 1
    match pack width indent usageHead.length [] (u.program :: u.options) with
    | [] => [begun]
    | first :: rest =>
      (usageHead ++ joinWith " " first) ::
        rest.map (fun line => blanks indent ++ joinWith " " line) ++ packed width indent u.words
  else
    let indent := usageHead.length
    match packed width indent (u.options ++ u.words) with
    | [line] => [begun, line]
    | _ => begun :: packed width indent u.options ++ packed width indent u.words

/-- Lines of an explanation are never shorter than this. -/
def leastWidth : Nat := 11

theorem leastWidth_positive (width : Int) : 0 < max width.toNat leastWidth := by
  simp only [leastWidth]; omega

/-- A text in lines as wide as there is room for. -/
def filled (width : Int) (text : Text) : List Text :=
  wrap (max width.toNat leastWidth) (leastWidth_positive width) text

/-- Something that is explained. -/
structure Entry where
  indent : Nat
  label : Text
  about : Option Text
  deriving DecidableEq, Repr

def Entry.lines (e : Entry) (width : Int) (position : Nat) : List Text :=
  let head := blanks e.indent ++ e.label
  match (e.about.map (filled (width - position))).getD [] with
  | [] => [head]
  | first :: rest =>
    let more := rest.map (blanks position ++ ·)
    if head.length + 2 ≤ position then
      (head ++ blanks (position - head.length) ++ first) :: more
    else head :: (blanks position ++ first) :: more

/-- The indentation of a section. -/
def sectionIndent : Nat := 2

/-- The column that explanations start in: two behind the longest label, but at most the 24th. -/
def aboutColumn (width : Int) (labels : List Text) : Nat :=
  min ((labels.map (·.length)).foldl max 0 + sectionIndent + 2) (min 24 (max (width - 20) 4).toNat)

end PerlAudit.Options
