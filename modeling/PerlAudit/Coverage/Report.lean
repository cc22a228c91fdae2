import PerlAudit.Number.Reading
import PerlAudit.Source.Pragma

namespace PerlAudit.Coverage

open Text Number Source

def isFigure (c : Char) : Bool := c == '.' || isDigit c

/-- Whether nothing but blanks is left of the line. -/
def endsLine (s : List Char) : Bool :=
  match s.dropWhile fun c => isBlank c && c != '\n' with
  | [] => true
  | c :: _ => c == '\n'

/-- Figures that begin here and end the line. -/
def figures? (s : List Char) : Option (List Char) :=
  let run := s.takeWhile isFigure
  if run.isEmpty || !endsLine (s.drop run.length) then none else some run

/-- The first figures that end the line, after at least one character of it. -/
def laterFigures? : List Char → Option (List Char)
  | [] => none
  | c :: rest => if c == '\n' then none else (figures? rest).or (laterFigures? rest)

/-- The figures of a total that begins here, perhaps behind blanks and blank lines. -/
def totalHere? (s : List Char) : Option (List Char) :=
  (after? "Total".toList (trimStart s)).bind laterFigures?

/-- The figures of the first total. `fresh` tells whether a line begins here. -/
def firstTotal? (fresh : Bool) : List Char → Option (List Char)
  | [] => none
  | c :: rest =>
    (if fresh then totalHere? (c :: rest) else none).or (firstTotal? (c == '\n') rest)

def totalText? (report : Text) : Option String :=
  (firstTotal? true report.chars).map String.ofList

/-- The total of a report, if it has one that is a number. -/
def total? (report : Text) : Option Binary64 :=
  (totalText? report).bind fun text => Binary64.parse? text.toList

end PerlAudit.Coverage
