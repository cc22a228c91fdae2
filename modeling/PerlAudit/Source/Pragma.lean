import PerlAudit.Text.Blank
import PerlAudit.Text.Lines
import PerlAudit.Text.Word

/-!
What a line of Perl says, read without parsing Perl: whether it enables a pragma, comments, opens or
closes documentation, or ends the code.
-/

namespace PerlAudit.Source

open Text

abbrev Line := List Char

/-- What follows `word` at the beginning of a line. -/
def after? : (word : List Char) → Line → Option Line
  | [], s => some s
  | _ :: _, [] => none
  | w :: word, c :: rest => if w = c then after? word rest else none

/-- What follows one blank or more. -/
def afterBlanks? : Line → Option Line
  | [] => none
  | c :: rest => if isBlank c then some (trimStart rest) else none

/-- What follows `use`, blanks and a module name. -/
def afterUse? (name : List Char) (s : Line) : Option Line :=
  ((after? "use".toList s).bind afterBlanks?).bind (after? name)

/-- Whether a line begins with `use strict;`. -/
def startsUseStrict (s : Line) : Bool :=
  ((afterUse? "strict".toList s).map trimStart).any fun rest => rest.head? == some ';'

/-- Whether a line begins with `use warnings` and a blank, `::` or a semicolon. -/
def startsUseWarnings (s : Line) : Bool :=
  (afterUse? "warnings".toList s).any fun
    | ';' :: _ => true
    | ':' :: ':' :: _ => true
    | c :: _ => isBlank c
    | [] => false

/-- Whether `start` holds at some place of the line where no word is under way. `inWord` tells
whether the character before the line is part of a word. -/
def atWordStart (start : Line → Bool) (inWord : Bool) : Line → Bool
  | [] => false
  | c :: rest => (!inWord && start (c :: rest)) || atWordStart start (isWord c) rest

/-- Whether `start` holds at some place of the line. -/
def somewhere (start : Line → Bool) : Line → Bool
  | [] => start []
  | c :: rest => start (c :: rest) || somewhere start rest

def enablesStrict (s : Line) : Bool := atWordStart startsUseStrict false s

def enablesWarnings (s : Line) : Bool := atWordStart startsUseWarnings false s

def isComment (s : Line) : Bool := (trimStart s).head? == some '#'

/-- Documentation opens with an equals sign and a word. -/
def opensDoc (s : Line) : Bool :=
  match trimStart s with
  | '=' :: c :: _ => isWord c
  | _ => false

/-- Documentation closes with one of three commands, whatever follows it. -/
def closesDoc (s : Line) : Bool :=
  match trimStart s with
  | '=' :: rest => ["cut", "back", "end"].any fun command => (after? command.toList rest).isSome
  | _ => false

/-- The code ends at either marker. -/
def endsCode (s : Line) : Bool :=
  ["__END__", "__DATA__"].any fun marker => (after? marker.toList (trimStart s)).isSome

/-- Whether a first line names Perl as the interpreter. -/
def isShebang (s : Line) : Bool :=
  (after? "#!".toList s).any fun rest => occurs "perl".toList (rest.takeWhile (· != '\n'))

/-- Whether a line begins with `perl`, blanks and a group of switches that holds a `w`. -/
def startsWarningSwitch (s : Line) : Bool :=
  match (after? "perl".toList s).bind afterBlanks? with
  | some ('-' :: rest) => (rest.takeWhile isWord).any fun c => c == 'w' || c == 'W'
  | _ => false

/-- Whether a first line makes the interpreter warn. -/
def shebangWarns (s : Line) : Bool := isShebang s && somewhere startsWarningSwitch s

end PerlAudit.Source
