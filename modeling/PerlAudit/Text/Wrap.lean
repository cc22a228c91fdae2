import PerlAudit.Text.Lines

namespace PerlAudit.Text

/-- The lines after a line that has been begun. A blank at the end of a line is dropped, but one
that comes right before a broken word stays. -/
def fillFrom (width : Nat) (positive : 0 < width) (line : Text) (words : List Text) :
    List Text :=
  match words, line with
  | [], [] => []
  | [], line => [line]
  | word :: rest, [] =>
    if word.length ≤ width then
      match word with
      | [] => fillFrom width positive [] rest
      | c :: cs => fillFrom width positive (c :: cs) rest
    else word.take width :: fillFrom width positive [] (word.drop width :: rest)
  | word :: rest, c :: line =>
    let room := width - (line.length + 2)
    if line.length + 2 + word.length ≤ width then
      fillFrom width positive (c :: line ++ .char ' ' :: word) rest
    else if line.length + 2 ≤ width ∧ width < word.length then
      (c :: line ++ .char ' ' :: word.take room) ::
        fillFrom width positive [] (word.drop room :: rest)
    else (c :: line) :: fillFrom width positive [] (word :: rest)
termination_by (words.flatten.length + words.length, line.length)
decreasing_by
  all_goals simp only [List.flatten_cons, List.length_append, List.length_drop, List.length_cons,
    List.length_nil, Prod.lex_def, true_and]
  all_goals omega

/-- A text that is written with single blanks, in lines of a width. -/
def wrap (width : Nat) (positive : 0 < width) (text : Text) : List Text :=
  fillFrom width positive [] (splitAt (.char ' ') text)

end PerlAudit.Text
