import Gherkin.Text.Basic

/-!
# Lines of a text

A line ends with a line feed, or with a carriage return and a line feed, neither of which belongs
to it. What follows the last line end is a line only if it is not empty, and it keeps a carriage
return at its end, because no line feed follows.
-/

namespace Gherkin.Text

/-- The lines of a text. -/
def lines : Text → List Text
  | [] => []
  | '\r' :: '\n' :: rest => [] :: lines rest
  | '\n' :: rest => [] :: lines rest
  | c :: rest =>
    match lines rest with
    | [] => [[c]]
    | line :: more => (c :: line) :: more

/-- The texts as lines, each ended by a line feed. -/
def unlines (ts : List Text) : Text := ts.flatMap (· ++ ['\n'])

theorem lines_newline (rest : Text) : lines ('\n' :: rest) = [] :: lines rest := by
  simp [lines]

end Gherkin.Text
