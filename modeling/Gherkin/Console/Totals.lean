import Gherkin.Console.Style
import Gherkin.Run.Summary

/-!
# The summary on the console

A summary is written as four lines at most: a heading, the number of features, those of scenarios
and of steps with their tallies, and the number of parsing errors. What is zero is left out of a
tally, and the last line is left out if there were no errors.
-/

namespace Gherkin.Palette

/-- A number of things, which take an `s` unless there is exactly one. -/
def counted (s : Palette) (word : String) (n : Nat) : Text :=
  s.paint .bold (Text.ofNat n ++ [' '] ++ word.toList ++ if n = 1 then [] else ['s'])

/-- One count of a tally; nothing if it is zero. -/
def tallied (s : Palette) (style : Style) (word : String) (n : Nat) : List Text :=
  if n = 0 then []
  else [s.paint .bold (s.paint style (Text.ofNat n ++ [' '] ++ word.toList))]

/-- The counts of a tally in brackets; nothing if all are zero. -/
def tally (s : Palette) (t : Tally) : Text :=
  let counts := tallied s .ok "passed" t.passed ++ tallied s .skipped "skipped" t.skipped
    ++ tallied s .err "failed" t.failed
  if counts = [] then []
  else
    [' '] ++ s.paint .bold ['('] ++ Text.join (s.paint .bold [',', ' ']) counts
      ++ s.paint .bold [')']

/-- The summary, without a line feed at its end. -/
def summary (s : Palette) (x : Summary) : Text :=
  let heading := s.paint .bold (s.paint .header "[Summary]".toList)
  let scenarios := s.counted "scenario" x.scenarios.total ++ s.tally x.scenarios
  let steps := s.counted "step" x.steps.total ++ s.tally x.steps
  let errors :=
    if x.parsingErrors = 0 then []
    else [s.paint .err (s.counted "parsing error" x.parsingErrors)]
  Text.join ['\n'] ([heading, s.counted "feature" x.features, scenarios, steps] ++ errors)

end Gherkin.Palette
