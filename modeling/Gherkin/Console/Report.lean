import Gherkin.Console.Totals
import Gherkin.Run.Event
import Gherkin.Text.Duration
import Gherkin.Text.Lines

/-!
# Reporting a run on the console

Every event is written as a number of lines. What stands below a step is set in a gutter of seven
columns. Higher verbosity only adds lines: logs, doc strings, the time of each scenario, and the
listing of a feature before it is run.
-/

namespace Gherkin

/-- How a run is reported. -/
structure Console where
  styles : Palette := {}
  verbosity : Nat := 0
  /-- How many milliseconds each scenario is said to have taken. -/
  elapsed : Nat := 0
  deriving DecidableEq, Repr

namespace Console

/-- The text with its lines after the first indented. -/
def hangIndent (n : Nat) (t : Text) : Text := Text.replace '\n' ('\n' :: Text.spaces n) t

/-- The text set in the gutter. -/
def gutter (t : Text) : Text := Text.spaces 7 ++ hangIndent 7 t

/-- A line of a listing whose lines take up to `width` columns. -/
def listedLine (c : Console) (width : Nat) (line : ListedLine) : Text :=
  match line.remark with
  | none => Text.trimEnd line.source
  | some (.matched location) =>
    Text.padEnd width line.source ++ Text.spaces 2
      ++ c.styles.paint .ok (Remark.matched location).display
  | some (.failed message) =>
    Text.padEnd width line.source ++ Text.spaces 2
      ++ c.styles.paint .err (hangIndent (width + 4) (Remark.failed message).display)

/-- A listing. -/
def listing (c : Console) (l : Listing) : List Text := l.lines.map (c.listedLine l.width)

/-- The mark before a step, and how the line of the step is painted. -/
def mark : StepResult → Char × Style
  | .passed => ('✔', .ok)
  | .skipped => ('?', .skipped)
  | .failed _ => ('✘', .err)

/-- The line of a step. Steps of the background are marked as such. -/
def title (c : Console) (s : Step) (background : Bool) (status : StepResult) : Text :=
  c.styles.paint (mark status).2 <|
    Text.spaces 4 ++ [(mark status).1] ++ Text.spaces 2 ++ (if background then ['>', ' '] else [])
      ++ s.written ++ [' '] ++ s.text

/-- The doc string of a step, between its quotes. -/
def docString (c : Console) (doc : Text) : Text :=
  let quotes := Text.spaces 7 ++ ['"', '"', '"']
  c.styles.paint .skipped (quotes ++ ['\n'] ++ gutter doc ++ ['\n'] ++ quotes)

/-- A message that a step has logged. -/
def logLine (message : Text) : Text := Text.spaces 7 ++ ['|', ' '] ++ message

/-- A step and what is to be said about it. -/
def step (c : Console) (s : Step) (background : Bool) (status : StepResult) (logs : List Text) :
    List Text :=
  [c.title s background status]
    ++ (if c.verbosity > 1 then (s.docString.map c.docString).toList else [])
    ++ (if c.verbosity > 0 then logs.map logLine else [])
    ++ match status with
      | .failed e => [c.styles.paint .err (gutter e.message)]
      | .passed | .skipped => []

/-- The end of a scenario, which is told only if asked for. -/
def scenarioFinished (c : Console) (name : Text) (passed : Bool) : List Text :=
  if c.verbosity = 0 then []
  else
    [c.styles.paint (if passed then .ok else .err)
      (Text.spaces 2 ++ (if name = [] then "steps".toList else name) ++ " in ".toList
        ++ Duration.display c.elapsed)]

/-- What is written for an event: texts that each end with a line feed, and may hold further
ones. -/
def event {W : Type} (c : Console) : Event W → List Text
  | .started f =>
    (if c.verbosity > 1 then c.listing f.listing ++ [[]] else [])
      ++ (f.name.map fun name => c.styles.paint .ok ("Feature: ".toList ++ name)).toList
  | .linted f => c.listing f.listing
  | .parsingFailed r =>
    c.listing r.listing ++ [c.styles.paint .err ("Failed to parse: ".toList ++ r.message)]
  | .scenarioStarted name =>
    if name = [] then [] else [c.styles.paint .ok ("  Scenario: ".toList ++ name)]
  | .step s background status logs _ => c.step s background status logs
  | .scenarioFinished name passed => c.scenarioFinished name passed
  | .finished summary => [c.styles.summary summary]

/-- What is written for events. -/
def render {W : Type} (c : Console) (events : List (Event W)) : Text :=
  Text.unlines (events.flatMap c.event)

/-- What is written for events, each of which comes with how many milliseconds its scenario has
taken. -/
def renderTimed {W : Type} (c : Console) (events : List (Nat × Event W)) : Text :=
  Text.unlines (events.flatMap fun e => { c with elapsed := e.1 }.event e.2)

/-- A console says the same time of all scenarios. -/
theorem render_eq_renderTimed {W : Type} (c : Console) (events : List (Event W)) :
    c.render events = c.renderTimed (events.map (c.elapsed, ·)) := by
  unfold render renderTimed
  rw [List.flatMap_map]

/-- What is not written for an event does not matter. -/
theorem render_map {W V : Type} (c : Console) {change : Event W → Event V}
    (h : ∀ event, c.event (change event) = c.event event) (events : List (Event W)) :
    c.render (events.map change) = c.render events := by
  induction events with
  | nil => rfl
  | cons event rest ih =>
    unfold render Text.unlines at ih ⊢
    rw [List.map_cons, List.flatMap_cons, List.flatMap_cons, List.flatMap_append,
      List.flatMap_append, h, ih]

end Console

end Gherkin
