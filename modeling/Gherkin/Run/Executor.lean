import Gherkin.CommandLine
import Gherkin.Console.Report
import Gherkin.Feature.Reading
import Gherkin.Run.Course
import Gherkin.Run.Files
import Gherkin.Text.Quoted

/-!
# Running texts, files and folders

An executor reads features and runs them, or only checks them. Nothing passes from one feature to
the next but the number of contexts created so far, which each run takes and hands on.

Every run ends with one summary. A folder is run as the features directly in it, in the order of
their names, under one summary; a feature that is rejected counts in it and does not stop the run,
while a file that cannot be read does.
-/

namespace Gherkin

/-- Registered steps and how to run features with them. -/
structure Executor (W : Type) where
  registry : Registry W
  /-- The context of a scenario, made from its number. -/
  fresh : Nat → W
  options : Options := {}
  /-- Whether features are only checked. -/
  lint : Bool := false
  console : Console := {}

/-- What the run of a feature comes to. -/
structure Report where
  listing : Listing
  narrative : List Text
  scenarios : Tally
  steps : Tally
  deriving DecidableEq, Repr

namespace Report

/-- Whether no step failed. -/
def passed (r : Report) : Bool := r.steps.failed == 0

/-- The report as a summary of one feature. -/
def summary (r : Report) : Summary := { features := 1, scenarios := r.scenarios, steps := r.steps }

end Report

/-- Why there is no report. -/
inductive RunFault where
  | parse (r : Rejection)
  | read (path : Text) (e : FileFault)
  | walk (folder : Text) (e : FileFault)
  | noFeatures (folder : Text)
  deriving DecidableEq, Repr

namespace RunFault

/-- The text of the fault. -/
def message : RunFault → Text
  | parse r => r.message
  | read path e => "failed to read `".toList ++ path ++ "`: ".toList ++ e.message
  | walk folder e =>
    "failed to walk features directory: IO error for operation on ".toList ++ folder ++ [':', ' ']
      ++ e.message
  | noFeatures folder => "no `*.feature` files found in `".toList ++ folder ++ ['`']

/-- The line of the fault, if it is one of a feature. -/
def line? : RunFault → Option Nat
  | parse r => r.fault.line?
  | read _ _ | walk _ _ | noFeatures _ => none

end RunFault

/-- What was run: the events, how many contexts there are after it, and what it came to. -/
structure Ran (W : Type) (ε α : Type) where
  events : List (Event W)
  contexts : Nat
  result : Except ε α

namespace Executor

variable {W : Type}

/-- The executor as the command line asks for it. -/
def configure (e : Executor W) (c : CommandLine) : Executor W :=
  { e with
    options := { nameFilter := c.nameFilter, failFast := c.failFast }
    lint := c.lint
    console :=
      { e.console with verbosity := c.verbosity, styles := e.console.styles.apply c.coloring } }

/-- Reads a feature, and runs it unless it is only to be checked. -/
def runFeature (e : Executor W) (contexts : Nat) (text : Text) : Ran W Rejection Report :=
  match Feature.read e.registry text with
  | .error r => { events := [.parsingFailed r], contexts, result := .error r }
  | .ok f =>
    if e.lint then
      { events := [.linted f]
        contexts
        result :=
          .ok { listing := f.listing, narrative := f.narrative, scenarios := {}, steps := {} } }
    else
      let o := Course.run e.registry e.fresh e.options contexts f
      { events := o.events
        contexts := o.contexts
        result :=
          .ok
            { listing := f.listing
              narrative := f.narrative
              scenarios := o.summary.scenarios
              steps := o.summary.steps } }

/-- The summary of what running a feature came to. -/
def summaryOf : Except Rejection Report → Summary
  | .ok r => r.summary
  | .error _ => .rejected

/-- Runs the feature that a text is. -/
def runText (e : Executor W) (contexts : Nat) (text : Text) : Ran W RunFault Report :=
  let ran := e.runFeature contexts text
  { events := ran.events ++ [.finished (summaryOf ran.result)]
    contexts := ran.contexts
    result := ran.result.mapError .parse }

/-- Runs the feature in a file. -/
def runFile (e : Executor W) (files : FileSystem) (contexts : Nat) (path : Text) :
    Ran W RunFault Report :=
  match files.read path with
  | .error error => { events := [], contexts, result := .error (.read path error) }
  | .ok text => e.runText contexts text

/-- Whether a name is that of a feature file, in any case. -/
def isFeatureName (name : Text) : Bool :=
  ".feature".toList.isSuffixOf (name.map Char.toLower)

/-- The path of a name in a folder. -/
def pathIn (folder name : Text) : Text :=
  if folder = [] ∨ folder.getLast? = some '/' then folder ++ name else folder ++ ['/'] ++ name

/-- The paths of the features in a folder, in the order of their names. -/
def featurePaths (files : FileSystem) (folder : Text) : Except RunFault (List Text) :=
  match files.names folder with
  | .error error => .error (.walk folder error)
  | .ok names =>
    match (names.filter isFeatureName).mergeSort Text.le with
    | [] => .error (.noFeatures folder)
    | sorted => .ok (sorted.map (pathIn folder))

/-- Runs files one after another, up to one that cannot be read. -/
def runFiles (e : Executor W) (files : FileSystem) :
    (contexts : Nat) → List Text → Ran W RunFault Summary
  | contexts, [] => { events := [], contexts, result := .ok {} }
  | contexts, path :: rest =>
    match files.read path with
    | .error error => { events := [], contexts, result := .error (.read path error) }
    | .ok text =>
      let ran := e.runFeature contexts text
      let later := runFiles e files ran.contexts rest
      { events := ran.events ++ later.events
        contexts := later.contexts
        result := later.result.map (summaryOf ran.result + ·) }

/-- Runs the features in a folder. -/
def runFolder (e : Executor W) (files : FileSystem) (contexts : Nat) (folder : Text) :
    Ran W RunFault Summary :=
  match featurePaths files folder with
  | .error error => { events := [], contexts, result := .error error }
  | .ok paths =>
    let ran := e.runFiles files contexts paths
    match ran.result with
    | .error _ => ran
    | .ok total => { ran with events := ran.events ++ [.finished total] }

/-- Runs the features of a path, be it a folder or a file. A file that is rejected has a summary
too. -/
def run (e : Executor W) (files : FileSystem) (contexts : Nat) (path : Text) :
    Ran W RunFault Summary :=
  if files.isFolder path then e.runFolder files contexts path
  else
    let ran := e.runFile files contexts path
    { events := ran.events
      contexts := ran.contexts
      result :=
        match ran.result with
        | .ok r => .ok r.summary
        | .error (.parse _) => .ok .rejected
        | .error error => .error error }

/-- A number of things, which take an `s` unless there is exactly one. -/
def counted (n : Nat) (before after : String) : Text :=
  Text.ofNat n ++ before.toList ++ (if n = 1 then [] else ['s']) ++ after.toList

/-- What is said of a run that did not pass. -/
def failureMessage (s : Summary) : Text :=
  counted s.steps.failed " step" " failed, " ++ counted s.parsingErrors " parsing error" ""

/-- Runs the features of a path for their verdict: there is a message unless all passed. -/
def verdict (e : Executor W) (files : FileSystem) (contexts : Nat) (path : Text) :
    Ran W Text Unit :=
  let ran := e.run files contexts path
  { events := ran.events
    contexts := ran.contexts
    result :=
      match ran.result with
      | .error error => .error error.message
      | .ok summary => if summary.failed then .error (failureMessage summary) else .ok () }

/-- A truth value in words. -/
def ofBool (b : Bool) : Text := (if b then "true" else "false").toList

/-- The configuration in one line, with the name of what events are written to. -/
def describe (e : Executor W) (writer : Text) : Text :=
  let filter : Text :=
    match e.options.nameFilter with
    | none => "None".toList
    | some p => "Some(Regex(".toList ++ Text.quoted p.source ++ "))".toList
  "Cukes \x7b steps: ".toList ++ Text.ofNat e.registry.definitions.length ++ ", writer: ".toList
    ++ writer ++ ", options: Options \x7b name_filter: ".toList ++ filter ++ ", fail_fast: ".toList
    ++ ofBool e.options.failFast ++ " \x7d, lint: ".toList ++ ofBool e.lint ++ ", .. \x7d".toList

end Executor

/-- A registered step in one line. -/
def Definition.describe {W : Type} (d : Definition W) : Text :=
  Text.quoted d.pattern.source ++ ": (Location \x7b path: ".toList
    ++ Text.quoted d.location.path ++ ", line: ".toList ++ Text.ofNat d.location.line
    ++ ", column: ".toList ++ Text.ofNat d.location.column
    ++ " \x7d, BoxedHandler \x7b shapes: [".toList
    ++ Text.join [',', ' '] (d.handler.shapes.map Shape.name) ++ "], .. \x7d)".toList

/-- The registered steps in one line. -/
def Registry.describe {W : Type} (r : Registry W) : Text :=
  ['\x7b'] ++ Text.join [',', ' '] (r.definitions.map Definition.describe) ++ ['\x7d']

end Gherkin
