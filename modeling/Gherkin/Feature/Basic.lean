import Gherkin.Feature.LineKind
import Gherkin.Feature.Listing
import Gherkin.Step.Registry

/-!
# Features

A feature is the ordered program that a run carries out: its steps, each bound to the registered
step that it matches, and the markers that begin scenarios. The steps of the background stand
apart, because they are run again for every scenario.
-/

namespace Gherkin

/-- A step of a feature, bound to a registered one. -/
structure Step where
  keyword : Keyword
  /-- Whether the step is written `And`. -/
  conjunction : Bool
  /-- The number of the step's line. -/
  line : Nat
  found : Match
  /-- What the handler receives: the captures, and after them the doc string if there is one. -/
  arguments : List Text
  docString : Option Text
  deriving DecidableEq, Repr

namespace Step

/-- The text after the keyword. -/
def text (s : Step) : Text := s.found.text

/-- The keyword as it is written. -/
def written (s : Step) : Text := if s.conjunction then "And".toList else s.keyword.display

/-- The step with a doc string, which is its last argument. -/
def withDocString (s : Step) (doc : Text) : Step :=
  { s with arguments := s.arguments ++ [doc], docString := some doc }

end Step

/-- What a marker begins. -/
inductive Section where
  | background
  | scenario
  deriving DecidableEq, Repr

/-- The name of what a marker begins. -/
def Section.display : Section → Text
  | background => "Background".toList
  | scenario => "Scenario".toList

/-- The beginning of a background or a scenario. -/
structure Marker where
  kind : Section
  name : Text
  line : Nat
  deriving DecidableEq, Repr

/-- An item of a feature. -/
inductive Item where
  | marker (m : Marker)
  | step (s : Step)
  deriving DecidableEq, Repr

namespace Item

/-- The step, if the item is one. -/
def step? : Item → Option Step
  | marker _ => none
  | step s => some s

/-- The marker, if the item begins a scenario. -/
def scenario? : Item → Option Marker
  | marker m => if m.kind = .scenario then some m else none
  | step _ => none

/-- The line of the item. -/
def line : Item → Nat
  | marker m => m.line
  | step s => s.line

end Item

/-- Steps to run at the beginning of every scenario. -/
structure Background where
  name : Text
  line : Nat
  steps : List Step
  deriving DecidableEq, Repr

/-- The background that a marker and the steps after it make up. -/
def Background.ofItems (items : List Item) : Background :=
  let head : Marker :=
    match items with
    | .marker m :: _ => m
    | _ => { kind := .background, name := [], line := 0 }
  { name := head.name, line := head.line, steps := items.tail.filterMap Item.step? }

/-- A feature that can be run. -/
structure Feature where
  name : Option Text
  /-- The lines of free text after the name. -/
  narrative : List Text
  background : Option Background
  items : List Item
  listing : Listing
  deriving DecidableEq, Repr

namespace Feature

/-- The steps of the background; none if there is no background. -/
def backgroundSteps (f : Feature) : List Step :=
  match f.background with
  | some b => b.steps
  | none => []

/-- The markers of the scenarios. -/
def scenarios (f : Feature) : List Marker := f.items.filterMap Item.scenario?

/-- All steps, those of the background first. -/
def steps (f : Feature) : List Step := f.backgroundSteps ++ f.items.filterMap Item.step?

end Feature

end Gherkin
