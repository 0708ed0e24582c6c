import Gherkin.Feature.Basic
import Gherkin.Feature.Rejection
import Gherkin.Run.Summary

/-!
# What happens in a run

A run is told as a list of events, in the order in which they happen.
-/

namespace Gherkin

/-- Why a step failed. -/
inductive Failure where
  /-- The handler was not entered, because its arguments could not be bound. -/
  | bind (e : BindingFault)
  | failed (message : Text)
  | panicked (message : Text)
  /-- The handler came to its end, but reported errors on the way. -/
  | reported (errors : List Text)
  deriving DecidableEq, Repr

/-- The text of the failure. -/
def Failure.message : Failure → Text
  | bind e => e.message
  | failed message => "step failed: ".toList ++ message
  | panicked message => "step panicked: ".toList ++ message
  | reported errors =>
    "step reported ".toList ++ Text.ofNat errors.length ++ " error(s): ".toList
      ++ Text.join [';', ' '] errors

/-- How a step ended. -/
inductive StepResult where
  | passed
  /-- An earlier step of the scenario failed. -/
  | skipped
  | failed (e : Failure)
  deriving DecidableEq, Repr

/-- Whether the step failed. -/
def StepResult.isFailed : StepResult → Bool
  | failed _ => true
  | passed | skipped => false

/-- That a handler was entered: with what, and how it left the context. -/
structure Invocation (W : Type) where
  /-- Where the step was registered. -/
  location : Location
  values : List Value
  world : W

/-- Something that happens in a run. -/
inductive Event (W : Type) where
  | started (feature : Feature)
  /-- The feature was only checked. -/
  | linted (feature : Feature)
  | parsingFailed (rejection : Rejection)
  | scenarioStarted (name : Text)
  | step (s : Step) (background : Bool) (status : StepResult) (logs : List Text)
      (invocation : Option (Invocation W))
  | scenarioFinished (name : Text) (passed : Bool)
  | finished (summary : Summary)

end Gherkin
