import Gherkin.Feature.Listing
import Gherkin.Step.Registry

/-!
# Why a feature is rejected

Some faults end the reading at their line; the others are collected to the end of the text, and one
of them is reported. Either way the listing goes with the fault, with what was found wrong noted at
every line read.
-/

namespace Gherkin

/-- A step that matches nothing. -/
structure MissingStep where
  line : Nat
  text : Text
  deriving DecidableEq, Repr

/-- The step with its line. -/
def MissingStep.display (s : MissingStep) : Text :=
  "line ".toList ++ Text.ofNat s.line ++ ": ".toList ++ s.text

/-- What is wrong with a feature. -/
inductive FeatureFault where
  /-- `Feature:` without a name. -/
  | unnamedFeature (line : Nat)
  | secondBackground (line : Nat)
  /-- A line that belongs to a section of examples. -/
  | unsupported (line : Nat) (construct : Text)
  | unknownLine (line : Nat) (word : Text)
  /-- `And` that follows no step. -/
  | strayConjunction (line : Nat)
  | ambiguous (line : Nat) (e : Ambiguity)
  | arity (line : Nat) (e : ArityFault)
  | unimplemented (missing : List MissingStep)
  deriving DecidableEq, Repr

namespace FeatureFault

/-- The text of the fault. -/
def message : FeatureFault → Text
  | unnamedFeature _ => "please provide a description for this feature".toList
  | secondBackground _ => "multiple backgrounds defined".toList
  | unsupported _ construct => '`' :: construct ++ "` is not supported".toList
  | unknownLine _ word => "unknown line type: ".toList ++ word
  | strayConjunction _ => "`And` may only continue a Given, When or Then step".toList
  | ambiguous _ e => e.message
  | arity _ e => e.message
  | unimplemented missing =>
    "please implement ".toList ++ Text.ofNat missing.length ++ " missing step(s):\n\t".toList
      ++ Text.join ['\n', '\t'] (missing.map MissingStep.display)

/-- The line of the fault; the first one if there are several. -/
def line? : FeatureFault → Option Nat
  | unnamedFeature line => some line
  | secondBackground line => some line
  | unsupported line _ => some line
  | unknownLine line _ => some line
  | strayConjunction line => some line
  | ambiguous line _ => some line
  | arity line _ => some line
  | unimplemented missing => missing.head?.map (·.line)

end FeatureFault

/-- A feature that cannot be run. -/
structure Rejection where
  fault : FeatureFault
  listing : Listing
  deriving DecidableEq, Repr

/-- The text of the rejection. It names the line of the fault, except for missing steps, which are
named with their lines already. -/
def Rejection.message (r : Rejection) : Text :=
  match r.fault, r.fault.line? with
  | .unimplemented _, _ => "feature rejected: ".toList ++ r.fault.message
  | _, none => "feature rejected: ".toList ++ r.fault.message
  | _, some line =>
    "feature rejected at line ".toList ++ Text.ofNat line ++ ": ".toList ++ r.fault.message

end Gherkin
