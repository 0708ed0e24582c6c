import Gherkin.Console.Transcript
import Gherkin.Run.Executor
import Gherkin.Step.Script
import Gherkin.Proofs.Feature.LineKind
import Gherkin.Proofs.Feature.Role
import Gherkin.Proofs.Feature.Transition
import Gherkin.Proofs.Feature.Division
import Gherkin.Proofs.Feature.Coverage
import Gherkin.Proofs.Feature.Acceptance
import Gherkin.Proofs.Feature.Account
import Gherkin.Proofs.Run.StepEvents
import Gherkin.Proofs.Feature.Draft
import Gherkin.Proofs.Feature.RoundTrip
import Gherkin.Proofs.Run.Trace
import Gherkin.Proofs.Run.Reconciliation
import Gherkin.Proofs.Run.Isolation
import Gherkin.Proofs.Run.Filter
import Gherkin.Proofs.Run.FailFast
import Gherkin.Proofs.Run.SpelledOut
import Gherkin.Proofs.Step.Candidates
import Gherkin.Proofs.Step.Registration
import Gherkin.Proofs.Step.Reordering
import Gherkin.Proofs.Feature.Renaming
import Gherkin.Proofs.Run.RegistrationOrder
import Gherkin.Proofs.Feature.Extension
import Gherkin.Proofs.Feature.Unbound
import Gherkin.Proofs.Run.Verdict
import Gherkin.Proofs.Run.View
import Gherkin.Proofs.Run.Folder
import Gherkin.Proofs.Step.History
import Gherkin.Proofs.Feature.Judgement
import Gherkin.Proofs.Feature.Listed
import Gherkin.Proofs.Feature.Skipped
import Gherkin.Proofs.Feature.DocString
import Gherkin.Proofs.Feature.Attached
import Gherkin.Proofs.Feature.Continuation
import Gherkin.Proofs.Feature.Renumbering
import Gherkin.Proofs.Feature.Layout
import Gherkin.Proofs.Step.Numeral
import Gherkin.Proofs.Step.Arity
import Gherkin.Proofs.Step.Positions
import Gherkin.Proofs.Step.Script
import Gherkin.Proofs.Run.Invocation
import Gherkin.Proofs.Run.Outcomes
import Gherkin.Proofs.Step.Find
import Gherkin.Proofs.Feature.Grammar
import Gherkin.Proofs.Feature.LinePatterns
import Gherkin.Proofs.Feature.Table
import Gherkin.Proofs.Console.Listing
import Gherkin.Proofs.Console.Colour
import Gherkin.Proofs.Console.Verbosity
import Gherkin.Proofs.Console.Gutter
import Gherkin.Proofs.Console.Totals
import Gherkin.Proofs.Feature.Closing
