import Gherkin.Console.Report
import Gherkin.Proofs.Console.Escapes

/-!
# Colour is presentation only

What is written in colours is what is written without, with escape sequences in it. That holds for
every event, at every verbosity, as long as no escape character is in the texts that come from
outside: names, lines, steps, paths, patterns and messages (`Event.texts`). The time that a scenario
took is written too, and each event comes here with its own.

* `Console.colour_is_presentation` — what is written with colours is what is written without, once
  the sequences are deleted, and colours are on if the last policy says so.
-/

namespace Gherkin

open Text (Plain PaintingOf)

/-! ## The texts of events -/

def Remark.texts : Remark → List Text
  | matched location => [location.path]
  | failed message => [message]

def ListedLine.texts (d : ListedLine) : List Text :=
  d.text :: (d.remark.map Remark.texts).getD []

def Listing.texts (l : Listing) : List Text := l.lines.flatMap ListedLine.texts

def Ambiguity.texts (e : Ambiguity) : List Text :=
  e.step :: e.candidates.flatMap fun candidate => [candidate.1, candidate.2.path]

def FeatureFault.texts : FeatureFault → List Text
  | unnamedFeature _ | secondBackground _ | strayConjunction _ => []
  | unsupported _ construct => [construct]
  | unknownLine _ word => [word]
  | ambiguous _ e => e.texts
  | arity _ e => [e.step]
  | unimplemented missing => missing.map MissingStep.text

def BindingFault.texts : BindingFault → List Text
  | arity e => [e.step]
  | coercion e => [e.value, e.step]

def Failure.texts : Failure → List Text
  | bind e => e.texts
  | failed message | panicked message => [message]
  | reported errors => errors

def StepResult.texts : StepResult → List Text
  | passed | skipped => []
  | failed e => e.texts

/-- The texts of an event that may be written. -/
def Event.texts {W : Type} : Event W → List Text
  | started f => f.name.toList ++ f.listing.texts
  | linted f => f.listing.texts
  | parsingFailed r => r.fault.texts ++ r.listing.texts
  | scenarioStarted name | scenarioFinished name _ => [name]
  | step s _ status logs _ => s.text :: s.docString.toList ++ logs ++ status.texts
  | finished _ => []

/-! ## What is said of them -/

theorem Location.plain_display {location : Location} (h : Plain location.path) :
    Plain location.display := by
  simp [display, h]

theorem Remark.plain_display {remark : Remark} (h : ∀ t ∈ remark.texts, Plain t) :
    Plain remark.display := by
  cases remark with
  | matched location =>
    have hlocation := Location.plain_display (h location.path (List.mem_singleton_self _))
    simp [display, hlocation]
  | failed message =>
    have hmessage := h message (List.mem_singleton_self _)
    simp [display, hmessage]

theorem Ambiguity.plain_message {e : Ambiguity} (h : ∀ t ∈ e.texts, Plain t) :
    Plain e.message := by
  obtain ⟨hstep, hcandidates⟩ := List.forall_mem_cons.mp h
  have hbegin : Plain "conflicting steps for `".toList := by decide
  have hend : Plain "`:".toList := by decide
  have hrow : Plain "\n\t".toList := by decide
  have harrow : Plain " --> ".toList := by decide
  refine ((hbegin.append hstep).append hend).append (Plain.flatMap fun candidate hmem => ?_)
  have htexts : ∀ t ∈ [candidate.1, candidate.2.path], Plain t := fun t ht =>
    hcandidates t (List.mem_flatMap.mpr ⟨candidate, hmem, ht⟩)
  obtain ⟨hpattern, hpath⟩ := List.forall_mem_cons.mp htexts
  have hlocation := Location.plain_display (hpath _ (List.mem_singleton_self _))
  exact ((hrow.append hpattern).append harrow).append hlocation

theorem ArityFault.plain_message {e : ArityFault} (h : Plain e.step) : Plain e.message := by
  have hbegin : Plain "pattern provided ".toList := by decide
  have hgroups : Plain " groups, but the step requires ".toList := by decide
  have hrequired : Plain " arguments:\n\t".toList := by decide
  exact ((((hbegin.append (Text.plain_ofNat _)).append hgroups).append
    (Text.plain_ofNat _)).append hrequired).append h

theorem CoercionFault.plain_message {e : CoercionFault} (hvalue : Plain e.value)
    (hstep : Plain e.step) : Plain e.message := by
  have hbegin : Plain "cannot use `".toList := by decide
  have hgroup : Plain "` (group ".toList := by decide
  have has : Plain ") as ".toList := by decide
  have hshape : Plain e.shape.display := by cases e.shape <;> decide
  have hin : Plain " in step: ".toList := by decide
  exact ((((((hbegin.append hvalue).append hgroup).append (Text.plain_ofNat _)).append has).append
    hshape).append hin).append hstep

theorem Failure.plain_message {e : Failure} (h : ∀ t ∈ e.texts, Plain t) : Plain e.message := by
  cases e with
  | bind e =>
    cases e with
    | arity e => exact ArityFault.plain_message (h _ (List.mem_singleton_self _))
    | coercion e =>
      obtain ⟨hvalue, hstep⟩ := List.forall_mem_cons.mp h
      exact CoercionFault.plain_message hvalue (hstep _ (List.mem_singleton_self _))
  | failed text =>
    have hbegin : Plain "step failed: ".toList := by decide
    exact hbegin.append (h _ (List.mem_singleton_self _))
  | panicked text =>
    have hbegin : Plain "step panicked: ".toList := by decide
    exact hbegin.append (h _ (List.mem_singleton_self _))
  | reported errors =>
    have hbegin : Plain "step reported ".toList := by decide
    have hcolon : Plain " error(s): ".toList := by decide
    exact ((hbegin.append (Text.plain_ofNat _)).append hcolon).append (Plain.join (by decide) h)

theorem MissingStep.plain_display {s : MissingStep} (h : Plain s.text) : Plain s.display := by
  have hbegin : Plain "line ".toList := by decide
  have hcolon : Plain ": ".toList := by decide
  exact ((hbegin.append (Text.plain_ofNat _)).append hcolon).append h

theorem FeatureFault.plain_message {fault : FeatureFault} (h : ∀ t ∈ fault.texts, Plain t) :
    Plain fault.message := by
  cases fault with
  | unnamedFeature line =>
    show Plain "please provide a description for this feature".toList
    decide
  | secondBackground line =>
    show Plain "multiple backgrounds defined".toList
    decide
  | strayConjunction line =>
    show Plain "`And` may only continue a Given, When or Then step".toList
    decide
  | unsupported line construct =>
    have hend : Plain "` is not supported".toList := by decide
    have hbegin : Plain ('`' :: construct) :=
      Text.plain_cons_iff.mpr ⟨by decide, h _ (List.mem_singleton_self _)⟩
    exact hbegin.append hend
  | unknownLine line word =>
    have hbegin : Plain "unknown line type: ".toList := by decide
    exact hbegin.append (h _ (List.mem_singleton_self _))
  | ambiguous line e => exact Ambiguity.plain_message h
  | arity line e => exact ArityFault.plain_message (h _ (List.mem_singleton_self _))
  | unimplemented missing =>
    have hbegin : Plain "please implement ".toList := by decide
    have hend : Plain " missing step(s):\n\t".toList := by decide
    have hmissing : ∀ t ∈ missing.map MissingStep.display, Plain t :=
      List.forall_mem_map.mpr fun s hs => MissingStep.plain_display (h _ (List.mem_map_of_mem hs))
    exact ((hbegin.append (Text.plain_ofNat _)).append hend).append
      (Plain.join (by decide) hmissing)

theorem Rejection.plain_message {r : Rejection} (h : ∀ t ∈ r.fault.texts, Plain t) :
    Plain r.message := by
  have hfault := FeatureFault.plain_message h
  have hrejected : Plain "feature rejected: ".toList := by decide
  have hline : Plain "feature rejected at line ".toList := by decide
  have hcolon : Plain ": ".toList := by decide
  unfold message
  split
  next => exact hrejected.append hfault
  next => exact hrejected.append hfault
  next line _ => exact ((hline.append (Text.plain_ofNat _)).append hcolon).append hfault

namespace Duration

variable {word : String} (hword : Plain word.toList) (n : Nat)

include hword

theorem plain_counted : ∀ t ∈ counted n word, Plain t := by
  unfold counted
  split
  next => simp
  next =>
    rw [List.forall_mem_singleton]
    refine ((Text.plain_ofNat n).append hword).append ?_
    split <;> decide

theorem plain_lettered : ∀ t ∈ lettered n word, Plain t := by
  unfold lettered
  split
  next => simp
  next =>
    rw [List.forall_mem_singleton]
    exact (Text.plain_ofNat n).append hword

omit hword

theorem plain_display (milliseconds : Nat) : Plain (display milliseconds) := by
  unfold display
  split
  next => decide
  next =>
    refine Plain.join (by decide) ?_
    simp only [List.forall_mem_append]
    exact ⟨⟨⟨⟨⟨⟨plain_counted (by decide) _, plain_counted (by decide) _⟩,
      plain_counted (by decide) _⟩, plain_lettered (by decide) _⟩, plain_lettered (by decide) _⟩,
      plain_lettered (by decide) _⟩, plain_lettered (by decide) _⟩

end Duration

/-! ## The same in all colours -/

namespace Console

/-- The console without colours. -/
def uncoloured (c : Console) : Console := { c with styles := .plain }

variable (c : Console)

/-- A text that is painted as a whole is painted on the one console and left on the other. -/
theorem paintingOf_paint (style : Style) {t : Text} (h : Plain t) :
    PaintingOf (c.uncoloured.styles.paint style t) (c.styles.paint style t) :=
  (Palette.paint_plain style t).symm ▸ PaintingOf.paint_plain c.styles style h

theorem plain_hangIndent (n : Nat) {t : Text} (h : Plain t) : Plain (hangIndent n t) :=
  h.replace (Text.plain_cons_iff.mpr ⟨by decide, Text.plain_spaces n⟩)

theorem plain_gutter {t : Text} (h : Plain t) : Plain (gutter t) :=
  (Text.plain_spaces 7).append (plain_hangIndent 7 h)

theorem paintingOf_listedLine (width : Nat) {d : ListedLine} (h : ∀ t ∈ d.texts, Plain t) :
    PaintingOf (c.uncoloured.listedLine width d) (c.listedLine width d) := by
  obtain ⟨htext, hremark⟩ := List.forall_mem_cons.mp h
  have hsource : Plain d.source := (Text.plain_spaces _).append htext
  have hpadded : Plain (Text.padEnd width d.source ++ Text.spaces 2) :=
    (hsource.append (Text.plain_spaces _)).append (Text.plain_spaces _)
  unfold listedLine
  split
  next => exact PaintingOf.refl hsource.trimEnd
  next location hmatched =>
    rw [hmatched] at hremark
    exact (PaintingOf.refl hpadded).append
      (c.paintingOf_paint .ok (Remark.plain_display hremark))
  next message hfailed =>
    rw [hfailed] at hremark
    exact (PaintingOf.refl hpadded).append
      (c.paintingOf_paint .err (plain_hangIndent _ (Remark.plain_display hremark)))

theorem paintingOf_listing {l : Listing} (h : ∀ t ∈ l.texts, Plain t) :
    List.Forall₂ PaintingOf (c.uncoloured.listing l) (c.listing l) := by
  unfold listing
  rw [List.forall₂_map_left_iff, List.forall₂_map_right_iff, List.forall₂_same]
  exact fun d hd => c.paintingOf_listedLine l.width fun t ht =>
    h t (List.mem_flatMap.mpr ⟨d, hd, ht⟩)

theorem paintingOf_step {s : Step} {status : StepResult} {logs : List Text} (background : Bool)
    (htext : Plain s.text) (hdoc : ∀ doc ∈ s.docString, Plain doc) (hlogs : ∀ log ∈ logs, Plain log)
    (hstatus : ∀ t ∈ status.texts, Plain t) :
    List.Forall₂ PaintingOf (c.uncoloured.step s background status logs)
      (c.step s background status logs) := by
  have htitle : List.Forall₂ PaintingOf [c.uncoloured.title s background status]
      [c.title s background status] := by
    have hmark : Plain [(mark status).1] := by
      cases status with
      | passed | skipped => decide
      | failed e =>
        show Plain ['✘']
        decide
    have hwritten : Plain s.written := by
      unfold Step.written
      split
      next => decide
      next => cases s.keyword <;> decide
    have hbackground : Plain (if background then ['>', ' '] else []) := by
      cases background <;> decide
    have hspace : Plain [' '] := by decide
    exact .cons (c.paintingOf_paint _ (((((((Text.plain_spaces 4).append hmark).append
      (Text.plain_spaces 2)).append hbackground).append hwritten).append hspace).append htext)) .nil
  have hdocString : List.Forall₂ PaintingOf
      (if c.verbosity > 1 then (s.docString.map c.uncoloured.docString).toList else [])
      (if c.verbosity > 1 then (s.docString.map c.docString).toList else []) := by
    split
    next =>
      cases hdocString : s.docString with
      | none => exact .nil
      | some doc =>
        have hquotes : Plain (Text.spaces 7 ++ ['"', '"', '"']) := by decide
        have hnewline : Plain ['\n'] := by decide
        exact .cons (c.paintingOf_paint .skipped ((((hquotes.append hnewline).append
          (plain_gutter (hdoc doc hdocString))).append hnewline).append hquotes)) .nil
    next => exact .nil
  have hlogLines : List.Forall₂ PaintingOf
      (if c.verbosity > 0 then logs.map logLine else [])
      (if c.verbosity > 0 then logs.map logLine else []) := by
    split
    next =>
      have hbar : Plain (Text.spaces 7 ++ ['|', ' ']) := by decide
      exact PaintingOf.forall₂_self (List.forall_mem_map.mpr fun log hlog =>
        hbar.append (hlogs log hlog))
    next => exact .nil
  refine List.rel_append (List.rel_append (List.rel_append htitle hdocString) hlogLines) ?_
  cases status with
  | passed | skipped => exact .nil
  | failed e =>
    exact .cons (c.paintingOf_paint .err (plain_gutter (Failure.plain_message hstatus))) .nil

theorem paintingOf_scenarioFinished {name : Text} (hname : Plain name) (passed : Bool) :
    List.Forall₂ PaintingOf (c.uncoloured.scenarioFinished name passed)
      (c.scenarioFinished name passed) := by
  have hcalled : Plain (if name = [] then "steps".toList else name) := by
    split
    next => decide
    next => exact hname
  have hin : Plain " in ".toList := by decide
  unfold scenarioFinished
  show List.Forall₂ PaintingOf (if c.verbosity = 0 then _ else _) _
  split
  next => exact .nil
  next =>
    exact .cons (c.paintingOf_paint _ ((((Text.plain_spaces 2).append hcalled).append hin).append
      (Duration.plain_display c.elapsed))) .nil

/-- **What is written for an event is the same in all colours.** -/
theorem paintingOf_event {W : Type} {e : Event W} (h : ∀ t ∈ e.texts, Plain t) :
    List.Forall₂ PaintingOf (c.uncoloured.event e) (c.event e) := by
  cases e with
  | started f =>
    obtain ⟨hname, hlisting⟩ := List.forall_mem_append.mp h
    have hlisted : List.Forall₂ PaintingOf
        (if c.verbosity > 1 then c.uncoloured.listing f.listing ++ [[]] else [])
        (if c.verbosity > 1 then c.listing f.listing ++ [[]] else []) := by
      split
      next =>
        exact List.rel_append (c.paintingOf_listing hlisting)
          (.cons (PaintingOf.refl Text.plain_nil) .nil)
      next => exact .nil
    refine List.rel_append hlisted ?_
    cases hfeature : f.name with
    | none => exact .nil
    | some name =>
      have hbegin : Plain "Feature: ".toList := by decide
      exact .cons (c.paintingOf_paint .ok (hbegin.append (hname name (by simp [hfeature])))) .nil
  | linted f => exact c.paintingOf_listing h
  | parsingFailed r =>
    obtain ⟨hfault, hlisting⟩ := List.forall_mem_append.mp h
    have hbegin : Plain "Failed to parse: ".toList := by decide
    exact List.rel_append (c.paintingOf_listing hlisting)
      (.cons (c.paintingOf_paint .err (hbegin.append (Rejection.plain_message hfault))) .nil)
  | scenarioStarted name =>
    have hbegin : Plain "  Scenario: ".toList := by decide
    have hname : Plain name := h name (List.mem_singleton_self _)
    show List.Forall₂ PaintingOf (if name = [] then [] else _) (if name = [] then [] else _)
    split
    next => exact .nil
    next => exact .cons (c.paintingOf_paint .ok (hbegin.append hname)) .nil
  | step s background status logs invocation =>
    obtain ⟨htexts, hstatus⟩ := List.forall_mem_append.mp h
    obtain ⟨htexts, hlogs⟩ := List.forall_mem_append.mp htexts
    obtain ⟨htext, hdoc⟩ := List.forall_mem_cons.mp htexts
    exact c.paintingOf_step background htext (fun doc hmem => hdoc doc (Option.mem_toList.mpr hmem))
      hlogs hstatus
  | scenarioFinished name passed =>
    exact c.paintingOf_scenarioFinished (h name (List.mem_singleton_self _)) passed
  | finished summary => exact .cons (c.styles.paintingOf_summary summary) .nil

/-- **What is written for events is the same in all colours**, whatever time each scenario took. -/
theorem paintingOf_renderTimed {W : Type} {events : List (Nat × Event W)}
    (h : ∀ e ∈ events, ∀ t ∈ e.2.texts, Plain t) :
    PaintingOf (c.uncoloured.renderTimed events) (c.renderTimed events) := by
  refine PaintingOf.unlines ?_
  induction events with
  | nil => exact .nil
  | cons e rest ih =>
    obtain ⟨he, hrest⟩ := List.forall_mem_cons.mp h
    rw [List.flatMap_cons, List.flatMap_cons]
    exact List.rel_append (({ c with elapsed := e.1 } : Console).paintingOf_event he) (ih hrest)

/-- **Colour is presentation only.** What is written with colours is, without its escape sequences,
what is written without colours. A palette that is off at first is on after policies if the last one
that decides is `always`. -/
theorem colour_is_presentation {W : Type} {events : List (Nat × Event W)}
    (h : ∀ e ∈ events, ∀ t ∈ e.2.texts, '\x1b' ∉ t) (policies : List ColorPolicy) :
    Text.unpainted ({ c with styles := c.styles.apply .always }.renderTimed events)
        = { c with styles := c.styles.apply .never }.renderTimed events ∧
      ((policies.foldl Palette.apply {}).painting = true ↔
        (policies.filter (· ≠ .auto)).getLast? = some .always) := by
  constructor
  · have hpainting :=
      ({ c with styles := c.styles.apply .always } : Console).paintingOf_renderTimed h
    exact hpainting.unpainted_eq
  · rw [Palette.painting_foldl_apply]
    show _ ↔ Palette.deciding? policies = some .always
    cases Palette.deciding? policies with
    | none => simp
    | some policy => simp

/-- A scenario that failed, told in red, and one that passed, told in green. -/
theorem colour_is_presentation_sample :
    let painted : Console := { styles := Palette.apply {} .always, verbosity := 1 }
    let events : List (Nat × Event Unit) :=
      [(3, .scenarioStarted "x".toList), (3, .scenarioFinished [] false),
        (40, .scenarioFinished "y".toList true)]
    painted.renderTimed events
        = ("\x1b[32m  Scenario: x\x1b[0m\n\x1b[31m  steps in 3ms\x1b[0m\n" ++
            "\x1b[32m  y in 40ms\x1b[0m\n").toList ∧
      Text.unpainted (painted.renderTimed events)
        = "  Scenario: x\n  steps in 3ms\n  y in 40ms\n".toList ∧
      ([.always, .never, .always, .auto].foldl Palette.apply {}).painting = true := by
  intro painted events
  have hplain : ∀ e ∈ events, ∀ t ∈ e.2.texts, '\x1b' ∉ t := by decide
  have hnever : { painted with styles := painted.styles.apply .never }.renderTimed events
      = "  Scenario: x\n  steps in 3ms\n  y in 40ms\n".toList := by decide +kernel
  obtain ⟨hrender, hpolicies⟩ :=
    colour_is_presentation painted hplain [.always, .never, .always, .auto]
  exact ⟨by decide +kernel, hrender.trans hnever, hpolicies.mpr (by decide)⟩

end Console

end Gherkin
