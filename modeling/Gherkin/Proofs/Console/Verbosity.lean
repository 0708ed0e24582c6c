import Mathlib.Data.List.Flatten
import Gherkin.Console.Report
import Gherkin.Proofs.Text.Rows

/-!
# Verbosity only adds lines

What is asked for by verbosity is put between lines that are written anyway: a listing before the
name of a feature, doc strings and logs between a step and its failure, and the time of a scenario
after its steps. So the lines written at one verbosity stand in the same order among those written
at a higher one. Nothing asks for more than 2.

Scenarios take different times, so each event comes here with its own (`Console.renderTimed`); a
console that says the same of all scenarios is a case of that (`Console.render_eq_renderTimed`).

* `Console.sublist_event`, `Console.event_atMost` — both facts for one event.
* `Console.verbosity_adds_lines` — both facts for all that is written.
-/

namespace Gherkin

/-- What is asked for under a condition is there under a weaker one too. -/
theorem sublist_ite_of_imp {α : Type} {p q : Prop} [Decidable p] [Decidable q] (h : p → q)
    (l : List α) : (if p then l else []).Sublist (if q then l else []) := by
  by_cases hp : p
  · have hq : q := h hp
    simp [hp, hq]
  · rw [if_neg hp]
    exact List.nil_sublist _

namespace Console

variable {W : Type} (c : Console) {v v' : Nat}

/-- The console at another verbosity. -/
def withVerbosity (v : Nat) : Console := { c with verbosity := v }

/-! ## One event -/

/-- Between a step and its failure lines are added. -/
theorem sublist_step (h : v ≤ v') (s : Step) (background : Bool) (status : StepResult)
    (logs : List Text) :
    ((c.withVerbosity v).step s background status logs).Sublist
      ((c.withVerbosity v').step s background status logs) := by
  have hdocString : (if v > 1 then (s.docString.map c.docString).toList else []).Sublist
      (if v' > 1 then (s.docString.map c.docString).toList else []) :=
    sublist_ite_of_imp (fun hv => Nat.lt_of_lt_of_le hv h) _
  have hlogs : (if v > 0 then logs.map logLine else []).Sublist
      (if v' > 0 then logs.map logLine else []) :=
    sublist_ite_of_imp (fun hv => Nat.lt_of_lt_of_le hv h) _
  exact (((List.Sublist.refl _).append hdocString).append hlogs).append (List.Sublist.refl _)

/-- The time of a scenario is added if it was left out. -/
theorem sublist_scenarioFinished (h : v ≤ v') (name : Text) (passed : Bool) :
    ((c.withVerbosity v).scenarioFinished name passed).Sublist
      ((c.withVerbosity v').scenarioFinished name passed) := by
  unfold scenarioFinished
  show (if v = 0 then [] else _ : List Text).Sublist (if v' = 0 then [] else _)
  by_cases hv : v = 0
  · rw [if_pos hv]
    exact List.nil_sublist _
  · have hv' : v' ≠ 0 := by omega
    rw [if_neg hv, if_neg hv']
    exact List.Sublist.refl _

/-- **For every event a higher verbosity only adds texts.** -/
theorem sublist_event (h : v ≤ v') (e : Event W) :
    ((c.withVerbosity v).event e).Sublist ((c.withVerbosity v').event e) := by
  cases e with
  | started f =>
    have hlisting : (if v > 1 then c.listing f.listing ++ [[]] else []).Sublist
        (if v' > 1 then c.listing f.listing ++ [[]] else []) :=
      sublist_ite_of_imp (fun hv => Nat.lt_of_lt_of_le hv h) _
    exact hlisting.append (List.Sublist.refl _)
  | step s background status logs invocation => exact c.sublist_step h s background status logs
  | scenarioFinished name passed => exact c.sublist_scenarioFinished h name passed
  -- nothing else depends on the verbosity
  | linted f | parsingFailed r | scenarioStarted name | finished summary =>
    exact List.Sublist.refl _

/-- **Nothing asks for a verbosity above 2.** -/
theorem event_atMost (v : Nat) (e : Event W) :
    (c.withVerbosity v).event e = (c.withVerbosity (min v 2)).event e := by
  have habove : min v 2 > 1 ↔ v > 1 := by omega
  have hsome : min v 2 > 0 ↔ v > 0 := by omega
  have hnone : min v 2 = 0 ↔ v = 0 := by omega
  cases e with
  | started f =>
    show (if v > 1 then _ else _) ++ _ = (if min v 2 > 1 then _ else _) ++ _
    simp only [habove]
    rfl
  | step s background status logs invocation =>
    show _ ++ (if v > 1 then _ else _) ++ (if v > 0 then _ else _) ++ _
      = _ ++ (if min v 2 > 1 then _ else _) ++ (if min v 2 > 0 then _ else _) ++ _
    simp only [habove, hsome]
    rfl
  | scenarioFinished name passed =>
    show (if v = 0 then _ else _) = if min v 2 = 0 then _ else _
    simp only [hnone]
    rfl
  | linted f | parsingFailed r | scenarioStarted name | finished summary => rfl

/-! ## All that is written -/

/-- **Verbosity only adds lines.** The lines written at one verbosity stand in the same order among
those written at a higher one, whatever the colours; and from 2 on nothing is added. -/
theorem verbosity_adds_lines (h : v ≤ v') (events : List (Nat × Event W)) :
    (Text.rows ((c.withVerbosity v).renderTimed events)).Sublist
        (Text.rows ((c.withVerbosity v').renderTimed events)) ∧
      (2 ≤ v →
        (c.withVerbosity v).renderTimed events = (c.withVerbosity v').renderTimed events) := by
  unfold renderTimed
  constructor
  · rw [Text.rows_unlines, Text.rows_unlines]
    have htexts := List.Sublist.flatMap_right events fun e _ =>
      ({ c with elapsed := e.1 } : Console).sublist_event h e.2
    exact (htexts.flatMap Text.rows).append_right _
  · intro hv
    have hsame : min v 2 = min v' 2 := by omega
    congr 2
    funext e
    exact (({ c with elapsed := e.1 } : Console).event_atMost v e.2).trans <|
      hsame ▸ (({ c with elapsed := e.1 } : Console).event_atMost v' e.2).symm

/-- The doc string and the log of a step that fails are put before its failure, and the time of the
scenario after it. -/
theorem verbosity_adds_lines_sample :
    let console : Console := { elapsed := 5 }
    let step : Step :=
      { keyword := .given, conjunction := false, line := 2
        found :=
          { handler := 0, pattern := ['x'], location := { path := [], line := 1, column := 1 }
            captures := [], text := ['x'] }
        arguments := [['d']], docString := some ['d'] }
    let events : List (Event Unit) :=
      [.step step false (.failed (.failed "a\nb".toList)) [['c']] none,
        .scenarioFinished ['s'] false]
    let quiet := Text.rows ((console.withVerbosity 0).render events)
    let verbose := Text.rows ((console.withVerbosity 2).render events)
    0 ≤ 2 ∧
      quiet = ["    ✘  Given x", "       step failed: a", "       b", ""].map String.toList ∧
      verbose
        = ["    ✘  Given x", "       \"\"\"", "       d", "       \"\"\"", "       | c",
            "       step failed: a", "       b", "  s in 5ms", ""].map String.toList ∧
      quiet.Sublist verbose := by
  intro console step events quiet verbose
  have hadds := (verbosity_adds_lines console (Nat.zero_le 2) (events.map (5, ·))).1
  refine ⟨Nat.zero_le 2, by decide +kernel, by decide +kernel, ?_⟩
  show (Text.rows (render _ events)).Sublist (Text.rows (render _ events))
  rw [render_eq_renderTimed, render_eq_renderTimed]
  exact hadds

end Console

end Gherkin
