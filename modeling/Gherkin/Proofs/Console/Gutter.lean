import Gherkin.Console.Report
import Gherkin.Proofs.Console.Totals
import Gherkin.Proofs.Text.Rows

/-!
# What stands below a step

Below the line of a step stand its doc string, its logs and its failure, all of which hold texts
that a handler chose. Each of them is set in the gutter, seven columns that no line about a
scenario, a step or the whole run leaves free (`Console.Heading.not_inGutter`), so that a text with
line feeds in it cannot pass for such a line.

A doc string and a failure are indented after each line feed. A log is not: the rows of a log after
its first are written as they are, and they are all that can leave the gutter.

* `Console.rows_step` — the title takes one row, and the details the others.
* `Console.details_in_gutter` — which of these stand in the gutter.
* `Console.log_leaves_gutter` — a log that passes for the beginning of a scenario.
-/

namespace Gherkin

/-- The row leaves the first seven columns free. -/
def InGutter (row : Text) : Prop := Text.spaces 7 <+: row

instance (row : Text) : Decidable (InGutter row) := inferInstanceAs (Decidable (_ <+: _))

namespace Console

variable {c : Console} {s : Step} {status : StepResult} {logs : List Text} {row t : Text}

/-- What is written for a step below its title. -/
def details (c : Console) (s : Step) (status : StepResult) (logs : List Text) : List Text :=
  (if c.verbosity > 1 then (s.docString.map c.docString).toList else [])
    ++ (if c.verbosity > 0 then logs.map logLine else [])
    ++ match status with
      | .failed e => [c.styles.paint .err (gutter e.message)]
      | .passed | .skipped => []

theorem step_eq_cons (c : Console) (s : Step) (background : Bool) (status : StepResult)
    (logs : List Text) :
    c.step s background status logs = c.title s background status :: c.details s status logs := by
  unfold step details
  cases status <;> rfl

/-! ## The rows of the details -/

/-- The rows of a text that is set in the gutter. -/
theorem inGutter_of_mem_rows_gutter (h : row ∈ Text.rows (gutter t)) : InGutter row := by
  obtain ⟨first, further, hrows⟩ := List.exists_cons_of_ne_nil (Text.rows_ne_nil t)
  unfold gutter hangIndent at h
  rw [Text.rows_append (Text.not_mem_spaces (by decide) 7) (Text.rows_indented hrows 7)] at h
  rcases List.mem_cons.mp h with rfl | h
  · exact List.prefix_append _ _
  · obtain ⟨row, -, rfl⟩ := List.mem_map.mp h
    exact List.prefix_append _ _

/-- The rows of a doc string: its quotes, and its lines between them. -/
theorem inGutter_of_mem_rows_docString (hplain : c.styles.painting = false) {doc : Text}
    (h : row ∈ Text.rows (c.docString doc)) : InGutter row := by
  have hquotes : '\n' ∉ Text.spaces 7 ++ ['"', '"', '"'] := by decide
  unfold docString at h
  dsimp only at h
  rw [Palette.paint_of_not_painting hplain, List.append_assoc, List.append_assoc,
    List.append_assoc, List.singleton_append, List.singleton_append, Text.rows_append_newline,
    Text.rows_append_newline, Text.rows_of_not_mem hquotes] at h
  rcases List.mem_append.mp h with h | h
  · obtain rfl := List.mem_singleton.mp h
    exact List.prefix_append _ _
  rcases List.mem_append.mp h with h | h
  · exact inGutter_of_mem_rows_gutter h
  · obtain rfl := List.mem_singleton.mp h
    exact List.prefix_append _ _

/-- **Of the rows of a log only the first is set in the gutter**; the others are those of the
log. -/
theorem rows_logLine {log first : Text} {further : List Text}
    (h : Text.rows log = first :: further) :
    Text.rows (logLine log) = (Text.spaces 7 ++ ['|', ' '] ++ first) :: further :=
  Text.rows_append (by decide) h

/-- A row of a log stands in the gutter, or is one of its further rows. -/
theorem mem_rows_logLine {log : Text} (h : row ∈ Text.rows (logLine log)) :
    InGutter row ∨ row ∈ (Text.rows log).tail := by
  obtain ⟨first, further, hrows⟩ := List.exists_cons_of_ne_nil (Text.rows_ne_nil log)
  rw [rows_logLine hrows] at h
  rcases List.mem_cons.mp h with rfl | h
  · exact Or.inl (List.append_assoc .. ▸ List.prefix_append _ _)
  · exact Or.inr (hrows ▸ h)

/-- **The details stand in the gutter, but for the further rows of logs.** -/
theorem mem_rows_details (hplain : c.styles.painting = false)
    (h : row ∈ (c.details s status logs).flatMap Text.rows) :
    InGutter row ∨ 0 < c.verbosity ∧ ∃ log ∈ logs, row ∈ (Text.rows log).tail := by
  obtain ⟨detail, hdetail, hrow⟩ := List.mem_flatMap.mp h
  rcases List.mem_append.mp hdetail with hdetail | hfailure
  · rcases List.mem_append.mp hdetail with hdoc | hlog
    · split at hdoc
      next =>
        obtain ⟨doc, -, rfl⟩ := Option.map_eq_some_iff.mp (Option.mem_toList.mp hdoc)
        exact Or.inl (inGutter_of_mem_rows_docString hplain hrow)
      next => exact absurd hdoc List.not_mem_nil
    · split at hlog
      next hverbosity =>
        obtain ⟨log, hmem, rfl⟩ := List.mem_map.mp hlog
        exact (mem_rows_logLine hrow).imp_right fun hrow => ⟨hverbosity, log, hmem, hrow⟩
      next => exact absurd hlog List.not_mem_nil
  · cases status with
    | passed | skipped => exact absurd hfailure List.not_mem_nil
    | failed e =>
      obtain rfl := List.mem_singleton.mp hfailure
      rw [Palette.paint_of_not_painting hplain] at hrow
      exact Or.inl (inGutter_of_mem_rows_gutter hrow)

/-- The further rows of a log that is written are among the rows of the details. -/
theorem mem_rows_details_of_log (hverbosity : 0 < c.verbosity) {log : Text} (hlog : log ∈ logs)
    (hrow : row ∈ (Text.rows log).tail) : row ∈ (c.details s status logs).flatMap Text.rows := by
  obtain ⟨first, further, hrows⟩ := List.exists_cons_of_ne_nil (Text.rows_ne_nil log)
  refine List.mem_flatMap.mpr ⟨logLine log, ?_, ?_⟩
  · refine List.mem_append_left _ (List.mem_append_right _ ?_)
    rw [if_pos hverbosity]
    exact List.mem_map_of_mem hlog
  · rw [rows_logLine hrows]
    rw [hrows] at hrow
    exact List.mem_cons_of_mem _ hrow

/-! ## The lines of the report -/

/-- The line of a step. -/
theorem title_of_plain (hplain : c.styles.painting = false) (s : Step) (background : Bool)
    (status : StepResult) :
    c.title s background status
      = Text.spaces 4 ++ (mark status).1 :: (Text.spaces 2
          ++ ((if background then ['>', ' '] else []) ++ (s.written ++ ' ' :: s.text))) := by
  unfold title
  rw [Palette.paint_of_not_painting hplain]
  simp only [List.append_assoc, List.cons_append, List.nil_append]

/-- A title takes one row if the text of the step does. -/
theorem newline_not_mem_title (hplain : c.styles.painting = false) (htext : '\n' ∉ s.text)
    (background : Bool) (status : StepResult) : '\n' ∉ c.title s background status := by
  have hmark : (mark status).1 ≠ '\n' := by
    cases status with
    | passed | skipped => decide
    | failed e =>
      show '✘' ≠ '\n'
      decide
  have hbackground : '\n' ∉ (if background then ['>', ' '] else []) := by
    cases background <;> decide
  have hwritten : '\n' ∉ s.written := by
    unfold Step.written
    split
    · decide
    · cases s.keyword <;> decide
  have hspaces (n : Nat) : '\n' ∉ Text.spaces n := Text.not_mem_spaces (by decide) n
  rw [title_of_plain hplain]
  simp [hmark.symm, hbackground, hwritten, hspaces, htext]

/-- **The title takes one row, and the details all others**, up to the last line feed. -/
theorem rows_step (hplain : c.styles.painting = false) (htext : '\n' ∉ s.text) (background : Bool)
    (status : StepResult) (logs : List Text) :
    Text.rows (Text.unlines (c.step s background status logs))
      = c.title s background status
          :: ((c.details s status logs).flatMap Text.rows ++ [[]]) := by
  rw [step_eq_cons, Text.rows_unlines, List.flatMap_cons,
    Text.rows_of_not_mem (newline_not_mem_title hplain htext background status)]
  rfl

/-- A line that tells of a scenario, of a step or of the whole run. -/
inductive Heading (c : Console) : Text → Prop
  | scenarioStarted (name : Text) : Heading c ("  Scenario: ".toList ++ name)
  | step (s : Step) (background : Bool) (status : StepResult) :
    Heading c (c.title s background status)
  | scenarioFinished {name line : Text} (passed : Bool) (hname : name.head? ≠ some ' ')
    (h : line ∈ c.scenarioFinished name passed) : Heading c line
  | finished {summary : Summary} {line : Text} (h : line ∈ Text.rows (c.styles.summary summary)) :
    Heading c line

/-- **No line of the report leaves the gutter free.** -/
theorem Heading.not_inGutter (hplain : c.styles.painting = false) (h : c.Heading row) :
    ¬ InGutter row := by
  rintro ⟨rest, hrest⟩
  have hrest : ' ' :: ' ' :: ' ' :: ' ' :: ' ' :: ' ' :: ' ' :: rest = row := hrest
  cases h with
  | scenarioStarted name => simp at hrest
  | step s background status =>
    -- the mark stands in the fifth column
    have hmark : (mark status).1 ≠ ' ' := by
      cases status with
      | passed | skipped => decide
      | failed e =>
        show '✘' ≠ ' '
        decide
    have hspaces : Text.spaces 4 = [' ', ' ', ' ', ' '] := rfl
    rw [title_of_plain hplain, hspaces] at hrest
    simp only [List.cons_append, List.nil_append, List.cons.injEq, true_and] at hrest
    exact hmark hrest.1.symm
  | @scenarioFinished name line passed hname hline =>
    -- and the name of a scenario begins in the third
    have hcalled : ∃ d called, (if name = [] then "steps".toList else name) = d :: called ∧
        d ≠ ' ' := by
      cases name with
      | nil => exact ⟨'s', "teps".toList, rfl, by decide⟩
      | cons d called => exact ⟨d, called, rfl, fun hd => hname (congrArg some hd)⟩
    obtain ⟨d, called, hcalled, hd⟩ := hcalled
    unfold Console.scenarioFinished at hline
    split at hline
    next => exact absurd hline List.not_mem_nil
    next =>
      rw [Palette.paint_of_not_painting hplain, hcalled, List.mem_singleton, ← hrest] at hline
      have hspaces : Text.spaces 2 = [' ', ' '] := rfl
      simp only [hspaces, List.cons_append, List.nil_append, List.cons.injEq, true_and] at hline
      exact hd hline.1.symm
  | finished hline =>
    rw [Palette.rows_summary] at hline
    exact c.styles.head?_line_ne hplain hline (hrest ▸ rfl)

/-! ## What leaves the gutter -/

/-- **The details of a step stand in the gutter exactly as far as the rows of its logs do**, and
only a further row of a log can pass for a line of the report. -/
theorem details_in_gutter {W : Type} (hplain : c.styles.painting = false) (htext : '\n' ∉ s.text)
    (background : Bool) (status : StepResult) (logs : List Text)
    (invocation : Option (Invocation W)) :
    ∃ details : List Text,
      Text.rows (Text.unlines (c.event (.step s background status logs invocation)))
          = c.title s background status :: (details ++ [[]]) ∧
        ((∀ row ∈ details, InGutter row) ↔
          c.verbosity = 0 ∨ ∀ log ∈ logs, ∀ row ∈ (Text.rows log).tail, InGutter row) ∧
        ∀ row ∈ details, c.Heading row →
          0 < c.verbosity ∧ ∃ log ∈ logs, row ∈ (Text.rows log).tail := by
  refine ⟨_, rows_step hplain htext background status logs, ⟨fun h => ?_, fun h row hrow => ?_⟩,
    fun row hrow hheading => ?_⟩
  · by_cases hverbosity : c.verbosity = 0
    · exact Or.inl hverbosity
    · exact Or.inr fun log hlog row hrow =>
        h row (mem_rows_details_of_log (Nat.pos_of_ne_zero hverbosity) hlog hrow)
  · rcases mem_rows_details hplain hrow with hin | ⟨hverbosity, log, hlog, hrow⟩
    · exact hin
    · rcases h with hquiet | hlogs
      · exact absurd hquiet (Nat.ne_of_gt hverbosity)
      · exact hlogs log hlog row hrow
  · exact (mem_rows_details hplain hrow).resolve_left (hheading.not_inGutter hplain)

/-- A step with a doc string that would begin a scenario if it stood further to the left. -/
def sampleStep : Step :=
  { keyword := .given, conjunction := false, line := 2
    found :=
      { handler := 0, pattern := ['x'], location := { path := [], line := 1, column := 1 }
        captures := [], text := ['x'] }
    arguments := ["d\n  Scenario: e".toList], docString := some "d\n  Scenario: e".toList }

/-- A doc string and a failure that hold line feeds stay in the gutter. -/
theorem details_in_gutter_sample :
    let c : Console := { verbosity := 2 }
    let details : List Text :=
      ["       \"\"\"", "       d", "         Scenario: e", "       \"\"\"", "       | c",
        "       step failed: a", "         Scenario: b"].map String.toList
    let event : Event Unit :=
      .step sampleStep false (.failed (.failed "a\n  Scenario: b".toList)) [['c']] none
    c.styles.painting = false ∧ '\n' ∉ sampleStep.text ∧
      Text.rows (Text.unlines (c.event event)) = "    ✘  Given x".toList :: (details ++ [[]]) ∧
      ∀ row ∈ details, InGutter row := by
  intro c details event
  have hwritten : Text.rows (Text.unlines (c.event event))
      = "    ✘  Given x".toList :: (details ++ [[]]) := by decide +kernel
  obtain ⟨details', hrows, hgutter, -⟩ :=
    details_in_gutter (c := c) (s := sampleStep) rfl (by decide) false
      (.failed (.failed "a\n  Scenario: b".toList)) [['c']] (none : Option (Invocation Unit))
  have hdetails : details' = details :=
    List.append_cancel_right (List.cons.inj (hrows.symm.trans hwritten)).2
  have hlogs : ∀ log ∈ [['c']], ∀ row ∈ (Text.rows log).tail, InGutter row := by decide
  exact ⟨rfl, by decide, hwritten, hdetails ▸ hgutter.mpr (Or.inr hlogs)⟩

/-- **A log leaves the gutter**: its second row is written where the beginning of a scenario
would be. -/
theorem log_leaves_gutter :
    let c : Console := { verbosity := 1 }
    let event : Event Unit :=
      .step sampleStep false .passed ["a\n  Scenario: b".toList] none
    Text.rows (Text.unlines (c.event event))
        = ["    ✔  Given x", "       | a", "  Scenario: b", ""].map String.toList ∧
      ¬ InGutter "  Scenario: b".toList ∧ c.Heading "  Scenario: b".toList := by
  intro c event
  exact ⟨by decide +kernel, by decide, .scenarioStarted ['b']⟩

end Console

end Gherkin
