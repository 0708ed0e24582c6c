import Gherkin.Proofs.Run.Reconciliation

/-!
# The verdict hides no failure

The verdict of a run is read off one number of failed steps and one of rejected texts, which have
been summed up over blocks and over files, and by one way for files and by another for folders. It
is nevertheless exact: a run passes if and only if it has come to its end and told of nothing that
failed, be it a text that was rejected, a step or a scenario (`Executor.verdict_eq_ok_iff`).
-/

namespace Gherkin

variable {W : Type}

/-- The events tell of nothing that failed. -/
structure Unfailing (es : List (Event W)) : Prop where
  /-- No text was rejected. -/
  texts : ∀ r, .parsingFailed r ∉ es
  steps : ∀ s background failure logs invocation,
    .step s background (.failed failure) logs invocation ∉ es
  scenarios : ∀ name, .scenarioFinished name false ∉ es

/-- A summary at the end tells of nothing that failed. -/
theorem unfailing_append_finished_iff {es : List (Event W)} {s : Summary} :
    Unfailing (es ++ [.finished s]) ↔ Unfailing es := by
  constructor
  · rintro ⟨htexts, hsteps, hscenarios⟩
    exact
      { texts := fun r hr => htexts r (List.mem_append_left _ hr)
        steps := fun s background failure logs invocation hs =>
          hsteps s background failure logs invocation (List.mem_append_left _ hs)
        scenarios := fun name hname => hscenarios name (List.mem_append_left _ hname) }
  · rintro ⟨htexts, hsteps, hscenarios⟩
    constructor
    case texts =>
      intro r hr
      rcases List.mem_append.mp hr with hr | hr
      · exact htexts r hr
      · cases List.mem_singleton.mp hr
    case steps =>
      intro s background failure logs invocation hs
      rcases List.mem_append.mp hs with hs | hs
      · exact hsteps s background failure logs invocation hs
      · cases List.mem_singleton.mp hs
    case scenarios =>
      intro name hname
      rcases List.mem_append.mp hname with hname | hname
      · exact hscenarios name hname
      · cases List.mem_singleton.mp hname

namespace Summary.Accounts

variable {s : Summary} {es : List (Event W)} {n : Nat}

/-- No step is told to have failed if none is counted. -/
theorem step_not_mem (h : s.Accounts es n) (hnone : s.steps.failed = 0) (step : Step)
    (background : Bool) (failure : Failure) (logs : List Text)
    (invocation : Option (Invocation W)) :
    .step step background (.failed failure) logs invocation ∉ es := by
  intro hmem
  have hcount : (es.filterMap Event.result?).countP StepResult.isFailed = 0 := by
    rw [h.steps] at hnone
    exact hnone
  have hresult : StepResult.failed failure ∈ es.filterMap Event.result? :=
    List.mem_filterMap.mpr ⟨_, hmem, rfl⟩
  exact List.countP_eq_zero.mp hcount _ hresult rfl

/-- A summary passes if and only if the events that it counts tell of nothing that failed. -/
theorem passed_iff_unfailing (h : s.Accounts es n) : s.passed = true ↔ Unfailing es := by
  constructor
  · intro hpassed
    obtain ⟨htexts, hscenarios⟩ := h.passed_iff.mp hpassed
    exact
      { texts := htexts
        steps := h.step_not_mem (h.failed_eq_zero_iff.mpr hscenarios)
        scenarios := hscenarios }
  · intro hnone
    exact h.passed_iff.mpr ⟨hnone.texts, hnone.scenarios⟩

end Summary.Accounts

namespace Executor

/-- Running a text accounts for what is told before the summary, which is told last. -/
theorem accounts_runText (e : Executor W) (contexts : Nat) (text : Text) :
    ∃ told created,
      (e.runText contexts text).events
        = told ++ [.finished (summaryOf (e.runFeature contexts text).result)] ∧
      (e.runText contexts text).contexts = contexts + created ∧
      (summaryOf (e.runFeature contexts text).result).Accounts told created := by
  obtain ⟨created, hcontexts, haccounts⟩ := e.accounts_runFeature contexts text
  exact ⟨_, created, rfl, hcontexts, haccounts⟩

/-- A file that can be read is run as its text. -/
theorem runFile_of_read {files : FileSystem} {path text : Text}
    (h : files.read path = .ok text) (e : Executor W) (contexts : Nat) :
    e.runFile files contexts path = e.runText contexts text := by
  unfold runFile
  rw [h]

/-- A run of a file that comes to its end is the run of the text of the file. -/
theorem run_eq_of_file {e : Executor W} {files : FileSystem} {contexts : Nat} {path : Text}
    {total : Summary} (hfile : files.isFolder path = false)
    (h : (e.run files contexts path).result = .ok total) :
    ∃ text, (e.run files contexts path).events = (e.runText contexts text).events ∧
      (e.run files contexts path).contexts = (e.runText contexts text).contexts ∧
      total = summaryOf (e.runFeature contexts text).result := by
  have hrun : e.run files contexts path = _ := if_neg (by simp [hfile])
  rw [hrun] at h ⊢
  cases hread : files.read path with
  | error error =>
    have hran : e.runFile files contexts path
        = { events := [], contexts, result := .error (.read path error) } := by
      unfold runFile
      rw [hread]
    rw [hran] at h
    cases h
  | ok text =>
    rw [runFile_of_read hread] at h ⊢
    refine ⟨text, rfl, rfl, ?_⟩
    have hmapped : (e.runText contexts text).result
        = (e.runFeature contexts text).result.mapError .parse := rfl
    dsimp only at h
    rw [hmapped] at h
    cases hresult : (e.runFeature contexts text).result with
    | error r =>
      rw [hresult] at h
      exact (Except.ok.inj h).symm
    | ok report =>
      rw [hresult] at h
      exact (Except.ok.inj h).symm

/-- A run that comes to its end accounts for what is told before the summary, which is told last,
be it of a file or of a folder. -/
theorem accounts_run (e : Executor W) (files : FileSystem) (contexts : Nat) (path : Text)
    {total : Summary} (h : (e.run files contexts path).result = .ok total) :
    ∃ told created, (e.run files contexts path).events = told ++ [.finished total] ∧
      (e.run files contexts path).contexts = contexts + created ∧
      total.Accounts told created := by
  cases hfolder : files.isFolder path with
  | true =>
    have hrun : e.run files contexts path = e.runFolder files contexts path := if_pos hfolder
    rw [hrun] at h ⊢
    exact e.accounts_runFolder files contexts path h
  | false =>
    obtain ⟨text, hevents, hcontexts, rfl⟩ := run_eq_of_file hfolder h
    rw [hevents, hcontexts]
    exact e.accounts_runText contexts text

/-- **The verdict hides no failure.** It tells what the run tells. It is good if and only if the run
has come to its end and tells of no text that was rejected, of no step and of no scenario that
failed, and otherwise there is a message. -/
theorem verdict_eq_ok_iff (e : Executor W) (files : FileSystem) (contexts : Nat) (path : Text) :
    let ran := e.run files contexts path
    let verdict := e.verdict files contexts path
    verdict.events = ran.events ∧
    (verdict.result = .ok () ↔ (∃ total, ran.result = .ok total) ∧ Unfailing ran.events) ∧
    ((∃ message, verdict.result = .error message) ↔
      ¬((∃ total, ran.result = .ok total) ∧ Unfailing ran.events)) := by
  intro ran verdict
  have hgood : verdict.result = .ok () ↔
      (∃ total, ran.result = .ok total) ∧ Unfailing ran.events := by
    show (e.verdict files contexts path).result = .ok () ↔
      (∃ total, (e.run files contexts path).result = .ok total) ∧ Unfailing ran.events
    unfold Executor.verdict
    dsimp only
    cases hresult : (e.run files contexts path).result with
    | error error => simp
    | ok total =>
      obtain ⟨told, created, htold, -, haccounts⟩ := e.accounts_run files contexts path hresult
      have hevents : ran.events = told ++ [.finished total] := htold
      have hunfailing : Unfailing ran.events ↔ total.passed = true := by
        rw [hevents, unfailing_append_finished_iff, haccounts.passed_iff_unfailing]
      rw [hunfailing]
      dsimp only
      unfold Summary.failed
      cases total.passed with
      | true => simp
      | false => simp
  refine ⟨rfl, hgood, ?_⟩
  -- there is either a message or a good verdict
  rw [← hgood]
  cases verdict.result with
  | error message => simp
  | ok _ => simp

end Executor

end Gherkin
