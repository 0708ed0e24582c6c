import Gherkin.Proofs.Feature.Acceptance
import Gherkin.Proofs.Run.Reports
import Gherkin.Run.Executor
import Mathlib.Data.List.Sort

/-!
# The summary and the events

A summary counts steps while they are run and scenarios when they end, in different places. That it
counts what was told, and nothing twice, is said by `Summary.Accounts`: it holds of every block, and
where it holds of two stretches of events it holds of them together (`Summary.Accounts.add`). So it
holds of the run of a feature, of a text and of a folder (`Executor.summary_accounts`).

Whether all is well is read off the steps alone: a scenario fails by exactly one step, so none
failed if and only if no step did. A text that is rejected has no scenario that could fail; it is
counted on its own.
-/

namespace Gherkin

/-- How the step ended that an event tells of. -/
def Event.result? {W : Type} : Event W → Option StepResult
  | .step _ _ status _ _ => some status
  | .started _ | .linted _ | .parsingFailed _ | .scenarioStarted _ | .scenarioFinished _ _
  | .finished _ => none

/-- Whether the scenario passed of which an event tells the end. -/
def Event.verdict? {W : Type} : Event W → Option Bool
  | .scenarioFinished _ passed => some passed
  | .started _ | .linted _ | .parsingFailed _ | .scenarioStarted _ | .step _ _ _ _ _
  | .finished _ => none

/-- The rejection that an event tells of. -/
def Event.rejection? {W : Type} : Event W → Option Rejection
  | .parsingFailed r => some r
  | .started _ | .linted _ | .scenarioStarted _ | .step _ _ _ _ _ | .scenarioFinished _ _
  | .finished _ => none

/-- The summary of another run that a run has told. -/
def Event.summary? {W : Type} : Event W → Option Summary
  | .finished s => some s
  | .started _ | .linted _ | .parsingFailed _ | .scenarioStarted _ | .step _ _ _ _ _
  | .scenarioFinished _ _ => none

variable {W : Type}

/-- The end of no failed scenario is counted if and only if none is told. -/
theorem Event.count_verdict?_eq_zero_iff {es : List (Event W)} :
    (es.filterMap Event.verdict?).count false = 0 ↔
      ∀ name, Event.scenarioFinished name false ∉ es := by
  rw [List.count_eq_zero, List.mem_filterMap]
  constructor
  · intro hnone name hmem
    exact hnone ⟨_, hmem, rfl⟩
  · rintro hnone ⟨e, hmem, hverdict⟩
    cases e with
    | scenarioFinished name passed =>
      obtain rfl : passed = false := Option.some.inj hverdict
      exact hnone name hmem
    | _ => cases hverdict

/-- The summary counts what the events tell, for which as many contexts were created. -/
structure Summary.Accounts (s : Summary) (es : List (Event W)) (created : Nat) : Prop where
  steps : s.steps = Tally.ofResults (es.filterMap Event.result?)
  /-- No scenario is skipped. -/
  scenarios :
    s.scenarios
      = { passed := (es.filterMap Event.verdict?).count true
          skipped := 0
          failed := (es.filterMap Event.verdict?).count false }
  rejections : s.parsingErrors = (es.filterMap Event.rejection?).length
  /-- A scenario fails by exactly one step. -/
  failed : s.scenarios.failed = s.steps.failed
  /-- Steps are skipped only after one that failed. -/
  skipped : 0 < s.steps.skipped → 0 < s.steps.failed
  /-- Every scenario has a context of its own. -/
  created : s.scenarios.total = created
  /-- No summary is told among the events. -/
  unfinished : es.filterMap Event.summary? = []

namespace Summary.Accounts

variable {s a b : Summary} {es es' : List (Event W)} {n m : Nat}

/-- What accounts for events one after another adds up. -/
theorem add (ha : a.Accounts es n) (hb : b.Accounts es' m) :
    (a + b).Accounts (es ++ es') (n + m) where
  steps := by
    rw [Summary.steps_add, ha.steps, hb.steps, List.filterMap_append, Tally.ofResults_append]
  scenarios := by
    rw [Summary.scenarios_add, ha.scenarios, hb.scenarios, List.filterMap_append,
      List.count_append, List.count_append]
    rfl
  rejections := by
    rw [Summary.parsingErrors_add, ha.rejections, hb.rejections, List.filterMap_append,
      List.length_append]
  failed := by
    rw [Summary.scenarios_add, Summary.steps_add, Tally.failed_add, Tally.failed_add, ha.failed,
      hb.failed]
  skipped := by
    rw [Summary.steps_add, Tally.skipped_add, Tally.failed_add]
    intro hpos
    have hha := ha.skipped
    have hhb := hb.skipped
    omega
  created := by
    rw [← ha.created, ← hb.created, Summary.scenarios_add]
    unfold Tally.total
    rw [Tally.passed_add, Tally.skipped_add, Tally.failed_add]
    omega
  unfinished := by
    rw [List.filterMap_append, ha.unfinished, hb.unfinished]
    rfl

/-- Events that tell of nothing that is counted need not be accounted for. -/
theorem zero_of_none (hresult : es.filterMap Event.result? = [])
    (hverdict : es.filterMap Event.verdict? = [])
    (hrejection : es.filterMap Event.rejection? = [])
    (hsummary : es.filterMap Event.summary? = []) {features : Nat} :
    ({ features } : Summary).Accounts es 0 where
  steps := by
    rw [hresult]
    rfl
  scenarios := by
    rw [hverdict]
    rfl
  rejections := by
    rw [hrejection]
    rfl
  failed := rfl
  skipped := id
  created := rfl
  unfinished := hsummary

/-- No step failed if and only if no scenario did. -/
theorem failed_eq_zero_iff (h : s.Accounts es n) :
    s.steps.failed = 0 ↔ ∀ name, Event.scenarioFinished name false ∉ es := by
  have hcount : s.steps.failed = (es.filterMap Event.verdict?).count false := by
    rw [← h.failed, h.scenarios]
  rw [hcount, Event.count_verdict?_eq_zero_iff]

/-- No text was rejected if and only if none is told of. -/
theorem parsingErrors_eq_zero_iff (h : s.Accounts es n) :
    s.parsingErrors = 0 ↔ ∀ r, Event.parsingFailed r ∉ es := by
  rw [h.rejections, List.length_eq_zero_iff, List.filterMap_eq_nil_iff]
  constructor
  · intro hnone r hmem
    have hr := hnone _ hmem
    cases hr
  · intro hnone e hmem
    cases e with
    | parsingFailed r => exact absurd hmem (hnone r)
    | _ => rfl

/-- All is well if and only if no text was rejected and no scenario failed. -/
theorem passed_iff (h : s.Accounts es n) :
    s.passed = true ↔
      (∀ r, Event.parsingFailed r ∉ es) ∧ ∀ name, Event.scenarioFinished name false ∉ es := by
  unfold Summary.passed
  rw [Bool.and_eq_true, beq_iff_eq, beq_iff_eq, h.parsingErrors_eq_zero_iff, h.failed_eq_zero_iff]

end Summary.Accounts

namespace Course

/-- A block accounts for what it tells. -/
theorem accounts_runBlock (reg : Registry W) (world : W) (b : Block) :
    (runBlock reg world b).summary.Accounts (runBlock reg world b).events 1 := by
  have hresults : (List.zipWith (fun s r => StepReport.event s r) b.sequence
      (b.reports reg world)).filterMap Event.result? = (b.reports reg world).map (·.status) := by
    have hsnd : (b.sequence.zip (b.reports reg world)).map Prod.snd = b.reports reg world :=
      List.map_snd_zip (Nat.le_of_eq (b.length_reports reg world))
    conv_rhs => rw [← hsnd, List.map_map, ← List.filterMap_eq_map]
    rw [← List.map_uncurry_zip_eq_zipWith, List.filterMap_map]
    rfl
  have horder : InOrder ((b.reports reg world).map (·.status))
      !(b.reports reg world).any (·.isFailed) := inOrder_reports reg world _
  have hfailed := horder.failed_eq
  rw [runBlock_eq]
  dsimp only
  constructor
  case steps =>
    rw [List.filterMap_append, List.filterMap_append, hresults]
    show Tally.ofResults _ = Tally.ofResults (_ ++ [])
    rw [List.append_nil]
    rfl
  case scenarios =>
    rw [List.filterMap_append, List.filterMap_append,
      filterMap_zipWith_eq_nil (fun _ _ => rfl)]
    cases (b.reports reg world).any (·.isFailed) <;> rfl
  case rejections =>
    rw [List.filterMap_append, List.filterMap_append,
      filterMap_zipWith_eq_nil (fun _ _ => rfl)]
    rfl
  case failed =>
    rw [hfailed]
    cases (b.reports reg world).any (·.isFailed) <;> rfl
  case skipped =>
    intro hskipped
    cases hany : (b.reports reg world).any (·.isFailed) with
    | true =>
      rw [hany] at hfailed
      rw [hfailed]
      exact Nat.one_pos
    | false =>
      rw [hany] at horder
      rw [horder.skipped_eq] at hskipped
      exact absurd hskipped (Nat.lt_irrefl 0)
  case created => cases (b.reports reg world).any (·.isFailed) <;> rfl
  case unfinished =>
    rw [List.filterMap_append, List.filterMap_append,
      filterMap_zipWith_eq_nil (fun _ _ => rfl)]
    rfl

/-- Blocks that all run account for what they tell. -/
theorem accounts_ofBlocks (reg : Registry W) (fresh : Nat → W) (contexts : Nat)
    (ran : List Block) :
    let outcome := Outcome.ofBlocks contexts (runAll reg fresh contexts ran)
    outcome.summary.Accounts outcome.events ran.length := by
  induction ran generalizing contexts with
  | nil => exact .zero_of_none rfl rfl rfl rfl
  | cons b rest ih =>
    rw [runAll_cons, Outcome.ofBlocks_cons, List.length_cons, Nat.add_comm rest.length 1]
    exact (accounts_runBlock reg _ b).add (ih (contexts + 1))

/-- Running blocks counts no feature and no rejection. -/
theorem summary_ofBlocks (reg : Registry W) (fresh : Nat → W) (contexts : Nat)
    (ran : List Block) :
    let summary := (Outcome.ofBlocks contexts (runAll reg fresh contexts ran)).summary
    summary.features = 0 ∧ summary.parsingErrors = 0 := by
  induction ran generalizing contexts with
  | nil => exact ⟨rfl, rfl⟩
  | cons b rest ih =>
    obtain ⟨hfeatures, herrors⟩ := ih (contexts + 1)
    rw [runAll_cons, Outcome.ofBlocks_cons]
    dsimp only
    rw [Summary.features_add, Summary.parsingErrors_add, hfeatures, herrors]
    exact ⟨rfl, rfl⟩

/-- The run of a feature counts that feature and no rejection. -/
theorem summary_run (reg : Registry W) (fresh : Nat → W) (o : Options) (contexts : Nat)
    (f : Feature) :
    (run reg fresh o contexts f).summary
      = { features := 1
          scenarios := (run reg fresh o contexts f).summary.scenarios
          steps := (run reg fresh o contexts f).summary.steps } := by
  obtain ⟨ran, -, -, hrun⟩ := exists_runBlocks_eq reg fresh o contexts f.blocks
  obtain ⟨hfeatures, herrors⟩ := summary_ofBlocks reg fresh contexts ran
  rw [run_eq_runBlocks, hrun]
  refine Summary.ext ?_ ?_ rfl rfl
  · show 1 + _ = 1
    rw [hfeatures]
  · show 0 + _ = 0
    rw [herrors]

/-- The run of a feature accounts for what it tells. -/
theorem accounts_run (reg : Registry W) (fresh : Nat → W) (o : Options) (contexts : Nat)
    (f : Feature) :
    ∃ created, (run reg fresh o contexts f).contexts = contexts + created ∧
      (run reg fresh o contexts f).summary.Accounts (run reg fresh o contexts f).events
        created := by
  obtain ⟨ran, -, -, hrun⟩ := exists_runBlocks_eq reg fresh o contexts f.blocks
  have hstarted : ({ features := 1 } : Summary).Accounts [Event.started (W := W) f] 0 :=
    .zero_of_none rfl rfl rfl rfl
  refine ⟨ran.length, ?_, ?_⟩
  · rw [run_eq_runBlocks, hrun]
    show contexts + (runAll reg fresh contexts ran).length = contexts + ran.length
    unfold runAll
    rw [List.length_mapIdx]
  · have hblocks := hstarted.add (accounts_ofBlocks reg fresh contexts ran)
    rw [Nat.zero_add] at hblocks
    rw [run_eq_runBlocks, hrun]
    exact hblocks

end Course

namespace Executor

/-- Of a text that is rejected only the rejection is told. -/
theorem runFeature_of_rejected {e : Executor W} {contexts : Nat} {text : Text} {r : Rejection}
    (h : Feature.read e.registry text = .error r) :
    e.runFeature contexts text
      = { events := [.parsingFailed r], contexts, result := .error r } := by
  unfold runFeature
  rw [h]

/-- Running a text, apart from the summary that is told at the end, accounts for what it tells. -/
theorem accounts_runFeature (e : Executor W) (contexts : Nat) (text : Text) :
    ∃ created, (e.runFeature contexts text).contexts = contexts + created ∧
      (summaryOf (e.runFeature contexts text).result).Accounts (e.runFeature contexts text).events
        created := by
  unfold runFeature
  split
  next => exact ⟨0, rfl, rfl, rfl, rfl, rfl, id, rfl, rfl⟩
  next f _ =>
    split
    next => exact ⟨0, rfl, .zero_of_none rfl rfl rfl rfl⟩
    next =>
      obtain ⟨created, hcontexts, haccounts⟩ :=
        Course.accounts_run e.registry e.fresh e.options contexts f
      refine ⟨created, hcontexts, ?_⟩
      rw [Course.summary_run] at haccounts
      exact haccounts

/-- Running files accounts for what is told if all of them can be read. -/
theorem accounts_runFiles (e : Executor W) (files : FileSystem) (paths : List Text)
    {contexts : Nat} {total : Summary}
    (h : (e.runFiles files contexts paths).result = .ok total) :
    ∃ created, (e.runFiles files contexts paths).contexts = contexts + created ∧
      total.Accounts (e.runFiles files contexts paths).events created := by
  induction paths generalizing contexts total with
  | nil =>
    obtain rfl : ({} : Summary) = total := Except.ok.inj h
    exact ⟨0, rfl, .zero_of_none rfl rfl rfl rfl⟩
  | cons path rest ih =>
    rw [runFiles] at h ⊢
    split at h
    next => cases h
    next text hread =>
      dsimp only at h ⊢
      obtain ⟨created, hcontexts, haccounts⟩ := e.accounts_runFeature contexts text
      cases hlater : (e.runFiles files (e.runFeature contexts text).contexts rest).result with
      | error error =>
        rw [hlater] at h
        cases h
      | ok later =>
        rw [hlater] at h
        obtain rfl : summaryOf (e.runFeature contexts text).result + later = total :=
          Except.ok.inj h
        obtain ⟨more, hmore, hlaterAccounts⟩ := ih hlater
        refine ⟨created + more, ?_, haccounts.add hlaterAccounts⟩
        rw [hmore, hcontexts, Nat.add_assoc]

/-- Running a folder accounts for what is told before the summary, which is told last. -/
theorem accounts_runFolder (e : Executor W) (files : FileSystem) (contexts : Nat) (folder : Text)
    {total : Summary} (h : (e.runFolder files contexts folder).result = .ok total) :
    ∃ told created, (e.runFolder files contexts folder).events = told ++ [.finished total] ∧
      (e.runFolder files contexts folder).contexts = contexts + created ∧
      total.Accounts told created := by
  unfold runFolder at h ⊢
  split at h
  next => cases h
  next paths _ =>
    dsimp only at h ⊢
    split at h
    next error herror =>
      rw [herror] at h
      cases h
    next sum hsum =>
      obtain rfl : sum = total := Except.ok.inj (hsum.symm.trans h)
      obtain ⟨created, hcontexts, haccounts⟩ := e.accounts_runFiles files paths hsum
      rw [hsum]
      exact ⟨_, created, rfl, hcontexts, haccounts⟩

/-- The report of a text is that of the feature it is. -/
theorem result_runFeature (e : Executor W) (contexts : Nat) (text : Text) {report : Report}
    (h : (e.runText contexts text).result = .ok report) :
    (e.runFeature contexts text).result = .ok report := by
  replace h : (e.runFeature contexts text).result.mapError RunFault.parse = .ok report := h
  cases hresult : (e.runFeature contexts text).result with
  | error r =>
    rw [hresult] at h
    cases h
  | ok report' =>
    rw [hresult] at h
    obtain rfl : report' = report := Except.ok.inj h
    rfl

/-- **The summary counts what was told**, be it of a feature, of a text or of a folder, and a run
that tells it tells it last. All is well if and only if no scenario failed and no text was
rejected. -/
theorem summary_accounts (e : Executor W) (contexts : Nat) :
    (∀ f, ∃ created,
      let ran := Course.run e.registry e.fresh e.options contexts f
      ran.contexts = contexts + created ∧ ran.summary.Accounts ran.events created ∧
        (ran.summary.passed = true ↔ ∀ name, .scenarioFinished name false ∉ ran.events)) ∧
    (∀ text, ∃ s told created,
      let ran := e.runText contexts text
      ran.events = told ++ [.finished s] ∧ ran.contexts = contexts + created ∧
        s.Accounts told created ∧
        (s.passed = true ↔
          (∀ r, .parsingFailed r ∉ told) ∧ ∀ name, .scenarioFinished name false ∉ told) ∧
        ∀ report, ran.result = .ok report → s = report.summary ∧
          (report.passed = true ↔ ∀ name, .scenarioFinished name false ∉ told)) ∧
    ∀ files folder total, (e.runFolder files contexts folder).result = .ok total →
      ∃ told created,
        let ran := e.runFolder files contexts folder
        ran.events = told ++ [.finished total] ∧ ran.contexts = contexts + created ∧
          total.Accounts told created ∧
          (total.passed = true ↔
            (∀ r, .parsingFailed r ∉ told) ∧ ∀ name, .scenarioFinished name false ∉ told) := by
  refine ⟨?feature, ?text, ?folder⟩
  case feature =>
    intro f
    obtain ⟨created, hcontexts, haccounts⟩ :=
      Course.accounts_run e.registry e.fresh e.options contexts f
    have hnone :
        (Course.run e.registry e.fresh e.options contexts f).summary.parsingErrors = 0 := by
      rw [Course.summary_run]
    refine ⟨created, hcontexts, haccounts, ?_⟩
    rw [haccounts.passed_iff, ← haccounts.parsingErrors_eq_zero_iff]
    exact and_iff_right hnone
  case text =>
    intro text
    obtain ⟨created, hcontexts, haccounts⟩ := e.accounts_runFeature contexts text
    refine ⟨_, _, created, rfl, hcontexts, haccounts, haccounts.passed_iff, ?_⟩
    intro report hreport
    rw [e.result_runFeature contexts text hreport] at haccounts ⊢
    refine ⟨rfl, ?_⟩
    rw [← haccounts.failed_eq_zero_iff]
    exact beq_iff_eq
  case folder =>
    intro files folder total htotal
    obtain ⟨told, created, hevents, hcontexts, haccounts⟩ :=
      e.accounts_runFolder files contexts folder htotal
    exact ⟨told, created, hevents, hcontexts, haccounts, haccounts.passed_iff⟩

end Executor

namespace Sample

/-- An executor of the sample registry. -/
def executor : Executor Unit := { registry, fresh := fun _ => () }

/-- A folder with the sample text, with a text that is no feature, and with notes. -/
def folder : FileSystem where
  isFolder _ := true
  read path := .ok (if path = "b.feature".toList then "Oops".toList else text)
  names _ := .ok ["a.feature".toList, "b.feature".toList, "notes".toList]

theorem featurePaths_folder :
    Executor.featurePaths folder [] = .ok ["a.feature".toList, "b.feature".toList] := by
  have hsort : ["a.feature".toList, "b.feature".toList].mergeSort Text.le
      = ["a.feature".toList, "b.feature".toList] := List.mergeSort_of_pairwise (by decide)
  have hnames : folder.names []
      = .ok ["a.feature".toList, "b.feature".toList, "notes".toList] := rfl
  have hfilter : ["a.feature".toList, "b.feature".toList, "notes".toList].filter
      Executor.isFeatureName = ["a.feature".toList, "b.feature".toList] := by decide
  unfold Executor.featurePaths
  rw [hnames]
  dsimp only
  rw [hfilter, hsort]
  rfl

end Sample

namespace Executor

/-- In the sample folder one scenario of two fails, and one text is rejected. -/
theorem summary_accounts_sample :
    ∃ total told created,
      total.passed = false ∧ total.features = 2 ∧ total.parsingErrors = 1 ∧
      total.scenarios = { passed := 1, failed := 1 } ∧
      (Sample.executor.runFolder Sample.folder 0 []).result = .ok total ∧
      (Sample.executor.runFolder Sample.folder 0 []).events = told ++ [.finished total] ∧
      (Sample.executor.runFolder Sample.folder 0 []).contexts = 0 + created ∧
      total.Accounts told created := by
  let total : Summary :=
    { features := 2
      parsingErrors := 1
      scenarios := { passed := 1, failed := 1 }
      steps := { passed := 6, failed := 1 } }
  have hfiles : (Sample.executor.runFiles Sample.folder 0
      ["a.feature".toList, "b.feature".toList]).result = .ok total := by
    have hoption : (Sample.executor.runFiles Sample.folder 0
        ["a.feature".toList, "b.feature".toList]).result.toOption = some total := by
      decide +kernel
    cases hresult : (Sample.executor.runFiles Sample.folder 0
        ["a.feature".toList, "b.feature".toList]).result with
    | error error =>
      rw [hresult] at hoption
      cases hoption
    | ok sum =>
      rw [hresult] at hoption
      rw [Option.some.inj hoption]
  have hfolder : (Sample.executor.runFolder Sample.folder 0 []).result = .ok total := by
    unfold runFolder
    rw [Sample.featurePaths_folder]
    dsimp only
    rw [hfiles]
  obtain ⟨told, created, hevents, hcontexts, haccounts, -⟩ :=
    (summary_accounts Sample.executor 0).2.2 Sample.folder [] total hfolder
  exact ⟨total, told, created, rfl, rfl, rfl, rfl, hfolder, hevents, hcontexts, haccounts⟩

/-- A text that is rejected is not well, though no scenario of it failed. -/
theorem rejected_without_failed_scenario :
    ∃ s told, (Sample.executor.runText 0 "Oops".toList).events = told ++ [.finished s] ∧
      ¬(s.passed = true ↔ ∀ name, .scenarioFinished name false ∉ told) := by
  have hread : (Feature.read Sample.registry "Oops".toList).toOption = none := by decide +kernel
  cases hresult : Feature.read Sample.registry "Oops".toList with
  | ok f =>
    rw [hresult] at hread
    cases hread
  | error r =>
    refine ⟨.rejected, [.parsingFailed r], ?_, ?_⟩
    · unfold runText
      rw [runFeature_of_rejected hresult]
      rfl
    · have hnone : ∀ name, Event.scenarioFinished (W := Unit) name false
          ∉ [.parsingFailed r] := by
        intro name hmem
        cases List.mem_singleton.mp hmem
      intro h
      have hpassed := h.mpr hnone
      cases hpassed

end Executor

end Gherkin
