import Gherkin.Proofs.Run.Blocks

/-!
# What is told of the steps of a block

A block under way carries along what it has counted and told so far. What it adds with each step
depends on none of that: `reports` says what is told of steps one after another, given only the
context they begin on, and `runBlock_eq` says that a block tells that, counts that and fails by it.

Two facts about reports carry the theorems on runs. Steps pass up to one that fails, after which
all are skipped (`inOrder_reports`). And the report of a step is that of its handler on the context
that the handlers before it in the block have left, or says that the step is skipped
(`getElem?_reports`).
-/

namespace Gherkin

/-! ## Results in order -/

/-- The counts of results. -/
def Tally.ofResults (results : List StepResult) : Tally :=
  { passed := results.count .passed
    skipped := results.count .skipped
    failed := results.countP StepResult.isFailed }

theorem Tally.ofResults_append (a b : List StepResult) :
    Tally.ofResults (a ++ b) = Tally.ofResults a + Tally.ofResults b := by
  ext
  · exact List.count_append
  · exact List.count_append
  · exact List.countP_append

theorem Tally.ofResults_cons (r : StepResult) (rest : List StepResult) :
    Tally.ofResults (r :: rest) = Tally.ofResults [r] + Tally.ofResults rest :=
  Tally.ofResults_append [r] rest

/-- The results of the steps of a block, and whether it passed: any number of steps pass, then one
may fail, and all after that one are skipped. -/
inductive InOrder : List StepResult → (passed : Bool) → Prop
  | passing (n : Nat) : InOrder (List.replicate n .passed) true
  | failing (n : Nat) (e : Failure) (k : Nat) :
    InOrder (List.replicate n .passed ++ .failed e :: List.replicate k .skipped) false

namespace InOrder

theorem cons_passed {results : List StepResult} {passed : Bool} (h : InOrder results passed) :
    InOrder (.passed :: results) passed := by
  cases h with
  | passing n => exact passing (n + 1)
  | failing n e k => exact failing (n + 1) e k

/-- A block that fails does so by exactly one step. -/
theorem failed_eq {results : List StepResult} {passed : Bool} (h : InOrder results passed) :
    (Tally.ofResults results).failed = if passed then 0 else 1 := by
  cases h with
  | passing n =>
    show (List.replicate n StepResult.passed).countP StepResult.isFailed = 0
    rw [List.countP_replicate]
    rfl
  | failing n e k =>
    show (List.replicate n StepResult.passed ++ StepResult.failed e
      :: List.replicate k StepResult.skipped).countP StepResult.isFailed = 1
    rw [List.countP_append, List.countP_cons, List.countP_replicate, List.countP_replicate]
    rfl

/-- In a block that passes no step is skipped. -/
theorem skipped_eq {results : List StepResult} (h : InOrder results true) :
    (Tally.ofResults results).skipped = 0 := by
  cases h with
  | passing n =>
    show (List.replicate n StepResult.passed).count .skipped = 0
    rw [List.count_replicate]
    rfl

end InOrder

namespace Course

variable {W : Type} {reg : Registry W}

/-! ## Reports -/

/-- What is told of no pair is told of none of them. -/
theorem filterMap_zipWith_eq_nil {α β γ δ : Type} {f : α → β → γ} {g : γ → Option δ}
    (h : ∀ a b, g (f a b) = none) (as : List α) (bs : List β) :
    (List.zipWith f as bs).filterMap g = [] := by
  refine List.filterMap_eq_nil_iff.mpr fun c hc => ?_
  obtain ⟨i, hi, rfl⟩ := List.mem_iff_getElem.mp hc
  rw [List.getElem_zipWith]
  exact h _ _

/-- How a step ended that was not skipped. -/
def StepOutcome.status (o : StepOutcome W) : StepResult :=
  match o.failure with
  | none => .passed
  | some e => .failed e

/-- What a run tells of a step, besides which step it is. -/
structure StepReport (W : Type) where
  status : StepResult
  logs : List Text
  invocation : Option (Invocation W)

/-- The report of a step that is skipped. -/
def StepReport.skipped : StepReport W := { status := .skipped, logs := [], invocation := none }

/-- The report of a step that is run. -/
def StepOutcome.report (o : StepOutcome W) : StepReport W :=
  { status := o.status, logs := o.logs, invocation := o.invocation }

theorem StepOutcome.isFailed_status (o : StepOutcome W) :
    o.status.isFailed = o.failure.isSome := by
  unfold status
  cases o.failure <;> rfl

/-- The event that reports of a step; `s.1` says whether the step is one of the background. -/
def StepReport.event (s : Bool × Step) (r : StepReport W) : Event W :=
  .step s.2 s.1 r.status r.logs r.invocation

/-- The reports of steps one after another from a context, where `failed` says whether a step
before them has failed. -/
def reports (reg : Registry W) : (world : W) → (failed : Bool) → List Step → List (StepReport W)
  | _, _, [] => []
  | world, true, _ :: rest => .skipped :: reports reg world true rest
  | world, false, s :: rest =>
    let o := invoke reg s world
    o.report :: reports reg o.world o.failure.isSome rest

@[simp] theorem length_reports (world : W) (failed : Bool) (steps : List Step) :
    (reports reg world failed steps).length = steps.length := by
  induction steps generalizing world failed with
  | nil => rfl
  | cons s rest ih =>
    cases failed with
    | true => exact congrArg (· + 1) (ih world true)
    | false => exact congrArg (· + 1) (ih _ _)

/-- After a step that failed all are skipped. -/
theorem reports_failed (world : W) (steps : List Step) :
    reports reg world true steps = List.replicate steps.length .skipped := by
  induction steps with
  | nil => rfl
  | cons s rest ih =>
    rw [reports, ih]
    rfl

/-- Whether a step has failed by its report. -/
def StepReport.isFailed (r : StepReport W) : Bool := r.status.isFailed

/-- Steps pass up to one that fails, after which all are skipped. -/
theorem inOrder_reports (reg : Registry W) (world : W) (steps : List Step) :
    InOrder ((reports reg world false steps).map (·.status))
      !(reports reg world false steps).any (·.isFailed) := by
  induction steps generalizing world with
  | nil => exact .passing 0
  | cons s rest ih =>
    have hisFailed := (invoke reg s world).isFailed_status
    rw [reports, List.map_cons, List.any_cons]
    show InOrder ((invoke reg s world).status :: _) !((invoke reg s world).status.isFailed || _)
    rw [hisFailed]
    cases hfailure : (invoke reg s world).failure with
    | none =>
      have hstatus : (invoke reg s world).status = .passed := by
        unfold StepOutcome.status
        rw [hfailure]
      rw [hstatus]
      exact (ih _).cons_passed
    | some e =>
      have hstatus : (invoke reg s world).status = .failed e := by
        unfold StepOutcome.status
        rw [hfailure]
      rw [hstatus, Option.isSome_some, reports_failed, List.map_replicate]
      exact .failing 0 e rest.length

/-! ## A block and its reports -/

/-- While no step has failed, the step is run and its outcome is counted and told. -/
theorem runStep_of_not_failed (background : Bool) (world : W) (steps : Tally)
    (events : List (Event W)) (s : Step) :
    runStep reg background { world, failed := false, steps, events } s
      = { world := (invoke reg s world).world
          failed := (invoke reg s world).failure.isSome
          steps := steps + Tally.ofResults [(invoke reg s world).status]
          events := events ++ [(invoke reg s world).report.event (background, s)] } := by
  unfold runStep StepReport.event StepOutcome.report StepOutcome.status
  dsimp only
  cases (invoke reg s world).failure with
  | none => rfl
  | some e => rfl

/-- Running a step adds its report, and leaves the block where the next report begins. -/
theorem reports_runStep (reg : Registry W) (background : Bool) (p : Progress W) (s : Step)
    (rest : List Step) :
    ∃ r : StepReport W,
      reports reg p.world p.failed (s :: rest)
        = r :: reports reg (runStep reg background p s).world (runStep reg background p s).failed
            rest ∧
      (runStep reg background p s).events = p.events ++ [r.event (background, s)] ∧
      (runStep reg background p s).steps = p.steps + Tally.ofResults [r.status] ∧
      (runStep reg background p s).failed = (p.failed || r.isFailed) := by
  obtain ⟨world, failed, steps, events⟩ := p
  cases failed with
  | true => exact ⟨.skipped, rfl, rfl, rfl, rfl⟩
  | false =>
    rw [runStep_of_not_failed]
    exact ⟨(invoke reg s world).report, rfl, rfl, rfl, (invoke reg s world).isFailed_status.symm⟩

/-- Running steps adds their reports. -/
theorem foldl_runStep (reg : Registry W) (ss : List (Bool × Step)) (p : Progress W) :
    let rs := reports reg p.world p.failed (ss.map (·.2))
    let after := ss.foldl (fun p s => runStep reg s.1 p s.2) p
    after.events = p.events ++ List.zipWith (fun s r => r.event s) ss rs ∧
      after.steps = p.steps + Tally.ofResults (rs.map (·.status)) ∧
      after.failed = (p.failed || rs.any (·.isFailed)) := by
  induction ss generalizing p with
  | nil => exact ⟨(List.append_nil _).symm, (add_zero _).symm, (Bool.or_false _).symm⟩
  | cons s rest ih =>
    obtain ⟨r, hreports, hevents, hsteps, hfailed⟩ :=
      reports_runStep reg s.1 p s.2 (rest.map (·.2))
    obtain ⟨ihevents, ihsteps, ihfailed⟩ := ih (runStep reg s.1 p s.2)
    dsimp only
    rw [List.map_cons, hreports, List.foldl_cons, List.zipWith_cons_cons, List.map_cons,
      List.any_cons]
    refine ⟨?_, ?_, ?_⟩
    · rw [ihevents, hevents, List.append_assoc]
      rfl
    · rw [ihsteps, hsteps, add_assoc, ← Tally.ofResults_cons]
    · rw [ihfailed, hfailed, Bool.or_assoc]

end Course

namespace Block

open Course

variable {W : Type}

/-- The steps of a block in the order in which they run, each with whether it is one of the
background. -/
def sequence (b : Block) : List (Bool × Step) :=
  b.background.map (true, ·) ++ b.steps.map (false, ·)

theorem map_snd_sequence (b : Block) : b.sequence.map (·.2) = b.background ++ b.steps := by
  unfold sequence
  rw [List.map_append, List.map_map, List.map_map]
  exact congrArg₂ (· ++ ·) (List.map_id _) (List.map_id _)

/-- The reports of the steps of a block on a fresh context. -/
def reports (reg : Registry W) (world : W) (b : Block) : List (StepReport W) :=
  Course.reports reg world false (b.background ++ b.steps)

theorem length_reports (reg : Registry W) (world : W) (b : Block) :
    (b.reports reg world).length = b.sequence.length := by
  rw [← List.length_map (fun s : Bool × Step => s.2), b.map_snd_sequence]
  exact Course.length_reports ..

end Block

namespace Course

variable {W : Type} {reg : Registry W}

/-- **A block tells of its steps what their reports say**, between its beginning and its end, counts
how they ended, and fails if one of them does. -/
theorem runBlock_eq (world : W) (b : Block) :
    runBlock reg world b
      = let rs := b.reports reg world
        let failed := rs.any (·.isFailed)
        { events :=
            [.scenarioStarted b.name] ++ List.zipWith (fun s r => r.event s) b.sequence rs
              ++ [.scenarioFinished b.name !failed]
          failed
          summary :=
            { scenarios := if failed then { failed := 1 } else { passed := 1 }
              steps := Tally.ofResults (rs.map (·.status)) } } := by
  have hrun : runSteps reg world b
      = b.sequence.foldl (fun p s => runStep reg s.1 p s.2) { world := world } := by
    unfold runSteps Block.sequence
    rw [List.foldl_append, List.foldl_map, List.foldl_map]
  obtain ⟨hevents, hsteps, hfailed⟩ := foldl_runStep reg b.sequence { world := world }
  rw [← hrun, b.map_snd_sequence, List.nil_append] at hevents
  rw [← hrun, b.map_snd_sequence, Bool.false_or] at hfailed
  rw [← hrun, b.map_snd_sequence] at hsteps
  have hzero (t : Tally) : ({} : Tally) + t = t := zero_add t
  rw [hzero] at hsteps
  unfold runBlock Block.reports
  dsimp only
  rw [hevents, hsteps, hfailed]

/-! ## The context a step finds -/

/-- The context as steps leave it, one after another. -/
def worldAfter (reg : Registry W) (world : W) (steps : List Step) : W :=
  steps.foldl (fun world s => (invoke reg s world).world) world

/-- The reports of steps are those of the first of them and, from where these lead, those of the
others. -/
theorem reports_append (world : W) (before after : List Step) :
    reports reg world false (before ++ after)
      = reports reg world false before
        ++ if (reports reg world false before).any (·.isFailed) then
            List.replicate after.length .skipped
          else reports reg (worldAfter reg world before) false after := by
  induction before generalizing world with
  | nil => rfl
  | cons s rest ih =>
    have hisFailed : (invoke reg s world).report.isFailed = (invoke reg s world).failure.isSome :=
      (invoke reg s world).isFailed_status
    rw [List.cons_append, reports, reports, List.any_cons, hisFailed, List.cons_append]
    cases (invoke reg s world).failure with
    | none => rw [Option.isSome_none, Bool.false_or, ih]; rfl
    | some e =>
      rw [Option.isSome_some, Bool.true_or, if_pos rfl, reports_failed, reports_failed,
        List.length_append, List.replicate_add]

/-- **The report of a step** is that of its handler on the context that the handlers of the steps
before it have left, unless one of these failed. -/
theorem getElem?_reports (reg : Registry W) (world : W) (before : List Step) (s : Step)
    (after : List Step) :
    (reports reg world false (before ++ s :: after))[before.length]?
      = some (if (reports reg world false before).any (·.isFailed) then .skipped
          else (invoke reg s (worldAfter reg world before)).report) := by
  have hlength : (reports reg world false before).length = before.length := length_reports ..
  rw [reports_append, List.getElem?_append_right (Nat.le_of_eq hlength), hlength, Nat.sub_self]
  split
  next => rfl
  next => rfl

end Course

end Gherkin
