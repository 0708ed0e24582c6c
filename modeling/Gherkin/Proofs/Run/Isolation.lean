import Gherkin.Proofs.Run.Trace

/-!
# Blocks are run apart

Nothing passes from one block of a feature to the next but the number of contexts. So the run of a
feature tells, one after another, what the runs of features tell that hold one block each, and it
counts what these count (`run_eq_runsAlone`).

What a block tells depends on the block, on the context made for it and on the handlers of its own
steps, and on nothing else (`runBlock_congr`). Within the block, a handler finds the context as the
handlers before it in the block have left it.
-/

namespace Gherkin

/-! ## Sums -/

theorem Summary.scenarios_sum (l : List Summary) : l.sum.scenarios = (l.map (·.scenarios)).sum := by
  induction l with
  | nil => rfl
  | cons s rest ih => rw [List.sum_cons, Summary.scenarios_add, ih, List.map_cons, List.sum_cons]

theorem Summary.steps_sum (l : List Summary) : l.sum.steps = (l.map (·.steps)).sum := by
  induction l with
  | nil => rfl
  | cons s rest ih => rw [List.sum_cons, Summary.steps_add, ih, List.map_cons, List.sum_cons]

namespace Feature

open Course

variable {W : Type}

/-! ## One feature for each block -/

/-- A feature for each block, in which the block stands alone; all have the background. -/
def alone (f : Feature) : List Feature :=
  (if f.segments.lead.filterMap Item.step? = [] then [] else [{ f with items := f.segments.lead }])
    ++ f.segments.scenarios.map fun s => { f with items := .marker s.1 :: s.2 }

theorem blocks_lead (f : Feature) (h : f.segments.lead.filterMap Item.step? ≠ []) :
    ({ f with items := f.segments.lead } : Feature).blocks
      = [⟨[], [], f.segments.lead.filterMap Item.step?⟩] := by
  let p : Segments := { lead := f.segments.lead, scenarios := [] }
  have hproper : p.Proper :=
    { lead := (Segments.proper_ofItems f.items).lead
      kind := fun _ hmem => absurd hmem List.not_mem_nil
      rest := fun _ hmem => absurd hmem List.not_mem_nil }
  have hitems : p.items = f.segments.lead := List.append_nil _
  have hblocks := f.blocks_items hproper
  rw [hitems] at hblocks
  rw [hblocks]
  show (if f.segments.lead.filterMap Item.step? = [] then [] else _) ++ [] = _
  rw [if_neg h, List.append_nil]

theorem blocks_scenario (f : Feature) {s : Marker × List Item} (h : s ∈ f.segments.scenarios) :
    ({ f with items := .marker s.1 :: s.2 } : Feature).blocks
      = [.ofScenario f.backgroundSteps s] := by
  have hsegments := Segments.proper_ofItems f.items
  let p : Segments := { lead := [], scenarios := [s] }
  have hproper : p.Proper :=
    { lead := fun _ hmem => absurd hmem List.not_mem_nil
      kind := List.forall_mem_singleton.mpr (hsegments.kind s h)
      rest := List.forall_mem_singleton.mpr (hsegments.rest s h) }
  have hitems : p.items = .marker s.1 :: s.2 := List.append_nil _
  have hblocks := f.blocks_items hproper
  rw [hitems] at hblocks
  rw [hblocks]
  rfl

/-- Each of the features has one block, and these are the blocks of the feature. -/
theorem blocks_alone (f : Feature) : f.alone.map Feature.blocks = f.blocks.map ([·]) := by
  unfold alone blocks Segments.blocks
  dsimp only
  rw [List.map_append, List.map_append, List.map_map, List.map_map]
  congr 1
  · split
    next => rfl
    next h => exact congrArg ([·]) (f.blocks_lead h)
  · exact List.map_congr_left fun s hs => f.blocks_scenario hs

/-! ## The runs of the blocks -/

/-- The runs of the blocks of a feature, each alone, on one context after another. -/
def runsAlone (reg : Registry W) (fresh : Nat → W) (contexts : Nat) (f : Feature) :
    List (Outcome W) :=
  f.alone.mapIdx fun i g => run reg fresh {} (contexts + i) g

/-- A feature of one block runs that block, on one context. -/
theorem run_of_blocks_eq_singleton (reg : Registry W) (fresh : Nat → W) (contexts : Nat)
    {g : Feature} {b : Block} (h : g.blocks = [b]) :
    run reg fresh {} contexts g
      = { events := .started g :: (runBlock reg (fresh (contexts + 1)) b).events
          summary := { features := 1 } + (runBlock reg (fresh (contexts + 1)) b).summary
          contexts := contexts + 1 } := by
  rw [run_eq_runBlocks, h, runBlocks_all, runAll_cons, Outcome.ofBlocks_cons]
  dsimp only
  show Outcome.mk (_ :: (_ ++ [])) (_ + (_ + 0)) (contexts + 1) = _
  rw [List.append_nil, add_zero]

/-- What the run of a block alone comes to, by its number. -/
theorem getElem?_runsAlone (reg : Registry W) (fresh : Nat → W) (contexts : Nat) (f : Feature)
    (i : Nat) :
    ∃ g : Feature, (f.runsAlone reg fresh contexts)[i]?
      = (f.blocks[i]?).map fun b =>
        { events := .started g :: (runBlock reg (fresh (contexts + i + 1)) b).events
          summary := { features := 1 } + (runBlock reg (fresh (contexts + i + 1)) b).summary
          contexts := contexts + i + 1 } := by
  have hblocks : (f.alone[i]?).map Feature.blocks = (f.blocks[i]?).map ([·]) := by
    rw [← List.getElem?_map, f.blocks_alone, List.getElem?_map]
  unfold runsAlone
  rw [List.getElem?_mapIdx]
  cases hg : f.alone[i]? with
  | none =>
    rw [hg] at hblocks
    rw [Option.map_eq_none_iff.mp hblocks.symm]
    exact ⟨f, rfl⟩
  | some g =>
    rw [hg] at hblocks
    obtain ⟨b, hb, hgb⟩ := Option.map_eq_some_iff.mp hblocks.symm
    rw [hb]
    exact ⟨g, congrArg some (run_of_blocks_eq_singleton reg fresh (contexts + i) hgb.symm)⟩

/-- What the runs of the blocks alone come to is what the blocks come to, apart from the events of
the beginning of the run and the count of features. -/
theorem map_runsAlone {α : Type} (reg : Registry W) (fresh : Nat → W) (contexts : Nat)
    (f : Feature) (ofRun : Outcome W → α) (ofBlock : BlockOutcome W → α)
    (h : ∀ (g : Feature) (b : BlockOutcome W) (n : Nat),
      ofRun ⟨.started g :: b.events, { features := 1 } + b.summary, n⟩ = ofBlock b) :
    (f.runsAlone reg fresh contexts).map ofRun
      = (runAll reg fresh contexts f.blocks).map ofBlock := by
  refine List.ext_getElem? fun i => ?_
  obtain ⟨g, hi⟩ := f.getElem?_runsAlone reg fresh contexts i
  unfold runAll
  rw [List.getElem?_map, hi, List.getElem?_map, List.getElem?_mapIdx]
  cases f.blocks[i]? with
  | none => rfl
  | some b => exact congrArg some (h g _ _)

theorem length_runsAlone (reg : Registry W) (fresh : Nat → W) (contexts : Nat) (f : Feature) :
    (f.runsAlone reg fresh contexts).length = f.blocks.length := by
  unfold runsAlone
  rw [List.length_mapIdx, ← List.length_map Feature.blocks, f.blocks_alone, List.length_map]

end Feature

/-- The steps of the background stand first in a block. -/
theorem Block.getElem?_sequence (b : Block) (i : Nat) :
    b.sequence[i]?
      = ((b.background ++ b.steps)[i]?).map (decide (i < b.background.length), ·) := by
  unfold sequence
  by_cases hi : i < b.background.length
  · have hi' : i < (b.background.map (true, ·)).length := by rwa [List.length_map]
    rw [List.getElem?_append_left hi, List.getElem?_append_left hi', List.getElem?_map,
      decide_eq_true hi]
  · have hi' : (b.background.map (true, ·)).length ≤ i := by rw [List.length_map]; omega
    rw [List.getElem?_append_right hi', List.getElem?_append_right (Nat.le_of_not_lt hi),
      List.getElem?_map, List.length_map, decide_eq_false hi]

namespace Course

variable {W : Type} {reg reg' : Registry W}

/-! ## What a block depends on -/

/-- A step depends on no handler but its own. -/
theorem invoke_congr {s : Step}
    (h : reg.definitions[s.found.handler]? = reg'.definitions[s.found.handler]?) (world : W) :
    invoke reg s world = invoke reg' s world := by
  unfold invoke
  rw [h]

theorem reports_congr {steps : List Step}
    (h : ∀ s ∈ steps, reg.definitions[s.found.handler]? = reg'.definitions[s.found.handler]?)
    (world : W) (failed : Bool) :
    reports reg world failed steps = reports reg' world failed steps := by
  induction steps generalizing world failed with
  | nil => rfl
  | cons s rest ih =>
    obtain ⟨hs, hrest⟩ := List.forall_mem_cons.mp h
    cases failed with
    | true => exact congrArg (StepReport.skipped :: ·) (ih hrest world true)
    | false =>
      rw [reports, reports, invoke_congr hs]
      exact congrArg (_ :: ·) (ih hrest _ _)

/-- A block depends on no handler but those of its steps. -/
theorem runBlock_congr {b : Block}
    (h : ∀ s ∈ b.background ++ b.steps,
      reg.definitions[s.found.handler]? = reg'.definitions[s.found.handler]?) (world : W) :
    runBlock reg world b = runBlock reg' world b := by
  have hreports : b.reports reg world = b.reports reg' world := reports_congr h world false
  rw [runBlock_eq, runBlock_eq, hreports]

/-- What a block tells of one of its steps: that the step was skipped, if one before it failed, and
otherwise what the handler did on the context that the handlers before it have left. -/
theorem getElem?_events_runBlock (reg : Registry W) (world : W) {b : Block}
    {before after : List Step} {s : Step} (h : b.background ++ b.steps = before ++ s :: after) :
    (runBlock reg world b).events[before.length + 1]?
      = some ((if (reports reg world false before).any (·.isFailed) then .skipped
          else (invoke reg s (worldAfter reg world before)).report).event
            (decide (before.length < b.background.length), s)) := by
  have hreport := getElem?_reports reg world before s after
  rw [← h] at hreport
  have hsequence : b.sequence[before.length]?
      = some (decide (before.length < b.background.length), s) := by
    rw [b.getElem?_sequence, h, List.getElem?_append_right (Nat.le_refl _), Nat.sub_self]
    rfl
  have hlt : before.length < (List.zipWith (fun s r => StepReport.event s r) b.sequence
      (b.reports reg world)).length := by
    rw [List.length_zipWith, b.length_reports, Nat.min_self]
    exact (List.getElem?_eq_some_iff.mp hsequence).1
  rw [runBlock_eq]
  dsimp only
  rw [List.append_assoc, List.singleton_append, List.getElem?_cons_succ,
    List.getElem?_append_left hlt, List.getElem?_zipWith, hsequence]
  unfold Block.reports
  rw [hreport]

end Course

namespace Feature

open Course

variable {W : Type}

/-- **A feature runs as its blocks do alone**, one after another and each on a context of its own:
it tells what they tell, and counts what they count. A handler finds the context of its block as
the handlers before it in the block have left it. What a block tells is the same in any two runs,
whatever else they run, if in both its steps have the same handlers and its context is the same. -/
theorem run_eq_runsAlone (reg : Registry W) (fresh : Nat → W) (contexts : Nat) (f : Feature) :
    let ran := run reg fresh {} contexts f
    let alone := f.runsAlone reg fresh contexts
    ran.events = .started f :: alone.flatMap (·.events.tail) ∧
    ran.summary.scenarios = (alone.map (·.summary.scenarios)).sum ∧
    ran.summary.steps = (alone.map (·.summary.steps)).sum ∧
    ran.contexts = contexts + alone.length ∧
    (∀ i b before s after, f.blocks[i]? = some b →
      b.background ++ b.steps = before ++ s :: after →
      ∃ part, alone[i]? = some part ∧
        part.events.tail[before.length + 1]?
          = some ((if (reports reg (fresh (contexts + i + 1)) false before).any (·.isFailed) then
                StepReport.skipped
              else (invoke reg s (worldAfter reg (fresh (contexts + i + 1)) before)).report).event
                (decide (before.length < b.background.length), s))) ∧
    ∀ (reg' : Registry W) (fresh' : Nat → W) (contexts' : Nat) (f' : Feature) i j b,
      f.blocks[i]? = some b → f'.blocks[j]? = some b →
      (∀ s ∈ b.background ++ b.steps,
        reg.definitions[s.found.handler]? = reg'.definitions[s.found.handler]?) →
      fresh (contexts + i + 1) = fresh' (contexts' + j + 1) →
      ∃ part part', alone[i]? = some part ∧
        (f'.runsAlone reg' fresh' contexts')[j]? = some part' ∧
        part.events.tail = part'.events.tail := by
  have hrun : run reg fresh {} contexts f = _ := run_eq_runBlocks contexts f
  rw [runBlocks_all] at hrun
  refine ⟨?events, ?scenarios, ?steps, ?created, ?world, ?others⟩
  case events =>
    have htold := f.map_runsAlone reg fresh contexts (·.events.tail) (·.events) fun _ _ _ => rfl
    rw [List.flatMap_def, htold, ← List.flatMap_def, hrun]
    rfl
  case scenarios =>
    have hcounts := f.map_runsAlone reg fresh contexts (·.summary.scenarios) (·.summary.scenarios)
      fun _ b _ => zero_add b.summary.scenarios
    rw [hcounts, hrun]
    show 0 + (Summary.scenarios (List.sum _)) = _
    rw [zero_add, Summary.scenarios_sum, List.map_map]
    rfl
  case steps =>
    have hcounts := f.map_runsAlone reg fresh contexts (·.summary.steps) (·.summary.steps)
      fun _ b _ => zero_add b.summary.steps
    rw [hcounts, hrun]
    show 0 + (Summary.steps (List.sum _)) = _
    rw [zero_add, Summary.steps_sum, List.map_map]
    rfl
  case created =>
    rw [hrun, f.length_runsAlone]
    show contexts + (runAll reg fresh contexts f.blocks).length = _
    unfold runAll
    rw [List.length_mapIdx]
  case world =>
    intro i b before s after hb hsteps
    obtain ⟨g, hpart⟩ := f.getElem?_runsAlone reg fresh contexts i
    rw [hb] at hpart
    exact ⟨_, hpart, getElem?_events_runBlock reg _ hsteps⟩
  case others =>
    intro reg' fresh' contexts' f' i j b hb hb' hhandlers hfresh
    obtain ⟨g, hpart⟩ := f.getElem?_runsAlone reg fresh contexts i
    obtain ⟨g', hpart'⟩ := f'.getElem?_runsAlone reg' fresh' contexts' j
    rw [hb] at hpart
    rw [hb'] at hpart'
    refine ⟨_, _, hpart, hpart', ?_⟩
    show (runBlock reg _ b).events = (runBlock reg' _ b).events
    rw [hfresh, runBlock_congr hhandlers]

/-- In the sample, the last scenario is told in the same way whether or not the one before it fails,
and its step finds the third context as the background has left it. -/
theorem run_eq_runsAlone_sample :
    let failing := Sample.counter (.panicked none)
    let passing := Sample.counter .finished
    (run failing id {} 0 Sample.handMade).summary.scenarios = { passed := 2, failed := 1 } ∧
    (run passing id {} 0 Sample.handMade).summary.scenarios = { passed := 3 } ∧
    ∃ part part' : Outcome Nat,
      (Sample.handMade.runsAlone failing id 0)[2]? = some part ∧
      (Sample.handMade.runsAlone passing id 0)[2]? = some part' ∧
      part.events.tail = part'.events.tail ∧
      part.events.tail[2]?
        = some (.step (Sample.call 0 9) false .passed []
            (some
              { location := { path := "steps.rs".toList, line := 1, column := 1 }
                values := [.isolation]
                world := 5 })) := by
  intro failing passing
  have hblock : Sample.handMade.blocks[2]?
      = some ⟨"one".toList, [Sample.call 0 2], [Sample.call 0 9]⟩ := by decide
  have hhandlers : ∀ s ∈ [Sample.call 0 2] ++ [Sample.call 0 9],
      failing.definitions[s.found.handler]? = passing.definitions[s.found.handler]? := by
    simp [failing, passing, Sample.counter, Sample.call]
  obtain ⟨-, -, -, -, hworld, hothers⟩ := run_eq_runsAlone failing id 0 Sample.handMade
  obtain ⟨part, hpart, hstep⟩ :=
    hworld 2 _ [Sample.call 0 2] (Sample.call 0 9) [] hblock rfl
  obtain ⟨part', other, hpart', hother, htold⟩ :=
    hothers passing id 0 Sample.handMade 2 2 _ hblock hblock hhandlers rfl
  obtain rfl : part = part' := Option.some.inj (hpart.symm.trans hpart')
  exact ⟨by decide, by decide, part, other, hpart, hother, htold, hstep⟩

end Feature

end Gherkin
