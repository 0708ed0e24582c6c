import Gherkin.Proofs.Run.Trace

/-!
# Backgrounds and leading steps, spelled out

A background saves writing its steps at the beginning of every scenario, and steps before the first
scenario save writing one without a name. `Feature.spellOut` writes both out: it has a scenario
where the feature has steps of no scenario, every scenario has a copy of the background, and there
is no background any more.

The two features have different blocks but run alike (`run_spellOut`). A block whose background is
written out tells the same and counts the same, except that it no longer says which of its steps
came from the background (`runBlock_spellOut`): the background has no control of its own, neither
where a step of it fails nor where the run stops.
-/

namespace Gherkin

/-- The segments with all steps written out that they run. Steps before the first scenario become
one without a name, whose marker is said to stand on the given line. -/
def Segments.spellOut (line : Nat) (background : List Step) (p : Segments) : Segments :=
  let steps := p.lead.filterMap Item.step?
  { lead := []
    scenarios :=
      (if steps = [] then [] else [({ kind := .scenario, name := [], line }, steps.map .step)])
        ++ p.scenarios.map fun s => (s.1, (background ++ s.2.filterMap Item.step?).map .step) }

/-- The feature without a background, and with all steps in scenarios. -/
def Feature.spellOut (line : Nat) (f : Feature) : Feature :=
  { f with background := none, items := (f.segments.spellOut line f.backgroundSteps).items }

/-- The sample spelled out: the background stands in both scenarios, and the leading step in one
without a name. -/
example :
    (Sample.handMade.spellOut 0).items.map (fun item => (item.line, item.scenario?.map (·.name)))
      = [(0, some []), (3, none), (4, some "one".toList), (2, none), (5, none), (6, none),
          (7, none), (8, some "one".toList), (2, none), (9, none)] := by decide

/-- The block with the steps of the background among its own. -/
def Block.spellOut (b : Block) : Block :=
  { b with background := [], steps := b.background ++ b.steps }

/-- The event, if it tells of a step, as one of a step that is not of the background. -/
def Event.asOwn {W : Type} : Event W → Event W
  | .step s _ status logs invocation => .step s false status logs invocation
  | .started f => .started f
  | .linted f => .linted f
  | .parsingFailed r => .parsingFailed r
  | .scenarioStarted name => .scenarioStarted name
  | .scenarioFinished name passed => .scenarioFinished name passed
  | .finished s => .finished s

namespace Segments

variable {p : Segments}

/-- Steps are all that is left of the items of steps. -/
theorem filterMap_step?_map_step (steps : List Step) :
    (steps.map Item.step).filterMap Item.step? = steps := by
  rw [List.filterMap_map]
  exact List.filterMap_some

theorem Proper.spellOut (h : p.Proper) (line : Nat) (background : List Step) :
    (p.spellOut line background).Proper where
  lead _ hitem := absurd hitem List.not_mem_nil
  kind := by
    refine List.forall_mem_append.mpr ⟨?_, ?_⟩
    · intro s hs
      split at hs
      next => exact absurd hs List.not_mem_nil
      next => rw [List.mem_singleton.mp hs]
    · intro s hs
      obtain ⟨scenario, hscenario, rfl⟩ := List.mem_map.mp hs
      exact h.kind scenario hscenario
  rest := by
    have hsteps (steps : List Step) : ∀ item ∈ steps.map Item.step, item.scenario? = none := by
      intro item hitem
      obtain ⟨s, -, rfl⟩ := List.mem_map.mp hitem
      rfl
    refine List.forall_mem_append.mpr ⟨?_, ?_⟩
    · intro s hs
      split at hs
      next => exact absurd hs List.not_mem_nil
      next =>
        rw [List.mem_singleton.mp hs]
        exact hsteps _
    · intro s hs
      obtain ⟨scenario, -, rfl⟩ := List.mem_map.mp hs
      exact hsteps _

/-- The segments make the same blocks, with the background written out. -/
theorem blocks_spellOut (line : Nat) (background : List Step) (p : Segments) :
    (p.spellOut line background).blocks [] = (p.blocks background).map Block.spellOut := by
  have hlead : ((if p.lead.filterMap Item.step? = [] then [] else
        [(({ kind := .scenario, name := [], line } : Marker),
          (p.lead.filterMap Item.step?).map Item.step)]).map (Block.ofScenario []))
      = (if p.lead.filterMap Item.step? = [] then [] else
          [(⟨[], [], p.lead.filterMap Item.step?⟩ : Block)]).map Block.spellOut := by
    split
    next => rfl
    next =>
      show [(⟨[], [], ((p.lead.filterMap Item.step?).map Item.step).filterMap Item.step?⟩ : Block)]
        = _
      rw [filterMap_step?_map_step]
      rfl
  have hscenario (s : Marker × List Item) :
      Block.ofScenario [] (s.1, (background ++ s.2.filterMap Item.step?).map Item.step)
        = (Block.ofScenario background s).spellOut := by
    unfold Block.ofScenario Block.spellOut
    rw [filterMap_step?_map_step]
  show ((if p.lead.filterMap Item.step? = [] then [] else _) ++ _).map (Block.ofScenario []) = _
  unfold blocks
  rw [List.map_append, List.map_append, List.map_map, List.map_map, hlead]
  exact congrArg _ (List.map_congr_left fun s _ => hscenario s)

end Segments

namespace Course

variable {W : Type} {reg : Registry W}

/-- **A block runs alike with its background written out.** -/
theorem runBlock_spellOut (world : W) (b : Block) :
    runBlock reg world b.spellOut
      = { runBlock reg world b with events := (runBlock reg world b).events.map Event.asOwn } := by
  have hsequence : b.spellOut.sequence = b.sequence.map fun s => (false, s.2) := by
    unfold Block.sequence
    rw [List.map_append, List.map_map, List.map_map]
    show (b.background ++ b.steps).map (fun s => (false, s)) = _
    rw [List.map_append]
    rfl
  have hevents (rs : List (StepReport W)) :
      List.zipWith (fun s r => r.event s) b.spellOut.sequence rs
        = (List.zipWith (fun s r => StepReport.event s r) b.sequence rs).map Event.asOwn := by
    rw [hsequence, List.zipWith_map_left, List.map_zipWith]
    rfl
  rw [runBlock_eq, runBlock_eq]
  show BlockOutcome.mk (_ ++ List.zipWith _ b.spellOut.sequence (b.reports reg world) ++ _) _ _ = _
  rw [hevents, List.map_append, List.map_append]
  rfl

end Course

namespace Feature

open Course

variable {W : Type}

/-- **A feature runs like the one in which its background and its leading steps are spelled out**,
whatever the filter is and whether or not the run stops at a failure: after the beginning the same
is told, but for which steps are of the background, the same is counted, and as many contexts are
created. -/
theorem run_spellOut (reg : Registry W) (fresh : Nat → W) (o : Options) (contexts : Nat)
    (f : Feature) (line : Nat) :
    let sugared := run reg fresh o contexts f
    let plain := run reg fresh o contexts (f.spellOut line)
    (∃ told, sugared.events = .started f :: told ∧
      plain.events = .started (f.spellOut line) :: told.map Event.asOwn) ∧
    plain.summary = sugared.summary ∧ plain.contexts = sugared.contexts := by
  have hproper : (f.segments.spellOut line f.backgroundSteps).Proper :=
    (Segments.proper_ofItems f.items).spellOut line f.backgroundSteps
  have hblocks : (f.spellOut line).blocks = f.blocks.map Block.spellOut :=
    (({ f with background := none } : Feature).blocks_items hproper).trans
      (Segments.blocks_spellOut line f.backgroundSteps f.segments)
  have hplain : run reg fresh o contexts (f.spellOut line) = _ :=
    run_eq_runBlocks contexts (f.spellOut line)
  have hname (b : Block) : b.spellOut.name = b.name := rfl
  rw [hblocks, runBlocks_map hname runBlock_spellOut] at hplain
  rw [run_eq_runBlocks contexts f, hplain]
  exact ⟨⟨_, rfl, rfl⟩, rfl, rfl⟩

end Feature

end Gherkin
